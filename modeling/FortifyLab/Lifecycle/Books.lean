import FortifyLab.Lifecycle.Orderly

/-! The books: for every operation the work done on it, whoever has done it. What the
store and the threads hold agrees with them after any number of actions. -/

namespace FortifyLab.Lifecycle

open Registry Authorization

abbrev Books := OperationId → Work

/-- The books after a thread has moved into a role. -/
def Books.record (books : Books) (role : Role) : Books :=
  match role.task with
  | .owns work => Function.update books work.document.id work
  | _ => books

def Books.follow (books : Books) (asked : Option (Nat × Request)) (roles : Nat → Role) : Books :=
  match asked with
  | some (index, _) => books.record (roles index)
  | none => books

/-- Works of one operation. -/
structure SameWork (left right : Work) : Prop where
  document : SameOperation left.document right.document
  focus : left.focus = right.focus

theorem SameWork.refl (work : Work) : SameWork work work := ⟨.refl _, rfl⟩

/-- A document of a stored operation, as the books have it. -/
structure Known (state : ManagerState) (books : Books) (document : Document) : Prop where
  stored : state.Stored document.id
  same : SameOperation document (books document.id).document
  lab : LabFields document (books document.id).focus

theorem Known.mono {state after : ManagerState} {books next : Books} {document : Document}
    (known : Known state books document) (stored : ∀ id, state.Stored id → after.Stored id)
    (core : ∀ id, state.Stored id → SameWork (books id) (next id)) : Known after next document where
  stored := stored _ known.stored
  same := known.same.trans (core _ known.stored).document
  lab := by
    rw [← (core _ known.stored).focus]
    exact known.lab

theorem LabFields.of_same {left right : Document} {focus : Option ComponentId}
    (lab : LabFields right focus) (workflow : left.workflow = right.workflow)
    (labAction : left.labAction = right.labAction)
    (selected : left.selectedComponent = right.selectedComponent) : LabFields left focus := by
  unfold LabFields
  rw [labAction, workflow, selected]
  exact lab

/-- Another document of the operation with the same lab fields. -/
theorem Known.of_same {state : ManagerState} {books : Books} {left right : Document}
    (known : Known state books right) (same : SameOperation left right)
    (labAction : left.labAction = right.labAction)
    (selected : left.selectedComponent = right.selectedComponent) : Known state books left where
  stored := by
    rw [same.id]
    exact known.stored
  same := by
    rw [same.id]
    exact same.trans known.same
  lab := by
    rw [same.id]
    exact known.lab.of_same same.workflow labAction selected

/-- The documents a thread has in hand. -/
def Task.Carries : Task → Document → Prop
  | .cancelling stored, document => document = stored
  | .owns work, document => document = work.document
  | .recovering documents, document => document ∈ documents
  | _, _ => False

/-- The store agrees with the books. -/
structure Kept (engine : Engine) (state : ManagerState) (books : Books) : Prop where
  ids : (state.rows.map (fun row => row.payload.id)).Nodup
  columns : ∀ row ∈ state.rows, row.state = row.payload.state
  known : ∀ row ∈ state.rows, Known state books row.payload
  sound : ∀ id, state.Stored id → (books id).Sound engine
  events : ∀ id, state.Stored id → completedKeys (state.eventsOf id) =
    (books id).resumed ++ (books id).finished.map Step.key
  bare : ∀ id, ¬ state.Stored id → completedKeys (state.eventsOf id) = []
  finished : ∀ row ∈ state.rows, row.state = .succeeded → (books row.payload.id).rest = []

/-- The operation is the thread's own. -/
structure Owned (state : ManagerState) (books : Books) (work : Work) : Prop where
  booked : books work.document.id = work
  active : ∃ row ∈ state.rows, row.payload.id = work.document.id ∧ row.state.active = true

/-- What a thread has in hand agrees with the books. -/
structure Role.Kept (role : Role) (state : ManagerState) (books : Books) : Prop where
  carries : ∀ document, role.task.Carries document → Known state books document
  read : ∀ id document, role.previous = some (id, document) →
    document.id = id ∧ Known state books document
  owned : ∀ work, role.task = .owns work → Owned state books work
  cancelling : ∀ document, role.task = .cancelling document → document.state.terminal = false
  recovering : ∀ documents, role.task = .recovering documents → ∀ document ∈ documents,
    document.state = .interrupted ∧
      ∀ row ∈ state.rows, row.payload.id = document.id → row.state = .interrupted

/-- The operation a thread owns. -/
def Task.operation : Task → Option OperationId
  | .owns work => some work.document.id
  | _ => none

structure Booked (engine : Engine) (state : ManagerState) (roles : Nat → Role) (books : Books) :
    Prop where
  kept : Kept engine state books
  each : ∀ index, (roles index).Kept state books
  alone : ∀ left right id, (roles left).task.operation = some id →
    (roles right).task.operation = some id → left = right

variable {settings : Settings} {engine : Engine} {state after : ManagerState} {books next : Books}

/-- The rows of other operations stay, active ones active; only the books of one
operation may change, and not which operation it is. -/
structure Progress (state after : ManagerState) (books next : Books) (own : Option OperationId) :
    Prop where
  stored : ∀ id, state.Stored id → after.Stored id
  core : ∀ id, state.Stored id → SameWork (books id) (next id)
  others : ∀ id, own ≠ some id → next id = books id
  active : ∀ row ∈ state.rows, row.state.active = true → own ≠ some row.payload.id →
    ∃ other ∈ after.rows, other.payload.id = row.payload.id ∧ other.state.active = true

theorem Role.Kept.beside {role : Role} {own : Option OperationId}
    (kept : role.Kept state books) (progress : Progress state after books next own)
    (notRecovering : ∀ documents, role.task ≠ .recovering documents)
    (apart : ∀ work, role.task = .owns work → own ≠ some work.document.id) :
    role.Kept after next where
  carries document carried := (kept.carries document carried).mono progress.stored progress.core
  read id document previous :=
    ⟨(kept.read id document previous).1,
      (kept.read id document previous).2.mono progress.stored progress.core⟩
  owned work owns := by
    rcases (kept.owned work owns).active with ⟨row, member, same, active⟩
    have untouched := apart work owns
    refine ⟨(progress.others _ untouched).trans (kept.owned work owns).booked, ?_⟩
    rw [← same] at untouched
    rcases progress.active row member active untouched with ⟨other, known, id, stays⟩
    exact ⟨other, known, id.trans same, stays⟩
  cancelling := kept.cancelling
  recovering documents recovering := absurd recovering (notRecovering documents)

/-! ## Stores that differ in their events only -/

theorem stored_of_rows (rows : after.rows = state.rows) (id : OperationId) :
    after.Stored id ↔ state.Stored id := by
  unfold ManagerState.Stored
  rw [rows]

theorem Known.of_rows {document : Document} (known : Known state books document)
    (rows : after.rows = state.rows) : Known after books document :=
  known.mono (fun id => (stored_of_rows rows id).mpr) (fun _ _ => .refl _)

theorem Kept.of_rows (kept : Kept engine state books) (rows : after.rows = state.rows)
    (events : ∀ id, completedKeys (after.eventsOf id) = completedKeys (state.eventsOf id)) :
    Kept engine after books where
  ids := by
    rw [rows]
    exact kept.ids
  columns := by
    rw [rows]
    exact kept.columns
  known row member := by
    rw [rows] at member
    exact (kept.known row member).of_rows rows
  sound id stored := kept.sound id ((stored_of_rows rows id).mp stored)
  events id stored := (events id).trans (kept.events id ((stored_of_rows rows id).mp stored))
  bare id absent :=
    (events id).trans (kept.bare id (fun stored => absent ((stored_of_rows rows id).mpr stored)))
  finished := by
    rw [rows]
    exact kept.finished

theorem Progress.of_rows (rows : after.rows = state.rows) : Progress state after books books none where
  stored id := (stored_of_rows rows id).mpr
  core _ _ := .refl _
  others _ _ := rfl
  active row member active _ := ⟨row, rows ▸ member, rfl, active⟩

theorem Role.Kept.of_rows {role : Role} (kept : role.Kept state books)
    (rows : after.rows = state.rows) : role.Kept after books where
  carries document carried := (kept.carries document carried).of_rows rows
  read id document previous :=
    ⟨(kept.read id document previous).1, (kept.read id document previous).2.of_rows rows⟩
  owned work owns :=
    ⟨(kept.owned work owns).booked, by
      rw [rows]
      exact (kept.owned work owns).active⟩
  cancelling := kept.cancelling
  recovering := by
    rw [rows]
    exact kept.recovering

/-- A thread that gives up what it has in hand. -/
theorem Role.Kept.rests {role : Role} (kept : role.Kept state books) : (role.does .idle).Kept state books where
  carries _ carried := carried.elim
  read := kept.read
  owned _ owns := nomatch owns
  cancelling _ cancelling := nomatch cancelling
  recovering _ recovering := nomatch recovering

theorem Role.Kept.locked {role : Role} (kept : role.Kept state books) (holds : Bool) :
    (role.locked holds).Kept state books :=
  ⟨kept.carries, kept.read, kept.owned, kept.cancelling, kept.recovering⟩

/-! ## The owner of an operation changes its books -/

theorem record_owns (books : Books) {role : Role} {work : Work} (owns : role.task = .owns work) :
    books.record role = Function.update books work.document.id work := by
  unfold Books.record
  rw [owns]

theorem record_same {role : Role} (owned : ∀ work, role.task = .owns work →
    books work.document.id = work) : books.record role = books := by
  unfold Books.record
  split
  · next work owns =>
    have same := owned work owns
    exact (Function.update_eq_iff.mpr ⟨same.symm, fun _ _ => rfl⟩)
  · rfl

theorem Planned.of_same {left right : Document} {focus : Option ComponentId} {plan : List Step}
    (planned : Planned engine right focus plan) (same : SameOperation left right) :
    Planned engine left focus plan := by
  cases planned with
  | request notLab planned =>
      rw [← same.workflow] at notLab
      rw [← same.operation, ← same.requestedTargets] at planned
      exact .request notLab planned
  | lab isLab planned =>
      rw [← same.workflow] at isLab
      rw [← same.operation, ← same.requestedTargets] at planned
      exact .lab isLab planned

theorem Work.Sound.writes {work : Work} {document : Document} (sound : work.Sound engine)
    (same : SameOperation document work.document) (lab : LabFields document work.focus)
    (waits : document.state = .queued → work.document.state = .queued) :
    (work.writes document).Sound engine where
  planned := sound.planned.of_same same
  components := same.components.trans sound.components
  totalSteps := same.totalSteps.trans sound.totalSteps
  split := sound.split
  resumed := sound.resumed
  labFields := lab
  waits queued := sound.waits (waits queued)

theorem Work.Sound.advance {work : Work} (sound : work.Sound engine) {step : Step}
    {rest : List Step} (next : work.rest = step :: rest)
    (running : work.document.state = .running) : (work.advance step rest).Sound engine where
  planned := sound.planned
  components := sound.components
  totalSteps := sound.totalSteps
  split := by
    show remainingSteps work.plan work.completed = work.finished ++ [step] ++ rest
    rw [sound.split, next, List.append_assoc]
    rfl
  resumed := sound.resumed
  labFields := sound.labFields
  waits queued := by
    have impossible : work.document.state = .queued := queued
    rw [running] at impossible
    cases impossible

theorem Work.Sound.learns {work : Work} (sound : work.Sound engine)
    (queued : work.document.state = .queued) (unresumed : work.resumed = [])
    (completed : List StepKey) : (work.learns completed).Sound engine where
  planned := sound.planned
  components := sound.components
  totalSteps := sound.totalSteps
  split := by
    show remainingSteps work.plan completed = work.finished ++ remainingSteps work.plan completed
    rw [sound.waits queued]
    rfl
  resumed key member := by
    have impossible : key ∈ work.resumed := member
    rw [unresumed] at impossible
    cases impossible
  labFields := sound.labFields
  waits := sound.waits

theorem mem_of_resumedSteps {steps : List Step} {completed : List StepKey} {key : StepKey}
    (skipped : key ∈ (resumedSteps steps completed).map Step.key) :
    key ∈ completed ∧ ∃ step ∈ steps, step.key = key := by
  rcases List.mem_map.mp skipped with ⟨step, member, rfl⟩
  rcases List.mem_filter.mp member with ⟨planned, known⟩
  exact ⟨of_decide_eq_true known, step, planned, rfl⟩

theorem Work.Sound.resumes {work : Work} (sound : work.Sound engine) {key : StepKey}
    (skipped : key ∈ (resumedSteps work.plan work.completed).map Step.key) :
    (work.resumes key).Sound engine where
  planned := sound.planned
  components := sound.components
  totalSteps := sound.totalSteps
  split := sound.split
  resumed other member := by
    rcases List.mem_append.mp member with known | last
    · exact sound.resumed other known
    · rw [List.mem_singleton.mp last]
      exact (mem_of_resumedSteps skipped).1
  labFields := sound.labFields
  waits := sound.waits

theorem Work.Sound.registers {work : Work} (sound : work.Sound engine) :
    work.registers.Sound engine :=
  ⟨sound.planned, sound.components, sound.totalSteps, sound.split, sound.resumed,
    sound.labFields, sound.waits⟩

/-- The books of one operation change to another state of its work. -/
theorem update_same {changed : Work} (same : SameWork (books changed.document.id) changed)
    (id : OperationId) : SameWork (books id) (Function.update books changed.document.id changed id) := by
  by_cases own : id = changed.document.id
  · subst own
    rw [Function.update_self]
    exact same
  · rw [Function.update_of_ne own]
    exact .refl _

theorem Owned.not_succeeded {work : Work} (owned : Owned state books work)
    (kept : Kept engine state books) {row : Row} (member : row ∈ state.rows)
    (same : row.payload.id = work.document.id) : row.state ≠ .succeeded := by
  rcases owned.active with ⟨other, known, id, active⟩
  have equal : other = row := ManagerState.eq_of_id kept.ids known member (id.trans same.symm)
  subst equal
  intro succeeded
  rw [succeeded] at active
  cases active

theorem Kept.rebook (kept : Kept engine state books) {work changed : Work}
    (owned : Owned state books work) (same : SameWork work changed) (sound : changed.Sound engine)
    (rows : after.rows = state.rows)
    (own : completedKeys (after.eventsOf work.document.id) =
      changed.resumed ++ changed.finished.map Step.key)
    (others : ∀ id, id ≠ work.document.id →
      completedKeys (after.eventsOf id) = completedKeys (state.eventsOf id)) :
    Kept engine after (Function.update books changed.document.id changed) := by
  have id_eq : changed.document.id = work.document.id := same.document.id.symm
  have core : SameWork (books changed.document.id) changed := by
    rw [id_eq, owned.booked]
    exact same
  exact {
    ids := by
      rw [rows]
      exact kept.ids
    columns := by
      rw [rows]
      exact kept.columns
    known := by
      intro row member
      rw [rows] at member
      exact (kept.known row member).mono (fun id => (stored_of_rows rows id).mpr)
        (fun id _ => update_same core id)
    sound := by
      intro id stored
      by_cases mine : id = changed.document.id
      · subst mine
        rw [Function.update_self]
        exact sound
      · rw [Function.update_of_ne mine]
        exact kept.sound id ((stored_of_rows rows id).mp stored)
    events := by
      intro id stored
      by_cases mine : id = changed.document.id
      · subst mine
        rw [Function.update_self, id_eq]
        exact own
      · rw [Function.update_of_ne mine, others id (fun same => mine (same.trans id_eq.symm))]
        exact kept.events id ((stored_of_rows rows id).mp stored)
    bare := by
      intro id absent
      have notMine : id ≠ work.document.id := by
        intro mine
        rcases owned.active with ⟨row, member, same, _⟩
        apply absent
        rw [stored_of_rows rows, mine, ← same]
        exact ManagerState.stored_of_mem member
      rw [others id notMine]
      exact kept.bare id (fun stored => absent ((stored_of_rows rows id).mpr stored))
    finished := by
      intro row member succeeded
      rw [rows] at member
      have notMine : row.payload.id ≠ changed.document.id := by
        intro mine
        exact owned.not_succeeded kept member (mine.trans id_eq) succeeded
      rw [Function.update_of_ne notMine]
      exact kept.finished row member succeeded }

theorem Progress.rebook {work changed : Work} (owned : Owned state books work)
    (same : SameWork work changed) (rows : after.rows = state.rows) :
    Progress state after books (Function.update books changed.document.id changed)
      (some changed.document.id) where
  stored id := (stored_of_rows rows id).mpr
  core id _ := by
    apply update_same
    rw [← same.document.id, owned.booked]
    exact same
  others id other := Function.update_of_ne (fun mine => other (congrArg some mine.symm)) _ _
  active row member active _ := ⟨row, rows ▸ member, rfl, active⟩

/-- The owner of an operation after its books have changed. -/
theorem Role.Kept.rebook {role : Role} (kept : role.Kept state books) {work changed : Work}
    (owns : role.task = .owns work) (same : SameWork work changed)
    (lab : LabFields changed.document changed.focus) (rows : after.rows = state.rows) :
    (role.does (.owns changed)).Kept after
      (Function.update books changed.document.id changed) := by
  have owned := kept.owned work owns
  have progress : Progress state after books _ _ := Progress.rebook owned same rows
  rcases owned.active with ⟨row, member, id, active⟩
  exact {
    carries := by
      intro document carried
      have mine : document = changed.document := carried
      subst mine
      exact {
        stored := by
          rw [stored_of_rows rows, ← same.document.id, ← id]
          exact ManagerState.stored_of_mem member
        same := by
          rw [Function.update_self]
          exact .refl _
        lab := by
          rw [Function.update_self]
          exact lab }
    read := by
      intro id document previous
      exact ⟨(kept.read id document previous).1,
        (kept.read id document previous).2.mono progress.stored progress.core⟩
    owned := by
      intro other owns
      cases owns
      refine ⟨Function.update_self _ _ _, row, rows ▸ member, ?_, active⟩
      exact id.trans same.document.id
    cancelling := fun _ cancelling => nomatch cancelling
    recovering := fun _ recovering => nomatch recovering }

/-! ## Writing a row -/

theorem stored_write (document : Document) (id : OperationId) :
    (state.write document).Stored id ↔ state.Stored id := by
  unfold ManagerState.Stored
  rw [ManagerState.ids_write]

/-- What a write of a known document keeps; the books may have a new document too. -/
theorem Kept.write (kept : Kept engine state books) {document : Document}
    (core : ∀ id, state.Stored id → SameWork (books id) (next id))
    (known : Known state next document)
    (sound : ∀ id, state.Stored id → (next id).Sound engine)
    (progress : ∀ id, (next id).resumed = (books id).resumed ∧
      (next id).finished = (books id).finished ∧ (next id).rest = (books id).rest)
    (finished : document.state = .succeeded → (next document.id).rest = []) :
    Kept engine (state.write document) next where
  ids := by
    rw [ManagerState.ids_write]
    exact kept.ids
  columns row member := by
    rcases ManagerState.mem_write.mp member with ⟨old, _⟩ | ⟨rfl, _⟩
    · exact kept.columns row old
    · rfl
  known row member := by
    rcases ManagerState.mem_write.mp member with ⟨old, _⟩ | ⟨rfl, _⟩
    · exact (kept.known row old).mono (fun id => (stored_write document id).mpr) core
    · exact known.mono (fun id => (stored_write document id).mpr) (fun _ _ => .refl _)
  sound id stored := sound id ((stored_write document id).mp stored)
  events id stored := by
    rw [(progress id).1, (progress id).2.1]
    exact kept.events id ((stored_write document id).mp stored)
  bare id absent := kept.bare id (fun stored => absent ((stored_write document id).mpr stored))
  finished row member succeeded := by
    rcases ManagerState.mem_write.mp member with ⟨old, _⟩ | ⟨rfl, _⟩
    · rw [(progress _).2.2]
      exact kept.finished row old succeeded
    · exact finished succeeded

theorem Progress.write {document : Document} {own : Option OperationId}
    (core : ∀ id, state.Stored id → SameWork (books id) (next id))
    (others : ∀ id, own ≠ some id → next id = books id)
    (active : document.state.active = true ∨ own = some document.id) :
    Progress state (state.write document) books next own where
  stored id := (stored_write document id).mpr
  core := core
  others := others
  active row member isActive notOwn := by
    by_cases same : row.payload.id = document.id
    · rcases active with active | mine
      · exact ⟨⟨document.state, document⟩, ManagerState.mem_write.mpr (.inr ⟨rfl, row, member, same⟩),
          same.symm, active⟩
      · rw [same] at notOwn
        exact absurd mine notOwn
    · exact ⟨row, ManagerState.mem_write.mpr (.inl ⟨member, same⟩), rfl, isActive⟩

/-- The owner has written its row and goes on. -/
theorem Kept.saved (kept : Kept engine state books) {work : Work} {document : Document}
    (owned : Owned state books work) (same : SameOperation document work.document)
    (saved : Saved work document) :
    Kept engine (state.write document)
        (Function.update books (work.writes document).document.id (work.writes document)) ∧
      Progress state (state.write document) books
        (Function.update books (work.writes document).document.id (work.writes document))
        (some document.id) ∧
      document.state.active = true ∧ LabFields document work.focus := by
  have booked : books document.id = work := by
    rw [same.id]
    exact owned.booked
  have stored : state.Stored document.id := by
    rcases owned.active with ⟨row, member, id, _⟩
    rw [same.id, ← id]
    exact ManagerState.stored_of_mem member
  have sound : work.Sound engine := booked ▸ kept.sound document.id stored
  have lab : LabFields document work.focus := by
    cases saved with
    | queued queued before lab => exact lab
    | running running lab => exact sound.labFields.of_same same.workflow lab.1 lab.2
  have active : document.state.active = true := by
    cases saved with
    | queued queued before lab =>
        rw [queued]
        rfl
    | running running lab =>
        rw [running]
        rfl
  have changed : (work.writes document).Sound engine := by
    apply sound.writes same lab
    intro queued
    cases saved with
    | queued _ before lab => exact before
    | running running lab =>
        rw [running] at queued
        cases queued
  have core : ∀ id, state.Stored id → SameWork (books id)
      (Function.update books (work.writes document).document.id (work.writes document) id) := by
    intro id _
    apply update_same
    show SameWork (books document.id) (work.writes document)
    rw [booked]
    exact ⟨same.symm, rfl⟩
  refine ⟨kept.write core ?_ ?_ ?_ ?_, .write core ?_ (.inr rfl), active, lab⟩
  · refine ⟨stored, ?_, ?_⟩
    · show SameOperation document (Function.update books document.id _ document.id).document
      rw [Function.update_self]
      exact .refl _
    · show LabFields document (Function.update books document.id _ document.id).focus
      rw [Function.update_self]
      exact lab
  · intro id known
    by_cases mine : id = (work.writes document).document.id
    · subst mine
      rw [Function.update_self]
      exact changed
    · rw [Function.update_of_ne mine]
      exact kept.sound id known
  · intro id
    by_cases mine : id = (work.writes document).document.id
    · subst mine
      have before : books (work.writes document).document.id = work := booked
      rw [Function.update_self, before]
      exact ⟨rfl, rfl, rfl⟩
    · rw [Function.update_of_ne mine]
      exact ⟨rfl, rfl, rfl⟩
  · intro succeeded
    rw [succeeded] at active
    cases active
  · intro id other
    exact Function.update_of_ne (fun mine => other (congrArg some mine.symm)) _ _

/-- A document that a thread has in hand is written, and the thread lets go of it. -/
theorem Kept.writes (kept : Kept engine state books) {document : Document}
    (known : Known state books document)
    (finished : document.state = .succeeded → (books document.id).rest = []) :
    Kept engine (state.write document) books :=
  kept.write (fun _ _ => .refl _) known kept.sound (fun _ => ⟨rfl, rfl, rfl⟩) finished

/-! ## A new row -/

theorem stored_create (document : Document) (id : OperationId) :
    (state.withRows (state.rows ++ [⟨document.state, document⟩])).Stored id ↔
      state.Stored id ∨ id = document.id := by
  unfold ManagerState.Stored ManagerState.withRows
  rw [List.map_append, List.mem_append]
  constructor
  · intro either
    rcases either with known | last
    · exact .inl known
    · exact .inr (List.mem_singleton.mp last)
  · intro either
    rcases either with known | rfl
    · exact .inl known
    · exact .inr List.mem_cons_self

theorem Progress.create {work : Work} {document : Document}
    (fresh : ¬ state.Stored document.id) (written : work.document = document) :
    Progress state (state.withRows (state.rows ++ [⟨document.state, document⟩])) books
      (Function.update books work.document.id work) (some document.id) where
  stored id stored := (stored_create document id).mpr (.inl stored)
  core id stored := by
    have other : id ≠ work.document.id := by
      intro mine
      rw [mine, written] at stored
      exact fresh stored
    rw [Function.update_of_ne other]
    exact .refl _
  others id other := by
    apply Function.update_of_ne
    intro mine
    rw [written] at mine
    exact other (congrArg some mine.symm)
  active row member active _ := ⟨row, List.mem_append_left _ member, rfl, active⟩

theorem Kept.create (kept : Kept engine state books) {role : Role} {work : Work}
    {document : Document} (creates : Creates engine role document work)
    (fresh : ¬ state.Stored document.id) :
    Kept engine (state.withRows (state.rows ++ [⟨document.state, document⟩]))
      (Function.update books work.document.id work) := by
  have written := creates.written
  subst written
  have progress : Progress state (state.withRows (state.rows ++ [⟨work.document.state, work.document⟩]))
      books (Function.update books work.document.id work) (some work.document.id) :=
    .create fresh rfl
  have known : Known (state.withRows (state.rows ++ [⟨work.document.state, work.document⟩]))
      (Function.update books work.document.id work) work.document := by
    refine ⟨(stored_create _ _).mpr (.inr rfl), ?_, ?_⟩
    · rw [Function.update_self]
      exact .refl _
    · rw [Function.update_self]
      exact creates.sound.labFields
  exact {
    ids := by
      show ((state.rows ++ [_]).map _).Nodup
      rw [List.map_append, List.nodup_append]
      refine ⟨kept.ids, List.nodup_singleton _, ?_⟩
      intro id member other last same
      have mine : id = work.document.id := same.trans (List.mem_singleton.mp last)
      subst mine
      exact fresh member
    columns := by
      intro row member
      rcases List.mem_append.mp member with old | last
      · exact kept.columns row old
      · rw [List.mem_singleton.mp last]
    known := by
      intro row member
      rcases List.mem_append.mp member with old | last
      · exact (kept.known row old).mono progress.stored progress.core
      · rw [List.mem_singleton.mp last]
        exact known
    sound := by
      intro id stored
      by_cases mine : id = work.document.id
      · subst mine
        rw [Function.update_self]
        exact creates.sound
      · rw [Function.update_of_ne mine]
        rcases (stored_create _ _).mp stored with old | new
        · exact kept.sound id old
        · exact absurd new mine
    events := by
      intro id stored
      show completedKeys (state.eventsOf id) = _
      by_cases mine : id = work.document.id
      · subst mine
        rw [Function.update_self, creates.unstarted.1, creates.unstarted.2.1]
        exact kept.bare _ fresh
      · rw [Function.update_of_ne mine]
        rcases (stored_create _ _).mp stored with old | new
        · exact kept.events id old
        · exact absurd new mine
    bare := by
      intro id absent
      exact kept.bare id (fun stored => absent ((stored_create _ _).mpr (.inl stored)))
    finished := by
      intro row member succeeded
      rcases List.mem_append.mp member with old | last
      · have other : row.payload.id ≠ work.document.id := by
          intro mine
          apply fresh
          rw [← mine]
          exact ManagerState.stored_of_mem old
        rw [Function.update_of_ne other]
        exact kept.finished row old succeeded
      · rw [List.mem_singleton.mp last] at succeeded
        rw [creates.queued] at succeeded
        cases succeeded }

end FortifyLab.Lifecycle
