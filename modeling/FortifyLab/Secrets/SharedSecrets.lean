import FortifyLab.Secrets.Roles

/-! Updates of one Kubernetes Secret. The conflict check compares identifiers under the
lock; it keeps apart what shares an identifier, and no more. -/

namespace FortifyLab.Secrets

open Program

namespace SecretState

/-- The active record of a thread. -/
def HasRow (state : SecretState) (id target : String) : Prop :=
  ∃ row ∈ state.rows, row.id = id ∧ row.target = target ∧ row.state.active = true

/-- No active record has the identifier. -/
def Free (state : SecretState) (target : String) : Prop :=
  ∀ row ∈ state.rows, row.state.active = true → row.target ≠ target

theorem mem_update {state : SecretState} {document row : SecretUpdate}
    (member : row ∈ (state.update document).rows) :
    row = document ∧ (∃ old ∈ state.rows, old.id = document.id) ∨
      row ∈ state.rows ∧ row.id ≠ document.id := by
  rcases List.mem_map.mp member with ⟨old, known, rfl⟩
  by_cases same : old.id = document.id
  · rw [if_pos same]
    exact .inl ⟨rfl, old, known, same⟩
  · rw [if_neg same]
    exact .inr ⟨known, same⟩

theorem update_mem {state : SecretState} {document row : SecretUpdate}
    (member : row ∈ state.rows) (different : row.id ≠ document.id) :
    row ∈ (state.update document).rows :=
  List.mem_map.mpr ⟨row, member, if_neg different⟩

theorem update_written {state : SecretState} {document row : SecretUpdate}
    (member : row ∈ state.rows) (same : row.id = document.id) :
    document ∈ (state.update document).rows :=
  List.mem_map.mpr ⟨row, member, if_pos same⟩

end SecretState

/-- What holds of a thread in its role. -/
def Role.Kept (state : SecretState) (index : Nat) (role : Role) : Prop :=
  match role.task with
  | .idle => True
  | .opening => state.serving = false
  | .locked => state.serving = true ∧ state.lock = some index
  | .clear target => state.serving = true ∧ state.lock = some index ∧ state.Free target
  | .created id target => state.serving = true ∧ state.lock = some index ∧
      state.HasRow id target
  | .running id target => state.serving = true ∧ state.HasRow id target

structure Kept (state : SecretState) (roles : Nat → Role) : Prop where
  distinct : (state.rows.map SecretUpdate.id).Nodup
  each : ∀ index, (roles index).Kept state index
  arrived : ∀ index call, (roles index).call = some call → call.outside = true →
    state.serving = true
  owned : ∀ left right id first second, (roles left).task.record = some (id, first) →
    (roles right).task.record = some (id, second) → left = right
  alone : ∀ left right, (roles left).task = .opening → (roles right).task = .opening →
    left = right

variable {settings : WorkflowSettings} {state after : SecretState} {roles : Nat → Role}
  {role other : Role} {index : Nat}

theorem Role.Kept.holder (kept : role.Kept state index) (holds : role.task.holdsLock = true) :
    state.lock = some index := by
  unfold Role.Kept at kept
  cases task : role.task with
  | locked =>
      rw [task] at kept
      exact kept.2
  | clear target =>
      rw [task] at kept
      exact kept.2.1
  | created id target =>
      rw [task] at kept
      exact kept.2.1
  | _ =>
      rw [task] at holds
      cases holds

theorem Role.Kept.row (kept : role.Kept state index) {id target : String}
    (record : role.task.record = some (id, target)) : state.HasRow id target := by
  unfold Role.Kept at kept
  cases task : role.task with
  | created known named =>
      rw [task] at kept record
      cases record
      exact kept.2.2
  | running known named =>
      rw [task] at kept record
      cases record
      exact kept.2
  | _ =>
      rw [task] at record
      cases record

theorem Role.Kept.closed (kept : role.Kept state index) (closed : state.serving = false) :
    role.task = .idle ∨ role.task = .opening := by
  unfold Role.Kept at kept
  cases task : role.task with
  | idle => exact .inl rfl
  | opening => exact .inr rfl
  | _ =>
      rw [task] at kept
      exact absurd (kept.1.symm.trans closed) (by decide)

/-- A thread keeps its place where the lock, its record and what it has checked stay. -/
theorem Role.Kept.frame (kept : role.Kept state index) (serving : after.serving = state.serving)
    (lock : role.task.holdsLock = true → after.lock = state.lock)
    (rows : ∀ id target, role.task.record = some (id, target) → state.HasRow id target →
      after.HasRow id target)
    (free : ∀ target, role.task = .clear target → state.Free target → after.Free target) :
    role.Kept after index := by
  unfold Role.Kept at *
  cases task : role.task with
  | idle => trivial
  | opening =>
      rw [task] at kept
      exact serving.trans kept
  | locked =>
      rw [task] at kept lock
      exact ⟨serving.trans kept.1, (lock rfl).trans kept.2⟩
  | clear target =>
      rw [task] at kept lock
      exact ⟨serving.trans kept.1, (lock rfl).trans kept.2.1, free target task kept.2.2⟩
  | created id target =>
      rw [task] at kept lock rows
      exact ⟨serving.trans kept.1, (lock rfl).trans kept.2.1, rows id target rfl kept.2.2⟩
  | running id target =>
      rw [task] at kept rows
      exact ⟨serving.trans kept.1, rows id target rfl kept.2⟩

/-- The invariant after a move: the rows, the other threads, the thread itself. -/
theorem Kept.step (kept : Kept state roles)
    (distinct : (after.rows.map SecretUpdate.id).Nodup) (serving : after.serving = state.serving)
    (called : other.call = (roles index).call)
    (others : ∀ thread, thread ≠ index → (roles thread).Kept after thread)
    (mine : other.Kept after index)
    (record : ∀ id target, other.task.record = some (id, target) → ∀ thread named,
      (roles thread).task.record = some (id, named) → thread = index)
    (quiet : other.task ≠ .opening) : Kept after (Function.update roles index other) := by
  have own : ∀ thread, thread ≠ index → Function.update roles index other thread = roles thread :=
    fun thread different => Function.update_of_ne different _ _
  have opening : ∀ thread, (Function.update roles index other thread).task = .opening →
      (roles thread).task = .opening := by
    intro thread known
    by_cases same : thread = index
    · rw [same, Function.update_self] at known
      exact absurd known quiet
    · rwa [own thread same] at known
  refine ⟨distinct, ?_, ?_, ?_, ?_⟩
  · intro thread
    by_cases same : thread = index
    · subst same
      rw [Function.update_self]
      exact mine
    · rw [own thread same]
      exact others thread same
  · intro thread call known outside
    rw [serving]
    by_cases same : thread = index
    · rw [same, Function.update_self, called] at known
      exact kept.arrived index call known outside
    · rw [own thread same] at known
      exact kept.arrived thread call known outside
  · intro left right id first second
    by_cases one : left = index
    · subst one
      rw [Function.update_self]
      by_cases two : right = left
      · exact fun _ _ => two.symm
      · rw [own right two]
        exact fun mine also => (record id first mine right second also).symm
    · rw [own left one]
      by_cases two : right = index
      · subst two
        rw [Function.update_self]
        exact fun also mine => record id second mine left first also
      · rw [own right two]
        exact kept.owned left right id first second
  · exact fun left right first second =>
      kept.alone left right (opening left first) (opening right second)

/-! ## The moves -/

/-- A move that writes no row and takes no record. -/
theorem Kept.stay (kept : Kept state roles) (rows : after.rows = state.rows)
    (serving : after.serving = state.serving) (called : other.call = (roles index).call)
    (lock : ∀ thread, thread ≠ index → (roles thread).task.holdsLock = true →
      after.lock = state.lock)
    (mine : other.Kept after index)
    (record : ∀ known, other.task.record = some known → (roles index).task.record = some known)
    (quiet : other.task ≠ .opening) : Kept after (Function.update roles index other) := by
  have same : ∀ id target, state.HasRow id target → after.HasRow id target := by
    intro id target has
    unfold SecretState.HasRow
    rw [rows]
    exact has
  have open_ : ∀ target, state.Free target → after.Free target := by
    intro target free
    unfold SecretState.Free
    rw [rows]
    exact free
  refine kept.step (rows ▸ kept.distinct) serving called ?_ mine ?_ quiet
  · exact fun thread different => (kept.each thread).frame serving (lock thread different)
      (fun id target _ => same id target) (fun target _ => open_ target)
  · exact fun id target known thread named also =>
      kept.owned thread index id named target also (record _ known)

theorem Kept.quiet (kept : Kept state roles) (rows : after.rows = state.rows)
    (serving : after.serving = state.serving) (lock : after.lock = state.lock) :
    Kept after roles where
  distinct := rows ▸ kept.distinct
  each index := by
    refine (kept.each index).frame serving (fun _ => lock) ?_ ?_
    · intro id target _ has
      unfold SecretState.HasRow
      rw [rows]
      exact has
    · intro target _ free
      unfold SecretState.Free
      rw [rows]
      exact free
  arrived index call known outside := serving.trans (kept.arrived index call known outside)
  owned := kept.owned
  alone := kept.alone

theorem effect_neutral {request : SecretRequest} (neutral : Neutral request)
    (state : SecretState) (thread : Nat) :
    (effect state thread request).rows = state.rows ∧
      (effect state thread request).serving = state.serving ∧
      (effect state thread request).lock = state.lock := by
  cases request <;> first | exact ⟨rfl, rfl, rfl⟩ | cases neutral

theorem interruptRow_id (now : String) (row : SecretUpdate) :
    (SecretState.interruptRow now row).id = row.id := by
  unfold SecretState.interruptRow
  split <;> rfl

/-- Nobody is at work while the store is being opened. -/
theorem Kept.interrupted (kept : Kept state roles) (task : (roles index).task = .opening)
    (now : String) :
    Kept { state with rows := state.rows.map (SecretState.interruptRow now) } roles := by
  have closed : state.serving = false := by
    have mine := kept.each index
    rwa [Role.Kept, task] at mine
  refine { kept with distinct := ?_, each := ?_ }
  · have ids : (state.rows.map (SecretState.interruptRow now)).map SecretUpdate.id =
        state.rows.map SecretUpdate.id := by
      rw [List.map_map]
      exact List.map_congr_left (fun row _ => interruptRow_id now row)
    rw [ids]
    exact kept.distinct
  · intro thread
    rcases (kept.each thread).closed closed with idle | opening
    · rw [Role.Kept, idle]
      trivial
    · rw [Role.Kept, opening]
      exact closed

theorem Kept.served (kept : Kept state roles) (task : (roles index).task = .opening) :
    Kept { state with serving := true }
      (Function.update roles index ((roles index).does .idle)) := by
  have closed : state.serving = false := by
    have mine := kept.each index
    rwa [Role.Kept, task] at mine
  have everyone : ∀ thread,
      (Function.update roles index ((roles index).does .idle) thread).task = .idle := by
    intro thread
    by_cases same : thread = index
    · rw [same, Function.update_self]
      rfl
    · rw [Function.update_of_ne same]
      rcases (kept.each thread).closed closed with idle | opening
      · exact idle
      · exact absurd (kept.alone thread index opening task) same
  refine ⟨kept.distinct, ?_, fun _ _ _ _ => rfl, ?_, ?_⟩
  · intro thread
    rw [Role.Kept, everyone thread]
    trivial
  · intro left right id first second known
    rw [everyone left] at known
    cases known
  · intro left right known
    rw [everyone left] at known
    cases known

/-- While one thread holds the lock no other does. -/
theorem Kept.excludes (kept : Kept state roles) (lock : state.lock = some index) {thread : Nat}
    (different : thread ≠ index) : (roles thread).task.holdsLock = false := by
  cases holds : (roles thread).task.holdsLock with
  | false => rfl
  | true =>
      have also := (kept.each thread).holder holds
      rw [lock] at also
      exact absurd (Option.some.inj also).symm different

theorem Kept.acquired (kept : Kept state roles) (serving : state.serving = true)
    (unlocked : state.lock = none) :
    Kept { state with lock := some index }
      (Function.update roles index ((roles index).does .locked)) := by
  refine kept.stay rfl rfl rfl ?_ ⟨serving, rfl⟩ nofun nofun
  intro thread _ holds
  have owner := (kept.each thread).holder holds
  rw [unlocked] at owner
  cases owner

theorem Kept.released (kept : Kept state roles) {task : Task}
    (holds : (roles index).task.holdsLock = true)
    (mine : ((roles index).does task).Kept { state with lock := none } index)
    (record : ∀ known, task.record = some known → (roles index).task.record = some known)
    (quiet : task ≠ .opening) :
    Kept { state with lock := none } (Function.update roles index ((roles index).does task)) := by
  refine kept.stay rfl rfl rfl ?_ mine record quiet
  intro thread different also
  rw [kept.excludes ((kept.each index).holder holds) different] at also
  cases also

/-- The new record of the thread that has made the check. -/
theorem Kept.created (kept : Kept state roles) {document : SecretUpdate}
    (task : (roles index).task = .clear document.target)
    (fresh : ∀ row ∈ state.rows, row.id ≠ document.id)
    (active : document.state.active = true) :
    Kept { state with rows := state.rows ++ [document] } (Function.update roles index
      ((roles index).does (.created document.id document.target))) := by
  have mine := kept.each index
  rw [Role.Kept, task] at mine
  have grows : ∀ id target, state.HasRow id target →
      SecretState.HasRow { state with rows := state.rows ++ [document] } id target := by
    rintro id target ⟨row, member, facts⟩
    exact ⟨row, List.mem_append_left _ member, facts⟩
  refine kept.step ?_ rfl rfl ?_ ?_ ?_ nofun
  · rw [List.map_append, List.nodup_append]
    refine ⟨kept.distinct, List.nodup_singleton _, ?_⟩
    rintro id member other last rfl
    rcases List.mem_map.mp member with ⟨row, known, same⟩
    exact fresh row known (same.trans (List.mem_singleton.mp last))
  · intro thread different
    have unlocked := kept.excludes mine.2.1 different
    refine (kept.each thread).frame rfl (fun _ => rfl) (fun id target _ => grows id target) ?_
    intro target checked
    rw [checked] at unlocked
    cases unlocked
  · exact ⟨mine.1, mine.2.1, document, List.mem_append_right _ List.mem_cons_self, rfl, rfl, active⟩
  · intro id target known thread named also
    cases known
    rcases (kept.each thread).row also with ⟨row, member, same, _⟩
    exact absurd same (fresh row member)

/-- A thread writes a version of its record. -/
theorem Kept.wrote (kept : Kept state roles) {id target : String} {document : SecretUpdate}
    (task : (roles index).task = .running id target) (version : Of id target document)
    (called : other.call = (roles index).call) (mine : other.Kept (state.update document) index)
    (record : ∀ known, other.task.record = some known → (roles index).task.record = some known)
    (quiet : other.task ≠ .opening) :
    Kept (state.update document) (Function.update roles index other) := by
  have owned : (roles index).task.record = some (id, target) := by rw [task]; rfl
  rcases (kept.each index).row owned with ⟨mineRow, stored, sameId, sameTarget, wasActive⟩
  refine kept.step ?_ rfl called ?_ mine ?_ quiet
  · have ids : (state.update document).rows.map SecretUpdate.id =
        state.rows.map SecretUpdate.id := by
      unfold SecretState.update
      rw [List.map_map]
      refine List.map_congr_left (fun row _ => ?_)
      by_cases same : row.id = document.id <;> simp [same]
    rw [ids]
    exact kept.distinct
  · intro thread different
    refine (kept.each thread).frame rfl (fun _ => rfl) ?_ ?_
    · rintro otherId otherTarget also ⟨row, member, rowId, facts⟩
      have apart : row.id ≠ document.id := by
        rw [rowId, version.id]
        rintro rfl
        exact different (kept.owned thread index _ _ _ also owned)
      exact ⟨row, SecretState.update_mem member apart, rowId, facts⟩
    · intro checked _ free row member active
      rcases SecretState.mem_update member with ⟨rfl, _⟩ | ⟨old, _⟩
      · rw [version.target, ← sameTarget]
        exact free mineRow stored wasActive
      · exact free row old active
  · exact fun otherId otherTarget known thread named also =>
      kept.owned thread index otherId named otherTarget also (record _ known)

theorem Kept.updated (kept : Kept state roles) {id target : String} {document : SecretUpdate}
    (task : (roles index).task = .running id target) (version : Of id target document)
    (active : document.state.active = true) :
    Kept (state.update document) (Function.update roles index (roles index)) := by
  have mine := kept.each index
  rw [Role.Kept, task] at mine
  rcases mine with ⟨serving, row, member, sameId, _⟩
  refine kept.wrote task version rfl ?_ (fun _ known => known) (by rw [task]; exact nofun)
  rw [Role.Kept, task]
  exact ⟨serving, document, SecretState.update_written member (sameId.trans version.id.symm),
    version.id, version.target, active⟩

theorem create_fresh {document : SecretUpdate}
    (fresh : ¬ state.taken document.id = true) :
    state.create document = { state with rows := state.rows ++ [document] } ∧
      ∀ row ∈ state.rows, row.id ≠ document.id := by
  refine ⟨if_neg fresh, ?_⟩
  intro row member same
  exact fresh (List.any_eq_true.mpr ⟨row, member, decide_eq_true same⟩)

/-- A move keeps the invariant. -/
theorem Kept.moves (kept : Kept state roles) {request : SecretRequest} {offer : Offer}
    {answer : SecretAnswer request}
    (moved : Moves settings (roles index) request answer other)
    (replied : reply state offer request = some answer) :
    Kept (effect state index request) (Function.update roles index other) := by
  have mine := kept.each index
  cases moved with
  | quiet answer neutral =>
      rw [Function.update_eq_self]
      rcases effect_neutral neutral state index with ⟨rows, serving, lock⟩
      exact kept.quiet rows serving lock
  | interrupted now task =>
      rw [Function.update_eq_self]
      exact kept.interrupted task now
  | served task => exact kept.served task
  | acquired called outside task =>
      have unlocked : state.lock = none := by
        by_contra locked
        rw [reply, if_neg locked] at replied
        cases replied
      exact kept.acquired (kept.arrived index _ called outside) unlocked
  | busy target task =>
      rw [Function.update_eq_self]
      exact kept
  | cleared target task =>
      rw [Role.Kept, task] at mine
      refine kept.stay rfl rfl rfl (fun _ _ _ => rfl) ⟨mine.1, mine.2, ?_⟩ nofun nofun
      intro row member active same
      have found : state.activeTarget target = true :=
        List.any_eq_true.mpr ⟨row, member, by simp [active, same]⟩
      have none : state.activeTarget target = false := Option.some.inj replied
      rw [found] at none
      cases none
  | @created document task active =>
      have accepted : state.createAnswer document = .ok () := Option.some.inj replied
      by_cases taken : state.taken document.id = true
      · rw [SecretState.createAnswer, if_pos taken] at accepted
        cases accepted
      · rcases create_fresh taken with ⟨written, fresh⟩
        rw [effect, written]
        exact kept.created task fresh active
  | @refused document raised task =>
      have denied : state.createAnswer document = .error raised := Option.some.inj replied
      have taken : state.taken document.id = true := by
        by_contra fresh
        rw [SecretState.createAnswer, if_neg fresh] at denied
        cases denied
      rw [Function.update_eq_self, effect, SecretState.create, if_pos taken]
      exact kept
  | released holds without => exact kept.released holds trivial nofun nofun
  | @handedOver id target task =>
      have record : (roles index).task.record = some (id, target) := by rw [task]; rfl
      rw [Role.Kept, task] at mine
      exact kept.released (by rw [task]; rfl) ⟨mine.1, mine.2.2⟩
        (fun _ known => record.trans known) nofun
  | updated task version active => exact kept.updated task version active
  | ended task version terminal => exact kept.wrote task version rfl trivial nofun nofun
  | replaces task declared source deadline answer =>
      rw [Function.update_eq_self]
      exact kept
  | rollsBack task declared revision deadline answer =>
      rw [Function.update_eq_self]
      exact kept

abbrev SecretLog := List (Entry Call SecretRequest SecretAnswer)

theorem outside_idle {call : Call} (outside : call.outside = true) : (enter call).task = .idle := by
  cases call with
  | openStore => cases outside
  | _ => rfl

theorem Kept.admitted (kept : Kept state roles) {call : Call} (outside : call.outside = true)
    (serving : state.serving = true) (thread : Nat) :
    Kept state (Function.update roles thread (enter call)) := by
  have idle := outside_idle outside
  have opening : ∀ other, (Function.update roles thread (enter call) other).task = .opening →
      (roles other).task = .opening := by
    intro other known
    by_cases same : other = thread
    · rw [same, Function.update_self, idle] at known
      cases known
    · rwa [Function.update_of_ne same] at known
  have record : ∀ other found, (Function.update roles thread (enter call) other).task.record =
      some found → (roles other).task.record = some found := by
    intro other found known
    by_cases same : other = thread
    · rw [same, Function.update_self, idle] at known
      cases known
    · rwa [Function.update_of_ne same] at known
  refine ⟨kept.distinct, ?_, fun _ _ _ _ => serving, ?_, ?_⟩
  · intro other
    by_cases same : other = thread
    · rw [same, Function.update_self, Role.Kept, idle]
      trivial
    · rw [Function.update_of_ne same]
      exact kept.each other
  · exact fun left right id first second one two =>
      kept.owned left right id first second (record left _ one) (record right _ two)
  · exact fun left right one two => kept.alone left right (opening left one) (opening right two)

/-- A store is opened by one thread. -/
theorem opened_kept (distinct : (state.rows.map SecretUpdate.id).Nodup)
    (closed : state.serving = false) (thread : Nat) :
    Kept state (Function.update (fun _ => nobody) thread (enter .openStore)) := by
  have only : ∀ other, (Function.update (fun _ => nobody) thread (enter .openStore) other) =
      nobody ∨ other = thread ∧
        (Function.update (fun _ => nobody) thread (enter .openStore) other) =
          enter .openStore := by
    intro other
    by_cases same : other = thread
    · subst same
      exact .inr ⟨rfl, Function.update_self _ _ _⟩
    · exact .inl (Function.update_of_ne same _ _)
  refine ⟨distinct, ?_, ?_, ?_, ?_⟩
  · intro other
    rcases only other with role | ⟨_, role⟩ <;> rw [role]
    · trivial
    · exact closed
  · intro other call known outside
    rcases only other with role | ⟨_, role⟩ <;> rw [role] at known <;> cases known
    cases outside
  · intro left right id first second known
    rcases only left with role | ⟨_, role⟩ <;> rw [role] at known <;> cases known
  · intro left right first second
    rcases only left with role | ⟨rfl, _⟩
    · rw [role] at first
      cases first
    · rcases only right with role | ⟨rfl, _⟩
      · rw [role] at second
        cases second
      · rfl

theorem Kept.evolves {pool next : SecretPool} {roles later : Nat → Role} {action : SecretAction}
    {entries : SecretLog} (kept : Kept pool.shared roles)
    (evolves : (workflowProtocol settings).Evolves pool roles action entries next later) :
    Kept next.shared later := by
  cases evolves with
  | advanced found replied moved alone => exact kept.moves moved replied
  | spawned found replied moved spawns => cases spawns
  | admitted admits =>
      rcases Bool.and_eq_true_iff.mp admits with ⟨outside, serving⟩
      exact kept.admitted outside serving _
  | restarted => exact @opened_kept ((workflow settings).lost pool.shared) kept.distinct rfl _

/-! ## Shared Secrets -/

/-- The registry maps both identifiers to one Kubernetes Secret. -/
def Shares (registry : SecretRegistry) (left right : String) : Prop :=
  ∃ secret, secret ∈ registry.kubernetesSecrets left ∧
    secret ∈ registry.kubernetesSecrets right

/-- The action creates no record while a record of another target with the same Kubernetes
Secret is active. -/
def CreatesApart (registry : SecretRegistry) (pool : SecretPool) : SecretAction → Prop
  | .advance index _ =>
      match pool.threads[index]? with
      | some ⟨_, .ask (.create document) _⟩ => ∀ row ∈ pool.shared.rows,
          row.state.active = true → row.target ≠ document.target →
            ¬ Shares registry row.target document.target
      | _ => True
  | _ => True

/-- Two active records have no Kubernetes Secret in common. -/
def OnePerSecret (registry : SecretRegistry) (state : SecretState) : Prop :=
  ∀ left ∈ state.rows, ∀ right ∈ state.rows, left.state.active = true →
    right.state.active = true → Shares registry left.target right.target → left.id = right.id

/-- The target that a request changes in the protected store. -/
def SecretRequest.changes : SecretRequest → Option SecretTarget
  | .adapterReplace target _ _ | .adapterRollback target _ _ => some target
  | _ => none

/-- The target that the thread's call of the adapter is changing. -/
def changing (thread : Thread Call SecretRequest SecretAnswer Outcome) : Option SecretTarget :=
  thread.program.asks.bind SecretRequest.changes

/-- One active update for each Kubernetes Secret, and one change of it at a time. -/
structure OneUpdate (registry : SecretRegistry) (pool : SecretPool) : Prop where
  records : OnePerSecret registry pool.shared
  changes : ∀ (left right : Nat) first second one two, pool.threads[left]? = some first →
    pool.threads[right]? = some second → changing first = some one →
    changing second = some two → one.kubernetesSecret = two.kubernetesSecret → left = right

/-- The active records shrink to those that were there. -/
theorem onePerSecret_of_rows {registry : SecretRegistry} (one : OnePerSecret registry state)
    (rows : ∀ row ∈ after.rows, row.state.active = true → ∃ old ∈ state.rows,
      old.state.active = true ∧ old.id = row.id ∧ old.target = row.target) :
    OnePerSecret registry after := by
  intro left leftMember right rightMember leftActive rightActive shares
  rcases rows left leftMember leftActive with ⟨first, known, active, id, target⟩
  rcases rows right rightMember rightActive with ⟨second, there, running, other, named⟩
  rw [← id, ← other]
  exact one first known second there active running (by rw [target, named]; exact shares)

/-- The new record shares no Secret with an active one: not its own identifier, which was
checked, and no other, by the condition. -/
theorem onePerSecret_created {registry : SecretRegistry} (one : OnePerSecret registry state)
    {document : SecretUpdate} (free : state.Free document.target)
    (apart : ∀ row ∈ state.rows, row.state.active = true → row.target ≠ document.target →
      ¬ Shares registry row.target document.target) :
    OnePerSecret registry { state with rows := state.rows ++ [document] } := by
  have alone : ∀ row ∈ state.rows, row.state.active = true →
      ¬ Shares registry row.target document.target :=
    fun row member active => apart row member active (free row member active)
  intro left leftMember right rightMember leftActive rightActive shares
  rcases List.mem_append.mp leftMember with first | first <;>
    rcases List.mem_append.mp rightMember with second | second
  · exact one left first right second leftActive rightActive shares
  · rw [List.mem_singleton.mp second] at shares
    exact absurd shares (alone left first leftActive)
  · rw [List.mem_singleton.mp first] at shares
    rcases shares with ⟨secret, mine, also⟩
    exact absurd ⟨secret, also, mine⟩ (alone right second rightActive)
  · rw [List.mem_singleton.mp first, List.mem_singleton.mp second]

theorem createsApart_created {registry : SecretRegistry} {pool : SecretPool} {offer : Offer}
    {call : Call} {document : SecretUpdate}
    {next : Except SecretRaised Unit → SecretProgram Outcome}
    (meets : CreatesApart registry pool (.advance index offer))
    (found : pool.threads[index]? = some ⟨call, .ask (.create document) next⟩) :
    ∀ row ∈ pool.shared.rows, row.state.active = true → row.target ≠ document.target →
      ¬ Shares registry row.target document.target := by
  unfold CreatesApart at meets
  dsimp only at meets
  rw [found] at meets
  exact meets

/-- One move under the condition. -/
theorem Kept.moves_one (kept : Kept state roles) {registry : SecretRegistry}
    (one : OnePerSecret registry state) {request : SecretRequest} {offer : Offer}
    {answer : SecretAnswer request}
    (moved : Moves settings (roles index) request answer other)
    (replied : reply state offer request = some answer)
    (apart : ∀ document, request = .create document → ∀ row ∈ state.rows,
      row.state.active = true → row.target ≠ document.target →
        ¬ Shares registry row.target document.target) :
    OnePerSecret registry (effect state index request) := by
  have same : (effect state index request).rows = state.rows →
      OnePerSecret registry (effect state index request) := by
    intro rows
    refine onePerSecret_of_rows one (fun row member active => ?_)
    rw [rows] at member
    exact ⟨row, member, active, rfl, rfl⟩
  have mine := kept.each index
  have wrote : ∀ {id target : String} {document : SecretUpdate},
      (roles index).task = .running id target → Of id target document →
      OnePerSecret registry (state.update document) := by
    intro id target document task version
    rcases mine.row (show (roles index).task.record = some (id, target) by rw [task]; rfl) with
      ⟨old, stored, sameId, sameTarget, wasActive⟩
    refine onePerSecret_of_rows one (fun row member active => ?_)
    rcases SecretState.mem_update member with ⟨rfl, _⟩ | ⟨known, _⟩
    · exact ⟨old, stored, wasActive, sameId.trans version.id.symm,
        sameTarget.trans version.target.symm⟩
    · exact ⟨row, known, active, rfl, rfl⟩
  cases moved with
  | quiet answer neutral => exact same (effect_neutral neutral state index).1
  | interrupted now task =>
      refine onePerSecret_of_rows one (fun row member active => ?_)
      rcases List.mem_map.mp member with ⟨old, known, rfl⟩
      unfold SecretState.interruptRow at active
      split at active
      · cases active
      · next inactive => exact absurd active inactive
  | @created document task active =>
      rw [Role.Kept, task] at mine
      by_cases taken : state.taken document.id = true
      · exact same (by rw [effect, SecretState.create, if_pos taken])
      · rw [effect, (create_fresh taken).1]
        exact onePerSecret_created one mine.2.2 (apart document rfl)
  | @refused document raised task =>
      rw [Role.Kept, task] at mine
      by_cases taken : state.taken document.id = true
      · exact same (by rw [effect, SecretState.create, if_pos taken])
      · rw [effect, (create_fresh taken).1]
        exact onePerSecret_created one mine.2.2 (apart document rfl)
  | updated task version active => exact wrote task version
  | ended task version terminal => exact wrote task version
  | _ => exact same rfl

theorem Kept.evolves_one {pool next : SecretPool} {roles later : Nat → Role}
    {action : SecretAction} {entries : SecretLog} {registry : SecretRegistry}
    (kept : Kept pool.shared roles) (one : OnePerSecret registry pool.shared)
    (meets : CreatesApart registry pool action)
    (evolves : (workflowProtocol settings).Evolves pool roles action entries next later) :
    OnePerSecret registry next.shared := by
  cases evolves with
  | @advanced index offer label request rest answer after found replied moved alone =>
      refine kept.moves_one one moved replied ?_
      rintro document rfl
      exact createsApart_created meets found
  | spawned found replied moved spawns => cases spawns
  | admitted admits => exact one
  | restarted => exact one

variable {registry : SecretRegistry}

theorem reachable_one {log : SecretLog} {pool : SecretPool}
    (reached : (workflow settings).Reachable (CreatesApart registry) log pool) :
    ∃ roles, (workflowProtocol settings).Annotated pool roles ∧ Kept pool.shared roles ∧
      OnePerSecret registry pool.shared := by
  let invariant (_ : SecretLog) (pool : SecretPool) (roles : Nat → Role) : Prop :=
    Kept pool.shared roles ∧ OnePerSecret registry pool.shared
  have always : ∃ roles, (workflowProtocol settings).Annotated pool roles ∧
      invariant log pool roles := by
    have none : OnePerSecret registry SecretState.empty := by
      intro left member
      cases member
    refine Protocol.reachable_invariant
      ⟨@opened_kept SecretState.empty List.nodup_nil rfl 0, none⟩ ?_ reached
    intro log pool roles action entries next later meets annotated known evolves
    exact ⟨known.1.evolves evolves, known.1.evolves_one known.2 meets evolves⟩
  exact always

/-- A thread that changes a target has an active record of it. -/
theorem changing_record {pool : SecretPool}
    (annotated : (workflowProtocol settings).Annotated pool roles)
    {thread : Thread Call SecretRequest SecretAnswer Outcome}
    (found : pool.threads[index]? = some thread) {target : SecretTarget}
    (changes : changing thread = some target) :
    (∃ id, (roles index).task.record = some (id, target.identifier)) ∧
      Declared settings target := by
  have follows := annotated.follows index thread found
  rcases thread with ⟨label, program⟩
  cases program with
  | done result => cases changes
  | ask request next =>
      cases request with
      | adapterReplace other source deadline =>
          cases changes
          rcases follows (.error .other : Except SecretRaised (Option String)) with ⟨_, moved, _⟩
          cases moved with
          | quiet answer neutral => cases neutral
          | replaces task declared => exact ⟨⟨_, by rw [task]; rfl⟩, declared⟩
      | adapterRollback other revision deadline =>
          cases changes
          rcases follows (.error .other : Except SecretRaised Unit) with ⟨_, moved, _⟩
          cases moved with
          | quiet answer neutral => cases neutral
          | rollsBack task declared => exact ⟨⟨_, by rw [task]; rfl⟩, declared⟩
      | _ => cases changes

/-- In every run in which no record is created while a record of another target with the
same Kubernetes Secret is active, each Secret has at most one active update, and one
thread at a time that changes it. -/
theorem one_update_per_secret {log : SecretLog} {pool : SecretPool}
    (reached : (workflow settings).Reachable (CreatesApart settings.registry) log pool) :
    OneUpdate settings.registry pool := by
  rcases reachable_one reached with ⟨roles, annotated, kept, one⟩
  refine ⟨one, ?_⟩
  intro left right first second target other leftFound rightFound leftChanges rightChanges same
  rcases changing_record annotated leftFound leftChanges with ⟨⟨id, owned⟩, declared⟩
  rcases changing_record annotated rightFound rightChanges with ⟨⟨otherId, also⟩, declaredToo⟩
  rcases (kept.each left).row owned with ⟨row, member, rowId, rowTarget, active⟩
  rcases (kept.each right).row also with ⟨version, there, versionId, versionTarget, running⟩
  have shares : Shares settings.registry row.target version.target := by
    rw [rowTarget, versionTarget]
    exact ⟨target.kubernetesSecret, declared, same ▸ declaredToo⟩
  have equal := one row member version there active running shares
  rw [rowId, versionId] at equal
  subst equal
  exact kept.owned left right id _ _ owned also

/-! ## Two updates of one Secret -/

/-- The shipped secrets of the two components that declare the database credentials. -/
def databaseSecrets : SecretRegistry where
  components := [
    ⟨"postgresql", [⟨"database-owner", "scdast-db-owner", "credential"⟩,
      ⟨"database-standard", "scdast-db-standard", "credential"⟩,
      ⟨"registry-credentials", "regcred", "image-pull"⟩]⟩,
    ⟨"scancentral-dast-core", [⟨"database-owner", "scdast-db-owner", "credential"⟩,
      ⟨"database-standard", "scdast-db-standard", "credential"⟩,
      ⟨"ssc-service-account", "scdast-ssc-serviceaccount", "credential"⟩,
      ⟨"service-token", "scdast-service-token", "token"⟩,
      ⟨"lim-service-account", "lim-admin-credentials", "credential"⟩,
      ⟨"lim-pool", "lim-pool", "credential"⟩,
      ⟨"api-certificate", "tls-pfx", "certificate"⟩,
      ⟨"ingress-tls", "tls", "certificate"⟩,
      ⟨"registry-credentials", "regcred", "image-pull"⟩]⟩]
  uniqueIds := by decide

def databaseSettings : WorkflowSettings := ⟨databaseSecrets, 900, 10485760⟩

theorem administrator_bounded : "local:admin" ≠ "" ∧ "local:admin".length ≤ 128 := by decide

theorem administrator_session : "session" ≠ "" ∧ "session".length ≤ 128 := by decide

def administrator : Authorization.ActorIdentity where
  actor := "local:admin"
  source := .web
  sessionId := "session"
  authenticatedAt := 0
  actor_bounded := administrator_bounded
  session_bounded := administrator_session

/-- The owner's credential is generated anew, under the name that a component gives it. -/
def regenerate (componentId : String) : Call :=
  .replace ⟨componentId, "database-owner", ⟨"generated", .missing, none⟩, administrator,
    "approval", none, false⟩

/-- Nothing fails, and the next identifier is given. -/
def Offer.smooth (uuid : String) : Offer where
  resolved := none
  authorized := .ok ()
  now := "2026-01-01T00:00:00Z"
  uuid := uuid
  monotonic := 0
  statement := .ok ()
  revision := .ok (some "revision")
  done := .ok ()
  healthy := .ok true

def goOn (thread count : Nat) (uuid : String) : List (SecretPool → SecretAction) :=
  List.replicate count (fun _ => .advance thread (.smooth uuid))

def arrive (call : Call) : List (SecretPool → SecretAction) := [fun _ => .receive call]

/-- The action creates no record while another one is active. -/
def createsAlone (pool : SecretPool) : SecretAction → Bool
  | .advance index _ =>
      match pool.threads[index]? with
      | some ⟨_, .ask (.create _) _⟩ => pool.shared.rows.all (fun row => !row.state.active)
      | _ => true
  | _ => true

theorem createsApart_of_createsAlone (pool : SecretPool) (action : SecretAction)
    (alone : createsAlone pool action = true) : CreatesApart registry pool action := by
  cases action with
  | advance index offer =>
      unfold CreatesApart
      unfold createsAlone at alone
      dsimp only at alone ⊢
      split at alone
      · intro row member active
        have inactive := List.all_eq_true.mp alone row member
        rw [active] at inactive
        cases inactive
      · trivial
  | receive label => trivial
  | restart => trivial

theorem one_update_per_secret_single :
    ∃ log pool thread target,
      (workflow databaseSettings).Reachable (CreatesApart databaseSecrets) log pool ∧
      pool.threads[1]? = some thread ∧ changing thread = some target ∧
      target.kubernetesSecret = "scdast-db-owner" ∧ OneUpdate databaseSecrets pool := by
  have played : ((workflow databaseSettings).play createsAlone (workflow databaseSettings).initial
      (goOn 0 4 "" ++ arrive (regenerate "postgresql") ++ goOn 1 12 "first")).any (fun pool =>
        (pool.threads[1]?).any (fun thread => (changing thread).any (fun target =>
          decide (target.kubernetesSecret = "scdast-db-owner")))) = true := by
    decide +kernel
  rcases (Option.any_eq_true _ _).mp played with ⟨pool, run, holds⟩
  rcases (Option.any_eq_true _ _).mp holds with ⟨thread, found, changes⟩
  rcases (Option.any_eq_true _ _).mp changes with ⟨target, changed, named⟩
  rcases Machine.reachable_play createsApart_of_createsAlone _ .initial run with ⟨log, reached⟩
  exact ⟨log, pool, thread, target, reached, found, changed, of_decide_eq_true named,
    one_update_per_secret reached⟩

def hasActive (pool : SecretPool) (id target : String) : Bool :=
  pool.shared.rows.any (fun row =>
    decide (row.id = id) && decide (row.target = target) && row.state.active)

theorem row_of_hasActive {pool : SecretPool} {id target : String}
    (has : hasActive pool id target = true) : pool.shared.HasRow id target := by
  rcases List.any_eq_true.mp has with ⟨row, member, facts⟩
  rw [Bool.and_eq_true, Bool.and_eq_true] at facts
  exact ⟨row, member, of_decide_eq_true facts.1.1, of_decide_eq_true facts.1.2, facts.2⟩

/-- Two components declare one Secret under identifiers of their own: both updates become
active, and both threads are in the adapter's replacement of the Secret. -/
theorem shared_secret_updated_twice :
    ¬ ∀ (settings : WorkflowSettings) (log : SecretLog) (pool : SecretPool),
      (workflow settings).Reachable (fun _ _ => True) log pool →
        OnePerSecret settings.registry pool.shared := by
  intro always
  have played : ((workflow databaseSettings).play (fun _ _ => true)
      (workflow databaseSettings).initial
      (goOn 0 4 "" ++ arrive (regenerate "postgresql") ++ goOn 1 12 "first" ++
        arrive (regenerate "scancentral-dast-core") ++ goOn 2 12 "second")).any (fun pool =>
        hasActive pool "first" "postgresql/database-owner" &&
          hasActive pool "second" "scancentral-dast-core/database-owner") = true := by
    decide +kernel
  rcases (Option.any_eq_true _ _).mp played with ⟨pool, run, holds⟩
  rcases Bool.and_eq_true_iff.mp holds with ⟨first, second⟩
  have sound : ∀ (pool : SecretPool) (action : SecretAction), true = true → True :=
    fun _ _ _ => trivial
  rcases Machine.reachable_play sound _ .initial run with ⟨log, reached⟩
  rcases row_of_hasActive first with ⟨left, leftMember, leftId, leftTarget, leftActive⟩
  rcases row_of_hasActive second with ⟨right, rightMember, rightId, rightTarget, rightActive⟩
  have shares : Shares databaseSecrets left.target right.target := by
    rw [leftTarget, rightTarget]
    exact ⟨"scdast-db-owner", by decide +kernel, by decide +kernel⟩
  have same := always databaseSettings log pool reached left leftMember right rightMember
    leftActive rightActive shares
  rw [leftId, rightId] at same
  exact absurd same (by decide)

end FortifyLab.Secrets
