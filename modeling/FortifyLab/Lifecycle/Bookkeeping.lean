import FortifyLab.Lifecycle.Books

/-! Every action of the manager keeps the books. -/

namespace FortifyLab.Lifecycle

open Registry Authorization

variable {settings : Settings} {engine : Engine} {state after : ManagerState} {books next : Books}

/-! ## Every deed keeps the books -/

theorem notStored_of_fresh {id : OperationId}
    (fresh : ∀ row ∈ state.rows, row.payload.id ≠ id) : ¬ state.Stored id := by
  intro stored
  rcases ManagerState.stored_iff.mp stored with ⟨row, member, same⟩
  exact fresh row member same

/-- What the deed of a thread does to the books, beside the thread itself. -/
structure Keeps (engine : Engine) (state after : ManagerState) (books next : Books)
    (role other : Role) : Prop where
  kept : Kept engine after next
  moved : other.Kept after next
  progress : ∃ own, Progress state after books next own ∧
    ∀ id, own = some id → role.task.operation = some id ∨ ¬ state.Stored id
  operation : ∀ id, other.task.operation = some id →
    role.task.operation = some id ∨ ¬ state.Stored id

variable {role other : Role} {index : Nat} {request : Request}

/-- A deed that leaves the rows and what is completed alone. -/
theorem Keeps.still (kept : Kept engine state books) (moved : other.Kept state books)
    (rows : after.rows = state.rows)
    (events : ∀ id, completedKeys (after.eventsOf id) = completedKeys (state.eventsOf id))
    (within : ∀ id, other.task.operation = some id → role.task.operation = some id) :
    Keeps engine state after books (books.record other) role other := by
  have same : books.record other = books :=
    record_same (fun work owns => (moved.owned work owns).booked)
  rw [same]
  exact {
    kept := kept.of_rows rows events
    moved := moved.of_rows rows
    progress := ⟨none, .of_rows rows, fun _ impossible => nomatch impossible⟩
    operation := fun id operation => .inl (within id operation) }

/-- A deed of an owner that changes its books, and no rows. -/
theorem Keeps.rebooked (kept : Kept engine state books) (mine : role.Kept state books)
    {work : Work} (changed : Work) (owns : role.task = .owns work) (same : SameWork work changed)
    (sound : changed.Sound engine) (rows : after.rows = state.rows)
    (own : completedKeys (after.eventsOf work.document.id) =
      changed.resumed ++ changed.finished.map Step.key)
    (others : ∀ id, id ≠ work.document.id →
      completedKeys (after.eventsOf id) = completedKeys (state.eventsOf id)) :
    Keeps engine state after books (books.record (role.does (.owns changed))) role
      (role.does (.owns changed)) := by
  have recorded : books.record (role.does (.owns changed)) =
      Function.update books changed.document.id changed := record_owns books rfl
  have operation : role.task.operation = some changed.document.id := by
    rw [owns, ← same.document.id]
    rfl
  rw [recorded]
  exact {
    kept := kept.rebook (mine.owned work owns) same sound rows own others
    moved := mine.rebook owns same sound.labFields rows
    progress := ⟨_, .rebook (mine.owned work owns) same rows,
      fun id same => .inl (operation.trans same)⟩
    operation := fun id same => .inl (operation.trans same) }

theorem Deed.keeps (kept : Kept engine state books) (mine : role.Kept state books)
    (deed : Deed engine index state role request after other) :
    Keeps engine state after books (books.record other) role other := by
  cases deed with
  | quiet same ordinary =>
      apply Keeps.still kept mine same.rows _ (fun _ operation => operation)
      intro id
      unfold ManagerState.eventsOf
      rw [same.events]
  | noted operationId plain =>
      exact .still kept mine rfl (ManagerState.completedKeys_withEvent_plain plain operationId)
        (fun _ operation => operation)
  | acquired free unlocked =>
      exact .still kept (mine.locked true) rfl (fun _ => rfl) (fun _ operation => operation)
  | released holds notOwns notCancelling =>
      exact .still kept (mine.rests.locked false) rfl (fun _ => rfl) (fun _ operation => nomatch operation)
  | releasedOwner holds owns =>
      exact .still kept (mine.locked false) rfl (fun _ => rfl) (fun _ operation => operation)
  | surveyed holds idle =>
      refine .still kept ?_ rfl (fun _ => rfl) (fun _ operation => nomatch operation)
      exact ⟨fun _ carried => carried.elim, mine.read, (fun _ owns => nomatch owns),
        (fun _ cancelling => nomatch cancelling), fun _ recovering => nomatch recovering⟩
  | @considered operationId actor identity holds idle called =>
      cases found : state.row? operationId with
      | none => exact .still kept mine.rests rfl (fun _ => rfl) (fun _ operation => nomatch operation)
      | some document =>
          by_cases terminal : document.state.terminal = true
          · have task : cancelTask (some document) = .idle := if_pos terminal
            rw [task]
            exact .still kept mine.rests rfl (fun _ => rfl) (fun _ operation => nomatch operation)
          · have task : cancelTask (some document) = .cancelling document := if_neg terminal
            rw [task]
            rcases ManagerState.row?_eq_some found with ⟨row, member, rfl, _⟩
            refine .still kept ?_ rfl (fun _ => rfl) (fun _ operation => nomatch operation)
            refine ⟨?_, mine.read, (fun _ owns => nomatch owns), ?_,
              fun _ recovering => nomatch recovering⟩
            · intro document carried
              have same : document = row.payload := carried
              rw [same]
              exact kept.known row member
            · intro document cancelling
              cases cancelling
              exact eq_false_of_ne_true terminal
  | read operationId idle =>
      refine .still kept ⟨mine.carries, ?_, mine.owned, mine.cancelling, mine.recovering⟩ rfl
        (fun _ => rfl) (fun _ operation => operation)
      intro id document previous
      rcases Option.map_eq_some_iff.mp previous with ⟨stored, found, same⟩
      cases same
      rcases ManagerState.row?_eq_some found with ⟨row, member, rfl, id_eq⟩
      exact ⟨id_eq, kept.known row member⟩
  | heard operationId idle =>
      exact .still kept ⟨mine.carries, mine.read, mine.owned, mine.cancelling, mine.recovering⟩ rfl
        (fun _ => rfl) (fun _ operation => operation)
  | @learned work operationId owns queued retries unresumed isLab whole unlabelled =>
      have owned := mine.owned work owns
      have stored : state.Stored work.document.id := (mine.carries _ (owns ▸ rfl)).stored
      have sound : work.Sound engine := owned.booked ▸ kept.sound _ stored
      refine .rebooked kept mine (work.learns _) owns ⟨.refl _, rfl⟩
        (sound.learns queued unresumed _) rfl ?_ ?_
      · have events := kept.events _ stored
        rw [owned.booked] at events
        exact events
      · exact fun _ _ => rfl
  | @created document active work surveyed holds apart creates fresh =>
      have absent := notStored_of_fresh fresh
      have written := creates.written
      have recorded : books.record (role.does (.owns work)) =
          Function.update books work.document.id work := record_owns books rfl
      have progress : Progress state (state.withRows (state.rows ++ [⟨document.state, document⟩]))
          books (Function.update books work.document.id work) (some document.id) :=
        .create absent written
      rw [recorded]
      have booked := kept.create creates absent
      have isNew : ∀ id, some document.id = some id → ¬ state.Stored id := by
        intro id same
        cases same
        exact absent
      refine ⟨booked, ?_, ⟨_, progress, fun id same => .inr (isNew id same)⟩, ?_⟩
      · refine ⟨?_, ?_, ?_, (fun _ cancelling => nomatch cancelling),
          fun _ recovering => nomatch recovering⟩
        · intro other carried
          have same : other = document := Eq.trans carried written
          rw [same]
          exact booked.known ⟨document.state, document⟩
            (List.mem_append_right _ List.mem_cons_self)
        · intro id other previous
          exact ⟨(mine.read id other previous).1,
            (mine.read id other previous).2.mono progress.stored progress.core⟩
        · intro other owns
          cases owns
          refine ⟨Function.update_self _ _ _, ⟨document.state, document⟩,
            List.mem_append_right _ List.mem_cons_self, congrArg Document.id written.symm, ?_⟩
          show document.state.active = true
          rw [creates.queued]
          rfl
      · intro id operation
        have same : some work.document.id = some id := operation
        rw [written] at same
        exact .inr (isNew id same)
  | @marked stored now cancelling =>
      have known : Known state books stored := mine.carries _ (cancelling ▸ rfl)
      have knownNow : Known state books { stored with state := .cancelling, updatedAt := now } :=
        known.of_same ⟨rfl, rfl, rfl, rfl, rfl, rfl, rfl⟩ rfl rfl
      have recorded : books.record (role.does .idle) = books := rfl
      have progress : Progress state
          (state.write { stored with state := .cancelling, updatedAt := now }) books books none :=
        .write (fun _ _ => .refl _) (fun _ _ => rfl) (.inl rfl)
      rw [recorded]
      refine ⟨kept.writes knownNow (fun succeeded => nomatch succeeded), ?_,
        ⟨none, progress, fun _ impossible => nomatch impossible⟩,
        fun _ operation => nomatch operation⟩
      exact mine.rests.beside progress (fun _ recovering => nomatch recovering)
        (fun _ owns => nomatch owns)
  | @saved work document owns same saved =>
      have owned := mine.owned work owns
      rcases kept.saved owned same saved with ⟨keptNow, progress, active, lab⟩
      have recorded : books.record (role.does (.owns (work.writes document))) =
          Function.update books (work.writes document).document.id (work.writes document) :=
        record_owns books rfl
      have operation : role.task.operation = some document.id := by
        rw [owns, same.id]
        rfl
      rw [recorded]
      refine ⟨keptNow, ?_, ⟨_, progress, fun id same => .inl (operation.trans same)⟩,
        fun id same => .inl (operation.trans same)⟩
      rcases owned.active with ⟨row, member, id, _⟩
      have written : (⟨document.state, document⟩ : Row) ∈ (state.write document).rows :=
        ManagerState.mem_write.mpr (.inr ⟨rfl, row, member, id.trans same.id.symm⟩)
      refine ⟨?_, ?_, ?_, (fun _ cancelling => nomatch cancelling),
        fun _ recovering => nomatch recovering⟩
      · intro other carried
        have own : other = document := carried
        rw [own]
        exact keptNow.known _ written
      · intro id other previous
        exact ⟨(mine.read id other previous).1,
          (mine.read id other previous).2.mono progress.stored progress.core⟩
      · intro other owns
        cases owns
        exact ⟨Function.update_self _ _ _, _, written, rfl, active⟩
  | @concluded work document owns same terminal uninterrupted lab running complete =>
      have owned := mine.owned work owns
      have known : Known state books work.document := mine.carries _ (owns ▸ rfl)
      have knownNow : Known state books document := known.of_same same lab.1 lab.2
      have recorded : books.record (role.does .idle) = books := rfl
      have progress : Progress state (state.write document) books books (some document.id) :=
        .write (fun _ _ => .refl _) (fun _ _ => rfl) (.inr rfl)
      have operation : role.task.operation = some document.id := by
        rw [owns, same.id]
        rfl
      rw [recorded]
      refine ⟨kept.writes knownNow ?_, ?_,
        ⟨_, progress, fun id same => .inl (operation.trans same)⟩,
        fun _ operation => nomatch operation⟩
      · intro succeeded
        rw [same.id, owned.booked]
        exact complete succeeded
      · exact mine.rests.beside progress (fun _ recovering => nomatch recovering)
          (fun _ owns => nomatch owns)
  | @succeeded work step rest attempt at_ owns running next =>
      have owned := mine.owned work owns
      have stored : state.Stored work.document.id := (mine.carries _ (owns ▸ rfl)).stored
      have sound : work.Sound engine := owned.booked ▸ kept.sound _ stored
      have events := kept.events _ stored
      rw [owned.booked] at events
      refine .rebooked kept mine (work.advance step rest) owns ⟨.refl _, rfl⟩
        (sound.advance next running) rfl ?_ ?_
      · rw [ManagerState.completedKeys_withEvent_self rfl, events]
        show work.resumed ++ work.finished.map Step.key ++ [step.key] =
          work.resumed ++ (work.finished ++ [step]).map Step.key
        rw [List.map_append, List.append_assoc]
        rfl
      · intro id different
        rw [ManagerState.eventsOf_withEvent_of_ne different]
  | @resumed work key at_ owns queued skipped =>
      have owned := mine.owned work owns
      have stored : state.Stored work.document.id := (mine.carries _ (owns ▸ rfl)).stored
      have sound : work.Sound engine := owned.booked ▸ kept.sound _ stored
      have events := kept.events _ stored
      rw [owned.booked, sound.waits queued, List.map_nil, List.append_nil] at events
      refine .rebooked kept mine (work.resumes key) owns ⟨.refl _, rfl⟩ (sound.resumes skipped)
        rfl ?_ ?_
      · rw [ManagerState.completedKeys_withEvent_self rfl, events]
        show work.resumed ++ [key] = work.resumed ++ [key] ++ work.finished.map Step.key
        rw [sound.waits queued, List.map_nil, List.append_nil]
      · intro id different
        rw [ManagerState.eventsOf_withEvent_of_ne different]
  | @registered work owns queued =>
      have owned := mine.owned work owns
      have stored : state.Stored work.document.id := (mine.carries _ (owns ▸ rfl)).stored
      have sound : work.Sound engine := owned.booked ▸ kept.sound _ stored
      have events := kept.events _ stored
      rw [owned.booked] at events
      exact .rebooked kept mine work.registers owns ⟨.refl _, rfl⟩ sound.registers rfl events (fun _ _ => rfl)
  | unregistered idle called =>
      exact .still kept mine rfl (fun _ => rfl) (fun _ operation => operation)
  | handed owns unlocked queued registered resumed total lab =>
      exact .still kept mine.rests rfl (fun _ => rfl) (fun _ operation => nomatch operation)

/-! ## Opening the store keeps the books -/

theorem stored_map {change : Row → Row} (ids : (state.rows.map change).map
      (fun row => row.payload.id) = state.rows.map (fun row => row.payload.id))
    (id : OperationId) : (state.withRows (state.rows.map change)).Stored id ↔ state.Stored id := by
  unfold ManagerState.Stored ManagerState.withRows
  rw [ids]

/-- A statement on all rows that keeps what the books have. -/
theorem Kept.map (kept : Kept engine state books) {change : Row → Row}
    (ids : (state.rows.map change).map (fun row => row.payload.id) =
      state.rows.map (fun row => row.payload.id))
    (columns : ∀ row ∈ state.rows, (change row).state = (change row).payload.state)
    (known : ∀ row ∈ state.rows, Known state books (change row).payload)
    (succeeded : ∀ row ∈ state.rows, (change row).state = .succeeded →
      row.state = .succeeded ∧ (change row).payload.id = row.payload.id) :
    Kept engine (state.withRows (state.rows.map change)) books where
  ids := by
    show ((state.rows.map change).map _).Nodup
    rw [ids]
    exact kept.ids
  columns row member := by
    rcases List.mem_map.mp member with ⟨old, known, rfl⟩
    exact columns old known
  known row member := by
    rcases List.mem_map.mp member with ⟨old, stored, rfl⟩
    exact (known old stored).mono (fun id => (stored_map ids id).mpr) (fun _ _ => .refl _)
  sound id stored := kept.sound id ((stored_map ids id).mp stored)
  events id stored := kept.events id ((stored_map ids id).mp stored)
  bare id absent := kept.bare id (fun stored => absent ((stored_map ids id).mpr stored))
  finished row member isSucceeded := by
    rcases List.mem_map.mp member with ⟨old, stored, rfl⟩
    rcases succeeded old stored isSucceeded with ⟨before, id⟩
    rw [id]
    exact kept.finished old stored before

theorem Kept.interrupt (kept : Kept engine state books) (now : Timestamp) :
    Kept engine (state.withRows (state.rows.map (ManagerState.interruptRow now))) books := by
  apply kept.map (ManagerState.ids_interrupt now)
  · intro row member
    unfold ManagerState.interruptRow
    split
    · rfl
    · exact kept.columns row member
  · intro row member
    have known := kept.known row member
    unfold ManagerState.interruptRow
    split
    · exact known.of_same ⟨rfl, rfl, rfl, rfl, rfl, rfl, rfl⟩ rfl rfl
    · exact known
  · intro row member succeeded
    unfold ManagerState.interruptRow at succeeded ⊢
    split at succeeded
    · cases succeeded
    · next inactive =>
      rw [if_neg inactive]
      exact ⟨succeeded, rfl⟩

theorem Kept.recover (kept : Kept engine state books) {stored : Document}
    (known : Known state books stored) (interrupted : stored.state = .interrupted)
    (same : ∀ row ∈ state.rows, row.payload.id = stored.id → row.state = .interrupted) :
    Kept engine (state.withRows (state.rows.map
      (ManagerState.updatePayload stored.setInterruptedRecovery))) books := by
  apply kept.map (ManagerState.ids_updatePayload _)
  · intro row member
    unfold ManagerState.updatePayload
    split
    · next id => exact (same row member id).trans interrupted.symm
    · exact kept.columns row member
  · intro row member
    unfold ManagerState.updatePayload
    split
    · exact known.of_same ⟨rfl, rfl, rfl, rfl, rfl, rfl, rfl⟩ rfl rfl
    · exact kept.known row member
  · intro row member succeeded
    unfold ManagerState.updatePayload at succeeded ⊢
    split at succeeded
    · next id =>
      rw [if_pos id]
      exact ⟨succeeded, id.symm⟩
    · next id =>
      rw [if_neg id]
      exact ⟨succeeded, rfl⟩

/-- A thread with nothing in hand. -/
theorem kept_vacant {role : Role} (idle : role.task = .idle) (previous : role.previous = none) :
    role.Kept state books where
  carries document carried := by
    rw [idle] at carried
    exact carried.elim
  read id document read := by
    rw [previous] at read
    cases read
  owned work owns := by
    rw [idle] at owns
    cases owns
  cancelling document cancelling := by
    rw [idle] at cancelling
    cases cancelling
  recovering documents recovering := by
    rw [idle] at recovering
    cases recovering

/-- The thread that opens the store, when it has read nothing. -/
theorem kept_recovering {role : Role} (previous : role.previous = none) {documents : List Document}
    (known : ∀ document ∈ documents, Known state books document)
    (interrupted : ∀ document ∈ documents, document.state = .interrupted ∧
      ∀ row ∈ state.rows, row.payload.id = document.id → row.state = .interrupted) :
    (role.does (.recovering documents)).Kept state books where
  carries document carried := known document carried
  read id document read := by
    have impossible : role.previous = some (id, document) := read
    rw [previous] at impossible
    cases impossible
  owned _ owns := nomatch owns
  cancelling _ cancelling := nomatch cancelling
  recovering others recovering := by
    cases recovering
    exact interrupted

theorem OpeningDeed.keeps (kept : Kept engine state books) (mine : role.Kept state books)
    (previous : role.previous = none)
    (deed : OpeningDeed state role request after other) :
    Kept engine after books ∧ other.Kept after books := by
  cases deed with
  | waited => exact ⟨kept, mine⟩
  | noted operationId at_ =>
      exact ⟨kept.of_rows rfl (ManagerState.completedKeys_withEvent_plain rfl operationId),
        mine.of_rows rfl⟩
  | interrupts now idle =>
      exact ⟨kept.interrupt now, kept_recovering previous
        (fun _ impossible => nomatch impossible) (fun _ impossible => nomatch impossible)⟩
  | lists recovering =>
      refine ⟨kept, kept_recovering previous ?_ ?_⟩
      · intro document member
        rcases List.mem_map.mp member with ⟨row, listed, rfl⟩
        exact kept.known row (List.mem_of_mem_filter listed)
      · intro document member
        rcases List.mem_map.mp member with ⟨row, listed, rfl⟩
        rcases List.mem_filter.mp listed with ⟨stored, interrupted⟩
        have state_eq := of_decide_eq_true interrupted
        refine ⟨(kept.columns row stored).symm.trans state_eq, ?_⟩
        intro another known same
        rw [ManagerState.eq_of_id kept.ids known stored same]
        exact state_eq
  | @recovers documents stored recovering listed =>
      have known : Known state books stored := mine.carries _ (recovering ▸ listed)
      have interrupted := mine.recovering documents recovering
      have ids : (state.rows.map (ManagerState.updatePayload stored.setInterruptedRecovery)).map
          (fun row => row.payload.id) = state.rows.map (fun row => row.payload.id) :=
        ManagerState.ids_updatePayload stored.setInterruptedRecovery
      refine ⟨kept.recover known (interrupted stored listed).1 (interrupted stored listed).2, ?_⟩
      rw [← does_same recovering]
      apply kept_recovering previous
      · intro document member
        exact (mine.carries document (recovering ▸ member)).mono
          (fun id => (stored_map ids id).mpr) (fun _ _ => .refl _)
      · intro document member
        refine ⟨(interrupted document member).1, ?_⟩
        intro row changed same
        rcases List.mem_map.mp changed with ⟨old, stored_, rfl⟩
        unfold ManagerState.updatePayload at same ⊢
        split at same
        · next id =>
          rw [if_pos id]
          exact (interrupted stored listed).2 old stored_ id
        · next id =>
          rw [if_neg id]
          exact (interrupted document member).2 old stored_ same
  | serves recovering =>
      refine ⟨kept.of_rows rfl (fun _ => rfl), ?_⟩
      refine ⟨fun _ carried => carried.elim, ?_, (fun _ owns => nomatch owns),
        (fun _ cancelling => nomatch cancelling), (fun _ recovering => nomatch recovering)⟩
      intro id document read
      have impossible : role.previous = some (id, document) := read
      rw [previous] at impossible
      cases impossible

/-! ## Every turn keeps the books -/

theorem operation_eq_some {task : Task} {id : OperationId} (operation : task.operation = some id) :
    ∃ work, task = .owns work ∧ work.document.id = id := by
  cases task with
  | owns work =>
      cases operation
      exact ⟨work, rfl, rfl⟩
  | _ => cases operation

/-- What a thread owns is stored. -/
theorem Role.Kept.stored {role : Role} (kept : role.Kept state books) {id : OperationId}
    (operation : role.task.operation = some id) : state.Stored id := by
  rcases operation_eq_some operation with ⟨work, owns, rfl⟩
  exact (kept.carries _ (owns ▸ rfl)).stored

theorem alone_update {roles : Nat → Role} {index : Nat} {role : Role}
    (alone : ∀ left right id, (roles left).task.operation = some id →
      (roles right).task.operation = some id → left = right)
    (operation : ∀ id, role.task.operation = some id →
      ∀ other, other ≠ index → (roles other).task.operation ≠ some id)
    (left right : Nat) (id : OperationId)
    (leftOwns : (Function.update roles index role left).task.operation = some id)
    (rightOwns : (Function.update roles index role right).task.operation = some id) :
    left = right := by
  by_cases leftMoved : left = index
  · subst leftMoved
    rw [Function.update_self] at leftOwns
    by_contra different
    rw [Function.update_of_ne (Ne.symm different)] at rightOwns
    exact operation id leftOwns right (Ne.symm different) rightOwns
  · rw [Function.update_of_ne leftMoved] at leftOwns
    by_cases rightMoved : right = index
    · subst rightMoved
      rw [Function.update_self] at rightOwns
      exact absurd leftOwns (operation id rightOwns left leftMoved)
    · rw [Function.update_of_ne rightMoved] at rightOwns
      exact alone left right id leftOwns rightOwns

/-- The others while a thread that is being served moves. -/
theorem Booked.beside {roles : Nat → Role} (booked : Booked engine state roles books)
    (orderly : Orderly state roles) (serves : (roles index).Serves)
    (keeps : Keeps engine state after books next (roles index) other) (thread : Nat)
    (different : thread ≠ index) : (roles thread).Kept after next := by
  rcases orderly with ⟨boot, orderly⟩
  rcases keeps.progress with ⟨own, progress, from_⟩
  have serving := ((orderly index).served serves).1
  apply (booked.each thread).beside progress ((orderly thread).notRecovering serving)
  intro work owns same
  have operation : (roles thread).task.operation = some work.document.id := by
    rw [owns]
    rfl
  rcases from_ _ same with mine | absent
  · exact different (booked.alone thread index _ operation mine)
  · exact absent ((booked.each thread).stored operation)

theorem Booked.apart {roles : Nat → Role} (booked : Booked engine state roles books)
    (keeps : Keeps engine state after books next (roles index) other) (id : OperationId)
    (operation : other.task.operation = some id) (thread : Nat) (different : thread ≠ index) :
    (roles thread).task.operation ≠ some id := by
  intro also
  rcases keeps.operation id operation with mine | absent
  · exact different (booked.alone thread index id also mine)
  · exact absent ((booked.each thread).stored also)

theorem OpeningDeed.operation (deed : OpeningDeed state role request after other)
    (nothing : role.task.operation = none) : other.task.operation = none := by
  cases deed with
  | waited => exact nothing
  | noted operationId at_ => exact nothing
  | recovers recovering known => exact nothing
  | _ => rfl

theorem Role.Orderly.owns_nothing {boot : Nat} (orderly : role.Orderly state boot index)
    (waits : ¬ role.Serves) : role.task.operation = none := by
  rcases (orderly.inert waits).2.2 with idle | ⟨_, opens⟩
  · rw [idle]
    rfl
  · cases task : role.task with
    | owns work =>
        rw [task] at opens
        exact opens.elim
    | _ => rfl

/-- After the store has been opened its opener no longer touches the rows. -/
theorem OpeningDeed.quiet {boot : Nat} (orderly : role.Orderly state boot index)
    (opens : role.call = some .openStore) (deed : OpeningDeed state role request after other) :
    after.rows = state.rows ∨ state.serving = false := by
  rcases (orderly.opener opens).2 with opened | closed
  · cases deed with
    | interrupts now idle =>
        rw [opened] at idle
        cases idle
    | recovers recovering known =>
        rw [opened] at recovering
        cases recovering
    | _ => exact .inl rfl
  · exact .inr closed

theorem follow_moved {roles : Nat → Role} (moved : ∀ work, role.task = .owns work →
      books work.document.id = work) (index : Nat) (request : Request) :
    books.follow (some (index, request)) (Function.update roles index role) = books := by
  unfold Books.follow
  dsimp only
  rw [Function.update_self]
  exact record_same moved

theorem turn_booked {roles nextRoles : Nat → Role} {asked : Option (Nat × Request)}
    (orderly : Orderly state roles) (booked : Booked settings.engine state roles books)
    (turn : Turn settings state roles asked after nextRoles) :
    Booked settings.engine after nextRoles (books.follow asked nextRoles) := by
  cases turn with
  | @opening index request after role opens deed =>
      rcases orderly with ⟨boot, orderly⟩
      have waits := not_serves_of_opens opens
      have idle := (orderly index).inert waits
      have nothing := deed.operation ((orderly index).owns_nothing waits)
      rcases deed.keeps booked.kept (booked.each index) idle.2.1 with ⟨kept, moved⟩
      rw [follow_moved (fun work owns => (moved.owned work owns).booked)]
      refine ⟨kept, forall_update (fun _ each => each.Kept after books) moved ?_,
        alone_update booked.alone ?_⟩
      · intro other different
        rcases deed.quiet (orderly index) opens with rows | closed
        · exact (booked.each other).of_rows rows
        · have vacant := (orderly index).bystander opens closed (orderly other) different
          exact kept_vacant vacant.2.2 vacant.2.1
      · intro id operation
        rw [nothing] at operation
        cases operation
  | @serving index request after role serves deed alone =>
      have keeps := deed.keeps booked.kept (booked.each index)
      have recorded : books.follow (some (index, request)) (Function.update roles index role) =
          books.record role := by
        unfold Books.follow
        dsimp only
        rw [Function.update_self]
      rw [recorded]
      exact ⟨keeps.kept,
        forall_update (fun _ each => each.Kept after (books.record role)) keeps.moved
          (booked.beside orderly serves keeps), alone_update booked.alone (booked.apart keeps)⟩
  | @started index worker document steps after role serves deed absent other =>
      have keeps := deed.keeps booked.kept (booked.each index)
      have beside := booked.beside orderly serves keeps
      cases deed with
      | quiet same ordinary => cases ordinary
      | @handed work owns unlocked queued registered resumed total lab =>
          have owned := (booked.each index).owned work owns
          have recorded : books.follow (some (index, .startWorker work.document work.rest))
              (Function.update (Function.update roles index ((roles index).does .idle)) worker
                (.begins (some (.worker work.document work.rest)) (roles index).task)) = books := by
            unfold Books.follow
            dsimp only
            rw [Function.update_of_ne (Ne.symm other), Function.update_self]
            rfl
          have moved : ((roles index).does .idle).Kept state books := keeps.moved
          have given : (Role.begins (some (.worker work.document work.rest))
              (roles index).task).Kept state books := by
            refine ⟨(booked.each index).carries, (fun _ _ previous => nomatch previous),
              (booked.each index).owned, (booked.each index).cancelling,
              (booked.each index).recovering⟩
          rw [recorded]
          refine ⟨booked.kept, forall_update (fun _ each => each.Kept state books) given
            (fun thread _ => forall_update (fun _ each => each.Kept state books) moved
              (fun thread _ => booked.each thread) thread), ?_⟩
          apply alone_update
          · exact alone_update booked.alone (fun _ operation => nomatch operation)
          · intro id operation thread _ also
            by_cases mine : thread = index
            · subst mine
              rw [Function.update_self] at also
              cases also
            · rw [Function.update_of_ne mine] at also
              exact mine (booked.alone thread index id also operation)
  | @arrived index call serving arrives absent =>
      exact ⟨booked.kept, forall_update (fun _ each => each.Kept state books)
        (kept_vacant rfl rfl) (fun other _ => booked.each other),
        alone_update booked.alone (fun _ operation => nomatch operation)⟩
  | crashed index =>
      refine ⟨booked.kept.of_rows rfl (fun _ => rfl),
        forall_update (fun _ each => each.Kept state.afterCrash books) (kept_vacant rfl rfl)
          (fun _ _ => kept_vacant rfl rfl), ?_⟩
      exact alone_update (fun _ _ _ operation => nomatch operation)
        (fun _ operation => nomatch operation)

/-- Books that nothing has been entered in. -/
def blankBooks : Books := fun _ => default

theorem initial_booked (settings : Settings) :
    Booked settings.engine (manager settings).initial.shared
      (managerProtocol settings).initialRoles blankBooks where
  kept := ⟨List.nodup_nil, (fun _ member => nomatch member), (fun _ member => nomatch member),
    (fun _ stored => nomatch stored), (fun _ stored => nomatch stored), fun _ _ => rfl,
    fun _ member => nomatch member⟩
  each := forall_update (fun _ each => each.Kept _ blankBooks) (kept_vacant rfl rfl)
    (fun _ _ => kept_vacant rfl rfl)
  alone := alone_update (fun _ _ _ operation => nomatch operation)
    (fun _ operation => nomatch operation)

end FortifyLab.Lifecycle
