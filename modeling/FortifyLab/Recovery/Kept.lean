import FortifyLab.Library.Ownership
import FortifyLab.Recovery.Roles

/-! What every state of the service keeps: identifiers are drawn once, every operation and
every artifact is written by one thread at most, and complete artifacts are whole. -/

namespace FortifyLab.Recovery

namespace ServiceState

/-- The identifier was drawn before. -/
def Issued (platform : Platform) (state : ServiceState) (start id : String) : Prop :=
  ∃ count, count < state.drawn ∧ id = start ++ platform.uuid count

/-- The row is there and has not ended. -/
def Active (state : ServiceState) (id : String) : Prop :=
  ∃ row, state.operations id = some row ∧ row.state.terminal = false

/-- There is no complete artifact yet. -/
def Unfinished (state : ServiceState) (backupId : String) : Prop :=
  ∀ artifact, state.artifacts backupId ≠ some (true, artifact)

structure Writable (platform : Platform) (state : ServiceState) (backupId : String) : Prop where
  issued : state.Issued platform "backup-" backupId
  unfinished : state.Unfinished backupId

end ServiceState

def Worker.writes : Worker → Option String
  | .backup _ backupId => some backupId
  | .restore _ _ => none

/-- The worker that the thread stands for, or is about to start. -/
def Role.worker (role : Role) : Option Worker :=
  match role.task with
  | .placing _ worker | .starting worker => some worker
  | .awaiting | .working _ _ =>
      match role.call with
      | some (.worker worker) => some worker
      | _ => none
  | _ => none

/-- The operation that only this thread may start or save. -/
def Role.operation (role : Role) : Option String := role.worker.map Worker.operationId

/-- The artifact that only this thread may write. -/
def Role.writes (role : Role) : Option String :=
  match role.task with
  | .drew backupId => some backupId
  | .working _ .published => none
  | _ => role.worker.bind Worker.writes

/-- The artifact that a restore was let through for. -/
def Cleared (service : Service) (state : ServiceState) : Stage → Worker → Prop
  | .cleared, .restore _ backupId => ∃ artifact,
      state.artifacts backupId = some (true, artifact) ∧ artifact.profileId = service.profileId
  | _, _ => True

variable (platform : Platform) (service : Service)

/-- What holds of a thread in its role. -/
def Role.Kept (state : ServiceState) (role : Role) : Prop :=
  match role.task with
  | .idle => True
  | .opening => state.serving = false
  | .drew backupId => state.serving = true ∧ state.Writable platform backupId
  | .placing document worker => state.serving = true ∧ state.operations document.id = none ∧
      state.Issued platform "recovery-" document.id ∧ worker.operationId = document.id ∧
      document.state.terminal = false ∧
      ∀ backupId, role.writes = some backupId → state.Writable platform backupId
  | .starting worker => state.serving = true ∧ state.Active worker.operationId ∧
      ∀ backupId, role.writes = some backupId → state.Writable platform backupId
  | .marking document => state.serving = true ∧ document.state.terminal = false ∧
      (state.operations document.id).isSome = true
  | .awaiting => state.serving = true ∧ ∃ worker, role.call = some (.worker worker) ∧
      state.Active worker.operationId ∧
      ∀ backupId, role.writes = some backupId → state.Writable platform backupId
  | .working held stage => state.serving = true ∧ ∃ worker, role.call = some (.worker worker) ∧
      held.id = worker.operationId ∧ state.Active worker.operationId ∧
      Cleared service state stage worker ∧
      ∀ backupId, role.writes = some backupId → state.Writable platform backupId

/-- What holds of a store, also between two services. -/
structure StoreKept (state : ServiceState) : Prop where
  keyed : ∀ id row, state.operations id = some row → row.id = id
  filed : ∀ backupId complete artifact, state.artifacts backupId = some (complete, artifact) →
    artifact.id = backupId
  whole : ∀ backupId artifact, state.artifacts backupId = some (true, artifact) →
    artifact.Whole platform.sha256
  placed : ∀ id row, state.operations id = some row → state.Issued platform "recovery-" id
  written : ∀ backupId row, state.artifacts backupId = some row →
    state.Issued platform "backup-" backupId

/-- At most one thread has the item. -/
def Apart (owns : Role → Option String) (roles : Nat → Role) : Prop :=
  ∀ left right id, owns (roles left) = some id → owns (roles right) = some id → left = right

structure Kept (state : ServiceState) (roles : Nat → Role) : Prop extends
    StoreKept platform state where
  each : ∀ index, (roles index).Kept platform service state
  arrived : ∀ index call, (roles index).call = some call → call.outside = true →
    state.serving = true
  operations : Apart Role.operation roles
  artifacts : Apart Role.writes roles
  alone : ∀ left right, (roles left).task = .opening → (roles right).task = .opening →
    left = right

variable {platform : Platform} {service : Service} {state after : ServiceState}
  {roles : Nat → Role} {role other : Role} {index : Nat}

/-! ## What other threads leave alone -/

theorem Apart.update {owns : Role → Option String} (apart : Apart owns roles)
    (mine : ∀ id, owns role = some id → ∀ thread, owns (roles thread) = some id →
      thread = index) : Apart owns (Function.update roles index role) :=
  FortifyLab.Apart.update apart mine

theorem ServiceState.Issued.mono {start id : String} (issued : state.Issued platform start id)
    (drawn : state.drawn ≤ after.drawn) : after.Issued platform start id := by
  rcases issued with ⟨count, before, same⟩
  exact ⟨count, by omega, same⟩

/-- A state in which no row and no complete artifact is lost. -/
structure Grows (state after : ServiceState) : Prop where
  serving : after.serving = state.serving
  drawn : state.drawn ≤ after.drawn
  rows : ∀ id, (state.operations id).isSome = true → (after.operations id).isSome = true
  complete : ∀ backupId artifact, state.artifacts backupId = some (true, artifact) →
    after.artifacts backupId = some (true, artifact)

theorem Cleared.grow {stage : Stage} {worker : Worker} (cleared : Cleared service state stage worker)
    (grows : Grows state after) : Cleared service after stage worker := by
  unfold Cleared at *
  split
  · rcases cleared with ⟨artifact, complete, profile⟩
    exact ⟨artifact, grows.complete _ artifact complete, profile⟩
  · trivial

/-- A thread keeps its place where others write no row or artifact of its own. -/
theorem Role.Kept.grow (kept : role.Kept platform service state) (grows : Grows state after)
    (active : ∀ id, role.operation = some id → state.Active id → after.Active id)
    (missing : ∀ id, role.operation = some id → state.operations id = none →
      after.operations id = none)
    (unfinished : ∀ backupId, role.writes = some backupId → state.Unfinished backupId →
      after.Unfinished backupId) : role.Kept platform service after := by
  have writable : (∀ backupId, role.writes = some backupId → state.Writable platform backupId) →
      ∀ backupId, role.writes = some backupId → after.Writable platform backupId := by
    intro before backupId owned
    have known := before backupId owned
    exact ⟨known.issued.mono grows.drawn, unfinished backupId owned known.unfinished⟩
  unfold Role.Kept at *
  cases task : role.task with
  | idle => trivial
  | opening =>
      rw [task] at kept
      exact grows.serving.trans kept
  | drew backupId =>
      rw [task] at kept
      have owned : role.writes = some backupId := by rw [Role.writes, task]
      exact ⟨grows.serving.trans kept.1, kept.2.issued.mono grows.drawn,
        unfinished backupId owned kept.2.unfinished⟩
  | placing document worker =>
      rw [task] at kept
      rcases kept with ⟨serving, none, issued, same, fresh, before⟩
      have owned : role.operation = some document.id := by
        rw [Role.operation, Role.worker, task]
        exact congrArg some same
      exact ⟨grows.serving.trans serving, missing _ owned none, issued.mono grows.drawn, same,
        fresh, writable before⟩
  | starting worker =>
      rw [task] at kept
      rcases kept with ⟨serving, runs, before⟩
      have owned : role.operation = some worker.operationId := by
        rw [Role.operation, Role.worker, task]
        rfl
      exact ⟨grows.serving.trans serving, active _ owned runs, writable before⟩
  | marking document =>
      rw [task] at kept
      exact ⟨grows.serving.trans kept.1, kept.2.1, grows.rows _ kept.2.2⟩
  | awaiting =>
      rw [task] at kept
      rcases kept with ⟨serving, worker, call, runs, before⟩
      have owned : role.operation = some worker.operationId := by
        rw [Role.operation, Role.worker, task, call]
        rfl
      exact ⟨grows.serving.trans serving, worker, call, active _ owned runs, writable before⟩
  | working held stage =>
      rw [task] at kept
      rcases kept with ⟨serving, worker, call, same, runs, cleared, before⟩
      have owned : role.operation = some worker.operationId := by
        rw [Role.operation, Role.worker, task, call]
        rfl
      exact ⟨grows.serving.trans serving, worker, call, same, active _ owned runs,
        cleared.grow grows, writable before⟩

/-! ## Which items a role has -/

theorem operation_working {worker : Worker} {held : RecoveryOperation} {stage : Stage}
    (call : role.call = some (.worker worker)) (task : role.task = .working held stage) :
    role.operation = some worker.operationId := by
  simp only [Role.operation, Role.worker, task, call, Option.map_some]

theorem Role.Kept.issued (store : StoreKept platform state)
    (kept : role.Kept platform service state) {id : String} (owned : role.operation = some id) :
    state.Issued platform "recovery-" id := by
  have placed : ∀ other, state.Active other → state.Issued platform "recovery-" other :=
    fun other active => store.placed other _ active.choose_spec.1
  unfold Role.Kept at kept
  unfold Role.operation Role.worker at owned
  cases task : role.task with
  | placing document worker =>
      simp only [task, Option.map_some, Option.some.injEq] at kept owned
      rw [← owned, kept.2.2.2.1]
      exact kept.2.2.1
  | starting worker =>
      simp only [task, Option.map_some, Option.some.injEq] at kept owned
      exact owned ▸ placed _ kept.2.1
  | awaiting =>
      rw [task] at kept
      rcases kept with ⟨_, worker, call, active, _⟩
      simp only [task, call, Option.map_some, Option.some.injEq] at owned
      exact owned ▸ placed _ active
  | working held stage =>
      rw [task] at kept
      rcases kept with ⟨_, worker, call, _, active, _⟩
      simp only [task, call, Option.map_some, Option.some.injEq] at owned
      exact owned ▸ placed _ active
  | _ => simp [task] at owned

theorem Role.Kept.writable (kept : role.Kept platform service state) {backupId : String}
    (owned : role.writes = some backupId) : state.Writable platform backupId := by
  have known := owned
  unfold Role.Kept at kept
  unfold Role.writes Role.worker at owned
  cases task : role.task with
  | drew other =>
      simp only [task, Option.some.injEq] at kept owned
      exact owned ▸ kept.2
  | placing document worker =>
      simp only [task] at kept
      exact kept.2.2.2.2.2 _ known
  | starting worker =>
      simp only [task] at kept
      exact kept.2.2 _ known
  | awaiting =>
      simp only [task] at kept
      rcases kept with ⟨_, worker, _, _, before⟩
      exact before _ known
  | working held stage =>
      simp only [task] at kept
      rcases kept with ⟨_, worker, _, _, _, _, before⟩
      exact before _ known
  | _ => simp [task] at owned

/-- The next identifier is not drawn yet. -/
theorem not_issued (platform : Platform) (state : ServiceState) (start : String) :
    ¬ state.Issued platform start (start ++ platform.uuid state.drawn) := by
  rintro ⟨count, before, same⟩
  have equal : platform.uuid state.drawn = platform.uuid count := by
    have texts := congrArg String.toList same
    rw [String.toList_append, String.toList_append] at texts
    exact String.toList_inj.mp (List.append_cancel_left texts)
  have impossible := platform.distinct equal
  omega

/-- Without a service there is nobody but the thread that opens the store. -/
theorem Role.Kept.closed (kept : role.Kept platform service state)
    (closed : state.serving = false) : role.task = .idle ∨ role.task = .opening := by
  unfold Role.Kept at kept
  cases task : role.task with
  | idle => exact .inl rfl
  | opening => exact .inr rfl
  | _ =>
      rw [task] at kept
      exact absurd (kept.1.symm.trans closed) (by decide)

/-! ## One move -/

/-- The invariant after a move: the store, the other threads, the thread itself. -/
theorem Kept.step (kept : Kept platform service state roles) (store : StoreKept platform after)
    (called : other.call = (roles index).call) (serving : after.serving = state.serving)
    (others : ∀ thread, thread ≠ index → (roles thread).Kept platform service after)
    (mine : other.Kept platform service after)
    (operation : ∀ id, other.operation = some id → ∀ thread,
      (roles thread).operation = some id → thread = index)
    (writes : ∀ id, other.writes = some id → ∀ thread, (roles thread).writes = some id →
      thread = index)
    (quiet : other.task ≠ .opening) :
    Kept platform service after (Function.update roles index other) where
  toStoreKept := store
  each thread := by
    by_cases same : thread = index
    · rw [same, Function.update_self]
      exact mine
    · rw [Function.update_of_ne same]
      exact others thread same
  arrived thread call known outside := by
    rw [serving]
    by_cases same : thread = index
    · rw [same, Function.update_self, called] at known
      exact kept.arrived index call known outside
    · rw [Function.update_of_ne same] at known
      exact kept.arrived thread call known outside
  operations := kept.operations.update operation
  artifacts := kept.artifacts.update writes
  alone left right first second := by
    have elsewhere : ∀ thread, (Function.update roles index other thread).task = .opening →
        (roles thread).task = .opening := by
      intro thread opening
      by_cases same : thread = index
      · rw [same, Function.update_self] at opening
        exact absurd opening quiet
      · rwa [Function.update_of_ne same] at opening
    exact kept.alone left right (elsewhere left first) (elsewhere right second)

/-- A move that changes nothing in the store, and takes no item. -/
theorem Kept.stay (kept : Kept platform service state roles)
    (called : other.call = (roles index).call) (mine : other.Kept platform service state)
    (operation : ∀ id, other.operation = some id → (roles index).operation = some id)
    (writes : ∀ id, other.writes = some id → (roles index).writes = some id)
    (quiet : other.task ≠ .opening) :
    Kept platform service state (Function.update roles index other) :=
  kept.step kept.toStoreKept called rfl (fun thread _ => kept.each thread) mine
    (fun id owned thread also => kept.operations thread index id also (operation id owned))
    (fun id owned thread also => kept.artifacts thread index id also (writes id owned)) quiet

theorem idle_operation (task : role.task = .idle) : role.operation = none := by
  rw [Role.operation, Role.worker, task]
  rfl

theorem idle_writes (task : role.task = .idle) : role.writes = none := by
  rw [Role.writes, Role.worker, task]
  rfl

theorem idle_kept (task : role.task = .idle) : role.Kept platform service state := by
  rw [Role.Kept, task]
  trivial

/-- A thread ends, or has nothing of its own any more. -/
theorem Kept.idle (kept : Kept platform service state roles) :
    Kept platform service state (Function.update roles index ((roles index).does .idle)) := by
  refine kept.stay rfl (idle_kept rfl) ?_ ?_ nofun
  · intro id owned
    rw [idle_operation rfl] at owned
    cases owned
  · intro id owned
    rw [idle_writes rfl] at owned
    cases owned

/-- What only adds to the set of cancelled operations. -/
theorem Kept.noted (kept : Kept platform service state roles) (cancelled : List String) :
    Kept platform service { state with cancelled } roles where
  keyed := kept.keyed
  filed := kept.filed
  whole := kept.whole
  placed := kept.placed
  written := kept.written
  each index := (kept.each index).grow ⟨rfl, le_rfl, fun _ => id, fun _ _ => id⟩
    (fun _ _ => id) (fun _ _ => id) (fun _ _ => id)
  arrived := kept.arrived
  operations := kept.operations
  artifacts := kept.artifacts
  alone := kept.alone

theorem interruptRow_id (now : String) (row : RecoveryOperation) :
    (ServiceState.interruptRow now row).id = row.id := by
  unfold ServiceState.interruptRow
  split <;> rfl

theorem Role.Kept.opened (kept : role.Kept platform service state)
    (closed : state.serving = false) (after : ServiceState) (serving : after.serving = false) :
    role.Kept platform service after := by
  rcases kept.closed closed with idle | opening
  · exact idle_kept idle
  · rw [Role.Kept, opening]
    exact serving

/-- The interruption of the rows finds nobody at work. -/
theorem Kept.interrupted (kept : Kept platform service state roles)
    (task : (roles index).task = .opening) (now : String) :
    Kept platform service (state.interruptActive now) roles := by
  have closed : state.serving = false := by
    have mine := kept.each index
    rwa [Role.Kept, task] at mine
  refine { kept with keyed := ?_, placed := ?_, each := ?_ }
  · intro id row found
    rcases Option.map_eq_some_iff.mp found with ⟨old, known, rfl⟩
    rw [interruptRow_id]
    exact kept.keyed id old known
  · intro id row found
    rcases Option.map_eq_some_iff.mp found with ⟨old, known, _⟩
    exact kept.placed id old known
  · intro thread
    exact (kept.each thread).opened closed _ closed

/-- The service is there, and the thread that opened the store has ended. -/
theorem Kept.served (kept : Kept platform service state roles)
    (task : (roles index).task = .opening) :
    Kept platform service { state with serving := true }
      (Function.update roles index ((roles index).does .idle)) := by
  have closed : state.serving = false := by
    have mine := kept.each index
    rwa [Role.Kept, task] at mine
  have idle : ∀ thread, thread ≠ index → (roles thread).task = .idle := by
    intro thread different
    rcases (kept.each thread).closed closed with idle | opening
    · exact idle
    · exact absurd (kept.alone thread index opening task) different
  have everyone : ∀ thread,
      (Function.update roles index ((roles index).does .idle) thread).task = .idle := by
    intro thread
    by_cases same : thread = index
    · rw [same, Function.update_self]
      rfl
    · rw [Function.update_of_ne same]
      exact idle thread same
  refine
    { keyed := kept.keyed, filed := kept.filed, whole := kept.whole, placed := kept.placed,
      written := kept.written, each := fun thread => idle_kept (everyone thread),
      arrived := fun _ _ _ _ => rfl, operations := ?_, artifacts := ?_, alone := ?_ }
  · intro left right id owned
    rw [idle_operation (everyone left)] at owned
    cases owned
  · intro left right id owned
    rw [idle_writes (everyone left)] at owned
    cases owned
  · intro left right opening
    rw [everyone left] at opening
    cases opening

/-! ### Identifiers -/

theorem grows_draw (state : ServiceState) : Grows state { state with drawn := state.drawn + 1 } :=
  ⟨rfl, Nat.le_succ _, fun _ => id, fun _ _ => id⟩

theorem issued_draw (platform : Platform) (state : ServiceState) (start : String) :
    ServiceState.Issued platform { state with drawn := state.drawn + 1 } start
      (start ++ platform.uuid state.drawn) :=
  ⟨state.drawn, Nat.lt_succ_self _, rfl⟩

theorem StoreKept.draw (store : StoreKept platform state) :
    StoreKept platform { state with drawn := state.drawn + 1 } where
  keyed := store.keyed
  filed := store.filed
  whole := store.whole
  placed id row found := (store.placed id row found).mono (Nat.le_succ _)
  written id row found := (store.written id row found).mono (Nat.le_succ _)

theorem Role.Kept.draw (kept : role.Kept platform service state) :
    role.Kept platform service { state with drawn := state.drawn + 1 } :=
  kept.grow (grows_draw state) (fun _ _ => id) (fun _ _ => id) (fun _ _ => id)

/-- Nobody has the item of an identifier that is drawn now. -/
theorem Kept.unowned (kept : Kept platform service state roles) (thread : Nat) :
    (roles thread).operation ≠ some ("recovery-" ++ platform.uuid state.drawn) :=
  fun owned => not_issued platform state "recovery-"
    ((kept.each thread).issued kept.toStoreKept owned)

theorem Kept.unwritten (kept : Kept platform service state roles) (thread : Nat) :
    (roles thread).writes ≠ some ("backup-" ++ platform.uuid state.drawn) :=
  fun owned => not_issued platform state "backup-" ((kept.each thread).writable owned).issued

theorem Kept.drew (kept : Kept platform service state roles) {call : Call}
    (called : (roles index).call = some call) (outside : call.outside = true) :
    Kept platform service { state with drawn := state.drawn + 1 } (Function.update roles index
      ((roles index).does (.drew ("backup-" ++ platform.uuid state.drawn)))) := by
  refine kept.step kept.toStoreKept.draw rfl rfl (fun thread _ => (kept.each thread).draw)
    ?_ nofun ?_ nofun
  · refine ⟨kept.arrived index call called outside, issued_draw platform state "backup-", ?_⟩
    intro artifact found
    exact not_issued platform state "backup-" (kept.written _ _ found)
  · intro id owned thread also
    cases owned
    exact absurd also (kept.unwritten thread)

/-- A new operation gets its identifier. -/
theorem Kept.named (kept : Kept platform service state roles)
    (serving : state.serving = true) {document : RecoveryOperation} {worker : Worker}
    (fresh : Fresh (platform.uuid state.drawn) document)
    (same : worker.operationId = document.id)
    (writes : ∀ backupId, worker.writes = some backupId →
      (roles index).writes = some backupId) :
    Kept platform service { state with drawn := state.drawn + 1 }
      (Function.update roles index ((roles index).does (.placing document worker))) := by
  refine kept.step kept.toStoreKept.draw rfl rfl (fun thread _ => (kept.each thread).draw)
    ?_ ?_ ?_ nofun
  · refine ⟨serving, ?_, fresh.id ▸ issued_draw platform state "recovery-", same, ?_, ?_⟩
    · cases found : state.operations document.id with
      | none => exact rfl
      | some row =>
          have issued := kept.placed _ _ found
          rw [fresh.id] at issued
          exact absurd issued (not_issued platform state "recovery-")
    · rw [fresh.queued]
      rfl
    · intro backupId owned
      have writable := (kept.each index).writable (writes backupId owned)
      exact ⟨writable.issued.mono (Nat.le_succ _), writable.unfinished⟩
  · intro id owned thread also
    have named : id = document.id := by
      have known : some worker.operationId = some id := owned
      rw [← Option.some.inj known, same]
    rw [named, fresh.id] at also
    exact absurd also (kept.unowned thread)
  · intro id owned thread also
    exact kept.artifacts thread index id also (writes id owned)

/-! ### Rows -/

theorem putOperation_self (state : ServiceState) (document : RecoveryOperation) :
    (state.putOperation document).operations document.id = some document :=
  Function.update_self _ _ _

theorem putOperation_of_ne {document : RecoveryOperation} {id : String}
    (different : id ≠ document.id) :
    (state.putOperation document).operations id = state.operations id :=
  Function.update_of_ne different _ _

theorem grows_putOperation (state : ServiceState) (document : RecoveryOperation) :
    Grows state (state.putOperation document) := by
  refine ⟨rfl, le_rfl, ?_, fun _ _ => id⟩
  intro id known
  by_cases same : id = document.id
  · rw [same, putOperation_self]
    rfl
  · rw [putOperation_of_ne same]
    exact known

theorem StoreKept.putOperation (store : StoreKept platform state)
    {document : RecoveryOperation} (issued : state.Issued platform "recovery-" document.id) :
    StoreKept platform (state.putOperation document) where
  keyed id row found := by
    by_cases same : id = document.id
    · rw [same, putOperation_self] at found
      rw [same, Option.some.inj found]
    · rw [putOperation_of_ne same] at found
      exact store.keyed id row found
  filed := store.filed
  whole := store.whole
  placed id row found := by
    by_cases same : id = document.id
    · exact same ▸ issued
    · rw [putOperation_of_ne same] at found
      exact store.placed id row found
  written := store.written

theorem active_putOperation {document : RecoveryOperation}
    (active : document.state.terminal = false) {id : String} (before : state.Active id) :
    (state.putOperation document).Active id := by
  by_cases same : id = document.id
  · exact ⟨document, same ▸ putOperation_self state document, active⟩
  · rcases before with ⟨row, found, known⟩
    exact ⟨row, (putOperation_of_ne same).trans found, known⟩

/-- A row of another thread is written over a stored one, by an active document. -/
theorem Role.Kept.over (kept : role.Kept platform service state)
    {document : RecoveryOperation} (stored : (state.operations document.id).isSome = true)
    (active : document.state.terminal = false) :
    role.Kept platform service (state.putOperation document) := by
  refine kept.grow (grows_putOperation state document)
    (fun id _ before => active_putOperation active before) ?_ (fun _ _ => id)
  intro id _ missing
  have different : id ≠ document.id := by
    rintro rfl
    rw [missing] at stored
    cases stored
  exact (putOperation_of_ne different).trans missing

/-- A row that the thread does not own is written. -/
theorem Role.Kept.apart (kept : role.Kept platform service state)
    {document : RecoveryOperation} (apart : role.operation ≠ some document.id) :
    role.Kept platform service (state.putOperation document) := by
  have different : ∀ id, role.operation = some id → id ≠ document.id := by
    rintro id owned rfl
    exact apart owned
  refine kept.grow (grows_putOperation state document) ?_ ?_ (fun _ _ => id)
  · rintro id owned ⟨row, found, active⟩
    exact ⟨row, (putOperation_of_ne (different id owned)).trans found, active⟩
  · intro id owned missing
    exact (putOperation_of_ne (different id owned)).trans missing

theorem Kept.others (kept : Kept platform service state roles) {id : String}
    (owned : (roles index).operation = some id) {thread : Nat} (different : thread ≠ index) :
    (roles thread).operation ≠ some id :=
  fun also => different (kept.operations thread index id also owned)

theorem Kept.launched (kept : Kept platform service state roles) {document : RecoveryOperation}
    {worker : Worker} (task : (roles index).task = .placing document worker) :
    Kept platform service (state.putOperation document)
      (Function.update roles index ((roles index).does (.starting worker))) := by
  have mine := kept.each index
  rw [Role.Kept, task] at mine
  rcases mine with ⟨serving, missing, issued, same, active, writable⟩
  have owned : (roles index).operation = some document.id := by
    simp only [Role.operation, Role.worker, task, Option.map_some, same]
  have writes : ((roles index).does (.starting worker)).writes = (roles index).writes := by
    simp only [Role.writes, Role.worker, task, does_task]
  refine kept.step (kept.toStoreKept.putOperation issued) rfl rfl
    (fun thread different => (kept.each thread).apart (kept.others owned different)) ?_ ?_ ?_ nofun
  · refine ⟨serving, ?_, ?_⟩
    · exact ⟨document, same ▸ putOperation_self state document, active⟩
    · intro backupId writing
      have before := writable backupId (writes ▸ writing)
      exact ⟨before.issued, before.unfinished⟩
  · intro id starting thread also
    have known : (roles index).operation = some id := by
      have named : some worker.operationId = some id := starting
      rw [owned, ← named, same]
    exact kept.operations thread index id also known
  · intro id writing thread also
    exact kept.artifacts thread index id also (writes ▸ writing)

theorem Kept.marked (kept : Kept platform service state roles)
    {document written : RecoveryOperation} (task : (roles index).task = .marking document)
    (same : written.id = document.id) (active : written.state = document.state) :
    Kept platform service (state.putOperation written)
      (Function.update roles index ((roles index).does .idle)) := by
  have mine := kept.each index
  rw [Role.Kept, task] at mine
  rcases mine with ⟨serving, before, stored⟩
  rw [← same] at stored
  have issued : state.Issued platform "recovery-" written.id := by
    rcases Option.isSome_iff_exists.mp stored with ⟨row, found⟩
    exact kept.toStoreKept.placed _ row found
  refine kept.step (kept.toStoreKept.putOperation issued) rfl rfl
    (fun thread _ => (kept.each thread).over stored (by rw [active]; exact before))
    (idle_kept rfl) ?_ ?_ nofun
  · intro id owned
    rw [idle_operation rfl] at owned
    cases owned
  · intro id owned
    rw [idle_writes rfl] at owned
    cases owned

/-- The row that a worker saves is its own. -/
theorem Kept.works (kept : Kept platform service state roles) {held : RecoveryOperation}
    {stage : Stage} (task : (roles index).task = .working held stage) :
    (roles index).operation = some held.id ∧ state.Active held.id := by
  have mine := kept.each index
  rw [Role.Kept, task] at mine
  rcases mine with ⟨_, worker, call, same, active, _⟩
  rw [same]
  exact ⟨operation_working call task, active⟩

theorem Kept.saved (kept : Kept platform service state roles)
    {held document : RecoveryOperation} {stage : Stage}
    (task : (roles index).task = .working held stage) (continues : Continues held document)
    (active : document.state.terminal = false) :
    Kept platform service (state.putOperation document)
      (Function.update roles index (roles index)) := by
  rcases kept.works task with ⟨owned, before⟩
  rw [← continues.id] at owned before
  have stored : (state.operations document.id).isSome = true := by
    rcases before with ⟨row, found, _⟩
    rw [found]
    rfl
  have issued := (kept.each index).issued kept.toStoreKept owned
  refine kept.step (kept.toStoreKept.putOperation issued) rfl rfl
    (fun thread different => (kept.each thread).apart (kept.others owned different))
    ((kept.each index).over stored active) ?_ ?_ ?_
  · exact fun id mine thread also => kept.operations thread index id also mine
  · exact fun id mine thread also => kept.artifacts thread index id also mine
  · rw [task]
    exact nofun

theorem Kept.ended (kept : Kept platform service state roles)
    {held document : RecoveryOperation} {stage : Stage}
    (task : (roles index).task = .working held stage) (continues : Continues held document) :
    Kept platform service (state.putOperation document)
      (Function.update roles index ((roles index).does .idle)) := by
  rcases kept.works task with ⟨owned, _⟩
  rw [← continues.id] at owned
  have issued := (kept.each index).issued kept.toStoreKept owned
  refine kept.step (kept.toStoreKept.putOperation issued) rfl rfl
    (fun thread different => (kept.each thread).apart (kept.others owned different))
    (idle_kept rfl) ?_ ?_ nofun
  · intro id mine
    rw [idle_operation rfl] at mine
    cases mine
  · intro id mine
    rw [idle_writes rfl] at mine
    cases mine

/-! ### Workers and artifacts -/

theorem Kept.took (kept : Kept platform service state roles) {worker : Worker}
    {document : RecoveryOperation} (call : (roles index).call = some (.worker worker))
    (task : (roles index).task = .awaiting)
    (found : state.operations worker.operationId = some document) :
    Kept platform service state
      (Function.update roles index ((roles index).does (.working document .entered))) := by
  have mine := kept.each index
  rw [Role.Kept, task] at mine
  rcases mine with ⟨serving, other, known, active, writable⟩
  cases Option.some.inj (call.symm.trans known)
  have operation : ((roles index).does (.working document .entered)).operation =
      (roles index).operation := by
    simp only [Role.operation, Role.worker, task, does_task, does_call]
  have writes : ((roles index).does (.working document .entered)).writes =
      (roles index).writes := by
    simp only [Role.writes, Role.worker, task, does_task, does_call]
  refine kept.stay rfl ?_ (fun id owned => operation ▸ owned) (fun id owned => writes ▸ owned) nofun
  refine ⟨serving, worker, call, kept.keyed _ _ found, active, trivial, ?_⟩
  exact fun backupId owned => writable backupId (writes ▸ owned)

/-- A restore that has seen a complete artifact of the profile. -/
theorem Kept.cleared (kept : Kept platform service state roles) {held : RecoveryOperation}
    {operationId backupId : String} {artifact : Artifact}
    (call : (roles index).call = some (.worker (.restore operationId backupId)))
    (task : (roles index).task = .working held .entered)
    (found : state.artifacts backupId = some (true, artifact))
    (profile : artifact.profileId = service.profileId) :
    Kept platform service state
      (Function.update roles index ((roles index).does (.working held .cleared))) := by
  have mine := kept.each index
  rw [Role.Kept, task] at mine
  rcases mine with ⟨serving, other, known, same, active, _, _⟩
  cases Option.some.inj (call.symm.trans known)
  have operation : ((roles index).does (.working held .cleared)).operation =
      (roles index).operation := by
    simp only [Role.operation, Role.worker, task, does_task, does_call]
  have writes : ((roles index).does (.working held .cleared)).writes = none := by
    simp only [Role.writes, Role.worker, does_task, does_call, call, Option.bind_some,
      Worker.writes]
  refine kept.stay rfl ?_ (fun id owned => operation ▸ owned) ?_ nofun
  · refine ⟨serving, _, call, same, active, ⟨artifact, found, profile⟩, ?_⟩
    intro id owned
    rw [writes] at owned
    cases owned
  · intro id owned
    rw [writes] at owned
    cases owned

theorem putArtifact_self (state : ServiceState) (document : Artifact) (complete : Bool) :
    (state.putArtifact document complete).artifacts document.id = some (complete, document) :=
  Function.update_self _ _ _

theorem putArtifact_of_ne {document : Artifact} {complete : Bool} {backupId : String}
    (different : backupId ≠ document.id) :
    (state.putArtifact document complete).artifacts backupId = state.artifacts backupId :=
  Function.update_of_ne different _ _

/-- An artifact that is not complete yet is written again. -/
theorem StoreKept.putArtifact (store : StoreKept platform state) {document : Artifact}
    {complete : Bool} (issued : state.Issued platform "backup-" document.id)
    (whole : complete = true → document.Whole platform.sha256) :
    StoreKept platform (state.putArtifact document complete) where
  keyed := store.keyed
  filed backupId other artifact found := by
    by_cases same : backupId = document.id
    · rw [same, putArtifact_self] at found
      cases found
      exact same.symm
    · rw [putArtifact_of_ne same] at found
      exact store.filed backupId other artifact found
  whole backupId artifact found := by
    by_cases same : backupId = document.id
    · rw [same, putArtifact_self] at found
      cases found
      exact whole rfl
    · rw [putArtifact_of_ne same] at found
      exact store.whole backupId artifact found
  placed := store.placed
  written backupId row found := by
    by_cases same : backupId = document.id
    · exact same ▸ issued
    · rw [putArtifact_of_ne same] at found
      exact store.written backupId row found

theorem grows_putArtifact {document : Artifact} (complete : Bool)
    (unfinished : state.Unfinished document.id) :
    Grows state (state.putArtifact document complete) := by
  refine ⟨rfl, le_rfl, fun _ => id, ?_⟩
  intro backupId artifact found
  have different : backupId ≠ document.id := by
    rintro rfl
    exact unfinished artifact found
  exact (putArtifact_of_ne different).trans found

theorem Role.Kept.beside (kept : role.Kept platform service state) {document : Artifact}
    (complete : Bool) (unfinished : state.Unfinished document.id)
    (apart : role.writes ≠ some document.id) :
    role.Kept platform service (state.putArtifact document complete) := by
  refine kept.grow (grows_putArtifact complete unfinished) (fun _ _ => id) (fun _ _ => id) ?_
  intro backupId owned before artifact found
  have different : backupId ≠ document.id := by
    rintro rfl
    exact apart owned
  rw [putArtifact_of_ne different] at found
  exact before artifact found

/-- A backup worker writes its artifact, for the first or for the last time. -/
theorem Kept.wrote (kept : Kept platform service state roles) {held : RecoveryOperation}
    {operationId : String} {document : Artifact} {stage later : Stage} {complete : Bool}
    (call : (roles index).call = some (.worker (.backup operationId document.id)))
    (task : (roles index).task = .working held stage) (before : stage ≠ .published)
    (whole : complete = true → document.Whole platform.sha256)
    (onward : later = .published ∨ later = .making ∧ complete = false) :
    Kept platform service (state.putArtifact document complete)
      (Function.update roles index ((roles index).does (.working held later))) := by
  have writes : (roles index).writes = some document.id := by
    rw [Role.writes, Role.worker, task, call]
    cases stage with
    | published => exact absurd rfl before
    | _ => rfl
  have writable := (kept.each index).writable writes
  have mine := kept.each index
  rw [Role.Kept, task] at mine
  rcases mine with ⟨serving, other, known, same, active, _, _⟩
  cases Option.some.inj (call.symm.trans known)
  have operation : ((roles index).does (.working held later)).operation =
      (roles index).operation := by
    simp only [Role.operation, Role.worker, task, does_task, does_call]
  have writing : ∀ id, ((roles index).does (.working held later)).writes = some id →
      id = document.id ∧ complete = false := by
    intro id owned
    rcases onward with rfl | ⟨rfl, incomplete⟩
    · cases owned
    · simp only [Role.writes, Role.worker, does_task, does_call, call, Option.bind_some,
        Worker.writes, Option.some.injEq] at owned
      exact ⟨owned.symm, incomplete⟩
  refine kept.step (kept.toStoreKept.putArtifact writable.issued whole) rfl rfl ?_ ?_ ?_ ?_ nofun
  · intro thread different
    exact (kept.each thread).beside complete writable.unfinished
      (fun also => different (kept.artifacts thread index _ also writes))
  · refine ⟨serving, _, call, same, active, ?_, ?_⟩
    · rcases onward with rfl | ⟨rfl, _⟩ <;> trivial
    · intro id owned
      rcases writing id owned with ⟨rfl, incomplete⟩
      refine ⟨writable.issued, ?_⟩
      intro artifact found
      rw [putArtifact_self, incomplete] at found
      cases found
  · exact fun id owned thread also =>
      kept.operations thread index id also (operation ▸ owned)
  · intro id owned thread also
    rw [(writing id owned).1] at also
    exact kept.artifacts thread index _ also writes

/-- The service starts the worker of an operation that it has stored. -/
theorem Kept.spawned (kept : Kept platform service state roles) {worker : Worker}
    (task : (roles index).task = .starting worker) (thread : Nat) :
    Kept platform service state
      (Function.update (Function.update roles index ((roles index).does .idle)) thread
        (enter (.worker worker))) := by
  have mine := kept.each index
  rw [Role.Kept, task] at mine
  rcases mine with ⟨serving, active, writable⟩
  have operation : (enter (.worker worker)).operation = (roles index).operation := by
    simp only [Role.operation, Role.worker, task, enter, startingTask]
  have writes : (enter (.worker worker)).writes = (roles index).writes := by
    simp only [Role.writes, Role.worker, task, enter, startingTask]
  have idle : Kept platform service state
      (Function.update roles index ((roles index).does .idle)) := kept.idle
  refine
    { toStoreKept := kept.toStoreKept, each := ?_, arrived := ?_, operations := ?_,
      artifacts := ?_, alone := ?_ }
  · intro other
    by_cases same : other = thread
    · rw [same, Function.update_self]
      exact ⟨serving, worker, rfl, active, fun backupId owned => writable backupId (writes ▸ owned)⟩
    · rw [Function.update_of_ne same]
      exact idle.each other
  · exact fun _ _ _ _ => serving
  · refine FortifyLab.Apart.handed kept.operations (idle_operation rfl) ?_ thread
    exact fun id owned => operation ▸ owned
  · refine FortifyLab.Apart.handed kept.artifacts (idle_writes rfl) ?_ thread
    exact fun id owned => writes ▸ owned
  · have elsewhere : ∀ other, (Function.update (Function.update roles index
        ((roles index).does .idle)) thread (enter (.worker worker)) other).task = .opening →
        False := by
      intro other opening
      by_cases same : other = thread
      · rw [same, Function.update_self] at opening
        cases opening
      · rw [Function.update_of_ne same] at opening
        have closed := idle.each other
        rw [Role.Kept, opening] at closed
        exact absurd (serving.symm.trans closed) (by decide)
    exact fun left _ opening _ => (elsewhere left opening).elim

/-! ## One action, and every run -/

/-- A move keeps the invariant; the worker that a call starts comes later. -/
theorem Kept.moves (kept : Kept platform service state roles) {request : RecoveryRequest}
    {offer : Offer} {answer : RecoveryAnswer request}
    (moved : Moves (platform.settings service) (roles index) request answer other)
    (replied : reply platform state offer request = answer) :
    Kept platform service (effect state request) (Function.update roles index other) := by
  have same : Kept platform service state (Function.update roles index (roles index)) := by
    rw [Function.update_eq_self]
    exact kept
  cases moved with
  | dropped raised => exact kept.idle
  | noted operationId => exact same.noted _
  | interrupted now task =>
      rw [Function.update_eq_self]
      exact kept.interrupted task now
  | served task => exact kept.served task
  | drew uuid called outside task =>
      subst replied
      exact kept.drew called outside
  | namedBackup task fresh =>
      subst replied
      have mine := kept.each index
      rw [Role.Kept, task] at mine
      refine kept.named mine.1 fresh rfl ?_
      intro backupId owned
      cases owned
      rw [Role.writes, task]
  | namedRestore called outside task fresh =>
      subst replied
      exact kept.named (kept.arrived index _ called outside) fresh rfl nofun
  | placed called outside task => exact kept.launched task
  | started task => exact kept.idle
  | considered call task active =>
      have stored : state.operations _ = some _ := replied
      refine kept.stay rfl ?_ nofun nofun nofun
      refine ⟨kept.arrived index _ call rfl, active, ?_⟩
      rw [kept.keyed _ _ stored, stored]
      rfl
  | marked now call task => exact kept.marked task rfl rfl
  | missed operationId task => exact kept.idle
  | took call task => exact kept.took call task replied
  | began call task => exact kept.wrote call task nofun nofun (.inr ⟨rfl, rfl⟩)
  | published call task whole => exact kept.wrote call task nofun (fun _ => whole) (.inl rfl)
  | cleared call task profile => exact kept.cleared call task replied profile
  | saved task continues active => exact kept.saved task continues active
  | ended task continues terminal => exact kept.ended task continues
  | _ => exact same

theorem outside_idle {call : Call} (outside : call.outside = true) : (enter call).task = .idle := by
  cases call with
  | openStore => cases outside
  | worker worker => cases outside
  | _ => rfl

/-- A call arrives while the service is there. -/
theorem Kept.admitted (kept : Kept platform service state roles) {call : Call}
    (admits : admits state call = true) (thread : Nat) :
    Kept platform service state (Function.update roles thread (enter call)) := by
  rcases Bool.and_eq_true_iff.mp admits with ⟨outside, serving⟩
  have idle := outside_idle outside
  refine
    { toStoreKept := kept.toStoreKept, each := ?_, arrived := fun _ _ _ _ => serving,
      operations := ?_, artifacts := ?_, alone := ?_ }
  · intro other
    by_cases same : other = thread
    · rw [same, Function.update_self]
      exact idle_kept idle
    · rw [Function.update_of_ne same]
      exact kept.each other
  · refine kept.operations.update (fun id owned => ?_)
    rw [idle_operation idle] at owned
    cases owned
  · refine kept.artifacts.update (fun id owned => ?_)
    rw [idle_writes idle] at owned
    cases owned
  · intro left right first second
    have elsewhere : ∀ other, (Function.update roles thread (enter call) other).task = .opening →
        (roles other).task = .opening := by
      intro other opening
      by_cases same : other = thread
      · rw [same, Function.update_self, idle] at opening
        cases opening
      · rwa [Function.update_of_ne same] at opening
    exact kept.alone left right (elsewhere left first) (elsewhere right second)

/-- A store is opened, by one thread. -/
theorem StoreKept.opened (store : StoreKept platform state) (closed : state.serving = false)
    (thread : Nat) :
    Kept platform service state (Function.update (fun _ => nobody) thread (enter .openStore)) := by
  have only : ∀ other, (Function.update (fun _ => nobody) thread (enter .openStore) other) =
      nobody ∨ other = thread ∧
        (Function.update (fun _ => nobody) thread (enter .openStore) other) =
          enter .openStore := by
    intro other
    by_cases same : other = thread
    · subst same
      exact .inr ⟨rfl, Function.update_self _ _ _⟩
    · exact .inl (Function.update_of_ne same _ _)
  refine
    { toStoreKept := store, each := ?_, arrived := ?_, operations := ?_, artifacts := ?_,
      alone := ?_ }
  · intro other
    rcases only other with role | ⟨_, role⟩ <;> rw [role]
    · trivial
    · exact closed
  · intro other call known outside
    rcases only other with role | ⟨_, role⟩ <;> rw [role] at known <;> cases known
    cases outside
  · intro left right id owned
    rcases only left with role | ⟨_, role⟩ <;> rw [role] at owned <;> cases owned
  · intro left right id owned
    rcases only left with role | ⟨_, role⟩ <;> rw [role] at owned <;> cases owned
  · intro left right first second
    rcases only left with role | ⟨rfl, _⟩
    · rw [role] at first
      cases first
    · rcases only right with role | ⟨rfl, _⟩
      · rw [role] at second
        cases second
      · rfl

theorem StoreKept.stop (store : StoreKept platform state) : StoreKept platform state.stopped :=
  ⟨store.keyed, store.filed, store.whole, store.placed, store.written⟩

theorem spawned_started {request : RecoveryRequest} {call : Call}
    (spawns : spawned request = some call) :
    ∃ worker, request = .startWorker worker ∧ call = .worker worker := by
  cases request with
  | startWorker worker =>
      cases spawns
      exact ⟨worker, rfl, rfl⟩
  | _ => cases spawns

/-- Every action keeps the invariant. -/
theorem Kept.evolves {pool next : ServicePool} {roles later : Nat → Role}
    {action : ServiceAction} {entries : List (Entry Call RecoveryRequest RecoveryAnswer)}
    (kept : Kept platform service pool.shared roles)
    (evolves : (recoveryProtocol platform service).Evolves pool roles action entries next later) :
    Kept platform service next.shared later := by
  cases evolves with
  | advanced found replied moved alone => exact kept.moves moved (Option.some.inj replied)
  | @spawned index offer label request rest answer after call found replied moved spawns =>
      rcases spawned_started spawns with ⟨worker, rfl, rfl⟩
      cases moved with
      | started task => exact kept.spawned task _
  | admitted admits => exact kept.admitted admits _
  | restarted => exact kept.toStoreKept.stop.opened rfl _

variable {allowed : ServicePool → ServiceAction → Prop}

abbrev ServiceLog := List (Entry Call RecoveryRequest RecoveryAnswer)

/-- More that every action keeps, given that the store and the threads are kept. -/
theorem reachable_with (store : StoreKept platform service.store)
    (closed : service.store.serving = false)
    (holds : ServiceLog → ServicePool → (Nat → Role) → Prop)
    (initial : holds [] (machine platform service).initial
      (recoveryProtocol platform service).initialRoles)
    (step : ∀ log pool roles action entries next later, allowed pool action →
      (recoveryProtocol platform service).Annotated pool roles →
      Kept platform service pool.shared roles → holds log pool roles →
      (recoveryProtocol platform service).Evolves pool roles action entries next later →
      holds (log ++ entries) next later)
    {log : ServiceLog} {pool : ServicePool}
    (reached : (machine platform service).Reachable allowed log pool) :
    ∃ roles, (recoveryProtocol platform service).Annotated pool roles ∧
      Kept platform service pool.shared roles ∧ holds log pool roles := by
  let invariant (log : ServiceLog) (pool : ServicePool) (roles : Nat → Role) : Prop :=
    Kept platform service pool.shared roles ∧ holds log pool roles
  have always : ∃ roles, (recoveryProtocol platform service).Annotated pool roles ∧
      invariant log pool roles := by
    refine Protocol.reachable_invariant ⟨store.opened closed 0, initial⟩ ?_ reached
    intro log pool roles action entries next later meets annotated known evolves
    exact ⟨known.1.evolves evolves,
      step log pool roles action entries next later meets annotated known.1 known.2 evolves⟩
  exact always

theorem reachable_kept_of (store : StoreKept platform service.store)
    (closed : service.store.serving = false) {log : ServiceLog} {pool : ServicePool}
    (reached : (machine platform service).Reachable allowed log pool) :
    ∃ roles, (recoveryProtocol platform service).Annotated pool roles ∧
      Kept platform service pool.shared roles := by
  rcases reachable_with store closed (fun _ _ _ => True) trivial
    (fun _ _ _ _ _ _ _ _ _ _ _ _ => trivial) reached with ⟨roles, annotated, kept, _⟩
  exact ⟨roles, annotated, kept⟩

/-- Every store that a service is opened over is kept. -/
theorem leaves_kept {store : ServiceState} (leaves : platform.Leaves allowed store) :
    StoreKept platform store ∧ store.serving = false := by
  induction leaves with
  | empty =>
      refine ⟨?_, rfl⟩
      constructor <;> simp [ServiceState.empty]
  | closed opened reached ih =>
      rcases reachable_kept_of ih.1 ih.2 reached with ⟨roles, _, kept⟩
      exact ⟨kept.toStoreKept.stop, rfl⟩

theorem reachable_kept (opened : platform.Leaves allowed service.store) {log : ServiceLog}
    {pool : ServicePool} (reached : (machine platform service).Reachable allowed log pool) :
    ∃ roles, (recoveryProtocol platform service).Annotated pool roles ∧
      Kept platform service pool.shared roles :=
  reachable_kept_of (leaves_kept opened).1 (leaves_kept opened).2 reached

end FortifyLab.Recovery
