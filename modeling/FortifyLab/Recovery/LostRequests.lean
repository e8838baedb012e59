import FortifyLab.Recovery.Kept

/-! Cancellation and the worker write the same row from their own copies. Nothing is lost
as long as no cancellation is written into the work of another copy. -/

namespace FortifyLab.Recovery

open Program

variable {platform : Platform} {service : Service} {state after : ServiceState}
  {roles : Nat → Role} {role other : Role} {index : Nat}

/-- What a later version of a row keeps. -/
structure RowKept (row later : RecoveryOperation) : Prop where
  terminal : row.state.terminal = true → later.state.terminal = true
  requested : row.cancellationRequested = true → later.cancellationRequested = true

/-- No update of a row is lost. -/
def NoUpdateLost (state later : ServiceState) : Prop :=
  ∀ id row, state.operations id = some row → ∃ version, later.operations id = some version ∧
    RowKept row version

/-! ## When a cancellation may be written -/

/-- The program reads the row of an operation next. -/
def readsRow : RecoveryProgram Outcome → Bool
  | .ask (.readOperation _) _ => true
  | .ask .statement next =>
      match next (.ok () : Except Raised Unit) with
      | .ask (.readOperation _) _ => true
      | _ => false
  | _ => false

def Call.worksOn (operationId : String) : Call → Bool
  | .worker own => decide (own.operationId = operationId)
  | _ => false

/-- A worker of the operation that has read its row, and has not ended. -/
def holdsCopy (operationId : String)
    (thread : Thread Call RecoveryRequest RecoveryAnswer Outcome) : Bool :=
  thread.label.worksOn operationId && thread.program.asks.isSome && !readsRow thread.program

/-- The row has not ended, and it was cancelled before or no worker holds a copy of it. -/
def cancelsInTime (pool : ServicePool) (operationId : String) : Bool :=
  match pool.shared.operations operationId with
  | none => true
  | some row => !row.state.terminal &&
      (row.cancellationRequested || !pool.threads.any (holdsCopy operationId))

/-- The action is no write of a cancellation that comes between the worker's read of the
row and its last write, or after it. -/
def undisturbed (pool : ServicePool) : ServiceAction → Bool
  | .advance index _ =>
      match pool.threads[index]? with
      | some ⟨.cancel _, .ask (.putOperation document) _⟩ => cancelsInTime pool document.id
      | _ => true
  | _ => true

def Undisturbed (pool : ServicePool) (action : ServiceAction) : Prop :=
  undisturbed pool action = true

/-! ## Copies -/

/-- The copy that a thread holds. -/
def Task.copy : Task → Option RecoveryOperation
  | .working held _ => some held
  | _ => none

theorem copy_working {task : Task} {held : RecoveryOperation} (copy : task.copy = some held) :
    ∃ stage, task = .working held stage := by
  cases task with
  | working other stage =>
      cases copy
      exact ⟨stage, rfl⟩
  | _ => cases copy

/-- A worker's copy has every cancellation that the row has. -/
def Current (state : ServiceState) (roles : Nat → Role) : Prop :=
  ∀ index held row, (roles index).task.copy = some held →
    state.operations held.id = some row → row.cancellationRequested = true →
    held.cancellationRequested = true

theorem move_readOperation {settings : Settings} {operationId : String}
    {row : Option RecoveryOperation}
    (moved : Moves settings role (.readOperation operationId) row other) :
    role.task = .idle ∨ role.task = .awaiting := by
  cases moved with
  | read _ _ task => exact .inl task
  | considered _ task _ => exact .inl task
  | missed _ task => exact .inr task
  | took _ task => exact .inr task

/-- A thread that reads a row next has no copy of one. -/
theorem not_readsRow {settings : Settings} {program : RecoveryProgram Outcome}
    (follows : Follows (Moves settings) finalRole role program) {held : RecoveryOperation}
    {stage : Stage} (task : role.task = .working held stage) : readsRow program = false := by
  have never : ∀ (operationId : String)
      (next : Option RecoveryOperation → RecoveryProgram Outcome),
      ¬ Follows (Moves settings) finalRole role (.ask (.readOperation operationId) next) := by
    intro operationId next reads
    rcases reads (none : Option RecoveryOperation) with ⟨_, moved, _⟩
    rcases move_readOperation moved with impossible | impossible <;>
      exact Task.noConfusion (task.symm.trans impossible)
  unfold readsRow
  split
  · next operationId next => exact absurd follows (never operationId next)
  · next next =>
    split
    · next operationId rest known =>
      rcases follows (.ok () : Except Raised Unit) with ⟨after, moved, onward⟩
      cases moved
      have reads : Follows (Moves settings) finalRole role
          (.ask (.readOperation operationId) rest) := known ▸ onward
      exact absurd reads (never operationId rest)
    · rfl
  · rfl

/-- A worker with a copy of its row has read it, and has not ended. -/
theorem holdsCopy_of_working {pool : ServicePool}
    (annotated : (recoveryProtocol platform service).Annotated pool roles)
    (kept : Kept platform service pool.shared roles) {held : RecoveryOperation} {stage : Stage}
    (task : (roles index).task = .working held stage) :
    pool.threads.any (holdsCopy held.id) = true := by
  have mine := kept.each index
  rw [Role.Kept, task] at mine
  rcases mine with ⟨_, worker, call, same, _⟩
  cases found : pool.threads[index]? with
  | none =>
      have absent : roles index = nobody :=
        annotated.absent index (List.getElem?_eq_none_iff.mp found)
      rw [absent] at task
      cases task
  | some thread =>
      rcases thread with ⟨label, program⟩
      have follows : Follows (Moves (platform.settings service)) finalRole (roles index)
        program := annotated.follows index _ found
      have called : (roles index).call = none ∨ (roles index).call = some label :=
        annotated.called index _ found
      have known : label = .worker worker := by
        rw [call] at called
        rcases called with impossible | known
        · cases impossible
        · exact (Option.some.inj known).symm
      have works : label.worksOn held.id = true := by
        rw [known, same]
        exact decide_eq_true (Eq.refl worker.operationId)
      have unfinished : program.asks.isSome = true := by
        cases program with
        | done result =>
            have final : (roles index).task = .idle := follows
            exact Task.noConfusion (task.symm.trans final)
        | ask request next => rfl
      refine List.any_eq_true.mpr ⟨⟨label, program⟩, List.mem_of_getElem? found, ?_⟩
      rw [holdsCopy, works, unfinished, not_readsRow follows task]
      rfl

/-! ## What a move does to the rows -/

theorem rowKept_refl (row : RecoveryOperation) : RowKept row row := ⟨id, id⟩

theorem RowKept.trans {first second third : RecoveryOperation} (early : RowKept first second)
    (late : RowKept second third) : RowKept first third :=
  ⟨fun terminal => late.terminal (early.terminal terminal),
    fun requested => late.requested (early.requested requested)⟩

theorem NoUpdateLost.trans {first second third : ServiceState} (early : NoUpdateLost first second)
    (late : NoUpdateLost second third) : NoUpdateLost first third := by
  intro id row found
  rcases early id row found with ⟨version, stored, kept⟩
  rcases late id version stored with ⟨final, last, also⟩
  exact ⟨final, last, kept.trans also⟩

theorem noUpdateLost_of_operations (same : after.operations = state.operations) :
    NoUpdateLost state after := by
  intro id row found
  exact ⟨row, by rw [same]; exact found, rowKept_refl row⟩

/-- A row is written over by a version that keeps it. -/
theorem noUpdateLost_put {document : RecoveryOperation}
    (kept : ∀ row, state.operations document.id = some row → RowKept row document) :
    NoUpdateLost state (state.putOperation document) := by
  intro id row found
  by_cases same : id = document.id
  · subst same
    exact ⟨document, putOperation_self state document, kept row found⟩
  · exact ⟨row, (putOperation_of_ne same).trans found, rowKept_refl row⟩

theorem noUpdateLost_interrupt (state : ServiceState) (now : String) :
    NoUpdateLost state (state.interruptActive now) := by
  intro id row found
  refine ⟨ServiceState.interruptRow now row, congrArg (Option.map _) found, ?_⟩
  unfold ServiceState.interruptRow
  split
  · exact rowKept_refl row
  · exact ⟨fun _ => rfl, fun requested => requested⟩

/-- What a worker saves keeps the row: the copy is current, and the row has not ended. -/
theorem Kept.save_keeps (kept : Kept platform service state roles)
    (current : Current state roles) {held document : RecoveryOperation} {stage : Stage}
    (task : (roles index).task = .working held stage) (continues : Continues held document) :
    NoUpdateLost state (state.putOperation document) := by
  apply noUpdateLost_put
  intro row found
  rw [continues.id] at found
  rcases (kept.works task).2 with ⟨stored, known, active⟩
  cases Option.some.inj (known.symm.trans found)
  refine ⟨fun terminal => ?_, fun requested => ?_⟩
  · rw [active] at terminal
    cases terminal
  · rw [continues.requested]
    exact current index held _ (by rw [task]; rfl) found requested

/-! ## Which copies stay current -/

/-- Nobody has a copy when the store is opened. -/
theorem Kept.current_interrupted (kept : Kept platform service state roles)
    (task : (roles index).task = .opening) (now : String) :
    Current (state.interruptActive now) roles := by
  intro thread held row holds
  have closed : state.serving = false := by
    have mine := kept.each index
    rwa [Role.Kept, task] at mine
  rcases (kept.each thread).closed closed with known | known <;>
  · rw [known] at holds
    cases holds

theorem Current.step (others : ∀ thread, thread ≠ index → ∀ held row,
      (roles thread).task.copy = some held → after.operations held.id = some row →
      row.cancellationRequested = true → held.cancellationRequested = true)
    (mine : ∀ held row, other.task.copy = some held → after.operations held.id = some row →
      row.cancellationRequested = true → held.cancellationRequested = true) :
    Current after (Function.update roles index other) := by
  intro thread held row
  by_cases same : thread = index
  · rw [same, Function.update_self]
    exact mine held row
  · rw [Function.update_of_ne same]
    exact others thread same held row

/-- The rows are as before, and so is the copy of the thread, if it has one. -/
theorem Current.stay (current : Current state roles)
    (same : after.operations = state.operations)
    (copy : ∀ held, other.task.copy = some held → (roles index).task.copy = some held) :
    Current after (Function.update roles index other) := by
  apply Current.step
  · intro thread _ held row holds found
    rw [same] at found
    exact current thread held row holds found
  · intro held row holds found
    rw [same] at found
    exact current index held row (copy held holds) found

/-- The thread writes its own row. -/
theorem Current.put (current : Current state roles) (kept : Kept platform service state roles)
    {document : RecoveryOperation} (owned : (roles index).operation = some document.id)
    (mine : ∀ held, other.task.copy = some held →
      held.cancellationRequested = document.cancellationRequested ∧ held.id = document.id) :
    Current (state.putOperation document) (Function.update roles index other) := by
  apply Current.step
  · intro thread different held row holds found
    have apart : held.id ≠ document.id := by
      intro same
      rcases copy_working holds with ⟨stage, task⟩
      exact kept.others owned different (same ▸ (kept.works task).1)
    rw [putOperation_of_ne apart] at found
    exact current thread held row holds found
  · intro held row holds found requested
    rcases mine held holds with ⟨flag, same⟩
    rw [same, putOperation_self] at found
    rw [flag, Option.some.inj found]
    exact requested

/-! ## One action -/

theorem cancelsInTime_of_undisturbed {pool : ServicePool} {offer : Offer} {operationId : String}
    {document : RecoveryOperation} {next : Unit → RecoveryProgram Outcome}
    (meets : Undisturbed pool (.advance index offer))
    (found : pool.threads[index]? = some ⟨.cancel operationId, .ask (.putOperation document) next⟩) :
    cancelsInTime pool document.id = true := by
  unfold Undisturbed undisturbed at meets
  dsimp only at meets
  rw [found] at meets
  exact meets

/-- A cancellation written in time loses nothing, and no worker's copy misses it. -/
theorem mark_keeps {pool : ServicePool}
    (annotated : (recoveryProtocol platform service).Annotated pool roles)
    (kept : Kept platform service pool.shared roles) (current : Current pool.shared roles)
    {document : RecoveryOperation} (inTime : cancelsInTime pool document.id = true)
    (requested : document.cancellationRequested = true) (idle : other.task = .idle) :
    NoUpdateLost pool.shared (pool.shared.putOperation document) ∧
      Current (pool.shared.putOperation document) (Function.update roles index other) := by
  constructor
  · apply noUpdateLost_put
    intro row found
    rw [cancelsInTime, found] at inTime
    rcases Bool.and_eq_true_iff.mp inTime with ⟨active, _⟩
    refine ⟨fun terminal => ?_, fun _ => requested⟩
    rw [terminal] at active
    cases active
  · apply Current.step
    · intro thread _ held row holds found wanted
      rcases copy_working holds with ⟨stage, task⟩
      by_cases same : held.id = document.id
      · rcases (kept.works task).2 with ⟨stored, known, _⟩
        have holder := holdsCopy_of_working annotated kept task
        rw [cancelsInTime, ← same, known, holder] at inTime
        have facts : (!stored.state.terminal && (stored.cancellationRequested || !true)) = true :=
          inTime
        rw [Bool.not_true, Bool.or_false, Bool.and_eq_true] at facts
        have before : stored.cancellationRequested = true := facts.2
        exact current thread held stored holds known before
      · rw [putOperation_of_ne same] at found
        exact current thread held row holds found wanted
    · intro held row holds
      rw [idle] at holds
      cases holds

/-- A move loses no update, unless it writes a cancellation too late. -/
theorem moves_keep {pool : ServicePool} {request : RecoveryRequest} {offer : Offer}
    {answer : RecoveryAnswer request}
    (annotated : (recoveryProtocol platform service).Annotated pool roles)
    (kept : Kept platform service pool.shared roles) (current : Current pool.shared roles)
    (moved : Moves (platform.settings service) (roles index) request answer other)
    (replied : reply platform pool.shared offer request = answer)
    (inTime : ∀ operationId document, (roles index).call = some (.cancel operationId) →
      request = .putOperation document → cancelsInTime pool document.id = true) :
    NoUpdateLost pool.shared (effect pool.shared request) ∧
      Current (effect pool.shared request) (Function.update roles index other) := by
  have same : (effect pool.shared request).operations = pool.shared.operations →
      (∀ held, other.task.copy = some held → (roles index).task.copy = some held) →
      NoUpdateLost pool.shared (effect pool.shared request) ∧
        Current (effect pool.shared request) (Function.update roles index other) :=
    fun rows copy => ⟨noUpdateLost_of_operations rows, current.stay rows copy⟩
  have without : (effect pool.shared request).operations = pool.shared.operations →
      other.task.copy = none → NoUpdateLost pool.shared (effect pool.shared request) ∧
        Current (effect pool.shared request) (Function.update roles index other) := by
    intro rows none
    refine same rows (fun held holds => ?_)
    rw [none] at holds
    cases holds
  have copies : ∀ {held stage}, (roles index).task = .working held stage →
      (roles index).task.copy = some held := fun task => by rw [task]; rfl
  cases moved with
  | interrupted now task =>
      refine ⟨noUpdateLost_interrupt pool.shared now, ?_⟩
      rw [Function.update_eq_self]
      exact kept.current_interrupted task now
  | @placed call document worker called outside task =>
      have mine := kept.each index
      rw [Role.Kept, task] at mine
      rcases mine with ⟨_, missing, _, same, _⟩
      have owned : (roles index).operation = some document.id := by
        simp only [Role.operation, Role.worker, task, Option.map_some, same]
      refine ⟨noUpdateLost_put (fun row found => ?_), current.put kept owned ?_⟩
      · rw [missing] at found
        cases found
      · intro held holds
        cases holds
  | marked now call task => exact mark_keeps annotated kept current (inTime _ _ call rfl) rfl rfl
  | @took worker document call task =>
      refine ⟨noUpdateLost_of_operations rfl, Current.step ?_ ?_⟩
      · exact fun thread _ held row holds found => current thread held row holds found
      · intro held row holds found requested
        have stored : pool.shared.operations worker.operationId = some document := replied
        cases holds
        rw [kept.keyed _ _ stored] at found
        rw [Option.some.inj (stored.symm.trans found)]
        exact requested
  | began call task => exact same rfl (fun held holds => (copies task).trans holds)
  | published call task whole => exact same rfl (fun held holds => (copies task).trans holds)
  | cleared call task profile => exact same rfl (fun held holds => (copies task).trans holds)
  | @saved held document stage task continues active =>
      refine ⟨kept.save_keeps current task continues, current.put kept ?_ ?_⟩
      · rw [continues.id]
        exact (kept.works task).1
      · intro copy holds
        cases Option.some.inj ((copies task).symm.trans holds)
        exact ⟨continues.requested.symm, continues.id.symm⟩
  | @ended held document stage task continues terminal =>
      refine ⟨kept.save_keeps current task continues, current.put kept ?_ ?_⟩
      · rw [continues.id]
        exact (kept.works task).1
      · intro copy holds
        cases holds
  | dropped raised => exact without rfl rfl
  | served task => exact without rfl rfl
  | drew uuid called outside task => exact without rfl rfl
  | namedBackup task fresh => exact without rfl rfl
  | namedRestore called outside task fresh => exact without rfl rfl
  | started task => exact without rfl rfl
  | considered call task active => exact without rfl rfl
  | missed operationId task => exact without rfl rfl
  | _ => exact same rfl (fun _ => id)

/-- An undisturbed action loses no update, and leaves the copies current. -/
theorem evolves_keep {pool next : ServicePool} {later : Nat → Role} {action : ServiceAction}
    {entries : ServiceLog} (meets : Undisturbed pool action)
    (annotated : (recoveryProtocol platform service).Annotated pool roles)
    (kept : Kept platform service pool.shared roles) (current : Current pool.shared roles)
    (evolves : (recoveryProtocol platform service).Evolves pool roles action entries next later) :
    NoUpdateLost pool.shared next.shared ∧ Current next.shared later := by
  cases evolves with
  | @advanced index offer label request rest answer after found replied moved alone =>
      refine moves_keep annotated kept current moved (Option.some.inj replied) ?_
      rintro operationId document call rfl
      have called : (roles index).call = none ∨ (roles index).call = some label :=
        annotated.called index _ found
      rw [call] at called
      rcases called with impossible | known
      · cases impossible
      · cases Option.some.inj known
        exact cancelsInTime_of_undisturbed meets found
  | @spawned index offer label request rest answer after started found replied moved spawns =>
      rcases spawned_started spawns with ⟨worker, rfl, rfl⟩
      have kept_idle := moves_keep annotated kept current moved (Option.some.inj replied)
        (by intro operationId document call same; cases same)
      refine ⟨kept_idle.1, Current.step (fun thread _ => kept_idle.2 thread) ?_⟩
      intro held row holds
      cases holds
  | @admitted call admits =>
      refine ⟨noUpdateLost_of_operations rfl,
        Current.step (fun thread _ held row => current thread held row) ?_⟩
      intro held row holds
      have holding : (enter call).task.copy = some held := holds
      rw [outside_idle (Bool.and_eq_true_iff.mp admits).1] at holding
      cases holding
  | restarted =>
      refine ⟨noUpdateLost_of_operations rfl, Current.step ?_ ?_⟩
      · intro thread _ held row holds
        cases holds
      · intro held row holds
        cases holds

theorem reachable_current (opened : platform.Leaves Undisturbed service.store)
    {log : ServiceLog} {pool : ServicePool}
    (reached : (machine platform service).Reachable Undisturbed log pool) :
    ∃ roles, (recoveryProtocol platform service).Annotated pool roles ∧
      Kept platform service pool.shared roles ∧ Current pool.shared roles := by
  refine reachable_with (leaves_kept opened).1 (leaves_kept opened).2
    (fun _ pool roles => Current pool.shared roles) ?_ ?_ reached
  · refine Current.step ?_ ?_
    · intro thread _ held row holds
      cases holds
    · intro held row holds
      cases holds
  · intro log pool roles action entries next later meets annotated kept current evolves
    exact (evolves_keep meets annotated kept current evolves).2

/-- In every run in which no cancellation is written between the worker's read of the row
and its last write, nor after it, no update is lost: ended operations stay ended, and
requested cancellations stay requested. -/
theorem undisturbed_loses_nothing {store later : ServiceState}
    (onward : platform.Later Undisturbed store later) : NoUpdateLost store later := by
  induction onward with
  | refl => exact noUpdateLost_of_operations rfl
  | tail _ becomes ih =>
      refine ih.trans ?_
      cases becomes with
      | acted opened reached meets acted =>
          rcases reachable_current opened reached with ⟨roles, annotated, kept, current⟩
          rcases annotated.evolves acted with ⟨roles', evolves, _⟩
          exact (evolves_keep meets annotated kept current evolves).1
      | closed opened reached => exact noUpdateLost_of_operations rfl

/-! ## Lost updates -/

def storedState (pool : ServicePool) (operationId : String) : Option (RecoveryState × Bool) :=
  (pool.shared.operations operationId).map (fun row => (row.state, row.cancellationRequested))

/-- A backup is cancelled before its worker reads the row. -/
def earlyCancelScript : List (ServicePool → ServiceAction) :=
  goOn 0 4 ++ arrive (.submitBackup "operator") ++ goOn 1 6 ++
    arrive (.cancel "recovery-a") ++ goOn 3 6

theorem undisturbed_loses_nothing_early :
    ∃ store later row version, countingPlatform.Later Undisturbed store later ∧
      store.operations "recovery-a" = some row ∧ row.cancellationRequested = true ∧
      later.operations "recovery-a" = some version ∧ version.cancellationRequested = true := by
  have played : (playLab undisturbed earlyCancelScript).any (fun pool =>
      decide (storedState pool "recovery-a" = some (.queued, true)) &&
      ((machine countingPlatform labService).play undisturbed pool (goOn 2 12)).any
        (fun last => storedState last "recovery-a" = some (.cancelled, true))) = true := by
    decide +kernel
  rcases (Option.any_eq_true _ _).mp played with ⟨pool, run, holds⟩
  rcases Bool.and_eq_true_iff.mp holds with ⟨before, onward⟩
  rcases (Option.any_eq_true _ _).mp onward with ⟨last, moved, _⟩
  rcases reachable_playLab (fun _ _ permitted => permitted) run with ⟨log, reached⟩
  have later : countingPlatform.Later Undisturbed pool.shared last.shared :=
    later_play (fun _ _ permitted => permitted) .empty (goOn 2 12) reached moved
  rcases Option.map_eq_some_iff.mp (of_decide_eq_true before) with ⟨row, found, same⟩
  rw [Prod.mk.injEq] at same
  rcases undisturbed_loses_nothing later "recovery-a" row found with ⟨version, stored, kept⟩
  exact ⟨pool.shared, last.shared, row, version, later, found, same.2, stored,
    kept.requested same.2⟩

/-- A cancellation reads the row before the worker's last write, and writes it after. -/
theorem ended_operation_revived :
    ¬ ∀ (platform : Platform) (store later : ServiceState),
      platform.Later (fun _ _ => True) store later → NoUpdateLost store later := by
  intro keeps
  have played : (playLab (fun _ _ => true)
      (goOn 0 4 ++ arrive (.submitBackup "operator") ++ goOn 1 6 ++ goOn 2 51 ++
        arrive (.cancel "recovery-a") ++ goOn 3 2 ++ goOn 2 1)).any (fun pool =>
      decide (storedState pool "recovery-a" = some (.succeeded, false)) &&
      ((machine countingPlatform labService).play (fun _ _ => true) pool (goOn 3 4)).any
        (fun last => storedState last "recovery-a" = some (.running, true))) = true := by
    decide +kernel
  rcases (Option.any_eq_true _ _).mp played with ⟨pool, run, holds⟩
  rcases Bool.and_eq_true_iff.mp holds with ⟨before, onward⟩
  rcases (Option.any_eq_true _ _).mp onward with ⟨last, moved, after⟩
  rcases reachable_playLab (fun _ _ _ => trivial) run with ⟨log, reached⟩
  have later : countingPlatform.Later (fun _ _ => True) pool.shared last.shared :=
    later_play (fun _ _ _ => trivial) .empty (goOn 3 4) reached moved
  rcases Option.map_eq_some_iff.mp (of_decide_eq_true before) with ⟨row, found, same⟩
  rcases Option.map_eq_some_iff.mp (of_decide_eq_true after) with ⟨revived, stored, alike⟩
  rw [Prod.mk.injEq] at same alike
  rcases keeps countingPlatform pool.shared last.shared later "recovery-a" row found with
    ⟨version, known, kept⟩
  have ended := kept.terminal (by rw [same.1]; rfl)
  cases Option.some.inj (known.symm.trans stored)
  rw [alike.1] at ended
  cases ended

end FortifyLab.Recovery
