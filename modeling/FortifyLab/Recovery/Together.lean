import FortifyLab.Recovery.Kept

/-! Operations that run together. Nothing keeps a second one from starting; where no call
writes its row beside an active one, at most one operation runs at a time. -/

namespace FortifyLab.Recovery

open Program

variable {platform : Platform} {service : Service} {state after : ServiceState}
  {roles : Nat → Role} {role other : Role} {index : Nat}

/-- The operation is the only one that may be queued, running or verifying. -/
def ServiceState.OnlyActive (state : ServiceState) (id : String) : Prop :=
  ∀ other, state.Active other → other = id

/-- The action is no write of a submission or a cancellation while another operation's row
is active. -/
def WritesAlone (pool : ServicePool) : ServiceAction → Prop
  | .advance index _ =>
      match pool.threads[index]? with
      | some ⟨call, .ask (.putOperation document) _⟩ =>
          call.outside = true → pool.shared.OnlyActive document.id
      | _ => True
  | _ => True

/-- At most one operation is active. -/
def OneActive (state : ServiceState) : Prop :=
  ∀ id, state.Active id → state.OnlyActive id

/-- The request is a call of the adapter for a scope. -/
def RecoveryRequest.adapts : RecoveryRequest → Bool
  | .adapterBackup _ _ | .adapterRestore _ _ => true
  | _ => false

/-- A call of the adapter has begun and is not finished. -/
def adapting (thread : Thread Call RecoveryRequest RecoveryAnswer Outcome) : Bool :=
  thread.program.asks.any RecoveryRequest.adapts

/-- Backups and restores do not run together. -/
structure OneAtATime (pool : ServicePool) : Prop where
  active : OneActive pool.shared
  calls : ∀ (left right : Nat) first second, pool.threads[left]? = some first →
    pool.threads[right]? = some second → adapting first = true → adapting second = true →
    left = right

/-! ## Writing a row -/

theorem active_put {document : RecoveryOperation} {id : String}
    (active : (state.putOperation document).Active id) : id = document.id ∨ state.Active id := by
  by_cases same : id = document.id
  · exact .inl same
  · rcases active with ⟨row, found, known⟩
    rw [putOperation_of_ne same] at found
    exact .inr ⟨row, found, known⟩

/-- The row of the only active operation is written. -/
theorem oneActive_put {document : RecoveryOperation} (only : state.OnlyActive document.id) :
    OneActive (state.putOperation document) := by
  have named : ∀ id, (state.putOperation document).Active id → id = document.id := by
    intro id active
    rcases active_put active with same | before
    · exact same
    · exact only id before
  intro id active other also
  rw [named id active, named other also]

theorem oneActive_of_operations (one : OneActive state)
    (same : after.operations = state.operations) : OneActive after := by
  have before : ∀ id, after.Active id → state.Active id := by
    rintro id ⟨row, found, active⟩
    exact ⟨row, by rw [← same]; exact found, active⟩
  exact fun id active other also => one id (before id active) other (before other also)

theorem oneActive_interrupt (state : ServiceState) (now : String) :
    OneActive (state.interruptActive now) := by
  rintro id ⟨row, found, active⟩
  rcases Option.map_eq_some_iff.mp found with ⟨old, known, rfl⟩
  unfold ServiceState.interruptRow at active
  split at active
  · next terminal =>
    rw [terminal] at active
    cases active
  · cases active

/-- A worker writes the row of the only active operation, which is its own. -/
theorem Kept.onlyActive (kept : Kept platform service state roles) (one : OneActive state)
    {held document : RecoveryOperation} {stage : Stage}
    (task : (roles index).task = .working held stage) (continues : Continues held document) :
    state.OnlyActive document.id := by
  rw [continues.id]
  exact one held.id (kept.works task).2

/-! ## One action -/

/-- Rows are written by calls from outside, and by workers that have a copy. -/
theorem put_role {settings : Settings} {document : RecoveryOperation}
    (moved : Moves settings role (.putOperation document) () other) :
    (∃ call, role.call = some call ∧ call.outside = true) ∨
      ∃ held stage, role.task = .working held stage ∧ Continues held document := by
  cases moved with
  | placed called outside _ => exact .inl ⟨_, called, outside⟩
  | marked _ call _ => exact .inl ⟨_, call, rfl⟩
  | saved task continues _ => exact .inr ⟨_, _, task, continues⟩
  | ended task continues _ => exact .inr ⟨_, _, task, continues⟩

theorem onlyActive_of_writesAlone {pool : ServicePool} {offer : Offer} {call : Call}
    {document : RecoveryOperation} {next : Unit → RecoveryProgram Outcome}
    (meets : WritesAlone pool (.advance index offer))
    (found : pool.threads[index]? = some ⟨call, .ask (.putOperation document) next⟩)
    (outside : call.outside = true) : pool.shared.OnlyActive document.id := by
  unfold WritesAlone at meets
  dsimp only at meets
  rw [found] at meets
  exact meets outside

/-- What does not write a row leaves the rows alone, or interrupts them all. -/
theorem effect_rows (state : ServiceState) (request : RecoveryRequest) :
    (∃ document, request = .putOperation document) ∨
      (∃ now, request = .interruptActive now) ∨
      (effect state request).operations = state.operations := by
  cases request with
  | putOperation document => exact .inl ⟨document, rfl⟩
  | interruptActive now => exact .inr (.inl ⟨now, rfl⟩)
  | _ => exact .inr (.inr rfl)

theorem advance_oneActive {pool : ServicePool} {offer : Offer} {label : Call}
    {request : RecoveryRequest} {next : RecoveryAnswer request → RecoveryProgram Outcome}
    {answer : RecoveryAnswer request} (meets : WritesAlone pool (.advance index offer))
    (annotated : (recoveryProtocol platform service).Annotated pool roles)
    (kept : Kept platform service pool.shared roles) (one : OneActive pool.shared)
    (found : pool.threads[index]? = some ⟨label, .ask request next⟩)
    (moved : Moves (platform.settings service) (roles index) request answer other) :
    OneActive (effect pool.shared request) := by
  rcases effect_rows pool.shared request with ⟨document, rfl⟩ | ⟨now, rfl⟩ | same
  · apply oneActive_put
    rcases put_role moved with ⟨call, known, outside⟩ | ⟨held, stage, task, continues⟩
    · have called : (roles index).call = none ∨ (roles index).call = some label :=
        annotated.called index _ found
      rw [known] at called
      rcases called with impossible | same
      · cases impossible
      · cases Option.some.inj same
        exact onlyActive_of_writesAlone meets found outside
    · exact kept.onlyActive one task continues
  · exact oneActive_interrupt pool.shared now
  · exact oneActive_of_operations one same

theorem evolves_oneActive {pool next : ServicePool} {later : Nat → Role}
    {action : ServiceAction} {entries : ServiceLog} (meets : WritesAlone pool action)
    (annotated : (recoveryProtocol platform service).Annotated pool roles)
    (kept : Kept platform service pool.shared roles) (one : OneActive pool.shared)
    (evolves : (recoveryProtocol platform service).Evolves pool roles action entries next later) :
    OneActive next.shared := by
  cases evolves with
  | advanced found _ moved _ => exact advance_oneActive meets annotated kept one found moved
  | spawned found _ moved _ => exact advance_oneActive meets annotated kept one found moved
  | admitted _ => exact one
  | restarted => exact oneActive_of_operations one rfl

/-! ## Every run -/

theorem reachable_oneActive_of (store : StoreKept platform service.store)
    (closed : service.store.serving = false) (one : OneActive service.store) {log : ServiceLog}
    {pool : ServicePool}
    (reached : (machine platform service).Reachable WritesAlone log pool) :
    ∃ roles, (recoveryProtocol platform service).Annotated pool roles ∧
      Kept platform service pool.shared roles ∧ OneActive pool.shared :=
  reachable_with store closed (fun _ pool _ => OneActive pool.shared) one
    (fun _ _ _ _ _ _ _ meets annotated kept one evolves =>
      evolves_oneActive meets annotated kept one evolves) reached

theorem leaves_oneActive {store : ServiceState} (leaves : platform.Leaves WritesAlone store) :
    OneActive store := by
  induction leaves with
  | empty =>
      rintro id ⟨row, found, _⟩
      cases found
  | closed opened reached ih =>
      rcases reachable_oneActive_of (leaves_kept opened).1 (leaves_kept opened).2 ih reached with
        ⟨roles, _, _, one⟩
      exact oneActive_of_operations one rfl

/-- A thread in a call of the adapter works on an active operation of its own. -/
theorem adapting_works {pool : ServicePool}
    (annotated : (recoveryProtocol platform service).Annotated pool roles)
    (kept : Kept platform service pool.shared roles)
    {thread : Thread Call RecoveryRequest RecoveryAnswer Outcome}
    (found : pool.threads[index]? = some thread) (adapts : adapting thread = true) :
    ∃ id, (roles index).operation = some id ∧ pool.shared.Active id := by
  have follows := annotated.follows index thread found
  rcases thread with ⟨label, program⟩
  cases program with
  | done result => cases adapts
  | ask request next =>
      cases request with
      | adapterBackup backupId scope =>
          rcases follows (.error .other : Except Raised Value) with ⟨after, moved, _⟩
          cases moved with
          | captured call task => exact ⟨_, kept.works task⟩
      | adapterRestore backupId scope =>
          rcases follows (.error .other : Except Raised Unit) with ⟨after, moved, _⟩
          cases moved with
          | restored call task => exact ⟨_, kept.works task⟩
      | _ => cases adapts

/-- In every run in which no call writes its row while another operation's row is active,
at most one operation is active, and at most one thread calls the adapter. -/
theorem one_at_a_time (opened : platform.Leaves WritesAlone service.store) {log : ServiceLog}
    {pool : ServicePool}
    (reached : (machine platform service).Reachable WritesAlone log pool) : OneAtATime pool := by
  rcases reachable_oneActive_of (leaves_kept opened).1 (leaves_kept opened).2
    (leaves_oneActive opened) reached with ⟨roles, annotated, kept, one⟩
  refine ⟨one, ?_⟩
  intro left right first second leftFound rightFound leftAdapts rightAdapts
  rcases adapting_works annotated kept leftFound leftAdapts with ⟨id, owned, active⟩
  rcases adapting_works annotated kept rightFound rightAdapts with ⟨other, also, running⟩
  have same : other = id := one id active other running
  exact kept.operations left right id owned (same ▸ also)

/-- The action writes no row for a call from outside. -/
def writesNothing (pool : ServicePool) : ServiceAction → Bool
  | .advance index _ =>
      match pool.threads[index]? with
      | some ⟨call, .ask (.putOperation _) _⟩ => !call.outside
      | _ => true
  | _ => true

theorem writesAlone_of_writesNothing (pool : ServicePool) (action : ServiceAction)
    (nothing : writesNothing pool action = true) : WritesAlone pool action := by
  cases action with
  | advance index offer =>
      unfold WritesAlone
      unfold writesNothing at nothing
      dsimp only at nothing ⊢
      split at nothing
      · intro outside
        rw [outside] at nothing
        cases nothing
      · trivial
  | receive label => trivial
  | restart => trivial

/-- Only the identifiers that were drawn have rows. -/
theorem Kept.onlyActive_of_drawn (kept : Kept platform service state roles) (id : String)
    (missing : ∀ count, count < state.drawn →
      state.operations ("recovery-" ++ platform.uuid count) = none) : state.OnlyActive id := by
  rintro other ⟨row, found, _⟩
  rcases kept.placed other row found with ⟨count, before, rfl⟩
  rw [missing count before] at found
  cases found

/-- One backup on its own, in its first call of the adapter. -/
theorem one_at_a_time_backup :
    ∃ log pool thread, (machine countingPlatform labService).Reachable WritesAlone log pool ∧
      pool.threads[2]? = some thread ∧ adapting thread = true ∧ OneAtATime pool := by
  have played : (playLab writesNothing
      (goOn 0 4 ++ arrive (.submitBackup "operator") ++ goOn 1 4)).any (fun pool =>
        decide (pool.shared.drawn = 2) && (List.range 2).all (fun count =>
          (pool.shared.operations ("recovery-" ++ countingPlatform.uuid count)).isNone) &&
        ((machine countingPlatform labService).act pool (.advance 1 .smooth)).any (fun next =>
          ((machine countingPlatform labService).play writesNothing next
            (goOn 1 1 ++ goOn 2 11)).any (fun last => (last.threads[2]?).any adapting))) = true := by
    decide +kernel
  rcases (Option.any_eq_true _ _).mp played with ⟨pool, run, holds⟩
  rw [Bool.and_eq_true, Bool.and_eq_true] at holds
  rcases holds with ⟨⟨drawn, missing⟩, onward⟩
  rcases (Option.any_eq_true _ _).mp onward with ⟨next, acted, later⟩
  rcases (Option.any_eq_true _ _).mp later with ⟨last, rest, threads⟩
  rcases (Option.any_eq_true _ _).mp threads with ⟨thread, found, adapts⟩
  rcases reachable_playLab writesAlone_of_writesNothing run with ⟨log, reached⟩
  have meets : WritesAlone pool (.advance 1 .smooth) := by
    unfold WritesAlone
    dsimp only
    split
    · next call document program known =>
      intro _
      rcases reachable_kept .empty reached with ⟨roles, _, kept⟩
      apply kept.onlyActive_of_drawn
      intro count before
      rw [of_decide_eq_true drawn] at before
      exact Option.isNone_iff_eq_none.mp (List.all_eq_true.mp missing count (List.mem_range.mpr before))
    · trivial
  rcases Machine.reachable_play writesAlone_of_writesNothing _ (reached.step meets acted) rest with
    ⟨logged, reachedLast⟩
  exact ⟨logged, last, thread, reachedLast, found, adapts, one_at_a_time .empty reachedLast⟩

/-! ## Two at a time -/

/-- A restore of the first backup while a second backup is being made. -/
def togetherScript : List (ServicePool → ServiceAction) :=
  goOn 0 4 ++ arrive (.submitBackup "operator") ++ goOn 1 6 ++ goOn 2 52 ++
    arrive (.submitRestore "backup-" "operator" (some restoreConfirmation)) ++ goOn 3 7 ++
    goOn 4 11 ++ arrive (.submitBackup "operator") ++ goOn 5 6 ++ goOn 6 11

/-- The service lets a restore and a backup call the adapter at the same time. -/
theorem restore_beside_backup :
    ¬ ∀ (platform : Platform) (service : Service) (log : ServiceLog) (pool : ServicePool),
      platform.Leaves (fun _ _ => True) service.store →
      (machine platform service).Reachable (fun _ _ => True) log pool → OneAtATime pool := by
  intro always
  have played : (playLab (fun _ _ => true) togetherScript).any (fun pool =>
      (pool.threads[4]?).any adapting && (pool.threads[6]?).any adapting) = true := by
    decide +kernel
  rcases (Option.any_eq_true _ _).mp played with ⟨pool, run, holds⟩
  rcases Bool.and_eq_true_iff.mp holds with ⟨restores, backs⟩
  rcases (Option.any_eq_true _ _).mp restores with ⟨first, firstFound, firstAdapts⟩
  rcases (Option.any_eq_true _ _).mp backs with ⟨second, secondFound, secondAdapts⟩
  rcases reachable_playLab (fun _ _ _ => trivial) run with ⟨log, reached⟩
  have one := always countingPlatform labService log pool .empty reached
  have same := one.calls 4 6 first second firstFound secondFound firstAdapts secondAdapts
  exact absurd same (by decide)

end FortifyLab.Recovery
