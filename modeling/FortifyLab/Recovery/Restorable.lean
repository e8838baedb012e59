import FortifyLab.Recovery.Kept

/-! Only complete backups are restored: a complete artifact has every checksum and its
digest, stays as it is, and stands in the store while a restore calls the adapter. -/

namespace FortifyLab.Recovery

open Program

variable {platform : Platform} {service : Service} {state after : ServiceState}
  {roles : Nat → Role} {role other : Role} {index : Nat}
  {allowed : ServicePool → ServiceAction → Prop}

/-- Complete artifacts are never written again. -/
theorem Kept.complete_moves (kept : Kept platform service state roles)
    {request : RecoveryRequest} {answer : RecoveryAnswer request}
    (moved : Moves (platform.settings service) (roles index) request answer other)
    {backupId : String} {artifact : Artifact}
    (found : state.artifacts backupId = some (true, artifact)) :
    (effect state request).artifacts backupId = some (true, artifact) := by
  have unfinished : ∀ {operationId : String} {document : Artifact} {held : RecoveryOperation}
      {stage : Stage}, (roles index).call = some (.worker (.backup operationId document.id)) →
      (roles index).task = .working held stage → stage ≠ .published → backupId ≠ document.id := by
    rintro operationId document held stage call task before rfl
    have writes : (roles index).writes = some document.id := by
      rw [Role.writes, Role.worker, task, call]
      cases stage with
      | published => exact absurd rfl before
      | _ => rfl
    exact ((kept.each index).writable writes).unfinished artifact found
  cases moved with
  | began call task =>
      have other := unfinished call task (by intro same; cases same)
      exact (putArtifact_of_ne other).trans found
  | published call task whole =>
      have other := unfinished call task (by intro same; cases same)
      exact (putArtifact_of_ne other).trans found
  | _ => exact found

theorem Kept.complete_evolves {pool next : ServicePool} {roles later : Nat → Role}
    {action : ServiceAction} {entries : ServiceLog}
    (kept : Kept platform service pool.shared roles)
    (evolves : (recoveryProtocol platform service).Evolves pool roles action entries next later)
    {backupId : String} {artifact : Artifact}
    (found : pool.shared.artifacts backupId = some (true, artifact)) :
    next.shared.artifacts backupId = some (true, artifact) := by
  cases evolves with
  | advanced _ _ moved _ => exact kept.complete_moves moved found
  | spawned _ _ moved _ => exact kept.complete_moves moved found
  | admitted _ => exact found
  | restarted => exact found

/-- A complete artifact is what every later store holds. -/
theorem complete_later {store later : ServiceState} (onward : platform.Later allowed store later)
    {backupId : String} {artifact : Artifact}
    (found : store.artifacts backupId = some (true, artifact)) :
    later.artifacts backupId = some (true, artifact) := by
  induction onward with
  | refl => exact found
  | tail _ becomes ih =>
      cases becomes with
      | acted opened reached meets acted =>
          rcases reachable_kept opened reached with ⟨roles, annotated, kept⟩
          rcases annotated.evolves acted with ⟨roles', evolves, _⟩
          exact kept.complete_evolves evolves ih
      | closed opened reached => exact ih

/-- Every complete artifact that was read is still there. -/
def Returned (log : ServiceLog) (state : ServiceState) : Prop :=
  ∀ thread call backupId artifact, (⟨thread, call, .readArtifact backupId,
    (some (true, artifact) : Option (Bool × Artifact))⟩ :
      Entry Call RecoveryRequest RecoveryAnswer) ∈ log →
    state.artifacts backupId = some (true, artifact)

theorem Returned.answered {log : ServiceLog} (returned : Returned log state)
    (kept : Kept platform service state roles) {call : Call} {request : RecoveryRequest}
    {offer : Offer} {answer : RecoveryAnswer request}
    (moved : Moves (platform.settings service) (roles index) request answer other)
    (replied : reply platform state offer request = answer) :
    Returned (log ++ [⟨index, call, request, answer⟩]) (effect state request) := by
  intro thread label backupId artifact member
  rcases List.mem_append.mp member with earlier | last
  · exact kept.complete_moves moved (returned thread label backupId artifact earlier)
  · cases List.mem_singleton.mp last
    exact replied

theorem reachable_returned (opened : platform.Leaves allowed service.store) {log : ServiceLog}
    {pool : ServicePool} (reached : (machine platform service).Reachable allowed log pool) :
    Returned log pool.shared := by
  have always : ∃ roles, (recoveryProtocol platform service).Annotated pool roles ∧
      Kept platform service pool.shared roles ∧ Returned log pool.shared := by
    refine reachable_with (leaves_kept opened).1 (leaves_kept opened).2
      (fun log pool _ => Returned log pool.shared) nofun ?_ reached
    intro log pool roles action entries next later _ _ kept returned evolves
    cases evolves with
    | advanced _ replied moved _ => exact returned.answered kept moved (Option.some.inj replied)
    | spawned _ replied moved _ => exact returned.answered kept moved (Option.some.inj replied)
    | admitted _ =>
        rw [List.append_nil]
        exact returned
    | restarted =>
        rw [List.append_nil]
        exact returned
  rcases always with ⟨_, _, _, returned⟩
  exact returned

/-- The artifact that a restore worker is about to restore from. -/
theorem restores_cleared (opened : platform.Leaves allowed service.store) {log : ServiceLog}
    {pool : ServicePool} (reached : (machine platform service).Reachable allowed log pool)
    {thread : Thread Call RecoveryRequest RecoveryAnswer Outcome} (member : thread ∈ pool.threads)
    {backupId : String} {scope : Scope}
    (calls : thread.program.asks = some (.adapterRestore backupId scope)) :
    ∃ operationId artifact, thread.label = .worker (.restore operationId backupId) ∧
      pool.shared.artifacts backupId = some (true, artifact) ∧
      artifact.profileId = service.profileId := by
  rcases reachable_kept opened reached with ⟨roles, annotated, kept⟩
  rcases List.mem_iff_getElem?.mp member with ⟨index, found⟩
  have follows := annotated.follows index thread found
  have called := annotated.called index thread found
  rcases thread with ⟨label, program⟩
  cases program with
  | done result => cases calls
  | ask request next =>
      cases calls
      rcases follows (.ok () : Except Raised Unit) with ⟨after, moved, _⟩
      cases moved with
      | @restored held operationId _ call task =>
          have mine := kept.each index
          rw [Role.Kept, task] at mine
          rcases mine with ⟨_, worker, known, _, _, cleared, _⟩
          cases Option.some.inj (call.symm.trans known)
          rcases cleared with ⟨artifact, complete, profile⟩
          refine ⟨operationId, artifact, ?_, complete, profile⟩
          have label_eq : (roles index).call = none ∨ (roles index).call = some label := called
          rw [call] at label_eq
          rcases label_eq with impossible | same
          · cases impossible
          · exact (Option.some.inj same).symm

/-- In every run, over any services one after the other and stopped anywhere: complete
artifacts are whole and final, `artifact` returns no others, and a restore worker calls the
adapter for such an artifact of the service's profile only. -/
theorem only_complete_restorable (opened : platform.Leaves (fun _ _ => True) service.store)
    {log : ServiceLog} {pool : ServicePool}
    (reached : (machine platform service).Reachable (fun _ _ => True) log pool) :
    (∀ backupId artifact, pool.shared.artifacts backupId = some (true, artifact) →
      artifact.id = backupId ∧ artifact.Whole platform.sha256 ∧
      ∀ later, platform.Later (fun _ _ => True) pool.shared later →
        later.artifacts backupId = some (true, artifact)) ∧
    Returned log pool.shared ∧
    ∀ thread ∈ pool.threads, ∀ backupId scope,
      thread.program.asks = some (.adapterRestore backupId scope) →
      ∃ operationId artifact, thread.label = .worker (.restore operationId backupId) ∧
        pool.shared.artifacts backupId = some (true, artifact) ∧
        artifact.profileId = service.profileId := by
  refine ⟨?_, reachable_returned opened reached, ?_⟩
  · intro backupId artifact found
    rcases reachable_kept opened reached with ⟨roles, _, kept⟩
    exact ⟨kept.filed _ _ _ found, kept.whole _ _ found,
      fun later onward => complete_later onward found⟩
  · intro thread member backupId scope calls
    exact restores_cleared opened reached member calls

/-- A backup, then a restore that is about to restore the first scope. -/
def restoreScript : List (ServicePool → ServiceAction) :=
  goOn 0 4 ++ arrive (.submitBackup "operator") ++ goOn 1 6 ++ goOn 2 52 ++
    arrive (.submitRestore "backup-" "operator" (some restoreConfirmation)) ++ goOn 3 7 ++
    goOn 4 11

/-- The scope that a thread is about to restore. -/
def aboutToRestore (backupId : String)
    (thread : Thread Call RecoveryRequest RecoveryAnswer Outcome) : Bool :=
  match thread.program.asks with
  | some (.adapterRestore other _) => decide (other = backupId)
  | _ => false

theorem only_complete_restorable_example :
    ∃ log pool thread scope operationId artifact,
      (machine countingPlatform labService).Reachable (fun _ _ => True) log pool ∧
      thread ∈ pool.threads ∧
      thread.program.asks = some (.adapterRestore "backup-" scope) ∧
      thread.label = .worker (.restore operationId "backup-") ∧
      pool.shared.artifacts "backup-" = some (true, artifact) ∧
      artifact.profileId = "microk8s" ∧ artifact.Whole countingPlatform.sha256 := by
  have played : (playLab (fun _ _ => true) restoreScript).any (fun pool =>
      pool.threads.any (aboutToRestore "backup-")) = true := by
    decide +kernel
  rcases (Option.any_eq_true _ _).mp played with ⟨pool, run, holds⟩
  rcases List.any_eq_true.mp holds with ⟨thread, member, about⟩
  rcases reachable_playLab (fun _ _ _ => trivial) run with ⟨log, reached⟩
  have calls : ∃ scope, thread.program.asks = some (.adapterRestore "backup-" scope) := by
    unfold aboutToRestore at about
    split at about
    · next other scope asks =>
      cases of_decide_eq_true about
      exact ⟨scope, asks⟩
    · cases about
  rcases calls with ⟨scope, asks⟩
  have restorable := only_complete_restorable .empty reached
  rcases restorable.2.2 thread member "backup-" scope asks with
    ⟨operationId, artifact, label, found, profile⟩
  exact ⟨log, pool, thread, scope, operationId, artifact, reached, member, asks, label, found,
    profile, (restorable.1 "backup-" artifact found).2.1⟩

end FortifyLab.Recovery
