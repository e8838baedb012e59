import FortifyLab.Recovery.Verified

/-! When `cancelled` means stopped at a safe boundary. -/

namespace FortifyLab.Recovery

open Program

/-- A call of the adapter for a scope or its verification. -/
def calls (exchange : RecoveryExchange) : Prop :=
  startedScope exchange ≠ none ∨ verdict exchange ≠ none

/-- Stopped by a check between scopes: nothing had raised before it, every scope whose
call was started is completed, and no verification failed. -/
structure AtBoundary (settings : Settings) (exchanges : List RecoveryExchange)
    (operation : RecoveryOperation) : Prop where
  stopped : ∃ front check rest, exchanges = front ++ check :: rest ∧ Quiet settings front ∧
    interrupts check = true
  completed : ∀ scope ∈ startedScopes exchanges, scope ∈ operation.completedScopes
  succeeded : ∀ exchange ∈ exchanges, calls exchange → fails settings exchange = false

/-- `cancelled` only at a boundary, and `failed` after a call that raised or a failed
verification. -/
structure EndedSafely (settings : Settings) (exchanges : List RecoveryExchange)
    (operation : RecoveryOperation) : Prop where
  cancelled : operation.state = .cancelled → AtBoundary settings exchanges operation
  failed : (∃ exchange ∈ exchanges, calls exchange ∧ fails settings exchange = true) →
    operation.state = .failed

/-- No cancellation is pending in a run in which something raises. -/
def NoneCancelled (settings : Settings) (exchanges : List RecoveryExchange) : Prop :=
  (∃ exchange ∈ exchanges, fails settings exchange = true) →
    ∀ exchange ∈ exchanges, interrupts exchange = false

theorem startedScope_of_interrupts {exchange : RecoveryExchange}
    (yes : interrupts exchange = true) : startedScope exchange = none := by
  rcases exchange with ⟨request, answer⟩
  cases request with
  | isCancelled operationId => rfl
  | _ => cases yes

section Worked

variable {settings : Settings} {planned before : List Scope} {operationId : String}
  {opening body exchanges : List RecoveryExchange} {raised : Option Raised} {now : String}
  {operation : RecoveryOperation}

theorem Worked.fails_body
    (worked : Worked settings planned before operationId opening body raised now operation
      exchanges) {exchange : RecoveryExchange} (member : exchange ∈ exchanges)
    (failing : fails settings exchange = true) : exchange ∈ body := by
  rw [worked.split] at member
  rcases List.mem_append.mp member with early | rest
  · rw [(worked.quiet exchange early).1] at failing
    cases failing
  · rcases List.mem_append.mp rest with inside | late
    · exact inside
    · rw [fails_of_mem_closing late] at failing
      cases failing

/-- A run whose `try` block did not raise an error has no failing exchange. -/
theorem Worked.quiet_of_interrupted
    (worked : Worked settings planned before operationId opening body raised now operation
      exchanges) {front : List RecoveryExchange} {last : RecoveryExchange}
    (split : body = front ++ [last]) (quiet : Quiet settings front)
    (silent : fails settings last = false) :
    ∀ exchange ∈ exchanges, fails settings exchange = false := by
  intro exchange member
  by_contra failing
  have inside := worked.fails_body member (Bool.eq_true_of_not_eq_false failing)
  rw [split] at inside
  rcases List.mem_append.mp inside with early | late
  · exact failing (quiet exchange early).1
  · cases List.mem_singleton.mp late
    exact failing silent

/-- The cancellation that a raising `try` block finds comes after the failure. -/
theorem Worked.not_stopped
    (worked : Worked settings planned before operationId opening body raised now operation
      exchanges) {front : List RecoveryExchange} {last : RecoveryExchange}
    (split : body = front ++ [last]) (quiet : Quiet settings front)
    (failing : fails settings last = true) (silent : interrupts last = false) :
    ¬ ∃ front check rest, exchanges = front ++ check :: rest ∧ Quiet settings front ∧
      interrupts check = true := by
  rintro ⟨first, check, rest, shape, calm, yes⟩
  have whole : first ++ check :: rest = (opening ++ (front ++ [last])) ++
      (handled operationId raised operation.state ++ stored now operation) := by
    rw [← shape, worked.split, split]
    simp
  rcases List.append_eq_append_iff.mp whole with ⟨between, parts, later⟩ | ⟨more, parts, later⟩
  · cases between with
    | nil =>
        rw [List.append_nil] at parts
        have inside : last ∈ first := by
          rw [← parts]
          simp
        rw [(calm last inside).1] at failing
        cases failing
    | cons head tail =>
        simp only [List.cons_append, List.cons.injEq] at later
        rw [later.1] at yes
        have inside : head ∈ opening ++ (front ++ [last]) := by
          rw [parts]
          simp
        rcases List.mem_append.mp inside with early | rest
        · rw [(worked.quiet head early).2] at yes
          cases yes
        · rcases List.mem_append.mp rest with early | late
          · rw [(quiet head early).2] at yes
            cases yes
          · cases List.mem_singleton.mp late
            rw [silent] at yes
            cases yes
  · have inside : last ∈ first := by
      rw [parts]
      simp
    rw [(calm last inside).1] at failing
    cases failing

/-- The check of the `except` block is in the run. -/
theorem Worked.handler_mem {reason : Raised}
    (worked : Worked settings planned before operationId opening body (some reason) now operation
      exchanges) :
    ⟨.isCancelled operationId, (operation.state == .cancelled : Bool)⟩ ∈ exchanges := by
  rw [worked.split]
  simp [handled]

theorem Worked.interrupts_state
    (worked : Worked settings planned before operationId opening body raised now operation
      exchanges) {front : List RecoveryExchange} {last exchange : RecoveryExchange}
    (split : body = front ++ [last]) (quiet : Quiet settings front)
    (silent : interrupts last = false) (member : exchange ∈ exchanges)
    (yes : interrupts exchange = true) : operation.state = .cancelled := by
  rw [worked.split, split] at member
  rcases List.mem_append.mp member with early | rest
  · rw [(worked.quiet exchange early).2] at yes
    cases yes
  · rcases List.mem_append.mp rest with inside | late
    · rcases List.mem_append.mp inside with early | last
      · rw [(quiet exchange early).2] at yes
        cases yes
      · cases List.mem_singleton.mp last
        rw [silent] at yes
        cases yes
    · rcases List.mem_append.mp late with handler | closing
      · cases raised with
        | none => cases handler
        | some reason =>
            cases List.mem_singleton.mp handler
            exact beq_iff_eq.mp yes
      · rw [(quiet_stored settings now operation exchange closing).2] at yes
        cases yes

/-- A run stopped by a check between scopes. -/
theorem Worked.atBoundary {reason : Raised} {front : List RecoveryExchange}
    {last : RecoveryExchange}
    (worked : Worked settings planned before operationId opening body (some reason) now operation
      exchanges) (split : body = front ++ [last])
    (halted : Halted settings before front operation.completedScopes)
    (interrupted : interrupts last = true) (silent : fails settings last = false) :
    AtBoundary settings exchanges operation where
  stopped := by
    refine ⟨opening ++ front, last, handled operationId (some reason) operation.state ++
      stored now operation, ?_, worked.quiet.append settings halted.quiet, interrupted⟩
    rw [worked.split, split]
    simp
  completed := by
    intro scope member
    have check : Recovery.startedScopes [last] = [] := by
      simp [Recovery.startedScopes, startedScope_of_interrupts interrupted]
    rw [worked.startedScopes, split, startedScopes_append, check, List.append_nil] at member
    rw [halted.completed]
    exact List.mem_append_right before member
  succeeded := fun exchange member _ =>
    worked.quiet_of_interrupted split halted.quiet silent exchange member

/-- A worker ends safely exactly when nothing raises while a cancellation is pending. -/
theorem Worked.endedSafely_iff
    (worked : Worked settings planned before operationId opening body raised now operation
      exchanges) :
    EndedSafely settings exchanges operation ↔ NoneCancelled settings exchanges := by
  cases worked.halts with
  | finished halted all =>
      have silent : ∀ exchange ∈ exchanges, fails settings exchange = false := by
        intro exchange member
        by_contra failing
        have inside := worked.fails_body member (Bool.eq_true_of_not_eq_false failing)
        exact failing (halted.quiet exchange inside).1
      have succeeded : operation.state = .succeeded := worked.concluded
      constructor
      · rintro _ ⟨exchange, member, failing⟩
        rw [silent exchange member] at failing
        cases failing
      · intro _
        refine ⟨?_, ?_⟩
        · intro cancelled
          rw [succeeded] at cancelled
          cases cancelled
        · rintro ⟨exchange, member, _, failing⟩
          rw [silent exchange member] at failing
          cases failing
  | interrupted split halted interrupted silent =>
      have none := worked.quiet_of_interrupted split halted.quiet silent
      constructor
      · rintro _ ⟨exchange, member, failing⟩
        rw [none exchange member] at failing
        cases failing
      · intro _
        refine ⟨fun _ => worked.atBoundary split halted interrupted silent, ?_⟩
        rintro ⟨exchange, member, _, failing⟩
        rw [none exchange member] at failing
        cases failing
  | failed split quiet failing silent =>
      rename_i front last reason
      have inside : last ∈ exchanges := by
        rw [worked.split, split]
        simp
      constructor
      · intro safe _ exchange member
        by_contra yes
        have cancelled := worked.interrupts_state split quiet silent member
          (Bool.eq_true_of_not_eq_false yes)
        exact worked.not_stopped split quiet failing silent (safe.cancelled cancelled).stopped
      · intro apart
        have handler := apart ⟨last, inside, failing⟩ _ worked.handler_mem
        have other : operation.state ≠ .cancelled := by
          intro cancelled
          rw [cancelled] at handler
          cases handler
        refine ⟨fun cancelled => absurd cancelled other, ?_⟩
        intro _
        rcases worked.concluded with cancelled | failed
        · exact absurd cancelled other
        · exact failed

end Worked

/-- A backup or a restore ends safely exactly when nothing raises while a cancellation is
pending. -/
theorem ended_safely_iff {settings : Settings} {operationId backupId : String}
    {exchanges : List RecoveryExchange} {operation : RecoveryOperation}
    (ran : Reaches (runBackup settings operationId backupId) exchanges (.done (some operation)) ∨
      Reaches (runRestore settings operationId backupId) exchanges (.done (some operation))) :
    EndedSafely settings exchanges operation ↔ NoneCancelled settings exchanges := by
  rcases ran with backup | restore
  · rcases ends_runBackup settings operationId backupId _ _ backup operation rfl with
      ⟨before, opening, body, raised, now, worked⟩
    exact worked.endedSafely_iff
  · rcases ends_runRestore settings operationId backupId _ _ restore operation rfl with
      ⟨before, opening, body, raised, now, worked, _⟩
    exact worked.endedSafely_iff

theorem ended_safely_iff_example :
    ∃ operation, EndedSafely exampleSettings
      (exampleRestore (requestedChecks.map passedItem)).1 operation := by
  have ended : ∃ operation,
      (exampleRestore (requestedChecks.map passedItem)).2 = some operation := ⟨_, rfl⟩
  have unchecked : (exampleRestore (requestedChecks.map passedItem)).1.all
      (fun exchange => !interrupts exchange) = true := rfl
  rcases ended with ⟨operation, ended⟩
  refine ⟨operation, (ended_safely_iff (.inr (exampleRestore_runs ended))).mpr ?_⟩
  intro _ exchange member
  simpa using List.all_eq_true.mp unchecked exchange member

/-- Surroundings in which a cancellation arrives while the verification fails. -/
def lateCancel (time : Nat) (request : RecoveryRequest) : RecoveryAnswer request :=
  match request with
  | .isCancelled _ => decide (50 ≤ time)
  | other => smoothAnswers [.obj [("state", .str "failed")]] other

/-- A restore whose verification failed is called cancelled at a safe boundary. -/
theorem failed_verification_cancelled :
    ∃ exchanges operation, Reaches (runRestore exampleSettings "recovery-1" "backup-1") exchanges
        (.done (some operation)) ∧ operation.state = .cancelled ∧
      operation.error = some restoreBoundary ∧
      ¬ EndedSafely exampleSettings exchanges operation := by
  have ran := playAt_reaches lateCancel 0 (runRestore exampleSettings "recovery-1" "backup-1")
  have ended : ∃ operation, ((runRestore exampleSettings "recovery-1" "backup-1").playAt
      lateCancel 0).2 = some operation ∧ operation.state = .cancelled ∧
      operation.error = some restoreBoundary := ⟨_, rfl, rfl, rfl⟩
  have failing : ((runRestore exampleSettings "recovery-1" "backup-1").playAt lateCancel 0).1.any
      (fun exchange => (verdict exchange).isSome && fails exampleSettings exchange) = true := rfl
  rcases ended with ⟨operation, ended, cancelled, error⟩
  rw [ended] at ran
  refine ⟨_, operation, ran, cancelled, error, ?_⟩
  intro safe
  rcases List.any_eq_true.mp failing with ⟨exchange, member, both⟩
  rw [Bool.and_eq_true] at both
  have called : calls exchange := .inr (fun none => by
    rw [none] at both
    cases both.1)
  have failed := safe.failed ⟨exchange, member, called, both.2⟩
  rw [cancelled] at failed
  cases failed

end FortifyLab.Recovery
