import FortifyLab.Recovery.Traces

/-! What a succeeded restore was verified by. -/

namespace FortifyLab.Recovery

open Program

/-- The item's state is `passed`. -/
def Passed (item : Value) : Prop := item.get "state" = some (.str "passed")

/-- Every requested check has an item that passed. -/
def Covers (evidence : List Value) : Prop :=
  ∀ check ∈ requestedChecks, ∃ item ∈ evidence,
    item.get "check" = some (.str check) ∧ Passed item

/-- All scopes were restored, in the reverse of the backup's order and each once, and the
evidence covers the requested checks and has no item in another state. -/
structure Verified (settings : Settings) (backupId : String)
    (exchanges : List RecoveryExchange) : Prop where
  scopes : startedScopes exchanges = backupScopes.reverse
  completed : ∀ exchange ∈ exchanges, startedScope exchange ≠ none →
    fails settings exchange = false
  verified : ∃ evidence,
    ⟨backupId, requestedChecks, .ok evidence⟩ ∈ verdicts exchanges ∧ Covers evidence ∧
      ∀ item ∈ evidence, Passed item

theorem anyNotPassed_ok {evidence : List Value} :
    anyNotPassed evidence = .ok false ↔ ∀ item ∈ evidence, Passed item := by
  induction evidence with
  | nil => simp [anyNotPassed]
  | cons item rest ih =>
      cases item with
      | obj fields =>
          unfold anyNotPassed
          cases found : fields.lookup "state" with
          | none => simp [Passed, Value.get, found]
          | some value =>
              by_cases passed : value = .str "passed"
              · simp [Passed, Value.get, found, passed, Value.isText, ih]
              · have other : value.isText "passed" = false := by
                  rw [← Bool.not_eq_true, Value.isText_iff]
                  exact passed
                simp [Passed, Value.get, found, passed, other]
      | null => simp [anyNotPassed, Passed, Value.get]
      | bool value => simp [anyNotPassed, Passed, Value.get]
      | int value => simp [anyNotPassed, Passed, Value.get]
      | float value => simp [anyNotPassed, Passed, Value.get]
      | str text => simp [anyNotPassed, Passed, Value.get]
      | arr items => simp [anyNotPassed, Passed, Value.get]

/-- The evidence is accepted when there is some and all of it passed. -/
theorem judge_ok {evidence : List Value} :
    judge evidence = .ok () ↔ evidence ≠ [] ∧ ∀ item ∈ evidence, Passed item := by
  rw [← anyNotPassed_ok]
  unfold judge
  cases anyNotPassed evidence with
  | error raised => simp
  | ok failed =>
      cases failed with
      | true => simp
      | false =>
          cases evidence with
          | nil => simp
          | cons item rest => simp

theorem startedScopes_stored (now : String) (operation : RecoveryOperation) :
    startedScopes (stored now operation) = [] := rfl

theorem verdicts_stored (now : String) (operation : RecoveryOperation) :
    verdicts (stored now operation) = [] := rfl

/-- The verifications of a whole run are those of its `try` block. -/
theorem Worked.verdicts {settings : Settings} {planned before : List Scope} {operationId : String}
    {opening body exchanges : List RecoveryExchange} {raised : Option Raised} {now : String}
    {operation : RecoveryOperation}
    (worked : Worked settings planned before operationId opening body raised now operation
      exchanges) : Recovery.verdicts exchanges = Recovery.verdicts body := by
  have handler : Recovery.verdicts (handled operationId raised operation.state) = [] := by
    cases raised with
    | none => rfl
    | some raised => rfl
  rw [worked.split, verdicts_append, verdicts_append, verdicts_append, worked.unjudged, handler,
    verdicts_stored, List.nil_append, List.nil_append, List.append_nil]

theorem Worked.startedScopes {settings : Settings} {planned before : List Scope}
    {operationId : String} {opening body exchanges : List RecoveryExchange}
    {raised : Option Raised} {now : String} {operation : RecoveryOperation}
    (worked : Worked settings planned before operationId opening body raised now operation
      exchanges) : Recovery.startedScopes exchanges = Recovery.startedScopes body := by
  have handler : Recovery.startedScopes (handled operationId raised operation.state) = [] := by
    cases raised with
    | none => rfl
    | some raised => rfl
  rw [worked.split, startedScopes_append, startedScopes_append, startedScopes_append,
    worked.unstarted, handler, startedScopes_stored, List.nil_append, List.nil_append,
    List.append_nil]

/-- Only a `try` block that raised is followed by another state than `succeeded`. -/
theorem Worked.raised_of_succeeded {settings : Settings} {planned before : List Scope}
    {operationId : String} {opening body exchanges : List RecoveryExchange}
    {raised : Option Raised} {now : String} {operation : RecoveryOperation}
    (worked : Worked settings planned before operationId opening body raised now operation
      exchanges) (succeeded : operation.state = .succeeded) : raised = none := by
  cases raised with
  | none => rfl
  | some raised =>
      rcases worked.concluded with cancelled | failed
      · rw [succeeded] at cancelled
        cases cancelled
      · rw [succeeded] at failed
        cases failed

theorem fails_of_mem_closing {settings : Settings} {operationId now : String}
    {raised : Option Raised} {operation : RecoveryOperation} {exchange : RecoveryExchange}
    (member : exchange ∈ handled operationId raised operation.state ++ stored now operation) :
    fails settings exchange = false := by
  rcases List.mem_append.mp member with handler | last
  · cases raised with
    | none => cases handler
    | some raised =>
        cases List.mem_singleton.mp handler
        rfl
  · exact (quiet_stored settings now operation exchange last).1

/-- A restore that succeeded was verified exactly when accepted evidence covers the
requested checks. -/
theorem restore_verified_iff {settings : Settings} {operationId backupId : String}
    {exchanges : List RecoveryExchange} {operation : RecoveryOperation}
    (ran : Reaches (runRestore settings operationId backupId) exchanges
      (.done (some operation))) :
    (operation.state = .succeeded → Verified settings backupId exchanges) ↔
      ∀ evidence, ⟨backupId, requestedChecks, .ok evidence⟩ ∈ verdicts exchanges →
        evidence ≠ [] → (∀ item ∈ evidence, Passed item) → Covers evidence := by
  rcases ends_runRestore settings operationId backupId _ _ ran operation rfl with
    ⟨before, opening, body, raised, now, worked, judged⟩
  constructor
  · intro verified evidence heard some passed
    have accepted : judge evidence = .ok () := judge_ok.mpr ⟨some, passed⟩
    cases raised with
    | some raised =>
        rw [worked.verdicts] at heard
        exact absurd accepted (judged _ _ _ heard)
    | none =>
        rcases judged with ⟨own, single, _⟩
        rcases (verified worked.concluded).verified with ⟨other, told, covers, _⟩
        rw [worked.verdicts, single, List.mem_singleton] at heard told
        cases heard
        cases told
        exact covers
  · intro covered succeeded
    cases worked.raised_of_succeeded succeeded
    rcases judged with ⟨evidence, single, accepted⟩
    rcases judge_ok.mp accepted with ⟨some, passed⟩
    have heard : ⟨backupId, requestedChecks, .ok evidence⟩ ∈ verdicts exchanges := by
      rw [worked.verdicts, single]
      exact List.mem_singleton_self _
    cases worked.halts with
    | finished halted all =>
        refine ⟨worked.startedScopes.trans all, ?_, evidence, heard, ?_, passed⟩
        · intro exchange member _
          rw [worked.split] at member
          rcases List.mem_append.mp member with early | rest
          · exact (worked.quiet exchange early).1
          · rcases List.mem_append.mp rest with inside | late
            · exact (halted.quiet exchange inside).1
            · exact fails_of_mem_closing late
        · exact covered evidence heard some passed

/-! ## A helper that answers with one item -/

def exampleSettings : Settings where
  profileId := "full"
  destination := ⟨"primary", "local-protected", 30⟩
  sha256 := fun _ => "0"
  render value := match value with
    | .str text => text
    | _ => ""

def exampleOperation : RecoveryOperation :=
  newOperation exampleSettings .restore "backup-1" "operator" "2026-01-01T00:00:00Z" "1"

/-- Surroundings in which every call succeeds and the helper has the given evidence. -/
def smoothAnswers (evidence : List Value) : (request : RecoveryRequest) → RecoveryAnswer request
  | .now => "2026-01-01T00:00:00Z"
  | .newUuid => "2"
  | .statement => .ok ()
  | .putOperation _ => ()
  | .readOperation _ => some exampleOperation
  | .putArtifact _ _ => ()
  | .readArtifact backupId =>
      some (true, newArtifact exampleSettings backupId "2026-01-01T00:00:00Z")
  | .interruptActive _ => ()
  | .serve => ()
  | .addCancelled _ => ()
  | .isCancelled _ => false
  | .startWorker _ => ()
  | .adapterBackup _ _ => .ok (.obj [("checksum", .str "sha256:0")])
  | .adapterRestore _ _ => .ok ()
  | .adapterVerify _ _ => .ok evidence

def passedItem (check : String) : Value :=
  .obj [("check", .str check), ("state", .str "passed")]

/-- The restore of a helper with the given evidence. -/
def exampleRestore (evidence : List Value) : List RecoveryExchange × Option RecoveryOperation :=
  (runRestore exampleSettings "recovery-1" "backup-1").play (smoothAnswers evidence)

/-- A restore that ended with a document. -/
theorem exampleRestore_runs {evidence : List Value} {operation : RecoveryOperation}
    (ended : (exampleRestore evidence).2 = some operation) :
    Reaches (runRestore exampleSettings "recovery-1" "backup-1") (exampleRestore evidence).1
      (.done (some operation)) := by
  rw [← ended]
  exact play_reaches _ _

theorem restore_verified_iff_example :
    Verified exampleSettings "backup-1" (exampleRestore (requestedChecks.map passedItem)).1 := by
  have ended : ∃ operation, (exampleRestore (requestedChecks.map passedItem)).2 = some operation ∧
      operation.state = .succeeded := ⟨_, rfl, rfl⟩
  have asked : verdicts (exampleRestore (requestedChecks.map passedItem)).1 =
      [⟨"backup-1", requestedChecks, .ok (requestedChecks.map passedItem)⟩] := rfl
  rcases ended with ⟨operation, ended, succeeded⟩
  refine (restore_verified_iff (exampleRestore_runs ended)).mpr ?_ succeeded
  intro evidence heard _ _
  rw [asked, List.mem_singleton] at heard
  cases heard
  intro check member
  exact ⟨passedItem check, List.mem_map_of_mem member, rfl, rfl⟩

/-- One passed item of another check is enough for a restore to succeed. -/
theorem restore_succeeds_unverified :
    ∃ exchanges operation, Reaches (runRestore exampleSettings "recovery-1" "backup-1") exchanges
        (.done (some operation)) ∧ operation.state = .succeeded ∧
      ¬ Verified exampleSettings "backup-1" exchanges := by
  have ended : ∃ operation, (exampleRestore [passedItem "helper-alive"]).2 = some operation ∧
      operation.state = .succeeded := ⟨_, rfl, rfl⟩
  have asked : verdicts (exampleRestore [passedItem "helper-alive"]).1 =
      [⟨"backup-1", requestedChecks, .ok [passedItem "helper-alive"]⟩] := rfl
  rcases ended with ⟨operation, ended, succeeded⟩
  refine ⟨_, operation, exampleRestore_runs ended, succeeded, ?_⟩
  intro verified
  rcases verified.verified with ⟨evidence, heard, covers, _⟩
  rw [asked, List.mem_singleton] at heard
  cases heard
  rcases covers "mysql-query" (by decide) with ⟨item, member, checked, _⟩
  cases List.mem_singleton.mp member
  simp [passedItem, Value.get] at checked

end FortifyLab.Recovery
