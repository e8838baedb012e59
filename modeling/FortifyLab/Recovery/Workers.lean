import FortifyLab.Library.Program
import FortifyLab.Recovery.Documents

/-! The recovery service: its calls and the two workers. -/

namespace FortifyLab.Recovery

/-- What `_start_worker` starts. -/
inductive Worker where
  | backup (operationId backupId : String)
  | restore (operationId backupId : String)
  deriving DecidableEq, Repr

/-- What the service asks: the clock, fresh identifiers, the store, the set of cancelled
operations and the adapter. Each statement of the store is preceded by `statement`, which
tells whether it runs. -/
inductive RecoveryRequest where
  | now
  | newUuid
  | statement
  | putOperation (document : RecoveryOperation)
  | readOperation (operationId : String)
  | putArtifact (document : Artifact) (complete : Bool)
  | readArtifact (backupId : String)
  | interruptActive (now : String)
  | serve
  | addCancelled (operationId : String)
  | isCancelled (operationId : String)
  | startWorker (worker : Worker)
  | adapterBackup (backupId : String) (scope : Scope)
  | adapterRestore (backupId : String) (scope : Scope)
  | adapterVerify (backupId : String) (checks : List String)

def RecoveryAnswer : RecoveryRequest → Type
  | .now => String
  | .newUuid => String
  | .statement => Except Raised Unit
  | .putOperation _ => Unit
  | .readOperation _ => Option RecoveryOperation
  | .putArtifact _ _ => Unit
  | .readArtifact _ => Option (Bool × Artifact)
  | .interruptActive _ => Unit
  | .serve => Unit
  | .addCancelled _ => Unit
  | .isCancelled _ => Bool
  | .startWorker _ => Unit
  | .adapterBackup _ _ => Except Raised Value
  | .adapterRestore _ _ => Except Raised Unit
  | .adapterVerify _ _ => Except Raised (List Value)

abbrev RecoveryProgram := Program RecoveryRequest RecoveryAnswer

def ask (request : RecoveryRequest) : RecoveryProgram (RecoveryAnswer request) :=
  Program.perform request

structure Settings where
  profileId : String
  destination : Destination
  sha256 : String → String
  render : Value → String

/-- One statement of the store; where it fails nothing changes. -/
def execute (request : RecoveryRequest) :
    RecoveryProgram (Except Raised (RecoveryAnswer request)) := do
  match ← ask .statement with
  | .error raised => return .error raised
  | .ok _ => return .ok (← ask request)

/-- `_save`: the updated document, and what the store raised. -/
def save (document : RecoveryOperation) : RecoveryProgram (Option Raised × RecoveryOperation) := do
  let now ← ask .now
  match ← execute (.putOperation { document with updatedAt := now }) with
  | .error raised => return (some raised, { document with updatedAt := now })
  | .ok _ => return (none, { document with updatedAt := now })

/-- `_check_cancelled`. -/
def checkCancelled (operationId : String) : RecoveryProgram (Option Raised) := do
  let cancelled : Bool ← ask (.isCancelled operationId)
  return if cancelled then some (.recovery "operation cancelled") else none

/-- The rounds of a loop until one raises. -/
def eachScope {P : Type} (round : Scope → P → RecoveryProgram (Option Raised × P)) :
    List Scope → P → RecoveryProgram (Option Raised × P)
  | [], progress => return (none, progress)
  | scope :: rest, progress => do
      let outcome ← round scope progress
      match outcome.1 with
      | some raised => return (some raised, outcome.2)
      | none => eachScope round rest outcome.2

/-- The start of a round: the check between scopes and the current scope. -/
def enterScope (operationId : String) (scope : Scope) (operation : RecoveryOperation) :
    RecoveryProgram (Option Raised × RecoveryOperation) := do
  match ← checkCancelled operationId with
  | some raised => return (some raised, operation)
  | none => save { operation with currentScope := some scope }

def RecoveryOperation.complete (operation : RecoveryOperation) (scope : Scope) :
    RecoveryOperation :=
  { operation with completedScopes := operation.completedScopes ++ [scope] }

/-! ## The backup worker -/

structure BackupProgress where
  operation : RecoveryOperation
  artifact : Artifact

/-- The adapter's answer for a scope. -/
def recordChecksum (scope : Scope) (progress : BackupProgress) (answer : Except Raised Value) :
    RecoveryProgram (Option Raised × BackupProgress) :=
  match answer.bind checksumOf with
  | .error raised => return (some raised, progress)
  | .ok checksum => do
      let saved ← save (progress.operation.complete scope)
      return (saved.1, ⟨saved.2, progress.artifact.withChecksum scope checksum⟩)

def backupScope (operationId : String) (scope : Scope) (progress : BackupProgress) :
    RecoveryProgram (Option Raised × BackupProgress) := do
  let entered ← enterScope operationId scope progress.operation
  match entered.1 with
  | some raised => return (some raised, { progress with operation := entered.2 })
  | none => do
      let answer ← ask (.adapterBackup progress.artifact.id scope)
      recordChecksum scope { progress with operation := entered.2 } answer

variable (settings : Settings)

def newArtifact (backupId createdAt : String) : Artifact where
  id := backupId
  profileId := settings.profileId
  scope := backupScopes
  destination := settings.destination
  createdAt := createdAt
  checksums := []
  manifestDigest := none

/-- The artifact with its digest. -/
def Artifact.finish (artifact : Artifact) : Artifact :=
  { artifact with manifestDigest := some (artifact.digest settings.sha256) }

/-- The end of the `try` block: the complete artifact. -/
def publish (progress : BackupProgress) : RecoveryProgram (Option Raised × BackupProgress) := do
  let finished := { progress with artifact := progress.artifact.finish settings }
  match ← execute (.putArtifact finished.artifact true) with
  | .error raised => return (some raised, finished)
  | .ok _ => return (none, finished)

/-- The `try` block of `_run_backup`. -/
def tryBackup (operationId : String) (progress : BackupProgress) :
    RecoveryProgram (Option Raised × BackupProgress) := do
  let started ← save { progress.operation with state := .running }
  match started.1 with
  | some raised => return (some raised, { progress with operation := started.2 })
  | none => do
      let outcome ← eachScope (backupScope operationId) backupScopes
        { progress with operation := started.2 }
      match outcome.1 with
      | some raised => return (some raised, outcome.2)
      | none => publish settings outcome.2

/-- The `except` block: `cancelled` or `failed`, and why. -/
def fail (boundary fallback : String) (raised : Raised) (operation : RecoveryOperation)
    (cancelled : Bool) : RecoveryOperation :=
  if cancelled then { operation with state := .cancelled, error := some boundary }
  else { operation with state := .failed, error := some (raised.safeText fallback) }

/-- What follows the `try` block. -/
def conclude (operationId boundary fallback : String) (raised : Option Raised)
    (operation : RecoveryOperation) : RecoveryProgram RecoveryOperation :=
  match raised with
  | none => return { operation with state := .succeeded }
  | some raised => do
      let cancelled ← ask (.isCancelled operationId)
      return fail boundary fallback raised operation cancelled

/-- The `finally` block: the document that was stored last, unless that failed. -/
def finish (operation : RecoveryOperation) : RecoveryProgram (Option RecoveryOperation) := do
  let saved ← save { operation with currentScope := none }
  return if saved.1.isNone then some saved.2 else none

def backupBoundary : String := "backup cancelled at a safe boundary"

def backupFallback : String := "backup failed; incomplete artifact cannot be restored"

/-- `_run_backup` once its row is read. -/
def workBackup (operationId backupId : String) (operation : RecoveryOperation) :
    RecoveryProgram (Option RecoveryOperation) := do
  let artifact := newArtifact settings backupId operation.createdAt
  match ← execute (.putArtifact artifact false) with
  | .error _ => return none
  | .ok _ => do
      let outcome ← tryBackup settings operationId ⟨operation, artifact⟩
      let concluded ← conclude operationId backupBoundary backupFallback outcome.1
        outcome.2.operation
      finish concluded

/-- `_run_backup`. -/
def runBackup (operationId backupId : String) :
    RecoveryProgram (Option RecoveryOperation) := do
  match ← execute (.readOperation operationId) with
  | .ok (some operation) => workBackup settings operationId backupId operation
  | _ => return none

/-! ## The restore worker -/

/-- `RecoveryStore.artifact`. -/
def completeArtifact (backupId : String) : RecoveryProgram (Except Raised Artifact) := do
  match ← execute (.readArtifact backupId) with
  | .error raised => return .error raised
  | .ok (some (true, artifact)) => return .ok artifact
  | .ok _ => return .error (.recovery "backup artifact is unavailable or incomplete")

def restoreScope (operationId backupId : String) (scope : Scope) (operation : RecoveryOperation) :
    RecoveryProgram (Option Raised × RecoveryOperation) := do
  let entered ← enterScope operationId scope operation
  match entered.1 with
  | some raised => return (some raised, entered.2)
  | none => do
      match ← ask (.adapterRestore backupId scope) with
      | .error raised => return (some raised, entered.2)
      | .ok _ => save (entered.2.complete scope)

/-- The evidence of the verification, or what it raises. -/
def judge (evidence : List Value) : Except Raised Unit :=
  match anyNotPassed evidence with
  | .error raised => .error raised
  | .ok failed =>
      if evidence.isEmpty || failed then
        .error (.recovery "application-level recovery verification failed")
      else .ok ()

def verifyRestore (backupId : String) (operation : RecoveryOperation) :
    RecoveryProgram (Option Raised × RecoveryOperation) := do
  match ← ask (.adapterVerify backupId requestedChecks) with
  | .error raised => return (some raised, operation)
  | .ok evidence =>
      match judge evidence with
      | .error raised => return (some raised, operation)
      | .ok _ => return (none,
          { operation with evidence := sanitizeEvidence settings.render evidence })

/-- The end of the `try` block: the verification. -/
def verifying (backupId : String) (operation : RecoveryOperation) :
    RecoveryProgram (Option Raised × RecoveryOperation) := do
  let saved ← save { operation with state := .verifying }
  match saved.1 with
  | some raised => return (some raised, saved.2)
  | none => verifyRestore settings backupId saved.2

/-- The `try` block of `_run_restore` once the artifact is accepted. -/
def restoreScopes (operationId backupId : String) (operation : RecoveryOperation) :
    RecoveryProgram (Option Raised × RecoveryOperation) := do
  let started ← save { operation with state := .running }
  match started.1 with
  | some raised => return (some raised, started.2)
  | none => do
      let outcome ← eachScope (restoreScope operationId backupId) backupScopes.reverse started.2
      match outcome.1 with
      | some raised => return (some raised, outcome.2)
      | none => verifying settings backupId outcome.2

/-- The `try` block of `_run_restore`. -/
def tryRestore (operationId backupId : String) (operation : RecoveryOperation) :
    RecoveryProgram (Option Raised × RecoveryOperation) := do
  match ← completeArtifact backupId with
  | .error raised => return (some raised, operation)
  | .ok artifact =>
      if artifact.profileId = settings.profileId then
        restoreScopes settings operationId backupId operation
      else return (some (.recovery "backup platform profile is incompatible"), operation)

def restoreBoundary : String :=
  "restore cancelled at a safe boundary; applications require verification"

def restoreFallback : String := "restore failed; follow the recovery plan"

/-- `_run_restore` once its row is read. -/
def workRestore (operationId backupId : String) (operation : RecoveryOperation) :
    RecoveryProgram (Option RecoveryOperation) := do
  let outcome ← tryRestore settings operationId backupId operation
  let concluded ← conclude operationId restoreBoundary restoreFallback outcome.1 outcome.2
  finish concluded

/-- `_run_restore`. -/
def runRestore (operationId backupId : String) :
    RecoveryProgram (Option RecoveryOperation) := do
  match ← execute (.readOperation operationId) with
  | .ok (some operation) => workRestore settings operationId backupId operation
  | _ => return none

/-! ## The calls -/

/-- `_new_operation` with its clock and its identifier. -/
def newOperation (action : RecoveryAction) (backupId actor now uuid : String) :
    RecoveryOperation where
  id := "recovery-" ++ uuid
  action := action
  backupId := backupId
  profileId := settings.profileId
  actor := String.ofList (actor.toList.take 128)
  state := .queued
  currentScope := none
  completedScopes := []
  cancellationRequested := false
  createdAt := now
  updatedAt := now
  evidence := []
  error := none

/-- The row of a new operation and its worker. -/
def launch (document : RecoveryOperation) (worker : Worker) :
    RecoveryProgram (Except Raised RecoveryOperation) := do
  match ← execute (.putOperation document) with
  | .error raised => return .error raised
  | .ok _ => do
      ask (.startWorker worker)
      return .ok document

/-- `submit_backup`. -/
def submitBackup (actor : String) : RecoveryProgram (Except Raised RecoveryOperation) := do
  let suffix : String ← ask .newUuid
  let now ← ask .now
  let uuid : String ← ask .newUuid
  let document := newOperation settings .backup ("backup-" ++ suffix) actor now uuid
  launch document (.backup document.id ("backup-" ++ suffix))

/-- `submit_restore` once the plan is compatible. -/
def acceptRestore (backupId actor : String) : RecoveryProgram (Except Raised RecoveryOperation) := do
  let now ← ask .now
  let uuid : String ← ask .newUuid
  let document := newOperation settings .restore backupId actor now uuid
  launch document (.restore document.id backupId)

/-- `submit_restore`. -/
def submitRestore (backupId actor : String) (confirmation : Option String) :
    RecoveryProgram (Except Raised RecoveryOperation) :=
  if confirmation = some restoreConfirmation then do
    match ← completeArtifact backupId with
    | .error raised => return .error raised
    | .ok artifact =>
        if artifact.profileId = settings.profileId then acceptRestore settings backupId actor
        else return .error (.recovery "backup platform profile is incompatible")
  else return .error (.recovery "restore requires the exact typed confirmation")

/-- `cancel` of an operation that has not ended. -/
def requestCancel (document : RecoveryOperation) :
    RecoveryProgram (Except Raised RecoveryOperation) := do
  ask (.addCancelled document.id)
  let saved ← save { document with cancellationRequested := true }
  match saved.1 with
  | some raised => return .error raised
  | none => return .ok saved.2

/-- `cancel`. -/
def cancel (operationId : String) : RecoveryProgram (Except Raised RecoveryOperation) := do
  match ← execute (.readOperation operationId) with
  | .error raised => return .error raised
  | .ok none => return .error (.recovery "recovery operation was not found")
  | .ok (some document) =>
      if document.state.terminal then return .ok document else requestCancel document

/-- The constructors of the store and the service. -/
def openStore : RecoveryProgram Unit := do
  let now ← ask .now
  match ← execute (.interruptActive now) with
  | .error _ => return ()
  | .ok _ => ask .serve

end FortifyLab.Recovery
