import FortifyLab.Library.Trace
import FortifyLab.Upgrade.Submission

/-! The thread that executes an accepted plan and recovers from its failures. -/

namespace FortifyLab.Upgrade

open Registry Authorization

/-- What the thread asks: the cancel flag, the clocks, the adapter, the verifier and
the store. An adapter, a verifier or the store may raise. -/
inductive UpgradeRequest where
  | cancelled
  | now
  | monotonic
  | upgrade (component : ComponentId) (version : ComponentVersion) (deadline : Int)
  | rollbackCallable
  | rollback (component : ComponentId) (version : ComponentVersion) (deadline : Int)
  | verifyLayer (component : ComponentId) (deadline : Int)
  | put (document : UpgradeOperation)

def UpgradeAnswer : UpgradeRequest → Type
  | .cancelled => Bool
  | .now => Instant
  | .monotonic => Int
  | .upgrade _ _ _ => Except Unit Unit
  | .rollbackCallable => Bool
  | .rollback _ _ _ => Except Unit Unit
  | .verifyLayer _ _ => Except Unit Bool
  | .put _ => Except Unit Unit

abbrev UpgradeProgram := Program UpgradeRequest UpgradeAnswer

def ask (request : UpgradeRequest) : UpgradeProgram (UpgradeAnswer request) :=
  Program.perform request

/-- `_save`: the updated document, and whether the store took it. -/
def save (operation : UpgradeOperation) : UpgradeProgram (Bool × UpgradeOperation) := do
  let now ← ask .now
  let stored ← ask (.put { operation with updatedAt := now })
  return (stored.toBool, { operation with updatedAt := now })

/-- The local state of `_run`. -/
structure Progress where
  operation : UpgradeOperation
  mutated : List ComponentId

/-- How the loop over the steps ends. -/
inductive Ending where
  | finished | cancelled | timedOut | raised
  deriving DecidableEq, Repr

def saveProgress (progress : Progress) : UpgradeProgram (Bool × Progress) := do
  let saved ← save progress.operation
  return (saved.1, { progress with operation := saved.2 })

def Progress.record (progress : Progress) (evidence : UpgradeEvidence) : Progress :=
  { progress with operation.evidence := progress.operation.evidence ++ [evidence] }

section Run

variable (plan : ProfileUpgradePlan) (target : PlatformProfile) (deadline : Int)

/-- The adapter call of a changed component; `false` when something raised. -/
def applyUpgrade (step : UpgradeStep) (progress : Progress) : UpgradeProgram (Bool × Progress) :=
  if step.component ∈ plan.body.components then
    match target.componentVersion step.component with
    | .error _ => return (false, progress)
    | .ok version => do
        match ← ask (.upgrade step.component version deadline) with
        | .error _ => return (false, progress)
        | .ok _ =>
            let now ← ask .now
            let mutated := { progress with mutated := progress.mutated ++ [step.component] }
            saveProgress (mutated.record
              (.mutationCompleted step.component step.recoveryClass now))
  else return (true, progress)

/-- What follows the verifier's answer. -/
def afterVerification (step : UpgradeStep) (progress : Progress) :
    Except Unit Bool → UpgradeProgram (Option Ending × Progress)
  | .ok true => do
      let now ← ask .now
      let completed := { progress with
        operation.completedComponents := progress.operation.completedComponents ++ [step.component] }
      let saved ← saveProgress (completed.record (.healthVerified step.component now))
      return (if saved.1 then none else some .raised, saved.2)
  | _ => return (some .raised, progress)

/-- The deadline check and the verification, `time` after the upgrade was applied. -/
def verifyAt (step : UpgradeStep) (progress : Progress) (time : Int) :
    UpgradeProgram (Option Ending × Progress) :=
  if deadline ≤ time then
    return (some .timedOut, progress)
  else do
    let answer ← ask (.verifyLayer step.component deadline)
    afterVerification step progress answer

/-- The rest of a step once the upgrade is applied. -/
def verifyStep (step : UpgradeStep) (progress : Progress) :
    UpgradeProgram (Option Ending × Progress) := do
  let time ← ask .monotonic
  verifyAt deadline step progress time

/-- The step of an announced component. -/
def upgradeStep (step : UpgradeStep) (progress : Progress) :
    UpgradeProgram (Option Ending × Progress) := do
  let applied ← applyUpgrade plan target deadline step progress
  if applied.1 then
    verifyStep deadline step applied.2
  else return (some .raised, applied.2)

/-- One round of the loop; `none` goes on with the next step. -/
def runStep (step : UpgradeStep) (progress : Progress) :
    UpgradeProgram (Option Ending × Progress) := do
  let cancelled : Bool ← ask .cancelled
  if cancelled = true then
    return (some .cancelled, progress)
  else
    let started ← saveProgress { progress with operation.currentComponent := some step.component }
    if started.1 then
      upgradeStep plan target deadline step started.2
    else return (some .raised, started.2)

def runSteps : List UpgradeStep → Progress → UpgradeProgram (Ending × Progress)
  | [], progress => return (.finished, progress)
  | step :: rest, progress => do
      let outcome ← runStep plan target deadline step progress
      match outcome.1 with
      | none => runSteps rest outcome.2
      | some ending => return (ending, outcome.2)

/-- `classes[component]`. -/
def recordedClass (component : ComponentId) : Option RecoveryClass :=
  (plan.body.steps.reverse.find? (fun step => step.component == component)).map
    UpgradeStep.recoveryClass

/-- An adapter error cannot prove that the mutation was not applied. -/
def touchedComponents (progress : Progress) : List ComponentId :=
  match progress.operation.currentComponent with
  | some current =>
      if current ∈ plan.body.components ∧ current ∉ progress.mutated then
        progress.mutated ++ [current]
      else progress.mutated
  | none => progress.mutated

/-- The recovery classes that block the automatic rollback. -/
def RecoveryClass.blocks (recoveryClass : RecoveryClass) : Bool :=
  recoveryClass = .restoreRequired || recoveryClass = .irreversible

def blockedComponents (touched : List ComponentId) : List ComponentId :=
  touched.filter (fun component => (recordedClass plan component).any RecoveryClass.blocks)

def UpgradeOperation.record (operation : UpgradeOperation) (evidence : UpgradeEvidence) :
    UpgradeOperation := { operation with evidence := operation.evidence ++ [evidence] }

/-- The loop of `_recover`: whether every rollback was verified, what it restored
and the document. -/
def restoreEach : List ComponentId → List ComponentId → UpgradeOperation →
    UpgradeProgram (Bool × List ComponentId × UpgradeOperation)
  | [], restored, operation => return (true, restored, operation)
  | component :: rest, restored, operation =>
      match plan.body.sourceProfile.versions.lookup component with
      | none => return (false, restored, operation)
      | some version => do
          match ← ask (.rollback component version deadline) with
          | .error _ => return (false, restored, operation)
          | .ok _ =>
              match ← ask (.verifyLayer component deadline) with
              | .ok true =>
                  let now ← ask .now
                  restoreEach rest (restored ++ [component])
                    (operation.record (.rollbackVerified component now))
              | _ => return (false, restored, operation)

/-- What `_recover` records after its loop. -/
def afterRestoring (outcome : Bool × List ComponentId × UpgradeOperation) :
    UpgradeProgram UpgradeOperation :=
  if outcome.1 then
    return { outcome.2.2 with
      recovery.status := .rolledBack
      recovery.action := some "Review rollback health evidence before creating a fresh plan." }
  else do
    let now ← ask .now
    return ({ outcome.2.2 with
      recovery.status := .compensatingActionRequired
      recovery.action := some ("Automatic rollback did not verify; stop automation and " ++
        "review retained evidence.") }).record (.rollbackFailed outcome.2.1 now)

/-- The part of `_recover` that rolls back. -/
def rollBack (touched : List ComponentId) (operation : UpgradeOperation) :
    UpgradeProgram UpgradeOperation := do
  let callable : Bool ← ask .rollbackCallable
  if callable = true then
    restoreEach plan deadline touched.reverse [] operation >>= afterRestoring
  else
    return { operation with
      recovery.status := .compensatingActionRequired
      recovery.action := some ("Review retained evidence and apply the documented " ++
        "compensating action.") }

/-- The part of `_recover` for a run that touched nothing. -/
def recoverNothing (operation : UpgradeOperation) : UpgradeProgram UpgradeOperation := do
  let now ← ask .now
  return ({ operation with
    recovery.required := false
    recovery.status := .notRequired
    recovery.action := some ("No mutation was recorded; review authoritative health " ++
      "before replanning.") }).record (.recoveryNotRequired now)

/-- The part of `_recover` for a run that touched some components. -/
def recoverTouched (touched : List ComponentId) (operation : UpgradeOperation) :
    UpgradeProgram UpgradeOperation :=
  match blockedComponents plan touched with
  | [] => rollBack plan deadline touched operation
  | first :: others => do
      let now ← ask .now
      return ({ operation with
        recovery.status := .restoreRequired
        recovery.action := some (if operation.recovery.backupVerified then
            "Restore and verify the bound backup before retrying."
          else "Stop: no verified bound backup is available for recovery.") }).record
        (.automaticRollbackBlocked (first :: others)
          ((recordedClass plan first).getD .reversible) now)

/-- `_recover`. -/
def recover (progress : Progress) : UpgradeProgram UpgradeOperation :=
  match touchedComponents plan progress with
  | [] => recoverNothing progress.operation
  | first :: others =>
      recoverTouched plan deadline (first :: others)
        { progress.operation with recovery.required := true }

/-- The document that the `finally` clause saves. -/
def conclude (ending : Ending) (progress : Progress) : UpgradeProgram UpgradeOperation :=
  match ending with
  | .finished =>
      return { progress.operation with state := .succeeded, currentComponent := none }
  | .cancelled =>
      recover plan deadline { progress with operation.state := .cancelled }
  | .timedOut =>
      recover plan deadline { progress with
        operation.state := .timedOut
        operation.error := some "profile upgrade exceeded its bounded timeout" }
  | .raised =>
      recover plan deadline { progress with
        operation.state := .failed
        operation.error := some ("upgrade failed; inspect component health and follow the " ++
          "plan recovery boundary") }

end Run

/-- The `try` block of `_run` and the clauses after it. -/
def execute (plan : ProfileUpgradePlan) (target : PlatformProfile) (operation : UpgradeOperation)
    (deadline : Int) : UpgradeProgram Unit := do
  let outcome ← runSteps plan target deadline plan.body.steps ⟨operation, []⟩
  let concluded ← conclude plan deadline outcome.1 outcome.2
  let _ ← save concluded
  return ()

/-- `_run` on the document it read from the store. -/
def run (plan : ProfileUpgradePlan) (target : PlatformProfile) (operation : UpgradeOperation) :
    UpgradeProgram Unit := do
  let started ← save { operation with state := .running }
  if started.1 then
    let time : Int ← ask .monotonic
    execute plan target started.2 (time + plan.body.timeoutSeconds)
  else return ()

end FortifyLab.Upgrade
