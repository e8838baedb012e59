import FortifyLab.Lifecycle.Request

/-! `_run`: the execution of an accepted operation. -/

namespace FortifyLab.Lifecycle

open Registry

/-- `_save`. -/
def save (document : Document) : Act Document := do
  let now ← ask .now
  let document := { document with updatedAt := now }
  ask (.updateRow document)
  return document

/-- `_check_boundary`. -/
def checkBoundary (operationId : OperationId) (deadline : ℚ) : ExceptT Raised Act Unit := do
  if ← ask (.isCancelled operationId) then throw .stepCancelled
  if deadline ≤ (← ask .monotonic) then throw .stepTimedOut

/-- The loop over the checks of a step. -/
def verifyChecks (operationId : OperationId) (step : Step) (deadline : ℚ) :
    List String → ExceptT Raised Act Unit
  | [] => return ()
  | checkId :: rest => do
      checkBoundary operationId deadline
      if ← ExceptT.mk (ask (.verify operationId step.componentId checkId deadline)) then
        verifyChecks operationId step deadline rest
      else throw .other

/-- The `try` block of `_execute_step`. -/
def tryStep (operationId : OperationId) (step : Step) (attempt : Nat) (deadline : ℚ) :
    ExceptT Raised Act Unit := do
  checkBoundary operationId deadline
  ExceptT.mk (ask (.execute operationId step deadline))
  verifyChecks operationId step deadline step.verify
  let now ← ask .now
  ask (.addEvent operationId (.stepSucceeded step.componentId step.operation attempt now))

/-- `document["currentStep"]["attempt"] = attempt`. -/
def Document.withAttempt (document : Document) (attempt : Nat) : Document :=
  { document with
    currentStep := document.currentStep.map (fun current => { current with attempt := attempt }) }

/-- The loop over the attempts of a step. -/
def executeAttempts (step : Step) : Nat → Nat → Document → Act (Document × Option Raised)
  | 0, _, document => return (document, none)
  | remaining + 1, attempt, document => do
      let document ← save (document.withAttempt attempt)
      let started ← ask .monotonic
      match ← (tryStep document.id step attempt (started + step.timeoutSeconds)).run with
      | .ok () => return (document, none)
      | .error .stepCancelled => return (document, some .stepCancelled)
      | .error .stepTimedOut => return (document, some .stepTimedOut)
      | .error .other => do
          let now ← ask .now
          ask (.addEvent document.id (.attemptFailed step.componentId step.operation attempt
            (decide (attempt < step.maxAttempts)) now))
          if attempt = step.maxAttempts then return (document, some .other)
          else executeAttempts step remaining (attempt + 1) document

/-- `_execute_step`. -/
def executeStep (document : Document) (step : Step) : Act (Document × Option Raised) :=
  executeAttempts step step.maxAttempts 1 document

/-- The loop of `_run`; `index` is the number of the next step. -/
def runSteps : Nat → List Step → Document → Act (Document × Option Raised)
  | _, [], document => return (document, none)
  | index, step :: rest, document => do
      let document ← save { document with
        currentStep := some ⟨index, step.componentId, step.operation, 0⟩ }
      match ← executeStep document step with
      | (document, some raised) => return (document, some raised)
      | (document, none) => do
          let document ← save { document with completedSteps := index }
          runSteps (index + 1) rest document

/-- The final state of `_run` for what its loop raised, if anything. -/
def conclude (document : Document) : Option Raised → Document
  | none => { document with state := .succeeded, currentStep := none, error := none }
  | some .stepCancelled =>
      { document with state := .cancelled, error := some "Operation was cancelled" }.setRecovery
  | some .stepTimedOut =>
      { document with
        state := .timedOut
        error := some "A step exceeded its bounded deadline" }.setRecovery
  | some .other =>
      { document with
        state := .failed
        error := some "A lifecycle step failed; inspect sanitized events" }.setRecovery

/-- `_run`. -/
def run (document : Document) (steps : List Step) : Act Unit := do
  let document ← save { document with state := .running }
  let (document, raised) ← runSteps (document.completedSteps + 1) steps document
  let document := conclude document raised
  ask (.discardCancelled document.id)
  let _ ← save document
  return ()

/-- `_run_worker`. -/
def runWorker (document : Document) (steps : List Step) : Act Unit := do
  run document steps
  ask .acquire
  ask (.discardWorker document.id)
  ask .release

/-- `_start_worker`. -/
def startWorker (document : Document) (steps : List Step) : Act Unit := do
  ask .acquire
  ask (.addWorker document.id)
  ask .release
  ask (.startWorker document steps)

end FortifyLab.Lifecycle
