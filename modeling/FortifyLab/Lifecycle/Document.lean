import FortifyLab.Lifecycle.Plan

/-! The documents, events and rows of the operation store. -/

namespace FortifyLab.Lifecycle

open Registry

abbrev OperationId := String

/-- A time as the store keeps it. -/
abbrev Timestamp := String

inductive OperationState where
  | queued | running | cancelling | succeeded | failed | timedOut | cancelled | interrupted
  deriving DecidableEq, Repr, Inhabited

/-- `TERMINAL_STATES`. -/
def OperationState.terminal : OperationState → Bool
  | .succeeded | .failed | .timedOut | .cancelled | .interrupted => true
  | .queued | .running | .cancelling => false

/-- `TERMINAL_STATES - {"succeeded", "cancelled"}`. -/
def OperationState.retryable : OperationState → Bool
  | .failed | .timedOut | .interrupted => true
  | _ => false

theorem OperationState.terminal_of_retryable {state : OperationState}
    (retryable : state.retryable = true) : state.terminal = true := by
  cases state <;> first | rfl | cases retryable

inductive Workflow where
  | cleanInstall
  | lab (action : LabAction)
  deriving DecidableEq, Repr

structure CurrentStep where
  number : Nat
  component : ComponentId
  operation : Operation
  attempt : Nat
  deriving DecidableEq, Repr

structure Recovery where
  required : Bool
  boundary : RecoveryClass
  nextAction : Option String
  deriving DecidableEq, Repr, Inhabited

structure Document where
  id : OperationId
  operation : Operation
  components : List ComponentId
  requestedTargets : List ComponentId
  actor : String
  state : OperationState
  createdAt : Timestamp
  updatedAt : Timestamp
  currentStep : Option CurrentStep
  completedSteps : Nat
  totalSteps : Nat
  retryOf : Option OperationId
  error : Option String
  recovery : Recovery
  workflow : Option Workflow
  profileId : Option String
  labAction : Option LabAction
  selectedComponent : Option ComponentId
  deriving DecidableEq, Repr, Inhabited

inductive Event where
  | stepSucceeded (component : ComponentId) (operation : Operation) (attempt : Nat)
      (at_ : Timestamp)
  | attemptFailed (component : ComponentId) (operation : Operation) (attempt : Nat)
      (retrying : Bool) (at_ : Timestamp)
  | stepResumed (component : ComponentId) (operation : Operation) (at_ : Timestamp)
  | cancellationRequested (actor : String) (at_ : Timestamp)
  | managerRestarted (at_ : Timestamp)
  deriving DecidableEq, Repr

/-- A row of `lifecycle_operations`; the id column is the payload's id. -/
structure Row where
  state : OperationState
  payload : Document
  deriving DecidableEq, Repr

/-- The text of `nextAction` for a recovery class. -/
def RecoveryClass.nextAction : RecoveryClass → String
  | .reversible =>
      "Review evidence and retry the idempotent action or apply its declared inverse."
  | .compensatingAction =>
      "Review completed steps and run the documented compensating action."
  | .restoreRequired =>
      "Do not claim Helm rollback; restore and verify the bound backup before retrying."
  | .irreversible =>
      "Stop automation and follow the documented manual recovery procedure."

/-- The operation a document was working on: its current step's, else its own. -/
def Document.currentOperation (document : Document) : Operation :=
  match document.currentStep with
  | some current => current.operation
  | none => document.operation

/-- `_set_recovery`. -/
def Document.setRecovery (document : Document) : Document :=
  { document with recovery :=
    { required := true
      boundary := document.currentOperation.recoveryClass
      nextAction := some document.currentOperation.recoveryClass.nextAction } }

/-- `_set_interrupted_recovery`. -/
def Document.setInterruptedRecovery (document : Document) : Document :=
  { document with recovery :=
    { required := true
      boundary := document.currentOperation.recoveryClass
      nextAction := some ("Review retained evidence and authoritative health before retrying; " ++
        "a Manager restart does not prove rollback.") } }

/-- `_plan_recovery_boundary`: the greatest class; there is none without steps. -/
def planRecoveryBoundary (steps : List Step) : Option RecoveryClass :=
  (steps.map Step.recoveryClass).foldl
    (fun greatest recoveryClass => match greatest with
      | none => some recoveryClass
      | some other => if other.precedence < recoveryClass.precedence then some recoveryClass
          else some other) none

/-- The pair a step and its events are known by. -/
abbrev StepKey := ComponentId × Operation

def Step.key (step : Step) : StepKey := (step.componentId, step.operation)

/-- The pair a `step-succeeded` or `step-resumed` event reports. -/
def Event.completedKey : Event → Option StepKey
  | .stepSucceeded component operation _ _ => some (component, operation)
  | .stepResumed component operation _ => some (component, operation)
  | _ => none

/-- What a retry skips: the pairs its parent's events report as completed. -/
def completedKeys (events : List Event) : List StepKey :=
  events.filterMap Event.completedKey

/-- The steps of a plan that are not among the completed pairs. -/
def remainingSteps (steps : List Step) (completed : List StepKey) : List Step :=
  steps.filter (fun step => decide (step.key ∉ completed))

/-- The steps of a plan that are among the completed pairs. -/
def resumedSteps (steps : List Step) (completed : List StepKey) : List Step :=
  steps.filter (fun step => decide (step.key ∈ completed))

end FortifyLab.Lifecycle
