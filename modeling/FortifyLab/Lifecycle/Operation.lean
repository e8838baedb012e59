import Mathlib.Algebra.Order.Ring.Rat
import Mathlib.Tactic.NormNum
import FortifyLab.Registry.ComponentRegistry

/-! Operations, recovery classes, errors and steps of the lifecycle engine. -/

namespace FortifyLab.Lifecycle

open Registry

inductive Operation where
  | install | configure | start | stop | restart | upgrade | uninstall | deleteData
  deriving DecidableEq, Repr, Inhabited

def Operation.name : Operation → String
  | .install => "install"
  | .configure => "configure"
  | .start => "start"
  | .stop => "stop"
  | .restart => "restart"
  | .upgrade => "upgrade"
  | .uninstall => "uninstall"
  | .deleteData => "delete-data"

def startOperations : List Operation := [.install, .configure, .start, .upgrade]

def stopOperations : List Operation := [.stop, .uninstall, .deleteData]

def requestOperations : List Operation := startOperations ++ stopOperations ++ [.restart]

/-- The request operation of this name; `none` outside `REQUEST_OPERATIONS`. -/
def requestOperation (name : String) : Option Operation :=
  requestOperations.find? (fun operation => operation.name == name)

theorem requestOperation_name (operation : Operation) :
    requestOperation operation.name = some operation := by
  cases operation <;> decide

inductive LabAction where
  | deploy | start | suspend
  deriving DecidableEq, Repr

def LabAction.name : LabAction → String
  | .deploy => "deploy"
  | .start => "start"
  | .suspend => "suspend"

/-- `LAB_ACTIONS`. -/
def LabAction.operation : LabAction → Operation
  | .deploy => .install
  | .start => .start
  | .suspend => .stop

def labAction (name : String) : Option LabAction :=
  [LabAction.deploy, .start, .suspend].find? (fun action => action.name == name)

theorem labAction_name (action : LabAction) : labAction action.name = some action := by
  cases action <;> decide

theorem eq_name_of_labAction {name : String} {action : LabAction}
    (known : labAction name = some action) : name = action.name := by
  have found := List.find?_some known
  exact (eq_of_beq found).symm

inductive RecoveryClass where
  | reversible | compensatingAction | restoreRequired | irreversible
  deriving DecidableEq, Repr, Inhabited

/-- `RECOVERY_CLASS_BY_OPERATION`. -/
def Operation.recoveryClass : Operation → RecoveryClass
  | .install => .compensatingAction
  | .configure => .reversible
  | .start => .reversible
  | .stop => .reversible
  | .restart => .reversible
  | .upgrade => .restoreRequired
  | .uninstall => .compensatingAction
  | .deleteData => .irreversible

/-- The order `reversible < … < irreversible` of `_plan_recovery_boundary`. -/
def RecoveryClass.precedence : RecoveryClass → Nat
  | .reversible => 0
  | .compensatingAction => 1
  | .restoreRequired => 2
  | .irreversible => 3

inductive ErrorCode where
  | operationFailed | invalidOperation | dependencyBlocked | operationConflict
  | operationNotFound | preflightBlocked | existingInstallation
  | operationTimeout | operationCancelled
  deriving DecidableEq, Repr

/-- Everything an engine call can raise; an insert under a taken id is an integrity error. -/
inductive Failure where
  | operation (code : ErrorCode) (message : String)
  | registry (error : RegistryError)
  | authorization (message : String)
  | approvalUnavailable (message : String)
  | missingKey (key : String)
  | emptySequence
  | invalidIdentity
  | integrityError
  deriving DecidableEq, Repr

abbrev Failure.invalidOperation (message : String) : Failure := .operation .invalidOperation message

abbrev Failure.dependencyBlocked : Failure :=
  .operation .dependencyBlocked "dependent components must be included before this operation"

abbrev Failure.preflightBlocked (message : String) : Failure := .operation .preflightBlocked message

/-- One registry-resolved step; the engine gives every step at least one attempt. -/
structure Step where
  componentId : ComponentId
  operation : Operation
  adapter : String
  timeoutSeconds : ℚ
  verify : List String
  maxAttempts : Nat
  recoveryClass : RecoveryClass
  attempts_pos : 0 < maxAttempts
  deriving DecidableEq, Repr

/-- The `IDENTIFIER` pattern: a lower-case letter, then at most 63 letters, digits or dashes. -/
def isIdentifier (item : String) : Bool :=
  match item.toList with
  | [] => false
  | head :: tail =>
      head.isLower && decide (tail.length ≤ 63) &&
        tail.all (fun character => character.isLower || character.isDigit || character == '-')

end FortifyLab.Lifecycle
