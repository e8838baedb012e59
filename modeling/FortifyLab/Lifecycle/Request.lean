import FortifyLab.Authorization.Approval
import FortifyLab.Library.Program
import FortifyLab.Lifecycle.Document

/-! Everything the engine, its stores and the authorization service ask of their
surroundings: one request is one atomic step. -/

namespace FortifyLab.Lifecycle

open Registry Authorization

/-- What an adapter, a verifier or a boundary check may raise. -/
inductive Raised where
  | stepCancelled | stepTimedOut | other
  deriving DecidableEq, Repr

inductive Request where
  -- the engine lock and the volatile sets of the engine
  | acquire
  | release
  | addCancelled (operationId : OperationId)
  | discardCancelled (operationId : OperationId)
  | isCancelled (operationId : OperationId)
  | addWorker (operationId : OperationId)
  | discardWorker (operationId : OperationId)
  | startWorker (document : Document) (steps : List Step)
  -- statements of the operation store
  | createRow (document : Document)
  | updateRow (document : Document)
  | getRow (operationId : OperationId)
  | listEvents (operationId : OperationId)
  | addEvent (operationId : OperationId) (event : Event)
  | activeComponents
  -- statements of its constructor
  | interruptActive (now : Timestamp)
  | interruptedRows
  | updatePayload (document : Document)
  | serve
  -- the surroundings
  | now
  | newId
  | monotonic
  | execute (operationId : OperationId) (step : Step) (deadline : ℚ)
  | verify (operationId : OperationId) (componentId : ComponentId) (checkId : String)
      (deadline : ℚ)
  | preflight
  | footprint (components : List ComponentId)
  | currentState (targets : List ComponentId)
  -- the approval store
  | authorizationNow
  | insertApproval (document : Approval)
  | findApproval (approvalId : ApprovalId)
  | transition (approvalId : ApprovalId) (expected state : ApprovalState) (document : Approval)
  | record (entry : AuditEntry)

/-- A provider that raises answers `none`; an insert says whether its id was new. -/
@[reducible] def Answer : Request → Type
  | .isCancelled _ => Bool
  | .createRow _ => Bool
  | .getRow _ => Option Document
  | .listEvents _ => List Event
  | .activeComponents => List ComponentId
  | .interruptedRows => List Document
  | .now => Timestamp
  | .newId => String
  | .monotonic => ℚ
  | .execute _ _ _ => Except Raised Unit
  | .verify _ _ _ _ => Except Raised Bool
  | .preflight => Option PreflightReport
  | .footprint _ => Option (List (ComponentId × String))
  | .currentState _ => Option (List (String × String))
  | .authorizationNow => Instant
  | .insertApproval _ => Bool
  | .findApproval _ => Option Approval
  | .transition _ _ _ _ => Bool
  | _ => Unit

/-- Code of the manager. -/
abbrev Act := Program Request Answer

/-- Code of the manager that may raise. -/
abbrev Attempt := ExceptT Failure Act

abbrev ask (request : Request) : Act (Answer request) := Program.perform request

def lift {α : Type} (computed : Except Failure α) : Attempt α := ExceptT.mk (pure computed)

/-- `with self._lock:` also releases when the body raises. -/
def withLock {α : Type} (body : Attempt α) : Attempt α := ExceptT.mk do
  ask .acquire
  let result ← body.run
  ask .release
  return result

end FortifyLab.Lifecycle
