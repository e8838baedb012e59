import FortifyLab.Library.Execution
import FortifyLab.Lifecycle.Calls

/-! The plans an operator sees before consenting: the web interface's and the ones
sent through Telegram. -/

namespace FortifyLab.Lifecycle

open Registry Authorization

/-- What a plan view may raise: the failures of the engine and of the authorization
service, a failing state provider, and its own errors. -/
inductive ViewFailure where
  | failure (failure : Failure)
  | provider
  | value (message : String)
  | remote (message : String)
  deriving DecidableEq, Repr

/-- The strictest of some recovery classes, the first of equals; `max` raises on none. -/
def strictestClass (classes : List RecoveryClass) : Option RecoveryClass :=
  classes.foldl (fun greatest recoveryClass => match greatest with
    | none => some recoveryClass
    | some other => if other.precedence < recoveryClass.precedence then some recoveryClass
        else some other) none

/-! ## The web interface -/

abbrev View := ExceptT ViewFailure Act

def View.attempt {α : Type} (attempt : Attempt α) : View α :=
  ExceptT.adapt .failure attempt

/-- `_state_provider` and the plan that a policy judges. -/
def authorizationPlan (operation : String) (components : List ComponentId) :
    View OperationPlan := do
  match ← ask (.currentState components) with
  | none => throw .provider
  | some currentState => return ⟨operation, components, currentState⟩

/-- A `LifecyclePlan` document. -/
structure LifecyclePlanView where
  plan : PlanDocument
  risk : Risk
  approvalRequired : Bool
  dependencyImpact : List ComponentId
  destructive : Bool
  deletesData : Bool
  recoveryBoundary : RecoveryClass
  deriving DecidableEq, Repr

/-- What `_lab_plan` adds to the engine's document. -/
structure LabPlanView where
  plan : LabPlanDocument
  risk : Risk
  approvalRequired : Bool
  channels : List String
  sharedState : Bool
  destructive : Bool
  deletesData : Bool
  dependencyImpact : List ComponentId
  recoveryBoundary : RecoveryClass
  deriving DecidableEq, Repr

variable (settings : Settings)

namespace WebOperationAPI

/-- `_plan`. -/
def plan (order : SetOrder) (operation : String) (components : List ComponentId) :
    View LifecyclePlanView := do
  let plan ← View.attempt (lift (settings.engine.plan order operation components))
  let policy ← authorizationPlan plan.operation.name plan.components
  let risk ← View.attempt (planRisk policy)
  match strictestClass (plan.steps.map PlannedStep.recoveryClass) with
  | none => throw (.failure .emptySequence)
  | some recoveryBoundary =>
      return {
        plan := plan
        risk := risk
        approvalRequired := risk.approvalRequired
        dependencyImpact := plan.components.filter
          (fun item => decide (item ∉ plan.requestedTargets))
        destructive := decide (plan.operation = .uninstall ∨ plan.operation = .deleteData)
        deletesData := decide (plan.operation = .deleteData)
        recoveryBoundary := recoveryBoundary }

/-- `lab_plan` of the engine, with the report its preflight provider gives. -/
def engineLabPlan (order : SetOrder) (action : String) (component : Option ComponentId) :
    Attempt LabPlanDocument :=
  if settings.preflightProvider then do
    let report ← ask .preflight
    lift (settings.engine.labPlan order report action component)
  else lift (settings.engine.labPlan order none action component)

/-- `_lab_plan`; `fields` are the keys of the request. -/
def labPlan (order : SetOrder) (fields : List String) (action : String)
    (component : Option ComponentId) : View LabPlanView :=
  if fields.any (fun field => decide (field ∉ ["action", "component"])) then
    throw (.value "lab plan request is invalid")
  else do
    let plan ← View.attempt (engineLabPlan settings order action component)
    let policy ← authorizationPlan plan.plan.operation.name plan.plan.components
    let risk ← View.attempt (planRisk policy)
    return {
      plan := plan
      risk := risk
      approvalRequired := risk.approvalRequired
      channels := ["web", "telegram"]
      sharedState := true
      destructive := false
      deletesData := false
      dependencyImpact := plan.automaticExpansion
      recoveryBoundary := .reversible }

end WebOperationAPI

/-! ## Telegram -/

/-- The document that `lifecycle_plan` saves. -/
structure PlanSnapshot where
  id : ApprovalId
  operation : String
  requestedTargets : List ComponentId
  components : List ComponentId
  dependencyImpact : List ComponentId
  currentState : List (String × String)
  timeoutSeconds : ℚ
  rollbackBoundary : String
  recoveryClass : RecoveryClass
  planDigest : String
  expiresAt : Instant
  deriving DecidableEq, Repr

/-- What the service asks: what the manager asks, and the statements of its own store. -/
inductive RemoteRequest where
  | manager (request : Request)
  | savePlan (snapshot : PlanSnapshot)
  | issue (action reference : String) (identity : ActorIdentity) (expiresAt : Instant)

/-- A plan's id may be taken; an issued token is random. -/
@[reducible] def RemoteAnswer : RemoteRequest → Type
  | .manager request => Answer request
  | .savePlan _ => Bool
  | .issue _ _ _ _ => String

abbrev RemoteAct := Program RemoteRequest RemoteAnswer

abbrev RemoteAttempt := ExceptT ViewFailure RemoteAct

def askRemote (request : RemoteRequest) : RemoteAct (RemoteAnswer request) :=
  Program.perform request

/-- A call of the manager from the service. -/
def RemoteAttempt.manager {α : Type} (attempt : Attempt α) : RemoteAttempt α :=
  ExceptT.adapt .failure (ExceptT.mk
    (attempt.run.expand (fun request => askRemote (.manager request))))

/-- `REMOTE_APPROVABLE_RISKS`. -/
def remoteApprovableRisks : List Risk := [.disruptive]

/-- `WEB_ONLY_OPERATIONS`. -/
def webOnlyOperations : List String :=
  ["uninstall", "delete-data", "restore-database", "replace-secret"]

def RecoveryClass.name : RecoveryClass → String
  | .reversible => "reversible"
  | .compensatingAction => "compensating-action"
  | .restoreRequired => "restore-required"
  | .irreversible => "irreversible"

/-- A message with its buttons, each a label and a token. -/
structure RemoteMessage where
  text : String
  actions : List (String × String)
  replaceKey : String
  deriving DecidableEq, Repr

/-- What the constructor of the service fixes, and how it writes times. -/
structure RemoteActionService where
  authorization : AuthorizationService
  webBase : String
  timestamp : Instant → String

namespace RemoteActionService

variable (service : RemoteActionService)

def rollbackText (recoveryClass : RecoveryClass) : String :=
  recoveryClass.name ++ "; cancellation is best-effort and completed mutations " ++
    "are retained as recovery evidence."

/-- The text of the message, at most `MAX_MESSAGE` characters of it. -/
def planText (snapshot : PlanSnapshot) : String :=
  let impact := if snapshot.dependencyImpact = [] then "requested components only"
    else ", ".intercalate snapshot.dependencyImpact
  let lines := ["Lifecycle plan: " ++ snapshot.operation ++ " " ++
      ", ".intercalate snapshot.requestedTargets,
    "Impact: " ++ impact,
    "Timeout: " ++ toString snapshot.timeoutSeconds.floor ++ " seconds",
    "Rollback boundary: " ++ snapshot.rollbackBoundary,
    "Plan digest: " ++ String.ofList
      (((snapshot.planDigest.toList.dropWhile (· ≠ ':')).drop 1).take 12),
    "Expires: " ++ service.timestamp snapshot.expiresAt,
    "Review in Web UI: " ++ service.webBase ++ "/operations/plans/" ++ snapshot.id]
  String.ofList (("\n".intercalate lines).toList.take 3500)

/-- The end of `lifecycle_plan`, once the approval is requested. -/
def offerPlan (snapshot : PlanSnapshot) (identity : ActorIdentity) :
    RemoteAttempt RemoteMessage := do
  if ← askRemote (.savePlan snapshot) then
    let approve : String ← askRemote (.issue "approve" snapshot.id identity snapshot.expiresAt)
    let reject : String ← askRemote (.issue "reject" snapshot.id identity snapshot.expiresAt)
    return {
      text := service.planText snapshot
      actions := [("Approve", approve), ("Reject", reject)]
      replaceKey := "plan:" ++ snapshot.id }
  else throw (.failure .integrityError)

/-- `lifecycle_plan`. A step always carries its class, so the fallbacks never apply. -/
def lifecyclePlan (order : SetOrder) (operation : String) (targets : List ComponentId)
    (identity : ActorIdentity) : RemoteAttempt RemoteMessage := do
  let resolved ← .manager (lift (settings.engine.plan order operation targets))
  match ← askRemote (.manager (.currentState resolved.components)) with
  | none => throw .provider
  | some current => do
      let policy : OperationPlan := ⟨operation, resolved.components, current⟩
      let risk ← .manager (planRisk policy)
      if risk ∉ remoteApprovableRisks ∨ operation ∈ webOnlyOperations ∨ operation = "upgrade" then
        throw (.remote "this operation requires stronger confirmation in the Web UI")
      else do
        let approval ← .manager (service.authorization.request policy identity)
        match strictestClass (resolved.steps.map PlannedStep.recoveryClass) with
        | none => throw (.failure .emptySequence)
        | some rollbackClass =>
            service.offerPlan {
              id := approval.id
              operation := operation
              requestedTargets := targets
              components := resolved.components
              dependencyImpact := resolved.components.filter
                (fun item => decide (item ∉ resolved.requestedTargets))
              currentState := current
              timeoutSeconds := (resolved.steps.map PlannedStep.timeoutSeconds).sum
              rollbackBoundary := rollbackText rollbackClass
              recoveryClass := rollbackClass
              planDigest := policy.digest service.authorization.sha256
              expiresAt := approval.expiresAt } identity

/-- `lab_plan`: the lifecycle plan of the components that the lab plan affects. -/
def labPlan (order : SetOrder) (action : String) (component : Option ComponentId)
    (identity : ActorIdentity) : RemoteAttempt RemoteMessage := do
  let plan ← .manager (WebOperationAPI.engineLabPlan settings order action component)
  service.lifecyclePlan settings order plan.plan.operation.name plan.plan.components identity

end RemoteActionService

end FortifyLab.Lifecycle
