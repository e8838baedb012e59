import FortifyLab.Lifecycle.Manager
import FortifyLab.Lifecycle.PlanViews

/-! The remote actions: plans and recovery controls are sent out with opaque tokens, and
a token that comes back is claimed before its action is carried out. The service runs
beside the manager's own calls, on the same stores. -/

namespace FortifyLab.Lifecycle

open Registry Authorization

inductive CallbackState where
  | pending | executing | consumed | expired
  deriving DecidableEq, Repr

/-- A row of `remote_callbacks`. -/
structure CallbackRow where
  tokenHash : String
  state : CallbackState
  actor : String
  sessionId : String
  action : String
  reference : String
  expiresAt : Instant
  deriving DecidableEq, Repr

/-- What a port raises: an outage, an error that is passed on, or anything else. -/
inductive PortFailure where
  | outage
  | refused (message : String)
  | other
  deriving DecidableEq, Repr

/-- What the service asks: what the manager asks, its clock, its lock and its source of
tokens, the statements on its plans and tokens, and its two ports. -/
inductive ActionRequest where
  | manager (request : Request)
  | clock
  | lock
  | unlock
  | drawToken
  | savePlan (snapshot : PlanSnapshot)
  | insertCallback (row : CallbackRow)
  | findCallback (tokenHash : String)
  | expire (tokenHash : String)
  | claim (tokenHash : String)
  | finish (tokenHash : String) (retryable : Bool)
  | findPlan (planId : ApprovalId)
  | acknowledge (incidentId actor : String)
  | pause (actor : String)

/-- A claim says whether the row was pending, an insert of a plan whether its id was new. -/
@[reducible] def ActionAnswer : ActionRequest → Type
  | .manager request => Answer request
  | .clock => Instant
  | .drawToken => String
  | .savePlan _ => Bool
  | .findCallback _ => Option CallbackRow
  | .claim _ => Bool
  | .findPlan _ => Option PlanSnapshot
  | .acknowledge _ _ => Except PortFailure Unit
  | .pause _ => Except PortFailure Unit
  | _ => Unit

abbrev ActionAct := Program ActionRequest ActionAnswer

def askAction (request : ActionRequest) : ActionAct (ActionAnswer request) :=
  Program.perform request

/-- What goes wrong in the `try` block of `execute`. -/
inductive Thrown where
  | outage
  | refused (message : String)
  | failure (cause : Failure)
  | other
  deriving DecidableEq, Repr

/-- What `execute` raises: its own error with a message or with the text of a failure, the
error for an outage, or what it does not catch. -/
inductive ActionFailure where
  | refused (message : String)
  | failed (cause : Failure)
  | unavailable
  | escaped (cause : Option Failure)
  deriving DecidableEq, Repr

abbrev Trial := ExceptT Thrown ActionAct

abbrev ActionAttempt := ExceptT ActionFailure ActionAct

/-- Code of the manager that the service calls. -/
def managerProgram {α : Type} (program : Act α) : ActionAct α :=
  program.expand (fun request => askAction (.manager request))

def Trial.manager {α : Type} (attempt : Attempt α) : Trial α :=
  ExceptT.adapt Thrown.failure (ExceptT.mk (managerProgram attempt.run))

/-- What the answer of a port is in the `try` block. -/
def PortFailure.thrown : PortFailure → Thrown
  | .outage => .outage
  | .refused message => .refused message
  | .other => .other

def Trial.port (request : ActionRequest)
    (answered : ActionAnswer request = Except PortFailure Unit) : Trial Unit := ExceptT.mk do
  let answer ← askAction request
  return (cast answered answer).mapError PortFailure.thrown

/-- `except (AuthorizationError, ValueError, RuntimeError)`. -/
def Failure.caught : Failure → Bool
  | .missingKey _ => false
  | .integrityError => false
  | _ => true

def Thrown.raised : Thrown → ActionFailure
  | .outage => .unavailable
  | .refused message => .refused message
  | .failure cause => if cause.caught then .failed cause else .escaped (some cause)
  | .other => .escaped none

/-- `with self._lock:` of the token store. -/
def withTokenLock {α : Type} (body : ActionAttempt α) : ActionAttempt α := ExceptT.mk do
  askAction .lock
  let result ← body.run
  askAction .unlock
  return result

/-- `_hash` raises on an empty or too long token. -/
def tokenHash (sha256 : List Char → String) (token : String) : Option String :=
  if token = "" ∨ 48 < token.length then none else some (sha256 token.toList)

/-- The checks and statements of `begin` under the lock. -/
def claimToken (hash : String) (identity : ActorIdentity) (now : Instant) :
    ActionAttempt (String × String) := do
  match ← askAction (.findCallback hash) with
  | none => throw (.refused "action is invalid or expired")
  | some row =>
      if row.actor ≠ identity.actor ∨ row.sessionId ≠ identity.sessionId then
        throw (.refused "action identity does not match")
      else if row.state ≠ .pending then throw (.refused "action was already used")
      else if row.expiresAt ≤ now then do
        askAction (.expire hash)
        throw (.refused "action is invalid or expired")
      else if ← askAction (.claim hash) then return (row.action, row.reference)
      else throw (.refused "action was already used")

/-- `issue`. -/
def issue (sha256 : List Char → String) (action reference : String) (identity : ActorIdentity)
    (expiresAt : Instant) : ActionAct String := do
  let token : String ← askAction .drawToken
  askAction (.insertCallback {
    tokenHash := sha256 token.toList
    state := .pending
    actor := identity.actor
    sessionId := identity.sessionId
    action := action
    reference := reference
    expiresAt := expiresAt })
  return token

/-- What the plans of the service ask, with `issue` as it is. -/
def performRemote (sha256 : List Char → String) :
    (request : RemoteRequest) → ActionAct (RemoteAnswer request)
  | .manager request => askAction (.manager request)
  | .savePlan snapshot => askAction (.savePlan snapshot)
  | .issue action reference identity expiresAt => issue sha256 action reference identity expiresAt

/-- What the constructor of the service fixes beyond its plans. -/
structure RemoteActions extends RemoteActionService where
  incidentPort : Bool
  automationPort : Bool
  callbackTtl : Instant

namespace RemoteActions

variable (remote : RemoteActions) (settings : Settings)

def operationLink (identifier : String) : String :=
  "\nOpen Web UI: " ++ remote.webBase ++ "/operations/" ++ identifier

def caller (identity : ActorIdentity) (approvalId : Option ApprovalId) : Caller :=
  ⟨identity.actor, some identity, approvalId⟩

/-- The branch for `approve`. -/
def approvePlan (order : SetOrder) (reference : String) (identity : ActorIdentity) :
    Trial String := do
  match ← askAction (.findPlan reference) with
  | none => throw (.refused "remote plan was not found")
  | some plan => do
      let approval ← Trial.manager (storedApproval reference)
      let approval ← match approval.state with
        | .pending => Trial.manager (remote.authorization.approve reference identity none)
        | .approved => pure approval
        | _ => throw (.refused "approval is no longer usable")
      let operation ← Trial.manager (submitAsync settings order plan.operation
        plan.requestedTargets (caller identity (some approval.id)) none)
      return "Operation queued: " ++ operation.id ++ remote.operationLink operation.id

/-- The `try` block of `execute`. -/
def perform (order : SetOrder) (action reference : String) (identity : ActorIdentity) :
    Trial String :=
  if action = "approve" then remote.approvePlan settings order reference identity
  else if action = "reject" then do
    let _ ← Trial.manager (AuthorizationService.revoke reference identity)
    return "Plan rejected.\nOpen Web UI: " ++ remote.webBase ++ "/operations"
  else if action = "retry" then do
    let operation ← Trial.manager (retryAsync settings order reference (caller identity none))
    return "Retry queued: " ++ operation.id ++ remote.operationLink operation.id
  else if action = "cancel" then do
    let operation ← Trial.manager
      (Lifecycle.cancel settings reference identity.actor (some identity))
    return "Cancellation requested: " ++ operation.id ++ remote.operationLink operation.id
  else if action = "acknowledge" ∧ remote.incidentPort = true then do
    Trial.port (.acknowledge reference identity.actor) rfl
    return "Incident acknowledged.\nOpen Web UI: " ++ remote.webBase ++ "/incidents/" ++ reference
  else if action = "pause" ∧ remote.automationPort = true then do
    Trial.port (.pause identity.actor) rfl
    return "Automation paused.\nOpen Web UI: " ++ remote.webBase ++ "/automation"
  else throw (.refused "action is not available")

/-- `execute`; only an outage gives the token back. -/
def execute (order : SetOrder) (token : String) (identity : ActorIdentity) :
    ActionAttempt String := do
  let now ← askAction .clock
  match tokenHash remote.authorization.sha256 token with
  | none => throw (.refused "action is invalid or expired")
  | some hash => do
      let (action, reference) ← withTokenLock (claimToken hash identity now)
      let result ← (remote.perform settings order action reference identity).run
      askAction (.finish hash (decide (result = .error .outage)))
      match result with
      | .ok text => return String.ofList (text.toList.take 3500)
      | .error thrown => throw thrown.raised

/-- A control for an operation, by its state. -/
def operationControl (document : Document) : Option (String × String) :=
  if document.state.retryable then
    if riskByOperation.lookup document.operation.name = some .routine then
      some ("Safe retry", "retry")
    else none
  else if document.state.terminal then none
  else some ("Cancel", "cancel")

/-- A button with a new token. -/
def issueControl (label action reference : String) (identity : ActorIdentity)
    (expiresAt : Instant) : ActionAct (String × String) := do
  return (label, ← issue remote.authorization.sha256 action reference identity expiresAt)

def incidentControls (incidentId : Option String) (identity : ActorIdentity)
    (expiresAt : Instant) : ActionAct (List (String × String)) :=
  match incidentId with
  | none => pure []
  | some incident =>
      if incident = "" then pure []
      else do
        let control ← remote.issueControl "Acknowledge" "acknowledge" incident identity expiresAt
        pure [control]

def operationControls (operationId : Option OperationId) (identity : ActorIdentity)
    (expiresAt : Instant) : Trial (List (String × String)) :=
  match operationId with
  | none => pure []
  | some operation =>
      if operation = "" then pure []
      else do
        let document ← Trial.manager (storedOperation operation)
        match operationControl document with
        | none => pure []
        | some (label, action) => do
            let control ← remote.issueControl label action operation identity expiresAt
            pure [control]

def pauseControls (identity : ActorIdentity) (expiresAt : Instant) :
    ActionAct (List (String × String)) :=
  if remote.automationPort then do
    let control ← remote.issueControl "Pause automation" "pause" "automation" identity expiresAt
    pure [control]
  else pure []

/-- `recovery_actions`. -/
def recoveryActions (incidentId : Option String) (operationId : Option OperationId)
    (identity : ActorIdentity) : Trial (List (String × String)) := do
  let now ← askAction .clock
  let expires := now + remote.callbackTtl
  let acknowledges ← remote.incidentControls incidentId identity expires
  let operates ← remote.operationControls operationId identity expires
  let pauses ← remote.pauseControls identity expires
  return acknowledges ++ operates ++ pauses

end RemoteActions

/-! ## The running service -/

/-- What a thread runs: a call of the manager, or one of the service. -/
inductive RemoteCall where
  | manager (call : Call)
  | lifecyclePlan (order : SetOrder) (operation : String) (targets : List ComponentId)
      (identity : ActorIdentity)
  | labPlan (order : SetOrder) (action : String) (component : Option ComponentId)
      (identity : ActorIdentity)
  | recoveryActions (incidentId : Option String) (operationId : Option OperationId)
      (identity : ActorIdentity)
  | execute (order : SetOrder) (token : String) (identity : ActorIdentity)

inductive RemoteOutcome where
  | manager (outcome : Outcome)
  | plan (result : Except ViewFailure RemoteMessage)
  | controls (result : Except Thrown (List (String × String)))
  | executed (result : Except ActionFailure String)
  | killed

/-- The body of a call; the plans of the service are those of its views. -/
def RemoteCall.body (remote : RemoteActions) (settings : Settings) :
    RemoteCall → ActionAct RemoteOutcome
  | .manager call => do return .manager (← managerProgram (call.body settings))
  | .lifecyclePlan order operation targets identity => do
      return .plan (← (remote.lifecyclePlan settings order operation targets identity).run.expand
        (performRemote remote.authorization.sha256))
  | .labPlan order action component identity => do
      return .plan (← (remote.labPlan settings order action component identity).run.expand
        (performRemote remote.authorization.sha256))
  | .recoveryActions incidentId operationId identity => do
      return .controls (← (remote.recoveryActions incidentId operationId identity).run)
  | .execute order token identity => do
      return .executed (← (remote.execute settings order token identity).run)

/-- The stores of the manager and those of the service, and how many tokens were drawn. -/
structure RemoteState where
  manager : ManagerState
  plans : List PlanSnapshot
  callbacks : List CallbackRow
  locked : Bool
  drawn : Nat

inductive RemoteOffer where
  | manager (offer : Offer)
  | port (result : Except PortFailure Unit)

namespace RemoteState

def empty : RemoteState := ⟨.empty, [], [], false, 0⟩

def withManager (state : RemoteState) (manager : ManagerState) : RemoteState :=
  { state with manager := manager }

def callback? (state : RemoteState) (hash : String) : Option CallbackRow :=
  state.callbacks.find? (fun row => decide (row.tokenHash = hash))

/-- An update of the row of a hash, from one state where one is given. -/
def moveRow (hash : String) (expected : Option CallbackState) (next : CallbackState)
    (row : CallbackRow) : CallbackRow :=
  if row.tokenHash = hash ∧ (expected = none ∨ expected = some row.state) then
    { row with state := next }
  else row

def move (state : RemoteState) (hash : String) (expected : Option CallbackState)
    (next : CallbackState) : RemoteState :=
  { state with callbacks := state.callbacks.map (moveRow hash expected next) }

/-- The answer to a request. An insert under a hash that is taken raises, and nothing in its
call catches that: the call goes no further. -/
def reply (supply : Nat → String) (state : RemoteState) (thread : Nat) (offer : RemoteOffer) :
    (request : ActionRequest) → Option (ActionAnswer request)
  | .manager request =>
      match offer with
      | .manager offer => state.manager.reply thread offer request
      | _ => none
  | .clock => match offer with | .manager (.instant value) => some value | _ => none
  | .lock => if state.locked then none else some ()
  | .unlock => some ()
  | .drawToken => some (supply state.drawn)
  | .savePlan snapshot => some (!state.plans.any (fun plan => decide (plan.id = snapshot.id)))
  | .insertCallback row => if (state.callback? row.tokenHash).isSome then none else some ()
  | .findCallback hash => some (state.callback? hash)
  | .expire _ => some ()
  | .claim hash => some ((state.callback? hash).any (fun row => decide (row.state = .pending)))
  | .finish _ _ => some ()
  | .findPlan planId => some (state.plans.find? (fun plan => decide (plan.id = planId)))
  | .acknowledge _ _ => match offer with | .port result => some result | _ => none
  | .pause _ => match offer with | .port result => some result | _ => none

/-- What a request changes. -/
def effect (state : RemoteState) (thread : Nat) : ActionRequest → RemoteState
  | .manager request => state.withManager (state.manager.effect thread request)
  | .lock => { state with locked := true }
  | .unlock => { state with locked := false }
  | .drawToken => { state with drawn := state.drawn + 1 }
  | .savePlan snapshot =>
      if state.plans.any (fun plan => decide (plan.id = snapshot.id)) then state
      else { state with plans := state.plans ++ [snapshot] }
  | .insertCallback row => { state with callbacks := state.callbacks ++ [row] }
  | .expire hash => state.move hash none .expired
  | .claim hash => state.move hash (some .pending) .executing
  | .finish hash retryable =>
      state.move hash (some .executing) (if retryable then .pending else .consumed)
  | _ => state

/-- A crash loses the volatile state of the manager and the lock of the store. -/
def afterCrash (state : RemoteState) : RemoteState :=
  { state with manager := state.manager.afterCrash, locked := false }

end RemoteState

/-- The manager with the remote actions beside it; `supply` is the source of tokens. -/
def remoteManager (remote : RemoteActions) (settings : Settings) (supply : Nat → String) :
    Machine RemoteState RemoteCall RemoteOffer ActionRequest ActionAnswer RemoteOutcome where
  body := RemoteCall.body remote settings
  reply := RemoteState.reply supply
  effect := RemoteState.effect
  spawned
    | .manager (.startWorker document steps) => some (.manager (.worker document steps))
    | _ => none
  admits state
    | .manager call => state.manager.serving && call.arrives
    | _ => state.manager.serving
  lost := RemoteState.afterCrash
  boot := .manager .openStore
  killed := .killed
  fresh := .empty

abbrev RemotePool := Pool RemoteState RemoteCall ActionRequest ActionAnswer RemoteOutcome

abbrev RemoteAction := Action RemoteCall RemoteOffer

abbrev RemoteEntry := Entry RemoteCall ActionRequest ActionAnswer

end FortifyLab.Lifecycle
