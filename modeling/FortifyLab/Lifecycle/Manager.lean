import FortifyLab.Library.Pool
import FortifyLab.Lifecycle.Calls
import FortifyLab.Lifecycle.ShippedRegistry

/-! The running manager: its stores, the volatile state of the engine, and the
threads of its calls and workers, interleaved one request at a time. -/

namespace FortifyLab.Lifecycle

open Registry Authorization

/-- `state IN ('queued','running','cancelling')`. -/
def OperationState.active : OperationState → Bool
  | .queued | .running | .cancelling => true
  | _ => false

theorem OperationState.active_eq_not_terminal (state : OperationState) :
    state.active = !state.terminal := by
  cases state <;> rfl

/-- The stores survive a restart; the sets, the lock and whether calls are served do not. -/
structure ManagerState where
  rows : List Row
  events : List (OperationId × Event)
  approvals : List ApprovalRow
  audit : List AuditEntry
  cancelled : List OperationId
  workers : List OperationId
  lock : Option Nat
  serving : Bool

/-- What the surroundings put into an answer. -/
inductive Offer where
  | nothing
  | text (value : String)
  | number (value : ℚ)
  | instant (value : Instant)
  | adapter (result : Except Raised Unit)
  | verdict (result : Except Raised Bool)
  | report (value : Option PreflightReport)
  | footprint (value : Option (List (ComponentId × String)))
  | observed (value : Option (List (String × String)))

namespace ManagerState

def activeComponents (state : ManagerState) : List ComponentId :=
  (state.rows.filter (fun row => row.state.active)).flatMap (fun row => row.payload.components)

def eventsOf (state : ManagerState) (operationId : OperationId) : List Event :=
  (state.events.filter (fun entry => decide (entry.1 = operationId))).map Prod.snd

/-- The stored document of an operation. -/
def row? (state : ManagerState) (operationId : OperationId) : Option Document :=
  (state.rows.find? (fun row => decide (row.payload.id = operationId))).map Row.payload

/-- The answer to a request; `none` where it cannot be answered now. -/
def reply (state : ManagerState) (_ : Nat) (offer : Offer) :
    (request : Request) → Option (Answer request)
  | .acquire => if state.lock = none then some () else none
  | .release => some ()
  | .addCancelled _ => some ()
  | .discardCancelled _ => some ()
  | .isCancelled operationId => some (decide (operationId ∈ state.cancelled))
  | .addWorker _ => some ()
  | .discardWorker _ => some ()
  | .startWorker _ _ => some ()
  | .createRow document => some (!state.rows.any (fun row =>
      decide (row.payload.id = document.id)))
  | .updateRow _ => some ()
  | .getRow operationId => some (state.row? operationId)
  | .listEvents operationId => some (state.eventsOf operationId)
  | .addEvent _ _ => some ()
  | .activeComponents => some state.activeComponents
  | .interruptActive _ => some ()
  | .interruptedRows => some ((state.rows.filter (fun row =>
      decide (row.state = .interrupted))).map Row.payload)
  | .updatePayload _ => some ()
  | .serve => some ()
  | .now => match offer with | .text value => some value | _ => none
  | .newId => match offer with | .text value => some value | _ => none
  | .monotonic => match offer with | .number value => some value | _ => none
  | .execute _ _ _ => match offer with | .adapter result => some result | _ => none
  | .verify _ _ _ _ => match offer with | .verdict result => some result | _ => none
  | .preflight => match offer with | .report value => some value | _ => none
  | .footprint _ => match offer with | .footprint value => some value | _ => none
  | .currentState _ => match offer with | .observed value => some value | _ => none
  | .authorizationNow => match offer with | .instant value => some value | _ => none
  | .insertApproval document => some (!state.approvals.any (fun row =>
      decide (row.id = document.id)))
  | .findApproval approvalId => some ((state.approvals.find? (fun row =>
      decide (row.id = approvalId))).map ApprovalRow.payload)
  | .transition approvalId expected _ _ => some (state.approvals.any (fun row =>
      decide (row.id = approvalId ∧ row.state = expected)))
  | .record _ => some ()

/-- `UPDATE lifecycle_operations SET state = ?, payload = ? WHERE id = ?`. -/
def updateRow (document : Document) (row : Row) : Row :=
  if row.payload.id = document.id then ⟨document.state, document⟩ else row

/-- `UPDATE lifecycle_operations SET payload = ? WHERE id = ?`. -/
def updatePayload (document : Document) (row : Row) : Row :=
  if row.payload.id = document.id then ⟨row.state, document⟩ else row

/-- The first statement of the store's constructor, on one row. -/
def interruptRow (now : Timestamp) (row : Row) : Row :=
  if row.state.active then
    ⟨.interrupted, { row.payload with
      state := .interrupted
      error := some "Manager restarted before the operation completed"
      updatedAt := now }⟩
  else row

/-- The conditional update of an approval, on one row. -/
def transitionRow (approvalId : ApprovalId) (expected state : ApprovalState)
    (document : Approval) (row : ApprovalRow) : ApprovalRow :=
  if row.id = approvalId ∧ row.state = expected then ⟨row.id, state, document⟩ else row

/-- What a request changes. -/
def effect (state : ManagerState) (thread : Nat) : Request → ManagerState
  | .acquire => { state with lock := some thread }
  | .release => { state with lock := none }
  | .addCancelled operationId => { state with cancelled := operationId :: state.cancelled }
  | .discardCancelled operationId =>
      { state with cancelled := state.cancelled.filter (fun id => decide (id ≠ operationId)) }
  | .addWorker operationId => { state with workers := operationId :: state.workers }
  | .discardWorker operationId =>
      { state with workers := state.workers.filter (fun id => decide (id ≠ operationId)) }
  | .createRow document =>
      if state.rows.any (fun row => decide (row.payload.id = document.id)) then state
      else { state with rows := state.rows ++ [⟨document.state, document⟩] }
  | .updateRow document => { state with rows := state.rows.map (updateRow document) }
  | .addEvent operationId event => { state with events := state.events ++ [(operationId, event)] }
  | .interruptActive now => { state with rows := state.rows.map (interruptRow now) }
  | .updatePayload document => { state with rows := state.rows.map (updatePayload document) }
  | .serve => { state with serving := true }
  | .insertApproval document =>
      if state.approvals.any (fun row => decide (row.id = document.id)) then state
      else { state with
        approvals := state.approvals ++ [⟨document.id, document.state, document⟩] }
  | .transition approvalId expected next document =>
      { state with approvals :=
        state.approvals.map (transitionRow approvalId expected next document) }
  | .record entry => { state with audit := state.audit ++ [entry] }
  | _ => state

def empty : ManagerState where
  rows := []
  events := []
  approvals := []
  audit := []
  cancelled := []
  workers := []
  lock := none
  serving := false

/-- What a crash of the manager leaves. -/
def afterCrash (state : ManagerState) : ManagerState :=
  { state with cancelled := [], workers := [], lock := none, serving := false }

end ManagerState

/-- What a thread runs. Every call iterates Python's sets in an order of its own. -/
inductive Call where
  | openStore
  | worker (document : Document) (steps : List Step)
  | submit (order : SetOrder) (operation : String) (componentIds : List ComponentId)
      (caller : Caller) (retryOf : Option OperationId)
  | submitAsync (order : SetOrder) (operation : String) (componentIds : List ComponentId)
      (caller : Caller) (retryOf : Option OperationId)
  | submitCleanInstall (order : SetOrder) (actor : String) (identity : Option ActorIdentity)
  | submitLab (order : SetOrder) (action : String) (componentId : Option ComponentId)
      (caller : Caller) (retryOf : Option OperationId)
  | retry (order : SetOrder) (operationId : OperationId) (caller : Caller)
  | retryAsync (order : SetOrder) (operationId : OperationId) (caller : Caller)
  | cancel (operationId : OperationId) (actor : String) (identity : Option ActorIdentity)
  | request (plan : OperationPlan) (identity : ActorIdentity)
  | approve (approvalId : ApprovalId) (identity : ActorIdentity) (confirmation : Option String)
  | revoke (approvalId : ApprovalId) (identity : ActorIdentity)
  | authorize (plan : OperationPlan) (identity : ActorIdentity)
      (approvalId : Option ApprovalId) (provider : Option (List ComponentId))

inductive Outcome where
  | operation (result : Except Failure Document)
  | approval (result : Except Failure Approval)
  | authorized (result : Except Failure Unit)
  | finished
  | killed

/-- The calls of the authorization service refuse when there is none. -/
def withService {α : Type} (settings : Settings) (body : AuthorizationService → Attempt α) :
    Attempt α :=
  match settings.authorization with
  | some service => body service
  | none => throw (.approvalUnavailable "authorization is not configured")

def Call.body (settings : Settings) : Call → Act Outcome
  | .openStore => do
      Lifecycle.openStore
      return .finished
  | .worker document steps => do
      runWorker document steps
      return .finished
  | .submit order operation componentIds caller retryOf => do
      return .operation (← (Lifecycle.submit settings order operation componentIds caller retryOf).run)
  | .submitAsync order operation componentIds caller retryOf => do
      return .operation
        (← (Lifecycle.submitAsync settings order operation componentIds caller retryOf).run)
  | .submitCleanInstall order actor identity => do
      return .operation (← (submitCleanInstallAsync settings order actor identity).run)
  | .submitLab order action componentId caller retryOf => do
      return .operation (← (submitLabAsync settings order action componentId caller retryOf).run)
  | .retry order operationId caller => do
      return .operation (← (Lifecycle.retry settings order operationId caller).run)
  | .retryAsync order operationId caller => do
      return .operation (← (Lifecycle.retryAsync settings order operationId caller).run)
  | .cancel operationId actor identity => do
      return .operation (← (Lifecycle.cancel settings operationId actor identity).run)
  | .request plan identity => do
      return .approval (← (withService settings fun service => service.request plan identity).run)
  | .approve approvalId identity confirmation => do
      return .approval (← (withService settings fun service =>
        service.approve approvalId identity confirmation).run)
  | .revoke approvalId identity => do
      return .approval (← (withService settings fun _ =>
        AuthorizationService.revoke approvalId identity).run)
  | .authorize plan identity approvalId provider => do
      return .authorized (← (withService settings fun service =>
        service.authorize plan identity approvalId provider).run)

/-- Calls arrive once the store is open; workers are started by calls only. -/
def Call.arrives : Call → Bool
  | .openStore => false
  | .worker _ _ => false
  | _ => true

/-- The manager: one engine, one operation store and one approval store. -/
def manager (settings : Settings) : Machine ManagerState Call Offer Request Answer Outcome where
  body := Call.body settings
  reply := ManagerState.reply
  effect := ManagerState.effect
  spawned
    | .startWorker document steps => some (.worker document steps)
    | _ => none
  admits state call := state.serving && call.arrives
  lost := ManagerState.afterCrash
  boot := .openStore
  killed := .killed
  fresh := .empty

abbrev ManagerPool := Pool ManagerState Call Request Answer Outcome

abbrev ManagerAction := Action Call Offer

/-- What the surroundings offer when nothing goes wrong; a new id is the given one. -/
def Offer.smooth (id : String) : Request → Offer
  | .now => .text "2026-01-01T00:00:00Z"
  | .newId => .text id
  | .monotonic => .number 0
  | .execute _ _ _ => .adapter (.ok ())
  | .verify _ _ _ _ => .verdict (.ok true)
  | .preflight => .report (some { ready := true, readiness := fun _ => true })
  | .footprint components => .footprint (some (components.map (fun item => (item, "absent"))))
  | .currentState _ => .observed (some [])
  | .authorizationNow => .instant 0
  | _ => .nothing

/-- A thread goes on for a number of requests with nothing going wrong. -/
def goOn (thread count : Nat) (id : String) : List (ManagerPool → ManagerAction) :=
  List.replicate count (fun pool => .advance thread (match pool.threads[thread]? with
    | some ⟨_, .ask request _⟩ => .smooth id request
    | _ => .nothing))

/-- A manager on the shipped registry, without an authorization service. -/
def shippedSettings : Settings where
  engine := shippedEngine
  profileId := "full"
  authorization := none
  stateProvider := false
  preflightProvider := true
  footprintProvider := true

/-- A call arrives. -/
def arrive (call : Call) : List (ManagerPool → ManagerAction) := [fun _ => .receive call]

/-- The pool that a script leads to from the start of the shipped manager. -/
def playShipped (permits : ManagerPool → ManagerAction → Bool)
    (script : List (ManagerPool → ManagerAction)) : Option ManagerPool :=
  (manager shippedSettings).play permits (manager shippedSettings).initial script

end FortifyLab.Lifecycle
