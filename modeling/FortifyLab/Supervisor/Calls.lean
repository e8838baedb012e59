import FortifyLab.Library.Execution
import FortifyLab.Supervisor.Store

/-! The methods of `Store` as calls, and programs that make them. -/

namespace FortifyLab.Supervisor

inductive StoreCall where
  | get (key default : String)
  | set (key value : String)
  | unset (key : String)
  | claimIssue (issue : Int) (title milestone : String)
  | advanceMilestone (expected following initial : String) (payload : Value)
  | event (fingerprint kind : String) (payload : Value)
  | hasEvent (fingerprint : String)
  | upsertNotification (fingerprint kind : String) (severity : Severity) (message : String)
      (payload : Value) (state : DeliveryState) (digestBucket : Option String)
  | markNotification (fingerprint : String) (state : DeliveryState) (messageId : Option String)
  | notification (fingerprint : String)
  | createApproval (action : ApprovalAction) (payload : Value) (ttl : Int)
  | approval (approvalId : String)
  | pendingApproval (action : ApprovalAction) (payload : Value)
  | pendingApprovals (action : ApprovalAction)
  | supersedeMergeApprovals (pullRequest : Int) (headSha : String)
  | supersedeApprovalsForPullRequest (pullRequest : Int) (reason : String)
  | decide (approvalId : String) (verdict : Verdict) (actor reason : String)
  | createCallbackToken (action : String) (ttl : Int) (approvalId actor : Option String)
      (payload : Value)
  | callbackToken (token : String)
  | consumeCallbackToken (token actor : String)

abbrev StoreCall.Result : StoreCall → Type
  | .get _ _ => String
  | .set _ _ => Unit
  | .unset _ => Unit
  | .claimIssue _ _ _ => Bool
  | .advanceMilestone _ _ _ _ => Bool
  | .event _ _ _ => Bool
  | .hasEvent _ => Bool
  | .upsertNotification _ _ _ _ _ _ _ => NotificationRow × Bool
  | .markNotification _ _ _ => Unit
  | .notification _ => Option NotificationRow
  | .createApproval _ _ _ => ApprovalRow
  | .approval _ => ApprovalRow
  | .pendingApproval _ _ => Option ApprovalRow
  | .pendingApprovals _ => List ApprovalRow
  | .supersedeMergeApprovals _ _ => Nat
  | .supersedeApprovalsForPullRequest _ _ => Nat
  | .decide _ _ _ _ => ApprovalRow
  | .createCallbackToken _ _ _ _ _ => String
  | .callbackToken _ => Option TokenRow
  | .consumeCallbackToken _ _ => TokenRow

variable (library : Library)

def StoreCall.body : (call : StoreCall) → StoreM call.Result
  | .get key default => Store.get key default
  | .set key value => Store.set key value
  | .unset key => Store.unset key
  | .claimIssue issue title milestone => Store.claimIssue issue title milestone
  | .advanceMilestone expected following initial payload =>
      Store.advanceMilestone expected following initial payload
  | .event fingerprint kind payload => Store.event fingerprint kind payload
  | .hasEvent fingerprint => Store.hasEvent fingerprint
  | .upsertNotification fingerprint kind severity message payload state digestBucket =>
      Store.upsertNotification fingerprint kind severity message payload state digestBucket
  | .markNotification fingerprint state messageId =>
      Store.markNotification fingerprint state messageId
  | .notification fingerprint => Store.notification fingerprint
  | .createApproval action payload ttl => Store.createApproval library action payload ttl
  | .approval approvalId => Store.approval approvalId
  | .pendingApproval action payload => Store.pendingApproval library action payload
  | .pendingApprovals action => Store.pendingApprovals action
  | .supersedeMergeApprovals pullRequest headSha =>
      Store.supersedeMergeApprovals library pullRequest headSha
  | .supersedeApprovalsForPullRequest pullRequest reason =>
      Store.supersedeApprovalsForPullRequest library pullRequest reason
  | .decide approvalId verdict actor reason => Store.decide approvalId verdict actor reason
  | .createCallbackToken action ttl approvalId actor payload =>
      Store.createCallbackToken library action ttl approvalId actor payload
  | .callbackToken token => Store.callbackToken library token
  | .consumeCallbackToken token actor => Store.consumeCallbackToken library token actor

/-- A call as a program on the database; what it raises is part of its result. -/
def StoreCall.perform (call : StoreCall) : Program Request Answer (Except Raised call.Result) :=
  (call.body library).run

inductive SupervisorRequest where
  | store (call : StoreCall)
  | outside (request : Outside)

abbrev SupervisorAnswer : SupervisorRequest → Type
  | .store call => Except Raised call.Result
  | .outside request => Reply request

/-- What answers a request of the supervisor. -/
def SupervisorRequest.perform :
    (request : SupervisorRequest) → Program Request Answer (SupervisorAnswer request)
  | .store call => call.perform library
  | .outside request => Store.ask (.outside request)

abbrev SupervisorProgram := Program SupervisorRequest SupervisorAnswer

abbrev SupervisorM := ExceptT Raised SupervisorProgram

def request (request : SupervisorRequest) : SupervisorProgram (SupervisorAnswer request) :=
  Program.perform request

/-- A method of the store, called by the supervisor. -/
def call (call : StoreCall) : SupervisorM call.Result := ExceptT.mk (request (.store call))

def world (asked : Outside) : SupervisorM (Reply asked) := ExceptT.lift (request (.outside asked))

/-- A call of the world that may raise. -/
def attempt {α : Type} (program : SupervisorM (Except Raised α)) : SupervisorM α := do
  match ← program with
  | .ok value => return value
  | .error raised => throw raised

/-- `raise SupervisorError(message)`. -/
def fail {α : Type} (message : String) : SupervisorM α := throw (.supervisor message)

/-- `try: … except SupervisorError as error: …`. -/
def exceptSupervisor {α : Type} (body : SupervisorM α) (handler : String → SupervisorM α) :
    SupervisorM α :=
  tryCatch body (fun raised =>
    match raised with
    | .supervisor message => handler message
    | _ => throw raised)

end FortifyLab.Supervisor
