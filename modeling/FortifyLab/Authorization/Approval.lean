import Mathlib.Algebra.Order.Ring.Int
import FortifyLab.Authorization.OperationPlan

/-! Identities, approvals and the checks on them. Times are microseconds in UTC,
which the stored texts keep exactly. -/

namespace FortifyLab.Authorization

open Registry

abbrev Instant := Int

abbrev ApprovalId := String

inductive Source where
  | localCli | web | telegram
  deriving DecidableEq, Repr

/-- An authenticated actor; the constructor refuses an incomplete one. -/
structure ActorIdentity where
  actor : String
  source : Source
  sessionId : String
  authenticatedAt : Instant
  actor_bounded : actor ≠ "" ∧ actor.length ≤ 128
  session_bounded : sessionId ≠ "" ∧ sessionId.length ≤ 128
  deriving DecidableEq

inductive ApprovalState where
  | pending | approved | consumed | revoked
  deriving DecidableEq, Repr

structure Approval where
  id : ApprovalId
  state : ApprovalState
  actor : String
  source : Source
  sessionId : String
  risk : Risk
  operation : String
  targets : List ComponentId
  planDigest : String
  createdAt : Instant
  expiresAt : Instant
  decidedAt : Option Instant
  consumedAt : Option Instant
  revokedAt : Option Instant
  deriving DecidableEq, Repr

/-- A row of `operation_approvals`. -/
structure ApprovalRow where
  id : ApprovalId
  state : ApprovalState
  payload : Approval
  deriving DecidableEq, Repr

/-- A row of `authorization_audit`. -/
structure AuditEntry where
  at_ : Instant
  approvalId : Option ApprovalId
  action : String
  actor : String
  outcome : String
  reason : String
  deriving DecidableEq, Repr

/-- What the service's constructor fixes; the hash function is left open. -/
structure AuthorizationService where
  approvalTtl : Int
  reauthenticationAge : Int
  sha256 : List Char → String

/-- `HIGH_RISK_SOURCES`. -/
def highRiskSources : List Source := [.localCli, .web]

/-- `HIGH_RISK_CONFIRMATION`. -/
def highRiskConfirmation : String := "AUTHORIZE HIGH-RISK OPERATION"

def Risk.name : Risk → String
  | .routine => "routine"
  | .disruptive => "disruptive"
  | .high => "high"

/-- `_decision_reason`: why this identity may not approve, if so. -/
def AuthorizationService.decisionReason (service : AuthorizationService) (document : Approval)
    (identity : ActorIdentity) (now : Instant) (confirmation : Option String) : Option String :=
  if document.state ≠ .pending then some "approval is no longer pending"
  else if document.expiresAt ≤ now then some "approval has expired"
  else if document.actor ≠ identity.actor ∨ document.sessionId ≠ identity.sessionId then
    some "approval actor or session does not match"
  else if document.risk = .high then
    if identity.source ∉ highRiskSources then
      some "high-risk approval requires local CLI or Web UI"
    else if service.reauthenticationAge < now - identity.authenticatedAt then
      some "high-risk approval requires fresh authentication"
    else if confirmation ≠ some highRiskConfirmation then
      some "high-risk confirmation did not match"
    else none
  else none

/-- `_consumption_reason`: why the approval does not authorize the plan, if so. -/
def AuthorizationService.consumptionReason (service : AuthorizationService) (document : Approval)
    (plan : OperationPlan) (identity : ActorIdentity) (now : Instant) : Option String :=
  if document.state ≠ .approved then some "approval is not approved"
  else if document.expiresAt ≤ now then some "approval has expired"
  else if document.actor ≠ identity.actor ∨ document.sessionId ≠ identity.sessionId then
    some "approval actor or session does not match"
  else if document.source ≠ identity.source then some "approval source does not match"
  else if document.planDigest ≠ plan.digest service.sha256 then
    some "operation plan or current state changed"
  else none

variable {service : AuthorizationService} {document : Approval} {identity : ActorIdentity}
  {now : Instant}

/-- What holds when `approve` finds no reason to refuse. -/
theorem decisionReason_clear {confirmation : Option String}
    (clear : service.decisionReason document identity now confirmation = none) :
    document.state = .pending ∧ now < document.expiresAt ∧
      document.actor = identity.actor ∧ document.sessionId = identity.sessionId ∧
      (document.risk = .high → identity.source ∈ highRiskSources ∧
        now - identity.authenticatedAt ≤ service.reauthenticationAge ∧
        confirmation = some highRiskConfirmation) := by
  unfold AuthorizationService.decisionReason at clear
  split_ifs at clear with state expired bound high source fresh phrase
  · simp only [not_or, not_not] at bound
    exact ⟨not_not.mp state, not_le.mp expired, bound.1, bound.2,
      fun _ => ⟨source, not_lt.mp fresh, not_not.mp phrase⟩⟩
  · simp only [not_or, not_not] at bound
    exact ⟨not_not.mp state, not_le.mp expired, bound.1, bound.2, fun risk => absurd risk high⟩

/-- What holds when `authorize` finds no reason to refuse. -/
theorem consumptionReason_clear {plan : OperationPlan}
    (clear : service.consumptionReason document plan identity now = none) :
    document.state = .approved ∧ now < document.expiresAt ∧
      document.actor = identity.actor ∧ document.sessionId = identity.sessionId ∧
      document.source = identity.source ∧ document.planDigest = plan.digest service.sha256 := by
  unfold AuthorizationService.consumptionReason at clear
  split_ifs at clear with state expired bound source digest
  simp only [not_or, not_not] at bound
  exact ⟨not_not.mp state, not_le.mp expired, bound.1, bound.2, not_not.mp source, not_not.mp digest⟩

end FortifyLab.Authorization
