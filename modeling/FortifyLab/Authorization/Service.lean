import FortifyLab.Lifecycle.Request

/-! `request`, `approve`, `revoke` and `authorize` of the authorization service. -/

namespace FortifyLab.Authorization

open Registry Lifecycle

/-- `_audit`. -/
def audit (approvalId : Option ApprovalId) (action actor outcome reason : String) : Act Unit := do
  let now ← ask .authorizationNow
  ask (.record ⟨now, approvalId, action, actor, outcome, reason⟩)

/-- `plan.risk`, which raises for an operation without a policy. -/
def planRisk (plan : OperationPlan) : Attempt Risk :=
  match plan.risk with
  | some risk => pure risk
  | none => throw (.authorization "operation has no authorization policy")

/-- `ApprovalStore.approval`. -/
def storedApproval (approvalId : ApprovalId) : Attempt Approval := do
  match ← ask (.findApproval approvalId) with
  | some document => return document
  | none => throw (.authorization "approval was not found")

namespace AuthorizationService

variable (service : AuthorizationService)

def request (plan : OperationPlan) (identity : ActorIdentity) : Attempt Approval := do
  let now ← ask .authorizationNow
  let id ← ask .newId
  let risk ← planRisk plan
  let document : Approval := {
    id := id
    state := .pending
    actor := identity.actor
    source := identity.source
    sessionId := identity.sessionId
    risk := risk
    operation := plan.operation
    targets := plan.targets
    planDigest := plan.digest service.sha256
    createdAt := now
    expiresAt := now + service.approvalTtl
    decidedAt := none
    consumedAt := none
    revokedAt := none }
  if ← ask (.insertApproval document) then
    audit (some id) "request" identity.actor "accepted" risk.name
    return document
  else throw .integrityError

def approve (approvalId : ApprovalId) (identity : ActorIdentity) (confirmation : Option String) :
    Attempt Approval := do
  let document ← storedApproval approvalId
  let now ← ask .authorizationNow
  match service.decisionReason document identity now confirmation with
  | some reason => do
      audit (some approvalId) "approve" identity.actor "denied" reason
      throw (.authorization reason)
  | none => do
      let document := { document with state := .approved, decidedAt := some now }
      if ← ask (.transition approvalId .pending .approved document) then
        audit (some approvalId) "approve" identity.actor "accepted" document.risk.name
        return document
      else
        audit (some approvalId) "approve" identity.actor "denied" "not pending"
        throw (.authorization "approval is no longer pending")

def revoke (approvalId : ApprovalId) (identity : ActorIdentity) : Attempt Approval := do
  let document ← storedApproval approvalId
  if document.actor ≠ identity.actor then
    audit (some approvalId) "revoke" identity.actor "denied" "actor mismatch"
    throw (.authorization "approval actor does not match")
  let previous := document.state
  if previous ≠ .pending ∧ previous ≠ .approved then
    throw (.authorization "approval can no longer be revoked")
  let now ← ask .authorizationNow
  let document := { document with state := .revoked, revokedAt := some now }
  if ← ask (.transition approvalId previous .revoked document) then
    audit (some approvalId) "revoke" identity.actor "accepted" "revoked"
    return document
  else throw (.authorization "approval state changed concurrently")

/-- The end of `authorize`, when the state of the targets has been read again. -/
def consume (plan : OperationPlan) (risk : Risk) (identity : ActorIdentity)
    (approvalId : ApprovalId) (document : Approval)
    (observed : Option (List (String × String))) : Attempt Unit :=
  match observed with
  | none => do
      audit (some approvalId) "authorize" identity.actor "denied" "state unavailable"
      throw (.approvalUnavailable "current target state is unavailable")
  | some currentState => do
      let current : OperationPlan := ⟨plan.operation, plan.targets, currentState⟩
      let now ← ask .authorizationNow
      match service.consumptionReason document current identity now with
      | some reason => do
          audit (some approvalId) "authorize" identity.actor "denied" reason
          throw (.authorization reason)
      | none => do
          let consumed ← ask .authorizationNow
          let document := { document with state := .consumed, consumedAt := some consumed }
          if ← ask (.transition approvalId .approved .consumed document) then
            audit (some approvalId) "authorize" identity.actor "accepted" risk.name
          else
            audit (some approvalId) "authorize" identity.actor "denied" "replay"
            throw (.authorization "approval was already consumed or changed")

/-- `authorize`; `provider` is the targets whose state the provider reads again. -/
def authorize (plan : OperationPlan) (identity : ActorIdentity)
    (approvalId : Option ApprovalId) (provider : Option (List ComponentId)) :
    Attempt Unit := do
  let risk ← planRisk plan
  if ¬ risk.approvalRequired then
    audit none "authorize" identity.actor "accepted" risk.name
  else match approvalId with
  | none => do
      audit none "authorize" identity.actor "denied" "approval required"
      throw (.authorization "operation requires approval")
  | some approvalId => do
      let document ← storedApproval approvalId
      match provider with
      | some targets => do
          let observed ← ask (.currentState targets)
          service.consume plan risk identity approvalId document observed
      | none => service.consume plan risk identity approvalId document (some plan.currentState)

end AuthorizationService

end FortifyLab.Authorization
