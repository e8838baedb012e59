import FortifyLab.Upgrade.UpgradePlan

/-! Planning stores a digest; submitting rebuilds the digested body and compares. -/

namespace FortifyLab.Upgrade

open Registry Authorization

inductive UpgradeState where
  | queued | running | cancelling | succeeded | failed | cancelled | timedOut | interrupted
  deriving DecidableEq, Repr

inductive RecoveryStatus where
  | notRequired | restoreRequired | compensatingActionRequired | rolledBack
  | operatorReviewRequired
  deriving DecidableEq, Repr

structure Recovery where
  required : Bool
  boundary : RecoveryClass
  backupId : Option Value
  backupVerified : Bool
  action : Option String
  status : RecoveryStatus

inductive UpgradeEvidence where
  | mutationCompleted (component : ComponentId) (recoveryClass : RecoveryClass) (at_ : Instant)
  | healthVerified (component : ComponentId) (at_ : Instant)
  | recoveryNotRequired (at_ : Instant)
  | automaticRollbackBlocked (components : List ComponentId) (reason : RecoveryClass) (at_ : Instant)
  | rollbackVerified (component : ComponentId) (at_ : Instant)
  | rollbackFailed (completedComponents : List ComponentId) (at_ : Instant)
  | managerRestarted (at_ : Instant)
  deriving DecidableEq, Repr

structure UpgradeOperation where
  id : String
  planId : String
  planDigest : String
  sourceProfileId : String
  targetProfileId : String
  actor : String
  confirmationSource : Source
  state : UpgradeState
  currentComponent : Option ComponentId
  completedComponents : List ComponentId
  error : Option String
  createdAt : Instant
  updatedAt : Instant
  rollback : RecoveryClass
  recovery : Recovery
  evidence : List UpgradeEvidence

/-- A row of `profile_upgrades`. -/
inductive UpgradeDocument where
  | plan (plan : ProfileUpgradePlan)
  | operation (operation : UpgradeOperation)

/-- The service's own settings; `digest` hashes the JSON text of a body. -/
structure ProfileUpgradeService where
  digest : PlanBody → String
  planTtl : Instant
  confirmationAge : Instant

namespace ProfileUpgradeService

variable (service : ProfileUpgradeService)

def plan (surroundings : Surroundings) (planId targetProfileId : String) :
    Except UpgradeFailure ProfileUpgradePlan := do
  let body ← planBody surroundings targetProfileId
  return {
    id := planId
    body := body
    planDigest := service.digest body
    createdAt := surroundings.now
    expiresAt := surroundings.now + service.planTtl
    confirmation := "UPGRADE " ++ body.sourceProfile.id ++ " TO " ++ body.targetProfile.id ++ " " ++
      service.digest body }

/-- `fresh_body`: some fields are read again, others come from the stored plan. -/
def freshBody (surroundings : Surroundings) (stored : ProfileUpgradePlan) (target : PlatformProfile)
    (transition : Transition) (observed : Value) : Except UpgradeFailure PlanBody := do
  let impact ← dependencyImpact surroundings
  let capacity ← observedField observed "capacity"
  let health ← observedField observed "health"
  let dependencies ← observedField observed "dependencies"
  return {
    sourceProfile := ⟨surroundings.profile.id, versions surroundings.profile⟩
    targetProfile := ⟨target.id, versions target⟩
    components := stored.body.components
    dependencyImpact := impact
    capacity := capacity
    currentHealth := health
    dependencyState := dependencies
    backupEvidence := (observed.get "backup").getD .null
    migration := stored.body.migration
    steps := stored.body.steps
    recoveryBoundary := stored.body.recoveryBoundary
    expectedDowntime := transition.expectedDowntime
    timeoutSeconds := transition.timeoutSeconds }

/-- The checks of `submit` on the stored plan and the confirmation. -/
def checkConfirmation (now : Instant) (stored : ProfileUpgradePlan) (identity : ActorIdentity)
    (confirmation : Option String) : Except UpgradeFailure Unit := do
  check (identity.source ≠ .telegram)
    (.blocked "profile upgrades require Web UI or local CLI confirmation")
  check (now - identity.authenticatedAt ≤ service.confirmationAge)
    (.blocked "profile upgrade requires fresh authentication")
  check (confirmation = some stored.confirmation)
    (.blocked "profile upgrade confirmation did not match")
  check (now < stored.expiresAt) (.stale "upgrade plan has expired")

/-- The operation `submit` queues. -/
def newOperation (now : Instant) (operationId : String) (stored : ProfileUpgradePlan)
    (identity : ActorIdentity) : UpgradeOperation where
  id := operationId
  planId := stored.id
  planDigest := stored.planDigest
  sourceProfileId := stored.body.sourceProfile.id
  targetProfileId := stored.body.targetProfile.id
  actor := identity.actor
  confirmationSource := identity.source
  state := .queued
  currentComponent := none
  completedComponents := []
  error := none
  createdAt := now
  updatedAt := now
  rollback := stored.body.migration.rollback
  recovery := {
    required := false
    boundary := stored.body.recoveryBoundary
    backupId := stored.body.backupEvidence.get "id"
    backupVerified := stored.body.backupEvidence.isObject &&
      ((stored.body.backupEvidence.get "verified").getD .null).truthy
    action := none
    status := .notRequired }
  evidence := []

/-- `submit` lets the loader's own error through. -/
def reloadTarget (surroundings : Surroundings) (stored : ProfileUpgradePlan) :
    Except UpgradeFailure PlatformProfile :=
  match surroundings.load stored.body.targetProfile.id with
  | .ok target => .ok target
  | .error message => .error (.profile message)

/-- `submit`, with the answer of `consume_plan`: the queued operation and the target
its thread runs with. -/
def submit (surroundings : Surroundings) (document : Option UpgradeDocument) (operationId : String)
    (identity : ActorIdentity) (confirmation : Option String) (consumed : Bool) :
    Except UpgradeFailure (UpgradeOperation × PlatformProfile) :=
  match document with
  | none => .error (.blocked "upgrade plan or operation was not found")
  | some (.operation _) => .error (.blocked "upgrade plan is invalid")
  | some (.plan stored) => do
      service.checkConfirmation surroundings.now stored identity confirmation
      let target ← reloadTarget surroundings stored
      let transition ← transition target surroundings.profile.id
      let observed ← validatedObservation surroundings target transition
      let fresh ← freshBody surroundings stored target transition observed
      check (service.digest fresh = stored.planDigest)
        (.stale ("profile versions, state, capacity, health, dependencies, " ++
          "or backup evidence changed"))
      check (consumed = true) (.stale "upgrade plan was already consumed or changed")
      return (newOperation surroundings.now operationId stored identity, target)

end ProfileUpgradeService

end FortifyLab.Upgrade
