import FortifyLab.Library.Checks
import FortifyLab.Library.Value
import FortifyLab.Registry.DependencyOrder
import FortifyLab.Authorization.Approval

/-! Platform profiles and the plan of an upgrade from one to another. Dictionaries
that are hashed with sorted keys are lists of fields in the order of their keys. -/

namespace FortifyLab.Upgrade

open Registry Authorization

inductive Maturity where
  | experimental | validated | recommended | deprecated | unsupported
  deriving DecidableEq, Repr

inductive EvidenceLevel where
  | static | licensedLive
  deriving DecidableEq, Repr

inductive RecoveryClass where
  | reversible | compensatingAction | restoreRequired | irreversible
  deriving DecidableEq, Repr

inductive MigrationKind where
  | database | application
  deriving DecidableEq, Repr

structure Migration where
  component : ComponentId
  kind : MigrationKind
  rollback : RecoveryClass
  summary : Option String
  deriving DecidableEq, Repr

structure Transition where
  source : String
  timeoutSeconds : Int
  expectedDowntime : String
  backupRequired : Bool
  migrations : List Migration
  recovery : String
  deriving DecidableEq, Repr

/-- What `component_version` returns. -/
structure ComponentVersion where
  chart : String
  images : List (String × String)
  deriving DecidableEq, Repr

abbrev Versions := List (ComponentId × ComponentVersion)

structure PlatformProfile where
  id : String
  maturity : Maturity
  evidenceLevel : EvidenceLevel
  components : Versions
  capacity : List (String × Int)
  allowedSources : List String
  transitions : List Transition
  uniqueComponents : (components.map Prod.fst).Nodup

/-- Why planning or submitting raises: an `UpgradeError`, a `StaleUpgradePlan`, or
an exception neither of them handles. -/
inductive UpgradeFailure where
  | blocked (message : String)
  | stale (message : String)
  | profile (message : String)
  | registry (error : RegistryError)
  | raised
  deriving DecidableEq, Repr

def PlatformProfile.componentVersion (profile : PlatformProfile) (componentId : ComponentId) :
    Except UpgradeFailure ComponentVersion :=
  match profile.components.lookup componentId with
  | some version => .ok version
  | none => .error (.profile ("platform profile has no component: " ++ componentId))

/-- `_versions`. -/
def versions (profile : PlatformProfile) : Versions :=
  profile.components.mergeSort (fun left right => decide (left.1 ≤ right.1))

/-- The versions as the JSON object an observation has to report. -/
def versionsValue (profile : PlatformProfile) : Value :=
  .obj ((versions profile).map (fun entry =>
    (entry.1, .obj [("chart", .str entry.2.chart),
      ("images", .obj (entry.2.images.map (fun image => (image.1, .str image.2))))])))

/-- `_rollback_class`. -/
def rollbackClass (migrations : List Migration) : RecoveryClass :=
  let limitations := migrations.map Migration.rollback
  if RecoveryClass.irreversible ∈ limitations then .irreversible
  else if RecoveryClass.restoreRequired ∈ limitations then .restoreRequired
  else if RecoveryClass.compensatingAction ∈ limitations then .compensatingAction
  else .reversible

/-- `migration_by_component`: the dictionary keeps the last item of a component. -/
def migrationByComponent (migrations : List Migration) (componentId : ComponentId) :
    Option RecoveryClass :=
  (migrations.reverse.find? (fun item => item.component == componentId)).map Migration.rollback

structure UpgradeStep where
  number : Nat
  component : ComponentId
  changesVersion : Bool
  recoveryClass : RecoveryClass
  deriving DecidableEq, Repr

structure ProfileSnapshot where
  id : String
  versions : Versions
  deriving DecidableEq, Repr

structure MigrationPlan where
  required : Bool
  items : List Migration
  rollback : RecoveryClass
  recovery : String
  deriving DecidableEq, Repr

/-- The part of a plan its digest covers. -/
structure PlanBody where
  sourceProfile : ProfileSnapshot
  targetProfile : ProfileSnapshot
  components : List ComponentId
  dependencyImpact : List ComponentId
  capacity : Value
  currentHealth : Value
  dependencyState : Value
  backupEvidence : Value
  migration : MigrationPlan
  steps : List UpgradeStep
  recoveryBoundary : RecoveryClass
  expectedDowntime : String
  timeoutSeconds : Int

structure ProfileUpgradePlan where
  id : String
  body : PlanBody
  planDigest : String
  createdAt : Instant
  expiresAt : Instant
  confirmation : String

/-- What the service sees when a call reads it: the registry and its profile, the
iteration order of this process's sets, the loader, the observation and the clock. -/
structure Surroundings where
  registry : ComponentRegistry
  order : SetOrder
  profile : PlatformProfile
  load : String → Except String PlatformProfile
  observe : Option Value
  now : Instant

/-- `_transition`. -/
def transition (target : PlatformProfile) (sourceId : String) : Except UpgradeFailure Transition :=
  if sourceId ∉ target.allowedSources then
    .error (.blocked "target profile does not allow the source profile")
  else
    match target.transitions.filter (fun item => item.source == sourceId) with
    | [item] => .ok item
    | _ => .error (.blocked "target profile lacks one explicit tested transition")

/-- `any(capacity.get(key, -1) < value …)`; comparing a number with something else raises. -/
def capacityShort (capacity : Value) : List (String × Int) → Except UpgradeFailure Bool
  | [] => .ok false
  | (key, value) :: rest =>
      match ((capacity.get key).getD (.int (-1))).number with
      | none => .error .raised
      | some available => if available < value then .ok true else capacityShort capacity rest

/-- The observed state of every component is `ready`, and no component is missing. -/
def dependenciesReady (componentIds : List ComponentId) (dependencies : Value) : Bool :=
  match dependencies with
  | .obj fields =>
      fields.all (fun field => componentIds.contains field.1) &&
        componentIds.all (fun componentId => (fields.lookup componentId).isSome) &&
        fields.all (fun field => field.2.isText "ready")
  | _ => false

def backupAcceptable (sourceId : String) (backup : Option Value) : Bool :=
  match backup with
  | some backup =>
      backup.isObject && ((backup.get "profileId").getD .null).isText sourceId &&
        ((backup.get "complete").getD .null).truthy && ((backup.get "verified").getD .null).truthy
  | none => false

/-- `_validated_observation`. -/
def validatedObservation (surroundings : Surroundings) (target : PlatformProfile)
    (transition : Transition) : Except UpgradeFailure Value :=
  match surroundings.observe with
  | none => .error (.blocked "current platform evidence is unavailable")
  | some observed => do
      check (((observed.get "profileId").getD .null).isText surroundings.profile.id)
        (.blocked "observed source profile does not match")
      check (((observed.get "versions").getD .null).same (versionsValue surroundings.profile))
        (.blocked "observed component versions drift from the source profile")
      let short ← capacityShort ((observed.get "capacity").getD (.obj [])) target.capacity
      check (short = false) (.blocked "available capacity does not satisfy the target profile")
      check ((((observed.get "health").getD (.obj [])).get "state").getD .null |>.isText "healthy")
        (.blocked "current platform health is not ready for upgrade")
      check (dependenciesReady surroundings.registry.componentIds
          ((observed.get "dependencies").getD (.obj [])))
        (.blocked "component dependency state is incomplete or unhealthy")
      check (transition.backupRequired → backupAcceptable surroundings.profile.id (observed.get "backup"))
        (.blocked "a complete verified source-profile backup is required")
      return observed

/-- `observed[key]`. -/
def observedField (observed : Value) (key : String) : Except UpgradeFailure Value :=
  match observed.get key with
  | some value => .ok value
  | none => .error .raised

def dependencyImpact (surroundings : Surroundings) : Except UpgradeFailure (List ComponentId) :=
  match surroundings.registry.dependencyOrder surroundings.order [] with
  | .ok ordered => .ok ordered
  | .error error => .error (.registry error)

/-- The components whose two profiles declare different versions, in the given order. -/
def changedComponents (source target : PlatformProfile) :
    List ComponentId → Except UpgradeFailure (List ComponentId)
  | [] => .ok []
  | componentId :: rest => do
      let current ← source.componentVersion componentId
      let wanted ← target.componentVersion componentId
      let changed ← changedComponents source target rest
      return if current ≠ wanted then componentId :: changed else changed

/-- The numbered steps, one for each component of the dependency impact. -/
def upgradeSteps (migrations : List Migration) (changed : List ComponentId) :
    Nat → List ComponentId → List UpgradeStep
  | _, [] => []
  | number, componentId :: rest =>
      { number, component := componentId, changesVersion := decide (componentId ∈ changed),
        recoveryClass := (migrationByComponent migrations componentId).getD .reversible } ::
      upgradeSteps migrations changed (number + 1) rest

def maturityAllowed (maturity : Maturity) : Bool :=
  maturity = .validated || maturity = .recommended

/-- `plan` hides why a target cannot be loaded. -/
def loadTarget (surroundings : Surroundings) (targetProfileId : String) :
    Except UpgradeFailure PlatformProfile :=
  match surroundings.load targetProfileId with
  | .ok target => .ok target
  | .error _ => .error (.blocked "target platform profile is unavailable or invalid")

/-- The body `plan` computes. -/
def planBody (surroundings : Surroundings) (targetProfileId : String) :
    Except UpgradeFailure PlanBody := do
  let source := surroundings.profile
  let target ← loadTarget surroundings targetProfileId
  check (target.id ≠ source.id ∧ target.maturity ≠ .unsupported)
    (.blocked "source and target platform profiles are not an allowed transition")
  check (maturityAllowed target.maturity ∧ target.evidenceLevel = .licensedLive)
    (.blocked "target profile transition lacks licensed-live validation")
  let transition ← transition target source.id
  let observed ← validatedObservation surroundings target transition
  let impact ← dependencyImpact surroundings
  let changed ← changedComponents source target impact
  check (changed ≠ []) (.blocked "target platform profile has no component version changes")
  let capacity ← observedField observed "capacity"
  let health ← observedField observed "health"
  let dependencies ← observedField observed "dependencies"
  return {
    sourceProfile := ⟨source.id, versions source⟩
    targetProfile := ⟨target.id, versions target⟩
    components := changed
    dependencyImpact := impact
    capacity := capacity
    currentHealth := health
    dependencyState := dependencies
    backupEvidence := (observed.get "backup").getD .null
    migration := {
      required := !transition.migrations.isEmpty
      items := transition.migrations
      rollback := rollbackClass transition.migrations
      recovery := transition.recovery }
    steps := upgradeSteps transition.migrations changed 1 impact
    recoveryBoundary := rollbackClass transition.migrations
    expectedDowntime := transition.expectedDowntime
    timeoutSeconds := transition.timeoutSeconds }

end FortifyLab.Upgrade
