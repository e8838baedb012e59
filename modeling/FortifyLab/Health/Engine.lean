import FortifyLab.Library.Sweep
import FortifyLab.Health.Evidence
import FortifyLab.Registry.DependencyOrder

/-! `HealthEngine`: the subjects in dependency order, the gates of their checks, and the item that
the evidence of a subject becomes. -/

namespace FortifyLab.Health

open Registry

/-- One entry of a component's `health.checks`. -/
structure DeclaredCheck where
  id : String
  type : String
  target : String
  timeoutSeconds : ℚ
  required : Bool

/-- The registry with what the evaluation reads of it besides. -/
structure HealthRegistry where
  registry : ComponentRegistry
  displayName : ComponentId → String
  checks : ComponentId → List DeclaredCheck

structure Subject where
  id : String
  displayName : String
  dependencies : List String
  checks : List CheckSpec
  remediation : String

/-- A domain of an item; without entries its state is `not-applicable`. -/
structure Domain where
  state : Option HealthState
  rootCause : Option String
  direct : Bool

inductive WorkloadState where
  | absent | notReady | ready | unknown
  deriving DecidableEq

inductive ApplicationState where
  | unknown | healthy | unhealthy
  deriving DecidableEq

structure Dimensions where
  dependency : Option String
  workload : WorkloadState
  application : ApplicationState

/-- An item; `rootCause` is the first of its root causes. -/
structure Item where
  id : String
  displayName : String
  state : HealthState
  dependencies : List String
  checkedAt : String
  evidence : List Entry
  remediation : String
  rootCauses : List String
  blockedBy : Option String
  directState : HealthState
  affectedDomains : List String
  domains : List (String × Domain)
  downstreamImpact : List String
  dimensions : Dimensions

structure Summary where
  components : Nat
  blocked : Nat
  workloadAbsent : Nat
  workloadNotReady : Nat
  applicationUnknown : Nat

structure HealthDocument where
  generatedAt : String
  state : HealthState
  summary : Summary
  items : List Item

/-- What the constructor is given. -/
structure HealthEngine where
  registry : HealthRegistry
  staleAfter : Int
  availability : Value
  runtime : Runtime

/-! ## States -/

/-- `_DIRECT_PRECEDENCE`. -/
def directPrecedence : List HealthState :=
  [.unhealthy, .misconfigured, .stopped, .unreachable, .unknown, .stale, .starting, .degraded]

/-- `_BLOCKING_STATES`. -/
def blockingStates : List HealthState :=
  [.unhealthy, .misconfigured, .stopped, .unreachable, .unknown, .stale, .starting, .blocked]

def aggregatePrecedence : List HealthState :=
  [.unhealthy, .misconfigured, .unreachable, .unknown, .stale, .stopped, .starting, .degraded,
    .blocked]

/-- The first state of a precedence that occurs. -/
def firstOf (precedence states : List HealthState) : HealthState :=
  (precedence.find? (fun candidate => decide (candidate ∈ states))).getD .healthy

/-- `_rank_state`. -/
def rankState (evidence : List Entry) : HealthState :=
  firstOf directPrecedence (evidence.map Entry.state)

/-- `_aggregate`. -/
def aggregate (items : List Item) : HealthState :=
  firstOf aggregatePrecedence (items.map Item.state)

/-- `_DOMAIN_LAYERS`. -/
def domainLayers : List (String × List Layer) :=
  [("infrastructure", [.infrastructure]), ("workload", [.workload]), ("persistence", [.storage]),
    ("internalService", [.internalService, .dependency]),
    ("application", [.application, .functional]), ("ingressRouting", [.ingressRouting]),
    ("tls", [.tls]), ("ingressTls", [.ingressRouting, .tls]),
    ("externalReachability", [.externalReachability])]

/-- The round of `_domains` for one domain. -/
def domainOf (evidence : List Entry) (layers : List Layer) : Domain :=
  let entries := evidence.filter (fun entry => decide (entry.layer ∈ layers))
  if entries.isEmpty then ⟨none, none, true⟩
  else
    { state := some (rankState entries)
      rootCause := (entries.find? (fun entry => decide (entry.state ≠ .healthy))).map Entry.id
      direct := !entries.any Entry.derived }

/-- `_domains`. -/
def domains (evidence : List Entry) : List (String × Domain) :=
  domainLayers.map (fun domain => (domain.1, domainOf evidence domain.2))

/-! ## Gates -/

def infrastructureIds : List String := ["microk8s-node", "storage", "dns", "ingress", "tls"]

/-- `results.get(id)`: of the items so far. -/
def findItem (results : List Item) (id : String) : Option Item :=
  results.find? (fun item => item.id == id)

def relevantDomains : List String := ["workload", "persistence", "internalService", "application"]

/-- The item keeps the checks of its consumers from being probed. -/
def Item.blocks (item : Item) : Bool :=
  if infrastructureIds.contains item.id then blockingStates.contains item.state
  else relevantDomains.any (fun name => (item.domains.lookup name).any
    (fun domain => domain.state.any blockingStates.contains))

/-- `_dependency_blocks`. -/
def dependencyBlocks (results : List Item) (dependency : String) : Bool :=
  match findItem results dependency with
  | none => true
  | some item => item.blocks

/-- `blocked_checks`; the checks of a subject have different ids. -/
def blockersOf (results : List Item) (check : CheckSpec) : List String :=
  check.dependencies.filter (dependencyBlocks results)

/-- `blocked_dependencies`. -/
def blockedDependencies (subject : Subject) (results : List Item) : List String :=
  (subject.checks.flatMap (blockersOf results)).eraseDups

/-! ## Dimensions -/

/-- The test of one workload entry for missing replicas; comparing with `None` raises. -/
def Workload.mismatch (workload : Workload) : Except HealthError Bool :=
  match workload.present, workload.desiredReplicas, workload.readyReplicas with
  | some true, some desired, some ready => .ok (decide (ready < desired))
  | some true, some _, none => .error .typeError
  | _, _, _ => .ok false

/-- `any(…)` over the workload entries: it stops at the first mismatch. -/
def anyMismatch : List Entry → Except HealthError Bool
  | [] => .ok false
  | entry :: rest =>
      match entry.workload with
      | none => anyMismatch rest
      | some workload => do
          if ← workload.mismatch then return true else anyMismatch rest

/-- `_dimensions`. -/
def dimensions (evidence : List Entry) (blockedBy : Option String) :
    Except HealthError Dimensions := do
  let workload := evidence.filter (fun entry => decide (entry.layer = .workload))
  let application := evidence.filter (fun entry =>
    decide (entry.layer ∈ [Layer.internalService, .application, .functional]))
  let absent := workload.any (fun entry =>
    entry.workload.any (fun workload => workload.present == some false))
  let mismatch ← anyMismatch workload
  return {
    dependency := blockedBy
    workload := if absent then .absent else if mismatch then .notReady
      else if !workload.isEmpty && workload.all (fun entry => decide (entry.state = .healthy)) then
        .ready
      else .unknown
    application := if application.isEmpty || application.any (fun entry =>
          decide (entry.state = .unknown ∨ entry.state = .stale)) then .unknown
      else if application.all (fun entry => decide (entry.state = .healthy)) then .healthy
      else .unhealthy }

/-! ## Items -/

/-- `results[dependency].get("rootCause", dependency)`. -/
def rootOf (results : List Item) (dependency : String) : Except HealthError String :=
  match findItem results dependency with
  | none => .error .keyError
  | some item => .ok (item.rootCauses.head?.getD dependency)

def accessLayers : List Layer := [.ingressRouting, .tls, .externalReachability]

/-- The state of an item. -/
def itemState (evidence : List Entry) (blockedDependencies : List String) : HealthState :=
  let required := evidence.filter Entry.required
  let directState := rankState (required.filter (fun entry => !entry.derived))
  let access := required.filter (fun entry => decide (entry.layer ∈ accessLayers))
  if directState ≠ .healthy then directState
  else if !blockedDependencies.isEmpty then .blocked
  else if rankState access ≠ .healthy then .degraded
  else if evidence.any (fun entry => decide (entry.state ≠ .healthy)) then .degraded
  else .healthy

/-- The root causes of the subject's own. -/
def localRoots (subjectId : String) (evidence : List Entry) : List String :=
  ((evidence.filter Entry.required).filter (fun entry =>
    decide (entry.state ≠ .healthy) && !entry.derived)).map
      (fun entry => subjectId ++ "/" ++ entry.id)

/-- `_evaluate`. -/
def evaluate (runtime : Runtime) (subject : Subject) (now : Int) (evidence : List Entry)
    (results : List Item) (blockedDependencies : List String) : Except HealthError Item := do
  let dependencyRoots ← blockedDependencies.mapM (rootOf results)
  let projected ← dimensions evidence blockedDependencies.head?
  return {
    id := subject.id
    displayName := subject.displayName
    state := itemState evidence blockedDependencies
    dependencies := subject.dependencies
    checkedAt := timestamp runtime now
    evidence := evidence
    remediation := subject.remediation
    rootCauses := (dependencyRoots ++ localRoots subject.id evidence).eraseDups
    blockedBy := blockedDependencies.head?
    directState := rankState ((evidence.filter Entry.required).filter (fun entry => !entry.derived))
    affectedDomains := ((domains evidence).filter (fun domain =>
      decide (domain.1 ≠ "ingressTls") && domain.2.state.any (fun state =>
        decide (state ≠ .healthy)))).map Prod.fst
    domains := domains evidence
    downstreamImpact := []
    dimensions := projected }

/-! ## Subjects -/

/-- One of `_infrastructure_subjects`. -/
def infrastructureSubject (subjectId name : String) (dependencies : List String) (layer : Layer)
    (checkId target : String) : Subject where
  id := subjectId
  displayName := name
  dependencies := dependencies
  checks := [{
    id := checkId
    subjectId := subjectId
    layer := layer
    probeType := checkId
    target := target
    timeoutSeconds := 10
    required := true
    dependencies := dependencies }]
  remediation := "/docs/health-checks.md#" ++ subjectId

/-- `_infrastructure_subjects`. -/
def infrastructureSubjects : List Subject :=
  [infrastructureSubject "microk8s-node" "MicroK8s node" [] .infrastructure "node-ready" "node",
    infrastructureSubject "storage" "Storage" ["microk8s-node"] .storage "storage-ready" "default",
    infrastructureSubject "dns" "In-cluster DNS" ["microk8s-node"] .internalService "dns-lookup"
      "kubernetes.default",
    infrastructureSubject "ingress" "Ingress routing" ["microk8s-node"] .ingressRouting
      "ingress-ready" "ingress",
    infrastructureSubject "tls" "TLS" ["ingress"] .tls "tls-valid" "managed-hosts"]

/-- `_component_layer`; another type raises. -/
def componentLayers : List (String × Layer) :=
  [("workload-ready", .workload), ("persistent-volume", .storage),
    ("native-readiness", .application), ("database-query", .application),
    ("https", .internalService), ("tcp", .functional), ("application-ready", .application),
    ("dependency-connectivity", .internalService), ("configuration", .functional),
    ("registration", .functional)]

/-- `_component_check_dependencies`. -/
def componentCheckDependencies (layer : Layer) (componentDependencies : List String) :
    List String :=
  match layer with
  | .workload => ["microk8s-node"]
  | .storage => ["microk8s-node", "storage"]
  | _ => (["microk8s-node", "dns"] ++ componentDependencies).eraseDups

/-- The check that a declared check becomes. -/
def checkSpec (componentId : ComponentId) (dependencies : List String) (check : DeclaredCheck) :
    Except HealthError CheckSpec :=
  match componentLayers.lookup check.type with
  | none => .error .keyError
  | some layer => .ok {
      id := check.id
      subjectId := componentId
      layer := layer
      probeType := check.type
      target := check.target
      timeoutSeconds := min check.timeoutSeconds 30
      required := check.required
      dependencies := componentCheckDependencies layer dependencies }

/-- The subject of a component. -/
def componentSubject (registry : HealthRegistry) (componentId : ComponentId) :
    Except HealthError Subject := do
  let dependencies := registry.registry.dependencies componentId
  let checks ← ((registry.checks componentId).filter DeclaredCheck.required).mapM
    (checkSpec componentId dependencies)
  return {
    id := componentId
    displayName := registry.displayName componentId
    dependencies := (["microk8s-node", "dns"] ++ dependencies ++
      (if checks.any (fun check => decide (check.layer = .storage)) then ["storage"]
        else [])).eraseDups
    checks := checks
    remediation := "/docs/health-checks.md#" ++ componentId }

namespace HealthEngine

variable (engine : HealthEngine)

/-- `_subjects`. -/
def subjects (order : SetOrder) : Except HealthError (List Subject) :=
  match engine.registry.registry.dependencyOrder order [] with
  | .error _ => .error .registryError
  | .ok ordered => do
      let components ← ordered.mapM (componentSubject engine.registry)
      return infrastructureSubjects ++ components

/-! ## The document -/

/-- The entries of the probed checks, and those of the checks that a dependency blocks. -/
def checkEvidence (probe : CheckSpec → Observation) (subject : Subject) (results : List Item)
    (now : Int) : List Entry :=
  (subject.checks.filter (fun check => (blockersOf results check).isEmpty)).map
      (fun check => result engine.runtime engine.staleAfter check (probe check) now) ++
    (subject.checks.filter (fun check => !(blockersOf results check).isEmpty)).map
      (fun check => unavailableEvidence engine.runtime check (blockersOf results check) now)

/-- The round of `document` for one subject. -/
def item (probe : CheckSpec → Observation) (subject : Subject) (results : List Item)
    (now : Int) : Except HealthError Item := do
  let external ← externalEvidence engine.runtime engine.staleAfter engine.availability
    subject.id now
  evaluate engine.runtime subject now (engine.checkEvidence probe subject results now ++ external)
    results (blockedDependencies subject results)

/-- The loop of `document` over the subjects. -/
def items (probe : CheckSpec → Observation) (now : Int) (subjects : List Subject) :
    Except HealthError (List Item) :=
  sweep (fun subject results => engine.item probe subject results now) subjects []

end HealthEngine

/-- An entry of the consumer names the id in `blockedBy`. -/
def isBlockedBy (id : String) (consumer : Item) : Bool :=
  consumer.evidence.any (fun entry => entry.blockedBy.contains id)

/-- The consumers that an item keeps from being probed. -/
def downstreamImpact (items : List Item) (id : String) : List String :=
  ((items.filter (isBlockedBy id)).map Item.id).insertionSort (fun left right => left ≤ right)

def withImpact (items : List Item) (item : Item) : Item :=
  { item with downstreamImpact := downstreamImpact items item.id }

/-- `_summary`. -/
def summary (items : List Item) : Summary :=
  let components := items.filter (fun item => !infrastructureIds.contains item.id)
  { components := components.length
    blocked := components.countP (fun item => item.dimensions.dependency.any (fun id => id != ""))
    workloadAbsent := components.countP (fun item => decide (item.dimensions.workload = .absent))
    workloadNotReady :=
      components.countP (fun item => decide (item.dimensions.workload = .notReady))
    applicationUnknown :=
      components.countP (fun item => decide (item.dimensions.application = .unknown)) }

/-- `document`. -/
def HealthEngine.document (engine : HealthEngine) (order : SetOrder)
    (probe : CheckSpec → Observation) (now : Int) : Except HealthError HealthDocument := do
  let subjects ← engine.subjects order
  let evaluated ← engine.items probe now subjects
  let items := evaluated.map (withImpact evaluated)
  return {
    generatedAt := timestamp engine.runtime now
    state := aggregate items
    summary := summary items
    items := items }

end FortifyLab.Health
