import FortifyLab.Availability.Routes
import Mathlib.Algebra.Order.Field.Rat
import Mathlib.Logic.Function.Basic
import Mathlib.Tactic.Linarith

/-! The availability monitor: `document` as the critical sections of its callers. -/

namespace FortifyLab.Availability

inductive AvailabilityState where
  | reachable
  | degraded
  | tlsWarning
  | dnsMismatch
  | unreachable
  | notConfigured
  | unknown
  deriving DecidableEq

structure ProbeEvidence where
  state : AvailabilityState
  dns : String
  tls : String
  http : String
  latencyMs : Int
  summary : String
  deriving DecidableEq

/-- `_safe_probe`; `none` is a probe that raised. -/
def safeProbe (outcome : Option ProbeEvidence) : ProbeEvidence :=
  outcome.getD ⟨.unknown, "unknown", "unknown", "unknown", 0,
    "Availability evidence could not be collected"⟩

/-- An item of the document, without its history. -/
structure RouteResult where
  id : String
  url : Option String
  state : AvailabilityState
  dns : String
  tls : String
  http : String
  latencyMs : Option Int
  checkedAt : Option String
  summary : String
  deriving DecidableEq

structure HistoryEntry where
  state : AvailabilityState
  checkedAt : String
  latencyMs : Int
  deriving DecidableEq

/-- What the constructor keeps of its arguments. -/
structure Settings where
  interval : ℚ
  maxBackoff : ℚ
  historyLimit : Nat
  interval_pos : 0 < interval
  interval_le : interval ≤ maxBackoff
  historyLimit_pos : 0 < historyLimit

/-- `__init__`. -/
def Settings.of (intervalSeconds maxBackoffSeconds : ℚ) (historyLimit : Int) : Settings where
  interval := min (max intervalSeconds 5) 300
  maxBackoff := min (max maxBackoffSeconds (min (max intervalSeconds 5) 300)) 900
  historyLimit := (min (max historyLimit 1) 48).toNat
  interval_pos := lt_min (lt_max_of_lt_right (by norm_num)) (by norm_num)
  interval_le := le_min (le_max_right _ _) ((min_le_right _ _).trans (by norm_num))
  historyLimit_pos := by omega

/-- The fields of the monitor. -/
structure Monitor where
  results : String → Option RouteResult
  history : String → List HistoryEntry
  failures : String → Nat
  nextDue : String → ℚ
  polling : List String

def Monitor.initial : Monitor := ⟨fun _ => none, fun _ => [], fun _ => 0, fun _ => 0, []⟩

/-! ## `_record` -/

def isReachable (evidence : ProbeEvidence) : Bool := decide (evidence.state = .reachable)

/-- `0.9 + (sum(endpoint_id.encode()) % 21) / 100`. -/
def jitter (endpointId : String) : ℚ :=
  9 / 10 + (((endpointId.toUTF8.data.toList.map UInt8.toNat).sum % 21 : Nat) : ℚ) / 100

/-- The failures in a row, after a result. -/
def failuresAfter (failures : Nat) (evidence : ProbeEvidence) : Nat :=
  if isReachable evidence then 0 else failures + 1

/-- The time between two probes, before the cap and the jitter. -/
def backoff (settings : Settings) (failures : Nat) (evidence : ProbeEvidence) : ℚ :=
  settings.interval * (if isReachable evidence then 1 else 2 ^ min failures 4)

/-- `delay * jitter`. -/
def waiting (settings : Settings) (endpointId : String) (failures : Nat)
    (evidence : ProbeEvidence) : ℚ :=
  min settings.maxBackoff (backoff settings failures evidence) * jitter endpointId

def urlOf (host : String) : String := s!"https://{host}/"

def resultOf (endpointId host : String) (evidence : ProbeEvidence) (checked : String) :
    RouteResult where
  id := endpointId
  url := some (urlOf host)
  state := evidence.state
  dns := evidence.dns
  tls := evidence.tls
  http := evidence.http
  latencyMs := some evidence.latencyMs
  checkedAt := some checked
  summary := evidence.summary

variable (settings : Settings)

/-- `_record`. -/
def record (monitor : Monitor) (route : ObservedRoute) (evidence : ProbeEvidence)
    (checked : String) (now : ℚ) : Monitor :=
  let id := route.endpointId
  let failures := failuresAfter (monitor.failures id) evidence
  { results := Function.update monitor.results id (some (resultOf id route.host evidence checked))
    history := Function.update monitor.history id
      ((⟨evidence.state, checked, evidence.latencyMs⟩ :: monitor.history id).take
        settings.historyLimit)
    failures := Function.update monitor.failures id failures
    nextDue := Function.update monitor.nextDue id
      (now + waiting settings id failures evidence)
    polling := monitor.polling }

/-! ## Callers -/

/-- What a call of `document` keeps while it runs; `routes` is `none` where observing raised. -/
structure Call where
  now : ℚ
  routes : Option (List ObservedRoute)
  due : List ObservedRoute

/-- Where a caller is: probing, before the `finally` block, or before the answer. -/
inductive Phase where
  | idle
  | probing (call : Call)
  | closing (call : Call) (finished : Bool)
  | answering (call : Call)

/-- The routes whose polling marks a caller holds. -/
def Phase.held : Phase → List ObservedRoute
  | .idle => []
  | .probing call => call.due
  | .closing call _ => call.due
  | .answering _ => []

/-- A result that was recorded. -/
structure Probed where
  host : String
  evidence : ProbeEvidence
  checked : String
  now : ℚ

/-- The monitor and its callers; `probed` is what was recorded for each endpoint, latest first. -/
structure World where
  monitor : Monitor
  calls : Nat → Phase
  probed : String → List Probed

def World.initial : World := ⟨.initial, fun _ => .idle, fun _ => []⟩

/-- A critical section of a caller: the due routes, the results of the probes (`none` for one that
raised; too few where recording raised), the `finally` block, and the answer. -/
inductive Event where
  | enter (caller : Nat) (now : ℚ) (observed : Option (List ObservedRoute))
  | record (caller : Nat) (outcomes : List (Option ProbeEvidence × String))
  | release (caller : Nat)
  | answer (caller : Nat)

/-- The due routes. -/
def dueRoutes (monitor : Monitor) (now : ℚ) (routes : List ObservedRoute) : List ObservedRoute :=
  routes.filter (fun route => decide (monitor.nextDue route.endpointId ≤ now) &&
    !monitor.polling.contains route.endpointId)

/-- One result, recorded. -/
def recordOne (now : ℚ) (world : World)
    (entry : ObservedRoute × Option ProbeEvidence × String) : World :=
  let evidence := safeProbe entry.2.1
  { world with
    monitor := record settings world.monitor entry.1 evidence entry.2.2 now
    probed := Function.update world.probed entry.1.endpointId
      (⟨entry.1.host, evidence, entry.2.2, now⟩ :: world.probed entry.1.endpointId) }

variable (texts : HostTexts) (curated : List Endpoint)

/-- The next state of the world; `none` where the caller is not at this section. -/
def step (world : World) : Event → Option World
  | .enter caller now observed =>
      match world.calls caller with
      | .idle =>
          let routes := approvedRoutes texts curated observed
          let due := dueRoutes world.monitor now (routes.getD [])
          let call : Call := ⟨now, routes, due⟩
          some { world with
            monitor := { world.monitor with
              polling := world.monitor.polling ++ due.map ObservedRoute.endpointId }
            calls := Function.update world.calls caller
              (if due = [] then .answering call else .probing call) }
      | _ => none
  | .record caller outcomes =>
      match world.calls caller with
      | .probing call =>
          if outcomes.length ≤ call.due.length then
            let recorded := (call.due.zip outcomes).foldl (recordOne settings call.now) world
            some { recorded with
              calls := Function.update world.calls caller
                (.closing call (decide (outcomes.length = call.due.length))) }
          else none
      | _ => none
  | .release caller =>
      match world.calls caller with
      | .closing call finished =>
          some { world with
            monitor := { world.monitor with
              polling := world.monitor.polling.filter (fun id =>
                !(call.due.map ObservedRoute.endpointId).contains id) }
            calls := Function.update world.calls caller
              (if finished then .answering call else .idle) }
      | _ => none
  | .answer caller =>
      match world.calls caller with
      | .answering _ => some { world with calls := Function.update world.calls caller .idle }
      | _ => none

def run (world : World) : List Event → Option World
  | [] => some world
  | event :: events => (step settings texts curated world event).bind (fun next => run next events)

/-! ## The answer -/

/-- `_not_configured`. -/
def notConfigured (endpoint : Endpoint) : RouteResult where
  id := endpoint.id
  url := none
  state := .notConfigured
  dns := "not-attempted"
  tls := "not-attempted"
  http := "not-attempted"
  latencyMs := none
  checkedAt := none
  summary := "No approved observed ingress route is configured"

/-- `_unknown`. -/
def unknown (endpoint : Endpoint) (route : Option ObservedRoute) : RouteResult :=
  { notConfigured endpoint with
    url := route.map (fun route => urlOf route.host)
    state := .unknown
    summary := if route.isSome then "The approved route has not been checked"
      else "Ingress route evidence could not be collected" }

structure Item where
  result : RouteResult
  history : List HistoryEntry

/-- An item of the answer to a call. -/
def itemOf (monitor : Monitor) (call : Call) (endpoint : Endpoint) : Item where
  result := match call.routes with
    | none => unknown endpoint none
    | some routes =>
        match routes.find? (fun route => route.endpointId = endpoint.id) with
        | none => notConfigured endpoint
        | some route => (monitor.results endpoint.id).getD (unknown endpoint (some route))
  history := monitor.history endpoint.id

/-- The items that `document` returns. -/
def items (monitor : Monitor) (call : Call) : List Item := curated.map (itemOf monitor call)

end FortifyLab.Availability
