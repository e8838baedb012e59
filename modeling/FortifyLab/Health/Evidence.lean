import Mathlib.Data.Rat.Floor
import FortifyLab.Redaction.Record

/-! `health.py`: checks, what a probe may answer, and the evidence entries made of it. -/

namespace FortifyLab.Health

/-- `HEALTH_STATES`. -/
inductive HealthState where
  | healthy | starting | degraded | blocked | misconfigured | stopped | unreachable | unhealthy
  | unknown | stale
  deriving DecidableEq

inductive Layer where
  | infrastructure | workload | storage | internalService | dependency | application | functional
  | ingressRouting | tls | externalReachability
  deriving DecidableEq

/-- What ends an evaluation without a document. -/
inductive HealthError where
  | keyError
  | typeError
  | attributeError
  | valueError
  | overflowError
  | registryError
  deriving DecidableEq

structure CheckSpec where
  id : String
  subjectId : String
  layer : Layer
  probeType : String
  target : String
  timeoutSeconds : ℚ
  required : Bool
  dependencies : List String

/-- The constructor refuses the states `blocked` and `stale` and negative numbers. The time is
in microseconds since 1970, in UTC. -/
structure ProbeResult where
  state : HealthState
  summary : String
  observedAt : Int
  latencyMs : Option Nat
  workloadPresent : Option Bool
  desiredReplicas : Option Nat
  readyReplicas : Option Nat
  probed : state ≠ .blocked ∧ state ≠ .stale

/-- What becomes of a submitted check: it is not finished before the deadline, the probe raises
(a `TimeoutError`, or another exception), or it returns a result. -/
inductive Outcome where
  | late
  | raised (timedOut : Bool)
  | returned (result : ProbeResult)

/-- The outcome of a check, and how long it was waited for. -/
structure Observation where
  outcome : Outcome
  measuredMs : Nat

structure Workload where
  present : Option Bool
  desiredReplicas : Option Nat
  readyReplicas : Option Nat
  deriving DecidableEq

structure Entry where
  id : String
  layer : Layer
  state : HealthState
  required : Bool
  summary : String
  observedAt : String
  latencyMs : Int
  derived : Bool
  blockedBy : List String
  workload : Option Workload
  deriving DecidableEq

/-- What of the language the evaluation uses: `isoformat` of a time in UTC, `fromisoformat` as the
time in UTC, `int` of a text and `str` of a value that is no text. -/
structure Runtime where
  isoformat : Int → String
  fromisoformat : String → Option Int
  parseInt : String → Option Int
  represent : Value → String

variable (runtime : Runtime)

/-! ## Texts and times -/

open Regex in
/-- `_SENSITIVE`. -/
def sensitive : Regex :=
  let fold := Redaction.fold
  let space := Redaction.isSpace
  .alt (words fold ["password".toList, "passwd".toList, "secret".toList, "token".toList,
      "credential".toList])
    (.alt (.seq (word fold "license".toList) (.seq (run space)
        (.alt (words fold ["data".toList, "value".toList, "key".toList, "content".toList])
          (.one (fun character => character == ':' || character == '=')))))
      (.alt Redaction.privateKeyName
        (.alt (words fold ["authorization".toList, "cookie".toList])
          (.seq (word fold "bearer".toList)
            (.seq (plus space) (plus (fun character => !space character)))))))

/-- `str(value)`. -/
def textOf : Value → String
  | .str text => text
  | value => runtime.represent value

/-- `text.split()`. -/
def splitSpaces (text : List Char) : List (List Char) :=
  (text.splitOnP Redaction.isSpace).filter (fun word => !word.isEmpty)

/-- `_safe_summary`. -/
def safeSummary (value : Value) : String :=
  let text := [' '].intercalate (splitSpaces (textOf runtime value).toList)
  if text.isEmpty || decide (256 < text.length) || sensitive.search none text then
    "Probe returned evidence that could not be safely displayed"
  else String.ofList text

/-- `_timestamp`. -/
def timestamp (time : Int) : String := (runtime.isoformat time).replace "+00:00" "Z"

/-- `astimezone(timezone.utc)`: the years 1 to 9999. -/
def inUtc (time : Int) : Option Int :=
  if -62135596800000000 ≤ time ∧ time ≤ 253402300799999999 then some time else none

/-! ## Evidence of a check -/

variable (staleAfter : Int)

/-- The state and summary that `_result` takes from what a probe returned. -/
def judge (result : ProbeResult) (observed now : Int) : HealthState × String :=
  if staleAfter < now - observed then
    (.stale, "Evidence is older than the freshness threshold")
  else (result.state, safeSummary runtime (.str result.summary))

def noEvidence : String := "Check could not obtain safe evidence"

def tooLate : String := "Check exceeded the aggregate bounded deadline"

/-- The first half of `_result`: state, summary and time of the observation. -/
def assess (outcome : Outcome) (now : Int) : HealthState × String × Int :=
  match outcome with
  | .late | .raised true => (.unknown, tooLate, now)
  | .raised false => (.unknown, noEvidence, now)
  | .returned result =>
      match inUtc result.observedAt with
      | none => (.unknown, noEvidence, now)
      | some observed =>
          let judged := judge runtime staleAfter result observed now
          (judged.1, judged.2, observed)

/-- `_result`. -/
def result (check : CheckSpec) (observation : Observation) (now : Int) : Entry :=
  let assessed := assess runtime staleAfter observation.outcome now
  let returned : Option ProbeResult := match observation.outcome with
    | .returned result => some result
    | _ => none
  { id := check.id
    layer := check.layer
    state := assessed.1
    required := check.required
    summary := assessed.2.1
    observedAt := timestamp runtime assessed.2.2
    latencyMs := ((returned.bind ProbeResult.latencyMs).getD observation.measuredMs : Nat)
    derived := false
    blockedBy := []
    workload := if check.layer = .workload then
        returned.map (fun result =>
          ⟨result.workloadPresent, result.desiredReplicas, result.readyReplicas⟩)
      else none }

/-- `_unavailable_evidence`. -/
def unavailableEvidence (check : CheckSpec) (dependencies : List String) (now : Int) : Entry where
  id := check.id
  layer := check.layer
  state := .unknown
  required := check.required
  summary := "Probe unavailable while a relevant dependency is unhealthy"
  observedAt := timestamp runtime now
  latencyMs := 0
  derived := true
  blockedBy := dependencies
  workload := none

/-! ## External evidence -/

/-- The items of the availability document, as they are iterated over. -/
def availabilityItems (availability : Value) : Except HealthError (List Value) :=
  match (if availability.truthy then availability else .obj []) with
  | .obj fields =>
      match fields.lookup "items" with
      | none => .ok []
      | some (.arr items) => .ok items
      | some (.obj items) => .ok (items.map (fun field => .str field.1))
      | some (.str text) =>
          .ok (text.toList.map (fun character => .str (String.singleton character)))
      | some _ => .error .typeError
  | _ => .error .attributeError

/-- The first item with the subject's id; the items after it are not looked at. -/
def firstItem (subjectId : String) : List Value → Except HealthError (Option Value)
  | [] => .ok none
  | .obj fields :: rest =>
      if (fields.lookup "id").any (fun id => id.isText subjectId) then .ok (some (.obj fields))
      else firstItem subjectId rest
  | _ :: _ => .error .attributeError

/-- `table.get(key, "unknown")`. -/
def stateOf (table : List (String × HealthState)) : Option Value → Except HealthError HealthState
  | some (.str key) => .ok ((table.lookup key).getD .unknown)
  | some (.arr _) | some (.obj _) => .error .typeError
  | _ => .ok .unknown

def externalStates : List (String × HealthState) :=
  [("reachable", .healthy), ("degraded", .degraded), ("tls-warning", .degraded),
    ("dns-mismatch", .unreachable), ("unreachable", .unreachable), ("not-configured", .unknown),
    ("unknown", .unknown)]

def tlsStates : List (String × HealthState) :=
  [("valid", .healthy), ("warning", .degraded), ("failed", .unreachable),
    ("not-configured", .unknown), ("not-attempted", .unknown)]

/-- `int(value or 0)`. -/
def wholeNumber (value : Option Value) : Except HealthError Int :=
  match value.filter Value.truthy with
  | none => .ok 0
  | some (.int number) => .ok number
  | some (.bool _) => .ok 1
  | some (.float number) => .ok (if 0 ≤ number then number.floor else number.ceil)
  | some (.str text) =>
      match runtime.parseInt text with
      | some number => .ok number
      | none => .error .valueError
  | some _ => .error .typeError

/-- `item.get("checkedAt") or _timestamp(now)`. -/
def checkedText (item : Value) (now : Int) : Value :=
  ((item.get "checkedAt").filter Value.truthy).getD (.str (timestamp runtime now))

/-- What becomes of the states by the time of the check: the text of the time, and the state that
replaces both. -/
def checkedAt (item : Value) (now : Int) : Except HealthError (String × Option HealthState) :=
  match checkedText runtime item now with
  | .str text =>
      match runtime.fromisoformat (text.replace "Z" "+00:00") with
      | none => .ok (timestamp runtime now, some .unknown)
      | some time =>
          match inUtc time with
          | none => .error .overflowError
          | some observed => .ok (text, if staleAfter < now - observed then some .stale else none)
  | _ => .ok (timestamp runtime now, some .unknown)

/-- The item has a TLS result of its own. -/
def hasTls (item : Value) : Bool :=
  (item.get "tls").any (fun tls =>
    tls.isText "valid" || tls.isText "warning" || tls.isText "failed")

/-- The evidence that an item of the availability document is. -/
def itemEvidence (item : Value) (now : Int) : Except HealthError (List Entry) := do
  let external ← stateOf externalStates (item.get "state")
  let tls ← stateOf tlsStates (item.get "tls")
  let (observed, replaced) ← checkedAt runtime staleAfter item now
  let latency ← wholeNumber runtime (item.get "latencyMs")
  let entry (id : String) (layer : Layer) (state : HealthState) (summary : String)
      (latencyMs : Int) : Entry :=
    { id := id
      layer := layer
      state := replaced.getD state
      required := true
      summary := summary
      observedAt := observed
      latencyMs := latencyMs
      derived := true
      blockedBy := []
      workload := none }
  let summary := safeSummary runtime
    ((item.get "summary").getD (.str "External route evidence unavailable"))
  let route := entry "external-route" .externalReachability external summary (max 0 latency)
  if hasTls item then
    return [route, entry "tls" .tls tls
      "TLS evidence is reported independently from application health" 0]
  else return [route]

/-- `_external_evidence`. -/
def externalEvidence (availability : Value) (subjectId : String) (now : Int) :
    Except HealthError (List Entry) := do
  let items ← availabilityItems availability
  match ← firstItem subjectId items with
  | none => return []
  | some item => itemEvidence runtime staleAfter item now

end FortifyLab.Health
