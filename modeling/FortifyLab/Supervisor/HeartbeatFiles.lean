import FortifyLab.Library.RaisingSort
import FortifyLab.Redaction.Record
import FortifyLab.Supervisor.HeartbeatWriters

/-! The heartbeat store over the files of its directory, with any content. -/

namespace FortifyLab.Supervisor

/-- What reading a file as JSON gives: an `OSError`, a text that is not JSON, another
`ValueError`, a `RecursionError`, or a value. -/
inductive HeartbeatFile where
  | unreadable
  | notJson
  | invalid
  | tooDeep
  | json (value : Value)

/-- The files `issue-*.json` by their names. -/
abbrev HeartbeatDirectory := List (String × HeartbeatFile)

/-- A `HeartbeatError` (with `unreadable` for a file that cannot be read), or another exception. -/
inductive FileError where
  | refused (error : HeartbeatError)
  | unreadable
  | other
  deriving DecidableEq

/-- A `datetime`, with or without an offset. -/
inductive Moment where
  | aware (instant : ℚ)
  | naive (reading : ℚ)
  deriving DecidableEq

def Moment.isAware : Moment → Bool
  | .aware _ => true
  | .naive _ => false

/-- `_timestamp`, `_parse` on texts, `int` and `str`. -/
structure HeartbeatRuntime where
  timestamp : ℚ → String
  parse : String → Option Moment
  int : Value → Option Int
  str : Value → String

variable (settings : HeartbeatSettings) (runtime : HeartbeatRuntime)

/-! ## `_cleanup_unlocked` -/

structure FoundRecord where
  name : String
  updated : Moment
  terminal : Bool

def isTerminalPhase (phase : Value) : Bool :=
  terminalPhases.any (fun terminal => phase.isText terminal)

/-- One turn of the first loop: `none` where the file is passed over. -/
def observeFile (name : String) : HeartbeatFile → Except FileError (Option FoundRecord)
  | .unreadable => .ok none
  | .notJson => .ok none
  | .invalid => .ok none
  | .tooDeep => .error .other
  | .json (.obj fields) =>
      match fields.lookup "last_activity_at" with
      | none => .ok none
      | some (.str text) => .ok ((runtime.parse text).map (fun updated =>
          ⟨name, updated, (fields.lookup "phase").any isTerminalPhase⟩))
      | some _ => .error .other
  | .json _ => .error .other

/-- The first loop. -/
def observeFiles : HeartbeatDirectory → Except FileError (List FoundRecord)
  | [] => .ok []
  | (name, file) :: rest => do
      let found ← observeFile runtime name file
      let records ← observeFiles rest
      return found.toList ++ records

/-- The latest activity first, then by name; between an instant and a reading without offset the
order is never asked for. -/
def FoundRecord.Before (left right : FoundRecord) : Prop :=
  match left.updated, right.updated with
  | .aware first, .aware second => second < first ∨ second = first ∧ right.name ≤ left.name
  | .naive first, .naive second => second < first ∨ second = first ∧ right.name ≤ left.name
  | .aware _, .naive _ => True
  | .naive _, .aware _ => False

instance (left right : FoundRecord) : Decidable (left.Before right) := by
  unfold FoundRecord.Before
  split <;> infer_instance

/-- A comparison of the sort; comparing an instant with a reading without offset raises. -/
def compareFound (left right : FoundRecord) : Except FileError Bool :=
  if left.updated.isAware = right.updated.isAware then .ok (decide (left.Before right))
  else .error .other

def removeFile (directory : HeartbeatDirectory) (name : String) : HeartbeatDirectory :=
  directory.filter (fun entry => entry.1 ≠ name)

/-- `(now - updated).total_seconds()`. -/
def secondsSince (now : ℚ) : Moment → Except FileError ℚ
  | .aware instant => .ok (now - instant)
  | .naive _ => .error .other

/-- The loop over the terminal records, from the place `index` on. -/
def removeOutdated (now : ℚ) :
    Nat → List FoundRecord → HeartbeatDirectory → Except FileError Unit × HeartbeatDirectory
  | _, [], directory => (.ok (), directory)
  | index, record :: rest, directory =>
      if settings.maxTerminalRecords ≤ index then
        removeOutdated now (index + 1) rest (removeFile directory record.name)
      else
        match secondsSince now record.updated with
        | .error error => (.error error, directory)
        | .ok age =>
            if ((settings.terminalMaxAgeDays * 86400 : Int) : ℚ) < age then
              removeOutdated now (index + 1) rest (removeFile directory record.name)
            else removeOutdated now (index + 1) rest directory

/-- `_cleanup_unlocked`. -/
def cleanupFiles (now : ℚ) (directory : HeartbeatDirectory) :
    Except FileError Unit × HeartbeatDirectory :=
  match observeFiles runtime directory with
  | .error error => (.error error, directory)
  | .ok records =>
      match sortChecked compareFound (records.filter FoundRecord.terminal),
          sortChecked compareFound records with
      | .error error, _ => (.error error, directory)
      | _, .error error => (.error error, directory)
      | .ok terminal, .ok sorted =>
          match removeOutdated settings now 0 terminal directory with
          | (.error error, left) => (.error error, left)
          | (.ok (), left) =>
              (.ok (), (sorted.drop settings.maxRecords).foldl
                (fun directory record => removeFile directory record.name) left)

/-! ## `start` and `update` -/

/-- `_read_unlocked`. -/
def readFile : Option HeartbeatFile → Except FileError (Option Value)
  | none => .ok none
  | some .unreadable => .error .unreadable
  | some .notJson => .error .unreadable
  | some .invalid => .error .other
  | some .tooDeep => .error .other
  | some (.json value) => .ok (some value)

/-- `value[key]`. -/
def item (value : Value) (key : String) : Except FileError Value :=
  match value.get key with
  | some field => .ok field
  | none => .error .other

/-- `int(value[key])`. -/
def intItem (value : Value) (key : String) : Except FileError Int := do
  match runtime.int (← item value key) with
  | some number => .ok number
  | none => .error .other

/-- `PHASES.index(phase)`. -/
def phaseIndex (phase : Value) : Except FileError Nat :=
  match phase with
  | .str text => if phases.contains text then .ok (phases.idxOf text) else .error .other
  | _ => .error .other

/-- `NEXT_TRANSITIONS[phase]`. -/
def transitionOf (phase : Value) : Except FileError Value :=
  match phase with
  | .str text =>
      if (phases ++ terminalPhases).contains text then
        .ok (((nextTransition text).map Value.str).getD .null)
      else .error .other
  | _ => .error .other

/-- The fields that `start` writes. -/
def startFields (issue : Int) (milestone : String) (policyGeneration : Int)
    (policyDigest writerId : String) (generation : Int) (now : ℚ) : List (String × Value) :=
  [("schema_version", .int 1),
    ("issue", .int issue),
    ("milestone", .str milestone),
    ("writer_id", .str writerId),
    ("generation", .int generation),
    ("policy_generation", .int policyGeneration),
    ("policy_digest", .str policyDigest),
    ("revision", .int 1),
    ("phase", .str "preparing"),
    ("phase_started_at", .str (runtime.timestamp now)),
    ("started_at", .str (runtime.timestamp now)),
    ("total_elapsed_seconds", .int 0),
    ("last_activity_at", .str (runtime.timestamp now)),
    ("runner_health", .str "active"),
    ("changed_file_count", .int 0),
    ("validation_state", .str "not-started"),
    ("pr_reference", .null),
    ("last_completed_safe_step", .str "runner initialized"),
    ("next_expected_transition", .str "inspecting")]

/-- The generation that `start` writes. -/
def startGeneration (previous : Option Value) : Except FileError Int :=
  match previous with
  | none => .ok 1
  | some value =>
      if value.truthy then do return (← intItem runtime value "generation") + 1
      else .ok 1

/-- `(now - _parse(document["started_at"])).total_seconds()`. -/
def elapsedSince (now : ℚ) (started : Value) : Except FileError ℚ :=
  match started with
  | .str text =>
      match runtime.parse text with
      | some moment => secondsSince now moment
      | none => .error .other
  | _ => .error .other

/-- `document[key] = value`. -/
def assign (fields : List (String × Value)) (key : String) (value : Value) :
    List (String × Value) := Redaction.setField fields key value

/-- `document[key] = value` where an argument was given. -/
def assignGiven (fields : List (String × Value)) (key : String) (value : Option Value) :
    List (String × Value) :=
  match value with
  | some value => assign fields key value
  | none => fields

/-- The fields after the phase argument. -/
def moveFields (fields : List (String × Value)) (current : Value) (phase : Option String)
    (now : ℚ) : Except FileError (List (String × Value)) :=
  match phase with
  | none => .ok fields
  | some phase =>
      if current.isText phase then .ok fields
      else do
        if terminalPhases.contains phase = false then
          check ((← phaseIndex current) ≤ phases.idxOf phase) (.refused .stalePhase)
        let safe := String.ofList ((runtime.str current).toList.take 40)
        return assign (assign (assign fields "last_completed_safe_step" (.str safe))
          "phase" (.str phase)) "phase_started_at" (.str (runtime.timestamp now))

/-- The fields that `update` writes. -/
def updateFields (fields : List (String × Value)) (current : Value) (change : HeartbeatChange)
    (now : ℚ) : Except FileError (List (String × Value)) := do
  let moved ← moveFields runtime fields current change.phase now
  let counted := assignGiven moved "changed_file_count" (change.changedFileCount.map Value.int)
  let validated := assignGiven counted "validation_state" (change.validationState.map Value.str)
  let referred := assignGiven validated "pr_reference" (change.prReference.map Value.str)
  let revision ← intItem runtime (.obj fields) "revision"
  let active := assign (assign referred "revision" (.int (revision + 1)))
    "last_activity_at" (.str (runtime.timestamp now))
  let elapsed ← elapsedSince runtime now (← item (.obj active) "started_at")
  let timed := assign (assign active "total_elapsed_seconds" (.int (max 0 (seconds elapsed))))
    "runner_health" (.str (storedHealth change.phase))
  return assign timed "next_expected_transition" (← transitionOf (← item (.obj timed) "phase"))

def refusal (checked : Except HeartbeatError Unit) : Except FileError Unit :=
  match checked with
  | .ok () => .ok ()
  | .error error => .error (.refused error)

/-- The document that a call writes, from the file of its issue. -/
def documentOf (own : Option HeartbeatFile) (now : ℚ) : HeartbeatCall → Except FileError Value
  | .start issue milestone policyGeneration policyDigest writerId => do
      check (1 ≤ issue ∧ milestone ≠ "" ∧ milestone.length ≤ 200) (.refused .invalidIdentity)
      check (0 ≤ policyGeneration ∧ isDigest policyDigest = true) (.refused .invalidPolicyIdentity)
      let generation ← startGeneration runtime (← readFile own)
      return .obj (startFields runtime issue milestone policyGeneration policyDigest writerId
        generation now)
  | .update _ writerId generation change => do
      refusal (checkChange change)
      match ← readFile own with
      | none => .error (.refused .missing)
      | some current =>
          check ((← item current "writer_id").isText writerId) (.refused .staleWriter)
          check ((← intItem runtime current "generation") = generation) (.refused .staleWriter)
          let phase ← item current "phase"
          check (isTerminalPhase phase = false) (.refused .terminal)
          match current with
          | .obj fields => return .obj (← updateFields runtime fields phase change now)
          | _ => .error .other

def writeFile (directory : HeartbeatDirectory) (name : String) (document : Value) :
    HeartbeatDirectory :=
  removeFile directory name ++ [(name, .json document)]

/-- `start` and `update`: what was written stays where the cleanup raises. -/
def HeartbeatCall.runFiles (call : HeartbeatCall) (now : ℚ) (directory : HeartbeatDirectory) :
    Except FileError Value × HeartbeatDirectory :=
  let name := recordName call.issue
  match documentOf runtime (directory.lookup name) now call with
  | .error error => (.error error, directory)
  | .ok document =>
      match cleanupFiles settings runtime now (writeFile directory name document) with
      | (.ok (), left) => (.ok document, left)
      | (.error error, left) => (.error error, left)

end FortifyLab.Supervisor
