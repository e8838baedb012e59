import FortifyLab.Library.Checks
import FortifyLab.Supervisor.WorkflowStatus
import Mathlib.Data.Rat.Floor

/-! `runner_heartbeat.py`: the heartbeat store of the issue runner. The directory is the
list of its records, one for an issue. -/

namespace FortifyLab.Supervisor

def phases : List String :=
  ["preparing", "inspecting", "planning", "implementing", "testing", "validating", "scanning",
    "committing", "pushing", "creating-pr", "waiting-for-ci", "waiting-for-approval"]

def terminalPhases : List String := ["completed", "failed"]

def validationStates : List String := ["not-started", "running", "passed", "failed"]

/-- `NEXT_TRANSITIONS`. -/
def nextTransition (phase : String) : Option String :=
  if terminalPhases.contains phase then none
  else some ((phases[phases.idxOf phase + 1]?).getD "completed")

structure ActivityThresholds where
  quietSeconds : ℚ := 120
  possiblyStalledSeconds : ℚ := 600
  stalledSeconds : ℚ := 1800

def ActivityThresholds.classify (thresholds : ActivityThresholds) (age : ℚ) : String :=
  if thresholds.stalledSeconds ≤ age then "stalled"
  else if thresholds.possiblyStalledSeconds ≤ age then "possibly-stalled"
  else if thresholds.quietSeconds ≤ age then "quiet"
  else "active"

structure HeartbeatSettings where
  thresholds : ActivityThresholds
  maxTerminalRecords : Nat
  maxRecords : Nat
  terminalMaxAgeDays : Int

inductive HeartbeatError where
  | invalidIdentity
  | invalidPolicyIdentity
  | invalidPhase
  | invalidValidationState
  | invalidCount
  | invalidReference
  | missing
  | staleWriter
  | terminal
  | stalePhase
  deriving DecidableEq

abbrev HeartbeatRecords := List HeartbeatDocument

def HeartbeatDocument.isTerminal (document : HeartbeatDocument) : Bool :=
  terminalPhases.contains document.phase

/-- `_timestamp`: whole seconds. -/
def timestamp (time : ℚ) : Int := time.floor

/-! ## Arguments -/

def isHexDigit (character : Char) : Bool :=
  character.isDigit || ("abcdef".toList).contains character

/-- `[0-9a-f]{64}`. -/
def isDigest (text : String) : Bool :=
  decide (text.length = 64) && text.toList.all isHexDigit

/-- `[1-9][0-9]*`. -/
def isPositive (text : List Char) : Bool :=
  text.all Char.isDigit && text.head?.any (fun first => first != '0')

/-- `[A-Za-z0-9_.-]+`. -/
def isRepositoryPart (text : List Char) : Bool :=
  !text.isEmpty && text.all (fun character => character.isAlphanum || "_.-".toList.contains character)

/-- What follows a start of a text. -/
def afterStart (start : String) (text : List Char) : Option (List Char) :=
  if start.toList.isPrefixOf text then some (text.drop start.length) else none

/-- `#…` or the address of a pull request. -/
def isReference (text : String) : Bool :=
  match afterStart "#" text.toList with
  | some number => isPositive number
  | none =>
      match afterStart "https://github.com/" text.toList with
      | none => false
      | some path =>
          match path.splitOn '/' with
          | [owner, repository, kind, number] =>
              isRepositoryPart owner && isRepositoryPart repository &&
                decide (kind = "pull".toList) && isPositive number
          | _ => false

/-! ## Records -/

def findRecord (records : HeartbeatRecords) (issue : Int) : Option HeartbeatDocument :=
  records.find? (fun record => record.issue = issue)

/-- `_write_unlocked`. -/
def writeRecord (records : HeartbeatRecords) (document : HeartbeatDocument) : HeartbeatRecords :=
  records.filter (fun record => record.issue ≠ document.issue) ++ [document]

def recordName (issue : Int) : String := s!"issue-{issue}.json"

/-- The order of the cleanup: the latest activity first, then by name. -/
def comesFirst (left right : HeartbeatDocument) : Prop :=
  right.lastActivityAt < left.lastActivityAt ∨
    right.lastActivityAt = left.lastActivityAt ∧ recordName right.issue ≤ recordName left.issue

instance (left right : HeartbeatDocument) : Decidable (comesFirst left right) := by
  unfold comesFirst
  infer_instance

variable (settings : HeartbeatSettings)

/-- The terminal records beyond their number or their age. -/
def outdatedRecords (records : HeartbeatRecords) (now : ℚ) : HeartbeatRecords :=
  let terminal := (records.filter HeartbeatDocument.isTerminal).insertionSort comesFirst
  (terminal.zipIdx.filter (fun entry =>
    decide (settings.maxTerminalRecords ≤ entry.2) ||
      decide ((settings.terminalMaxAgeDays * 86400 : Int) < now - entry.1.lastActivityAt))).map
    Prod.fst

/-- `_cleanup_unlocked`. -/
def cleanup (records : HeartbeatRecords) (now : ℚ) : HeartbeatRecords :=
  let overflow := (records.insertionSort comesFirst).drop settings.maxRecords
  let removed := outdatedRecords settings records now ++ overflow
  records.filter (fun record => !removed.any (fun other => other.issue = record.issue))

theorem cleanup_subset {settings : HeartbeatSettings} {records : HeartbeatRecords} {now : ℚ}
    {record : HeartbeatDocument} (member : record ∈ cleanup settings records now) : record ∈ records :=
  (List.mem_filter.mp member).1

theorem mem_writeRecord {records : HeartbeatRecords} {document record : HeartbeatDocument}
    (member : record ∈ writeRecord records document) : record ∈ records ∨ record = document := by
  rcases List.mem_append.mp member with old | new
  · exact .inl (List.mem_filter.mp old).1
  · exact .inr (List.mem_singleton.mp new)

theorem findRecord_mem {records : HeartbeatRecords} {issue : Int}
    {document : HeartbeatDocument} (found : findRecord records issue = some document) :
    document ∈ records :=
  List.mem_of_find?_eq_some found

theorem findRecord_issue {records : HeartbeatRecords} {issue : Int} {document : HeartbeatDocument}
    (found : findRecord records issue = some document) : document.issue = issue := by
  unfold findRecord at found
  simpa using List.find?_some found

/-! ## Start, read and update -/

def startDocument (issue : Int) (milestone : String) (policyGeneration : Int)
    (policyDigest writerId : String) (generation : Int) (now : ℚ) : HeartbeatDocument where
  schemaVersion := 1
  issue := issue
  milestone := milestone
  writerId := writerId
  generation := generation
  policyGeneration := policyGeneration
  policyDigest := policyDigest
  revision := 1
  phase := "preparing"
  phaseStartedAt := timestamp now
  startedAt := timestamp now
  totalElapsedSeconds := 0
  lastActivityAt := timestamp now
  runnerHealth := "active"
  changedFileCount := 0
  validationState := "not-started"
  prReference := none
  lastCompletedSafeStep := "runner initialized"
  nextExpectedTransition := some "inspecting"

/-- `start`. -/
def startHeartbeat (records : HeartbeatRecords) (issue : Int) (milestone : String)
    (policyGeneration : Int) (policyDigest writerId : String) (now : ℚ) :
    Except HeartbeatError (HeartbeatDocument × HeartbeatRecords) := do
  check (1 ≤ issue ∧ milestone ≠ "" ∧ milestone.length ≤ 200) .invalidIdentity
  check (0 ≤ policyGeneration ∧ isDigest policyDigest = true) .invalidPolicyIdentity
  let generation := match findRecord records issue with
    | some previous => previous.generation + 1
    | none => 1
  let document := startDocument issue milestone policyGeneration policyDigest writerId generation now
  return (document, cleanup settings (writeRecord records document) now)

/-- `read` of a record that is there. -/
def readRecord (document : HeartbeatDocument) (now : ℚ) : HeartbeatDocument :=
  let elapsed := max 0 (seconds (now - document.startedAt))
  if document.isTerminal then { document with totalElapsedSeconds := elapsed }
  else
    { document with
      totalElapsedSeconds := elapsed
      runnerHealth := settings.thresholds.classify (max 0 (now - document.lastActivityAt)) }

/-- The optional arguments of `update`. -/
structure HeartbeatChange where
  phase : Option String
  changedFileCount : Option Int
  validationState : Option String
  prReference : Option String

/-- The checks before the lock is taken. -/
def checkChange (change : HeartbeatChange) : Except HeartbeatError Unit := do
  check (∀ phase ∈ change.phase, (phases ++ terminalPhases).contains phase = true) .invalidPhase
  check (∀ state ∈ change.validationState, validationStates.contains state = true)
    .invalidValidationState
  check (∀ count ∈ change.changedFileCount, 0 ≤ count) .invalidCount
  check (∀ reference ∈ change.prReference, isReference reference = true) .invalidReference

/-- The phase that an update moves to. -/
def moveToPhase (current : HeartbeatDocument) (phase : Option String) (now : ℚ) :
    Except HeartbeatError HeartbeatDocument :=
  match phase with
  | none => .ok current
  | some phase =>
      if phase = current.phase then .ok current
      else if terminalPhases.contains phase = false ∧
          phases.idxOf phase < phases.idxOf current.phase then .error .stalePhase
      else .ok { current with
        lastCompletedSafeStep := String.ofList (current.phase.toList.take 40)
        phase := phase
        phaseStartedAt := timestamp now }

/-- The health that an update stores: what its own phase argument says. -/
def storedHealth (phase : Option String) : String :=
  match phase with
  | none => "active"
  | some phase => if terminalPhases.contains phase then phase else "active"

/-- What an update stores besides the phase. -/
def updatedDocument (current moved : HeartbeatDocument) (change : HeartbeatChange) (now : ℚ) :
    HeartbeatDocument :=
  { moved with
    changedFileCount := change.changedFileCount.getD moved.changedFileCount
    validationState := change.validationState.getD moved.validationState
    prReference := change.prReference <|> moved.prReference
    revision := current.revision + 1
    lastActivityAt := timestamp now
    totalElapsedSeconds := max 0 (seconds (now - moved.startedAt))
    runnerHealth := storedHealth change.phase
    nextExpectedTransition := nextTransition moved.phase }

/-- `update`. -/
def updateHeartbeat (records : HeartbeatRecords) (issue : Int) (writerId : String)
    (generation : Int) (change : HeartbeatChange) (now : ℚ) :
    Except HeartbeatError (HeartbeatDocument × HeartbeatRecords) := do
  checkChange change
  match findRecord records issue with
  | none => .error .missing
  | some current =>
      check (current.writerId = writerId ∧ current.generation = generation) .staleWriter
      check (current.isTerminal = false) .terminal
      let moved ← moveToPhase current change.phase now
      let document := updatedDocument current moved change now
      return (document, cleanup settings (writeRecord records document) now)

/-! ## Runs of the store -/

inductive HeartbeatCall where
  | start (issue : Int) (milestone : String) (policyGeneration : Int) (policyDigest : String)
      (writerId : String)
  | update (issue : Int) (writerId : String) (generation : Int) (change : HeartbeatChange)

def HeartbeatCall.run (records : HeartbeatRecords) (now : ℚ) :
    HeartbeatCall → Except HeartbeatError (HeartbeatDocument × HeartbeatRecords)
  | .start issue milestone policyGeneration policyDigest writerId =>
      startHeartbeat settings records issue milestone policyGeneration policyDigest writerId now
  | .update issue writerId generation change =>
      updateHeartbeat settings records issue writerId generation change now

/-- The directories that calls lead to, in any order and at any times. -/
inductive Written : HeartbeatRecords → Prop
  | empty : Written []
  | call {records next : HeartbeatRecords} {document : HeartbeatDocument} (call : HeartbeatCall)
      (now : ℚ) (reached : Written records)
      (answered : call.run settings records now = .ok (document, next)) : Written next

end FortifyLab.Supervisor
