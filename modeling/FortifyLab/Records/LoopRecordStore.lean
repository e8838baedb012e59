import FortifyLab.Library.Connection
import FortifyLab.Library.DateTime
import FortifyLab.Redaction.Record

/-! `LoopRecordStore.append`: a sanitized record is inserted and the outdated and excess
records of its kind are deleted, in one transaction. -/

namespace FortifyLab.Records

open Redaction

/-- The kinds of `KIND_SCHEMAS`, each with its entry of `TIMESTAMP_FIELDS`. -/
def timestampFields : List (String × Option String) :=
  [("Operation", some "requestedAt"), ("OperationProgress", some "updatedAt"),
    ("HealthObservation", some "observedAt"), ("LoopEvent", some "occurredAt"),
    ("Incident", some "openedAt"), ("PlanApproval", some "createdAt"), ("SanitizedTrace", none)]

structure RetentionPolicy where
  maxRecords : Nat
  maxAgeDays : Nat
  positive : 1 ≤ maxRecords ∧ 1 ≤ maxAgeDays

/-! ## The table -/

structure RecordRow where
  sequence : Nat
  kind : String
  recordId : Value
  occurredAt : Value
  storedAt : String
  payload : String

/-- The rows by their `AUTOINCREMENT` key, and the largest key ever given. -/
structure RecordTable where
  rows : List RecordRow
  lastSequence : Nat
  ordered : rows.Pairwise (fun left right => left.sequence < right.sequence)
  bounded : ∀ row ∈ rows, row.sequence ≤ lastSequence

namespace RecordTable

def empty : RecordTable := ⟨[], 0, .nil, nofun⟩

/-- The largest key of a table. -/
def maxSequence : Nat := 2 ^ 63 - 1

/-- What can be bound to a parameter and stored in a `NOT NULL` column. -/
def bindable : Value → Bool
  | .null => false
  | .int value => decide (-(2 ^ 63) ≤ value) && decide (value < 2 ^ 63)
  | .arr _ => false
  | .obj _ => false
  | _ => true

/-- `INSERT INTO records(…) VALUES (?, ?, ?, ?, ?)`. -/
def insert (table : RecordTable) (kind : String) (recordId occurredAt : Value)
    (storedAt payload : String) : RecordTable where
  rows := table.rows ++ [⟨table.lastSequence + 1, kind, recordId, occurredAt, storedAt, payload⟩]
  lastSequence := table.lastSequence + 1
  ordered := by
    rw [List.pairwise_append]
    refine ⟨table.ordered, List.pairwise_singleton _ _, ?_⟩
    intro row member last isLast
    rw [List.mem_singleton.mp isLast]
    exact Nat.lt_succ_of_le (table.bounded row member)
  bounded := by
    intro row member
    rcases List.mem_append.mp member with old | new
    · exact Nat.le_succ_of_le (table.bounded row old)
    · rw [List.mem_singleton.mp new]

/-- The rows that a `DELETE` leaves. -/
def delete (table : RecordTable) (removed : RecordRow → Bool) : RecordTable where
  rows := table.rows.filter (fun row => !removed row)
  lastSequence := table.lastSequence
  ordered := table.ordered.filter _
  bounded row member := table.bounded row (List.mem_filter.mp member).1

/-- `DELETE FROM records WHERE kind = ? AND stored_at < ?`. -/
def isOutdated (kind cutoff : String) (row : RecordRow) : Bool :=
  decide (row.kind = kind) && decide (row.storedAt < cutoff)

/-- `SELECT sequence FROM records WHERE kind = ? ORDER BY sequence DESC LIMIT -1 OFFSET ?`. -/
def excess (table : RecordTable) (kind : String) (limit : Nat) : List Nat :=
  ((table.rows.filter (fun row => row.kind = kind)).reverse.drop limit).map RecordRow.sequence

end RecordTable

inductive RecordChange where
  | insert (kind : String) (recordId occurredAt : Value) (storedAt payload : String)
  | deleteOutdated (kind cutoff : String)
  | deleteExcess (kind : String) (limit : Nat)

inductive RecordQuery where
  | lastRowId

/-- The rows that a change meets, and what it makes of the table. -/
def RecordTable.write (table : RecordTable) : RecordChange → Option (Nat × RecordTable)
  | .insert kind recordId occurredAt storedAt payload =>
      if bindable recordId && bindable occurredAt && decide (table.lastSequence < maxSequence)
      then some (1, table.insert kind recordId occurredAt storedAt payload)
      else none
  | .deleteOutdated kind cutoff =>
      some (table.rows.countP (isOutdated kind cutoff), table.delete (isOutdated kind cutoff))
  | .deleteExcess kind limit =>
      some ((table.excess kind limit).length,
        table.delete (fun row => (table.excess kind limit).contains row.sequence))

def recordTables : Tables RecordTable RecordQuery RecordChange (fun _ => Nat) :=
  ⟨fun table _ => table.lastSequence, RecordTable.write⟩

/-! ## The append -/

inductive StoreError where
  | unsupportedKind
  | invalidRecord
  | typeError
  | keyError
  | overflow
  | sqlite

/-- The statements of the transaction, in order. -/
inductive Stage where
  | begin
  | insert
  | deleteOutdated
  | deleteExcess
  | commit
  deriving DecidableEq

/-- What `_validate` raises on a document, and `json.dumps`. -/
structure RecordLibrary where
  validate : List (String × Value) → Except StoreError Unit
  dumps : List (String × Value) → String

/-- One call: `now` where the caller gives it, the two readings of the clock where not, and
the statements at which the database raises. -/
structure AppendCall where
  policy : RetentionPolicy
  document : List (String × Value)
  now : Option DateTime
  clock : DateTime × DateTime
  raises : Stage → Bool

def AppendCall.storedAt (call : AppendCall) : DateTime := call.now.getD call.clock.1

/-- The time that the cutoff is counted from. -/
def AppendCall.checkedAt (call : AppendCall) : DateTime := call.now.getD call.clock.2

abbrev RecordM := ExceptT StoreError (StateM (Connection RecordTable))

def raise {α : Type} : Except StoreError α → RecordM α
  | .ok value => return value
  | .error error => throw error

def required {α : Type} (error : StoreError) : Option α → Except StoreError α
  | some value => .ok value
  | none => .error error

/-- A statement on the connection. -/
def execute (raises : Stage → Bool) (stage : Stage)
    (statement : Statement RecordQuery RecordChange) : RecordM Unit := do
  if raises stage then throw .sqlite
  else
    let connection ← get
    match statement with
    | .change change =>
        set (connection.after recordTables statement)
        match connection.answer recordTables (.change change) with
        | .ok _ => return ()
        | .error _ => throw .sqlite
    | .beginImmediate =>
        match connection.answer recordTables .beginImmediate with
        | .ok _ => set (connection.after recordTables statement)
        | .error _ => throw .sqlite
    | other => set (connection.after recordTables other)

variable (library : RecordLibrary)

/-- What is inserted besides `stored_at`: the kind, the document's id, its time and its text. -/
structure Prepared where
  kind : String
  recordId : Option Value
  occurredAt : Value
  payload : String

/-- `clean["provenance"]["observedAt"]`, or the timestamp field of the kind. -/
def occurredAt (clean : List (String × Value)) : Option String → Option Value
  | none => (clean.lookup "provenance").bind (fun provenance => provenance.get "observedAt")
  | some field => clean.lookup field

/-- What comes before the transaction. -/
def prepare (document : List (String × Value)) : Except StoreError Prepared := do
  let clean ← (sanitizeRecord document).mapError (fun _ => StoreError.typeError)
  match clean.lookup "kind" with
  | some (.str kind) =>
      let field ← required .unsupportedKind (timestampFields.lookup kind)
      library.validate clean
      let time ← required .keyError (occurredAt clean field)
      return ⟨kind, clean.lookup "id", time, library.dumps clean⟩
  | _ => throw .unsupportedKind

/-- The `try` block. -/
def storeRecord (call : AppendCall) (record : Prepared) (cutoff : DateTime) : RecordM Nat := do
  let recordId ← raise (required .keyError record.recordId)
  execute call.raises .insert (.change (.insert record.kind recordId record.occurredAt
    call.storedAt.isoformat record.payload))
  let sequence := (← get).seen.lastSequence
  execute call.raises .deleteOutdated (.change (.deleteOutdated record.kind cutoff.isoformat))
  execute call.raises .deleteExcess
    (.change (.deleteExcess record.kind call.policy.maxRecords))
  execute call.raises .commit .commit
  return sequence

/-- `append`. -/
def append (call : AppendCall) : RecordM Nat := do
  let record ← raise (prepare library call.document)
  let cutoff ← raise (required .overflow (call.checkedAt.minusDays call.policy.maxAgeDays))
  execute call.raises .begin .beginImmediate
  tryCatch (storeRecord call record cutoff) (fun error => do
    modify (fun connection => connection.after recordTables .rollback)
    throw error)

end FortifyLab.Records
