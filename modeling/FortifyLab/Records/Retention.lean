import FortifyLab.Records.LoopRecordStore

/-! What an append leaves of the records: exactly the newest of its kind. -/

namespace FortifyLab.Records

open Redaction RecordTable

/-! ## The rows of one kind -/

def ofKind (kind : String) (rows : List RecordRow) : List RecordRow :=
  rows.filter (fun row => row.kind = kind)

/-- The last items of a list, as many as the limit says. -/
def newest {α : Type} (limit : Nat) (items : List α) : List α := items.drop (items.length - limit)

/-- The row was stored at `earliest` or later. -/
def IsYoung (earliest : Int) (row : RecordRow) : Prop :=
  ∃ time : DateTime, row.storedAt = time.isoformat ∧ earliest ≤ time.instant

open Classical in
/-- The rows that a policy keeps of those of one kind, at a time. -/
noncomputable def retained (policy : RetentionPolicy) (now : DateTime) (rows : List RecordRow) :
    List RecordRow :=
  newest policy.maxRecords (rows.filter (fun row =>
    IsYoung (now.instant - policy.maxAgeDays * dayLength) row))

/-- Without the items that are not among its last ones, a list with distinct keys is the list
of its last ones. -/
theorem filter_excess {items : List RecordRow} (limit : Nat)
    (distinct : items.Pairwise (fun left right => left.sequence < right.sequence)) :
    items.filter (fun row =>
      !((items.reverse.drop limit).map RecordRow.sequence).contains row.sequence) =
      newest limit items := by
  have parts := List.take_append_drop (items.length - limit) items
  have dropped : items.reverse.drop limit = (items.take (items.length - limit)).reverse := by
    rw [List.drop_reverse]
  rw [dropped]
  unfold newest
  generalize items.take (items.length - limit) = front at *
  generalize items.drop (items.length - limit) = back at *
  subst parts
  rw [List.pairwise_append] at distinct
  rw [List.filter_append]
  have gone : front.filter (fun row =>
      !(front.reverse.map RecordRow.sequence).contains row.sequence) = [] := by
    rw [List.filter_eq_nil_iff]
    intro row member kept
    have listed : row.sequence ∈ front.reverse.map RecordRow.sequence :=
      List.mem_map_of_mem (List.mem_reverse.mpr member)
    rw [List.contains_iff_mem.mpr listed] at kept
    cases kept
  have stays : back.filter (fun row =>
      !(front.reverse.map RecordRow.sequence).contains row.sequence) = back := by
    rw [List.filter_eq_self]
    intro row member
    rw [Bool.not_eq_true', ← Bool.not_eq_true, List.contains_iff_mem]
    intro listed
    rcases List.mem_map.mp listed with ⟨other, isFront, same⟩
    have less := distinct.2.2 other (List.mem_reverse.mp isFront) row member
    omega
  rw [gone, stays, List.nil_append]

/-! ## One append -/

/-- The table after the three statements of an append. -/
def storedTable (table : RecordTable) (call : AppendCall) (record : Prepared) (recordId : Value)
    (cutoff : DateTime) : RecordTable :=
  let inserted := table.insert record.kind recordId record.occurredAt call.storedAt.isoformat
    record.payload
  let recent := inserted.delete (isOutdated record.kind cutoff.isoformat)
  recent.delete (fun row => (recent.excess record.kind call.policy.maxRecords).contains row.sequence)

variable {library : RecordLibrary}

section Statements

variable {α : Type} {raises : Stage → Bool} {stage : Stage} {saved held : RecordTable}

theorem begin_run {rest : Unit → RecordM α} :
    (execute raises stage .beginImmediate >>= rest).run.run (Connection.closed saved) =
      if raises stage then (.error .sqlite, Connection.closed saved)
      else (rest ()).run.run ⟨saved, some saved⟩ := by
  unfold execute
  split <;> rfl

/-- A change that is answered leaves what comes after it, one that is refused ends the call. -/
theorem answered_run {change : RecordChange} {rest : Unit → RecordM α}
    {connection next : Connection RecordTable} {result : Except SqlError Nat}
    (answered : connection.answer recordTables (.change change) = result)
    (after : connection.after recordTables (.change change) = next) :
    (execute raises stage (.change change) >>= rest).run.run connection =
      if raises stage then (.error .sqlite, connection)
      else if result.isOk then (rest ()).run.run next else (.error .sqlite, next) := by
  unfold execute
  split
  · rfl
  · simp only [bind, pure, ExceptT.bind, ExceptT.mk, ExceptT.run, ExceptT.bindCont, StateT.bind,
      StateT.run, get, getThe, MonadStateOf.get, StateT.get, set, liftM, monadLift,
      MonadLift.monadLift, ExceptT.lift, Functor.map, StateT.map, answered, after]
    cases result <;> rfl

theorem change_run {change : RecordChange} {rest : Unit → RecordM α} :
    (execute raises stage (.change change) >>= rest).run.run ⟨saved, some held⟩ =
      if raises stage then (.error .sqlite, ⟨saved, some held⟩)
      else match held.write change with
        | some (_, next) => (rest ()).run.run ⟨saved, some next⟩
        | none => (.error .sqlite, ⟨saved, some held⟩) := by
  cases written : held.write change with
  | none =>
      have answered : Connection.answer recordTables ⟨saved, some held⟩ (.change change) =
          .error .integrity := by
        simp [Connection.answer, Connection.seen, recordTables, written]
      have after : Connection.after recordTables ⟨saved, some held⟩ (.change change) =
          ⟨saved, some held⟩ := by
        simp [Connection.after, Connection.seen, recordTables, written]
      rw [answered_run answered after]
      rfl
  | some result =>
      have answered : Connection.answer recordTables ⟨saved, some held⟩ (.change change) =
          .ok result.1 := by
        simp [Connection.answer, Connection.seen, recordTables, written]
      have after : Connection.after recordTables ⟨saved, some held⟩ (.change change) =
          ⟨saved, some result.2⟩ := by
        simp [Connection.after, Connection.seen, recordTables, written]
      rw [answered_run answered after]
      rfl

theorem commit_run {rest : Unit → RecordM α} :
    (execute raises stage .commit >>= rest).run.run ⟨saved, some held⟩ =
      if raises stage then (.error .sqlite, ⟨saved, some held⟩)
      else (rest ()).run.run (Connection.closed held) := by
  unfold execute
  split <;> rfl

theorem raise_run {β : Type} {result : Except StoreError β} {rest : β → RecordM α}
    {connection : Connection RecordTable} :
    (raise result >>= rest).run.run connection =
      match result with
      | .ok value => (rest value).run.run connection
      | .error error => (.error error, connection) := by
  cases result <;> rfl

theorem seen_run {rest : Connection RecordTable → RecordM α}
    {connection : Connection RecordTable} :
    (get >>= rest : RecordM α).run.run connection = (rest connection).run.run connection := rfl

/-- Whatever a failed block has held is rolled back. -/
theorem rollback_run {body : RecordM α} {connection : Connection RecordTable} :
    (tryCatch body (fun error => do
      modify (fun connection => connection.after recordTables .rollback)
      throw error)).run.run connection =
      match body.run.run connection with
      | (.ok value, after) => (.ok value, after)
      | (.error error, after) => (.error error, Connection.closed after.saved) := by
  simp only [tryCatch, tryCatchThe, MonadExceptOf.tryCatch, ExceptT.tryCatch, ExceptT.mk,
    ExceptT.run, bind, StateT.bind, StateT.run]
  rcases body connection with ⟨_ | _, _⟩ <;> rfl

end Statements

/-- What an append leaves, all of it or nothing. -/
def AllOrNothing (call : AppendCall) (table : RecordTable) (record : Prepared)
    (cutoff : DateTime) (outcome : Except StoreError Nat × Connection RecordTable) : Prop :=
  (∃ error, outcome.1 = .error error ∧ outcome.2.saved = table) ∨
    ∃ recordId, outcome = (.ok (table.lastSequence + 1),
      Connection.closed (storedTable table call record recordId cutoff))

/-- The `try` block: any of its statements may raise. -/
theorem storeRecord_run (call : AppendCall) (record : Prepared) (cutoff : DateTime)
    (table : RecordTable) :
    AllOrNothing call table record cutoff
      ((storeRecord call record cutoff).run.run ⟨table, some table⟩) := by
  unfold storeRecord
  rw [raise_run]
  cases record.recordId with
  | none => exact .inl ⟨.keyError, rfl, rfl⟩
  | some recordId =>
      dsimp only [required]
      rw [change_run]
      split
      · exact .inl ⟨.sqlite, rfl, rfl⟩
      · unfold RecordTable.write
        dsimp only
        split
        · next changed found =>
          split at found
          · cases found
            rw [seen_run, change_run]
            split
            · exact .inl ⟨.sqlite, rfl, rfl⟩
            · dsimp only [RecordTable.write]
              rw [change_run]
              split
              · exact .inl ⟨.sqlite, rfl, rfl⟩
              · dsimp only [RecordTable.write]
                rw [commit_run]
                split
                · exact .inl ⟨.sqlite, rfl, rfl⟩
                · exact .inr ⟨recordId, rfl⟩
          · cases found
        · exact .inl ⟨.sqlite, rfl, rfl⟩

/-- What `append` does to a connection outside a transaction. -/
theorem append_run (call : AppendCall) (table : RecordTable) :
    (∃ error, (append library call).run.run (Connection.closed table) =
      (.error error, Connection.closed table)) ∨
    ∃ record recordId cutoff, prepare library call.document = .ok record ∧
      call.checkedAt.minusDays call.policy.maxAgeDays = some cutoff ∧
      (append library call).run.run (Connection.closed table) =
        (.ok (table.lastSequence + 1),
          Connection.closed (storedTable table call record recordId cutoff)) := by
  unfold append
  rw [raise_run]
  cases prepared : prepare library call.document with
  | error error => exact .inl ⟨error, rfl⟩
  | ok record =>
      dsimp only
      rw [raise_run]
      cases earliest : call.checkedAt.minusDays call.policy.maxAgeDays with
      | none => exact .inl ⟨.overflow, rfl⟩
      | some cutoff =>
          dsimp only [required]
          rw [begin_run]
          split
          · exact .inl ⟨.sqlite, rfl⟩
          · rw [rollback_run]
            rcases storeRecord_run call record cutoff table with
              ⟨error, raised, same⟩ | ⟨recordId, stored⟩
            · left
              refine ⟨error, ?_⟩
              rcases outcome : (storeRecord call record cutoff).run.run ⟨table, some table⟩ with
                ⟨result, after⟩
              rw [outcome] at raised same
              subst same
              cases raised
              rfl
            · right
              rw [stored]
              exact ⟨record, recordId, cutoff, rfl, rfl, rfl⟩

/-! ## What is kept -/

/-- The row that an append inserts. -/
def newRow (table : RecordTable) (call : AppendCall) (record : Prepared) (recordId : Value) :
    RecordRow :=
  ⟨table.lastSequence + 1, record.kind, recordId, record.occurredAt, call.storedAt.isoformat,
    record.payload⟩

/-- Every row's `stored_at` is the text of a time. -/
def Stamped (table : RecordTable) : Prop :=
  ∀ row ∈ table.rows, ∃ time : DateTime, row.storedAt = time.isoformat

variable {table : RecordTable} {call : AppendCall} {record : Prepared} {recordId : Value}
  {cutoff : DateTime}

theorem outdated_iff_not_young {row : RecordRow} {now : DateTime} {days : Nat}
    (earliest : now.minusDays days = some cutoff)
    (stamped : ∃ time : DateTime, row.storedAt = time.isoformat) :
    row.storedAt < cutoff.isoformat ↔ ¬ IsYoung (now.instant - days * dayLength) row := by
  rcases stamped with ⟨time, text⟩
  have whole := DateTime.minusDays_instant earliest
  have young : IsYoung (now.instant - days * dayLength) row ↔ cutoff.instant ≤ time.instant := by
    constructor
    · rintro ⟨other, same, later⟩
      have notBefore : ¬ time.isoformat < other.isoformat := by
        rw [← text, ← same]
        exact String.lt_irrefl _
      rw [DateTime.isoformat_lt] at notBefore
      omega
    · intro later
      exact ⟨time, text, by omega⟩
  rw [young, text, DateTime.isoformat_lt]
  omega

theorem sequence_injective {left right : RecordRow} (leftMember : left ∈ table.rows)
    (rightMember : right ∈ table.rows) (same : left.sequence = right.sequence) : left = right := by
  have distinct : (table.rows.map RecordRow.sequence).Nodup := by
    rw [List.Nodup, List.pairwise_map]
    exact table.ordered.imp (fun less => Nat.ne_of_lt less)
  exact List.inj_on_of_nodup_map distinct leftMember rightMember same

/-- The rows that are not too old, the new one among them. -/
theorem recent_ofKind (stamped : Stamped table)
    (earliest : call.checkedAt.minusDays call.policy.maxAgeDays = some cutoff) :
    open Classical in
    ofKind record.kind ((table.insert record.kind recordId record.occurredAt
      call.storedAt.isoformat record.payload).delete
        (isOutdated record.kind cutoff.isoformat)).rows =
      (ofKind record.kind (table.rows ++ [newRow table call record recordId])).filter (fun row =>
        IsYoung (call.checkedAt.instant - call.policy.maxAgeDays * dayLength) row) := by
  classical
  have all : ∀ row ∈ table.rows ++ [newRow table call record recordId],
      ∃ time : DateTime, row.storedAt = time.isoformat := by
    intro row member
    rcases List.mem_append.mp member with old | new
    · exact stamped row old
    · rw [List.mem_singleton.mp new]
      exact ⟨call.storedAt, rfl⟩
  show ((table.rows ++ [newRow table call record recordId]).filter _).filter _ =
    ((table.rows ++ [newRow table call record recordId]).filter _).filter _
  rw [List.filter_filter, List.filter_filter]
  apply List.filter_congr
  intro row member
  have young := outdated_iff_not_young earliest (all row member)
  by_cases own : row.kind = record.kind
  · by_cases old : row.storedAt < cutoff.isoformat
    · simp [isOutdated, own, old, young.mp old]
    · simp [isOutdated, own, old, not_not.mp (mt young.mpr old)]
  · simp [own]

theorem storedTable_ofKind (stamped : Stamped table)
    (earliest : call.checkedAt.minusDays call.policy.maxAgeDays = some cutoff) :
    ofKind record.kind (storedTable table call record recordId cutoff).rows =
      retained call.policy call.checkedAt
        (ofKind record.kind (table.rows ++ [newRow table call record recordId])) := by
  unfold retained
  rw [← recent_ofKind stamped earliest]
  unfold storedTable
  dsimp only
  generalize (table.insert record.kind recordId record.occurredAt call.storedAt.isoformat
    record.payload).delete (isOutdated record.kind cutoff.isoformat) = recent
  unfold ofKind
  rw [← filter_excess call.policy.maxRecords
    (recent.ordered.filter (fun row => decide (row.kind = record.kind)))]
  show (recent.rows.filter _).filter _ = (recent.rows.filter _).filter _
  rw [List.filter_filter, List.filter_filter]
  apply List.filter_congr
  intro row _
  exact Bool.and_comm _ _

theorem storedTable_others :
    (storedTable table call record recordId cutoff).rows.filter
      (fun row => row.kind ≠ record.kind) =
      table.rows.filter (fun row => row.kind ≠ record.kind) := by
  unfold storedTable
  dsimp only
  have recent : ((table.insert record.kind recordId record.occurredAt call.storedAt.isoformat
      record.payload).delete (isOutdated record.kind cutoff.isoformat)).rows.filter
      (fun row => row.kind ≠ record.kind) =
      table.rows.filter (fun row => row.kind ≠ record.kind) := by
    show ((table.rows ++ [_]).filter _).filter _ = _
    rw [List.filter_filter, List.filter_append]
    have none : [newRow table call record recordId].filter (fun row =>
        decide (row.kind ≠ record.kind) && !isOutdated record.kind cutoff.isoformat row) = [] := by
      simp [newRow]
    have same : table.rows.filter (fun row =>
        decide (row.kind ≠ record.kind) && !isOutdated record.kind cutoff.isoformat row) =
        table.rows.filter (fun row => row.kind ≠ record.kind) := by
      apply List.filter_congr
      intro row _
      by_cases own : row.kind = record.kind
      · simp [own]
      · simp [isOutdated, own]
    exact (congrArg₂ _ same none).trans (List.append_nil _)
  rw [← recent]
  generalize (table.insert record.kind recordId record.occurredAt call.storedAt.isoformat
    record.payload).delete (isOutdated record.kind cutoff.isoformat) = kept
  show (kept.rows.filter _).filter _ = kept.rows.filter _
  rw [List.filter_filter]
  apply List.filter_congr
  intro row member
  by_cases own : row.kind = record.kind
  · simp [own]
  · have apart : (kept.excess record.kind call.policy.maxRecords).contains row.sequence = false := by
      rw [← Bool.not_eq_true, List.contains_iff_mem]
      intro listed
      rcases List.mem_map.mp listed with ⟨other, isExcess, same⟩
      have ofIt := List.mem_filter.mp (List.mem_reverse.mp (List.mem_of_mem_drop isExcess))
      have equal := sequence_injective ofIt.1 member same
      exact own (equal ▸ of_decide_eq_true ofIt.2)
    dsimp only
    rw [apart]
    simp

/-- The clock did not pass the limit between its two readings, where it was read. -/
def AppendCall.Timely (call : AppendCall) : Prop :=
  call.now = none →
    call.clock.2.instant ≤ call.clock.1.instant + call.policy.maxAgeDays * dayLength

theorem checkedAt_le (timely : call.Timely) :
    call.checkedAt.instant ≤ call.storedAt.instant + call.policy.maxAgeDays * dayLength := by
  unfold AppendCall.checkedAt AppendCall.storedAt
  cases given : call.now with
  | some now => exact Nat.le_add_right _ _
  | none => exact timely given

theorem last_mem_newest {α : Type} {limit : Nat} (positive : 1 ≤ limit) (items : List α)
    (last : α) : last ∈ newest limit (items ++ [last]) := by
  unfold newest
  rw [List.drop_append_of_le_length (by simp; omega)]
  exact List.mem_append_right _ List.mem_cons_self

theorem newRow_kept (stamped : Stamped table)
    (earliest : call.checkedAt.minusDays call.policy.maxAgeDays = some cutoff)
    (timely : call.Timely) :
    newRow table call record recordId ∈ (storedTable table call record recordId cutoff).rows := by
  classical
  have kept := @storedTable_ofKind table call record recordId cutoff stamped earliest
  have own : ofKind record.kind (table.rows ++ [newRow table call record recordId]) =
      ofKind record.kind table.rows ++ [newRow table call record recordId] := by
    simp [ofKind, newRow]
  have young : IsYoung (call.checkedAt.instant - call.policy.maxAgeDays * dayLength)
      (newRow table call record recordId) := by
    have limit := checkedAt_le timely
    exact ⟨call.storedAt, rfl, by omega⟩
  have member : newRow table call record recordId ∈
      ofKind record.kind (storedTable table call record recordId cutoff).rows := by
    rw [kept, own]
    unfold retained
    rw [List.filter_append, List.filter_singleton, decide_eq_true young]
    exact last_mem_newest call.policy.positive.1 _ _
  exact (List.mem_filter.mp member).1

theorem storedTable_stamped (stamped : Stamped table) :
    Stamped (storedTable table call record recordId cutoff) := by
  intro row member
  have inserted := (List.mem_filter.mp (List.mem_filter.mp member).1).1
  rcases List.mem_append.mp inserted with old | new
  · exact stamped row old
  · rw [List.mem_singleton.mp new]
    exact ⟨call.storedAt, rfl⟩

/-! ## A sequence of appends -/

structure AppendStep where
  call : AppendCall
  before : Connection RecordTable
  answer : Except StoreError Nat
  after : Connection RecordTable

def appendSteps (library : RecordLibrary) (connection : Connection RecordTable) :
    List AppendCall → List AppendStep
  | [] => []
  | call :: rest =>
      let outcome := (append library call).run.run connection
      ⟨call, connection, outcome.1, outcome.2⟩ :: appendSteps library outcome.2 rest

def AppendStep.sequence (step : AppendStep) : Option Nat := step.answer.toOption

/-- What holds of an append: all of it where it returns, and nothing where it raises. -/
def AppendStep.KeepsNewest (library : RecordLibrary) (step : AppendStep) : Prop :=
  match step.answer with
  | .error _ => step.after = step.before
  | .ok sequence => ∃ row record, prepare library step.call.document = .ok record ∧
      row.sequence = sequence ∧ row.kind = record.kind ∧ row.payload = record.payload ∧
      row.storedAt = step.call.storedAt.isoformat ∧
      ofKind row.kind step.after.seen.rows = retained step.call.policy step.call.checkedAt
        (ofKind row.kind (step.before.seen.rows ++ [row])) ∧
      step.after.seen.rows.filter (fun other => other.kind ≠ row.kind) =
        step.before.seen.rows.filter (fun other => other.kind ≠ row.kind) ∧
      (step.call.Timely → row ∈ step.after.seen.rows)

/-- Every append of a sequence, and the keys that the sequence gives. -/
theorem appendSteps_spec (calls : List AppendCall) (stamped : Stamped table) :
    (∀ step ∈ appendSteps library (Connection.closed table) calls, step.KeepsNewest library) ∧
    (∀ sequence ∈ (appendSteps library (Connection.closed table) calls).filterMap
      AppendStep.sequence, table.lastSequence < sequence) ∧
    ((appendSteps library (Connection.closed table) calls).filterMap
      AppendStep.sequence).Pairwise (· < ·) := by
  induction calls generalizing table with
  | nil => exact ⟨nofun, nofun, .nil⟩
  | cons call rest ih =>
      unfold appendSteps
      rcases @append_run library call table with
        ⟨error, failed⟩ | ⟨record, recordId, cutoff, prepared, earliest, stored⟩
      · rw [failed]
        have later := ih stamped
        constructor
        · intro step member
          rcases List.mem_cons.mp member with rfl | member
          · exact rfl
          · exact later.1 step member
        · exact later.2
      · rw [stored]
        have later := @ih (storedTable table call record recordId cutoff)
          (storedTable_stamped stamped)
        have next : (storedTable table call record recordId cutoff).lastSequence =
            table.lastSequence + 1 := rfl
        rw [next] at later
        constructor
        · intro step member
          rcases List.mem_cons.mp member with rfl | member
          · exact ⟨newRow table call record recordId, record, prepared, rfl, rfl, rfl, rfl,
              storedTable_ofKind stamped earliest, storedTable_others,
              newRow_kept stamped earliest⟩
          · exact later.1 step member
        · constructor
          · intro sequence member
            rcases List.mem_cons.mp member with rfl | member
            · exact Nat.lt_succ_self _
            · have above := later.2.1 sequence member
              omega
          · exact List.pairwise_cons.mpr ⟨later.2.1, later.2.2⟩

/-- Over every sequence of appends, each keeps exactly the newest of its kind, and no key is
given twice. -/
theorem append_keeps_newest (library : RecordLibrary) (calls : List AppendCall) :
    (∀ step ∈ appendSteps library (Connection.closed RecordTable.empty) calls,
      step.KeepsNewest library) ∧
    ((appendSteps library (Connection.closed RecordTable.empty) calls).filterMap
      AppendStep.sequence).Pairwise (· < ·) :=
  have spec := @appendSteps_spec library RecordTable.empty calls nofun
  ⟨spec.1, spec.2.2⟩

end FortifyLab.Records
