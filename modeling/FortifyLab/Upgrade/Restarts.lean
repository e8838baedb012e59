import FortifyLab.Upgrade.SafeRollback
import FortifyLab.Upgrade.Service

/-! What the constructor of the upgrade store makes of its rows, restart after restart. -/

namespace FortifyLab.Upgrade

open Registry Authorization Program

/-- A restart of the manager: what the service has made of its state since the last one, and
the answers that the constructor gets. Its statements succeed. -/
structure Restart where
  work : ServiceState → ServiceState
  offers : Nat → Offer
  runs : ∀ count, (offers count).statement = .ok ()

variable (identifiers : Identifiers)

/-- The service answers the constructor. -/
def serveWith (offers : Nat → Offer) (state : ServiceState × Nat) (request : ServiceRequest) :
    ServiceAnswer request × (ServiceState × Nat) :=
  (reply identifiers state.1 (offers state.2) request, (effect state.1 request, state.2 + 1))

/-- The state once the store is open again. -/
def Restart.reopen (restart : Restart) (state : ServiceState) : ServiceState :=
  (eval (serveWith identifiers restart.offers) openStore (state, 0)).2.1

/-- The states before and after each constructor. -/
def openings : List Restart → ServiceState → List (ServiceState × ServiceState)
  | [], _ => []
  | restart :: rest, state =>
      (restart.work state, restart.reopen identifiers (restart.work state)) ::
        openings rest (restart.reopen identifiers (restart.work state))

/-- Nothing is active; what was active is interrupted, with one entry of evidence for it;
everything else is as it was. -/
structure Lawful (before after : UpgradeTable) : Prop where
  ids : after.rows.map UpgradeRow.id = before.rows.map UpgradeRow.id
  ended : ∀ row ∈ after.rows, row.active = false
  interrupted : ∀ operation, .operation operation ∈ before.rows →
    operation.state.terminal = false → ∃ version now, .operation version ∈ after.rows ∧
      version.id = operation.id ∧ version.state = .interrupted ∧
      version.recovery.required = true ∧ version.recovery.status = .operatorReviewRequired ∧
      version.evidence = operation.evidence ++ [.managerRestarted now]
  untouched : ∀ row ∈ before.rows, row.active = false → row ∈ after.rows

/-! ## One opening -/

/-- An interrupted operation is reviewed at the time read for it. -/
def UpgradeRow.reviewAt (times : String → Instant) : UpgradeRow → UpgradeRow
  | .plan stored => .plan stored
  | .operation stored =>
      if stored.state = .interrupted then .operation (stored.review (times stored.id))
      else .operation stored

/-- A row after the constructor. -/
def UpgradeRow.reopened (times : String → Instant) (row : UpgradeRow) : UpgradeRow :=
  row.interrupt.reviewAt times

variable {identifiers} {offers : Nat → Offer} {state : ServiceState}

theorem eval_attempted (runs : ∀ count, (offers count).statement = .ok ())
    (request : ServiceRequest) (count : Nat) :
    eval (serveWith identifiers offers) (attempted request) (state, count) =
      (.ok (reply identifiers state (offers (count + 1)) request),
        (effect state request, count + 2)) := by
  have answered : (serveWith identifiers offers (state, count) .statement).1 =
      (.ok () : Except Unit Unit) := runs count
  simp only [attempted, inquire, perform_bind, eval_ask]
  rw [answered]
  rfl

/-- The row of an operation in the list gets its review. -/
def reviewedRow (operations : List UpgradeOperation) (times : String → Instant)
    (row : UpgradeRow) : UpgradeRow :=
  match operations.find? (fun operation => operation.id = row.id) with
  | some operation => .operation (operation.review (times operation.id))
  | none => row

/-- The first operation of the list is written, then the others. -/
theorem reviewedRow_cons {operation : UpgradeOperation} {rest : List UpgradeOperation}
    (fresh : operation.id ∉ rest.map UpgradeOperation.id) (now : Instant)
    (times : String → Instant) (row : UpgradeRow) :
    reviewedRow rest times (row.setPayload (operation.review now)) =
      reviewedRow (operation :: rest) (Function.update times operation.id now) row := by
  have absent : rest.find? (fun other => other.id = operation.id) = none := by
    simpa using fresh
  unfold UpgradeRow.setPayload
  by_cases same : row.id = operation.id
  · rw [if_pos (show row.id = (operation.review now).id from same)]
    have last : reviewedRow rest times (.operation (operation.review now)) =
        .operation (operation.review now) := by
      unfold reviewedRow
      rw [show (UpgradeRow.operation (operation.review now)).id = operation.id from rfl, absent]
    rw [last, reviewedRow, List.find?_cons_of_pos (by simp [same])]
    simp
  · rw [if_neg (show ¬ row.id = (operation.review now).id from same)]
    unfold reviewedRow
    rw [List.find?_cons_of_neg (by simpa using Ne.symm same)]
    cases found : rest.find? (fun other => other.id = row.id) with
    | none => rfl
    | some other =>
        have known : other.id = row.id := by simpa using List.find?_some found
        dsimp only
        rw [known, Function.update_of_ne same]

theorem reviewEach_spec (runs : ∀ count, (offers count).statement = .ok ())
    (operations : List UpgradeOperation) (distinct : (operations.map UpgradeOperation.id).Nodup)
    (state : ServiceState) (count : Nat) :
    ∃ times after, eval (serveWith identifiers offers) (reviewEach operations) (state, count) =
        (true, after) ∧
      after.1.table.rows = state.table.rows.map (reviewedRow operations times) := by
  induction operations generalizing state count with
  | nil => exact ⟨fun _ => 0, (state, count), rfl, (List.map_id _).symm⟩
  | cons operation rest ih =>
      rw [List.map_cons, List.nodup_cons] at distinct
      let now := (offers count).now
      let written := effect state (.updatePayload (operation.review now))
      rcases ih distinct.2 written (count + 3) with ⟨times, after, run, rows⟩
      refine ⟨Function.update times operation.id now, after, ?_, ?_⟩
      · rw [reviewEach]
        change eval _ (attempted (.updatePayload (operation.review now)) >>= _)
          (state, count + 1) = _
        refine eval_bind.trans ?_
        rw [eval_attempted runs]
        exact run
      · rw [rows]
        change (state.table.rows.map (UpgradeRow.setPayload (operation.review now))).map
          (reviewedRow rest times) = _
        rw [List.map_map]
        apply List.map_congr_left
        intro row _
        exact reviewedRow_cons distinct.1 now times row

theorem find_of_mem {table : UpgradeTable} {row : UpgradeRow} (member : row ∈ table.rows) :
    table.find row.id = some row := by
  unfold UpgradeTable.find
  cases found : table.rows.find? (fun other => other.id = row.id) with
  | none => simpa using List.find?_eq_none.mp found row member
  | some other =>
      have same : other.id = row.id := by simpa using List.find?_some found
      rw [List.inj_on_of_nodup_map table.unique (List.mem_of_find?_eq_some found) member same]

theorem mem_interrupted {table : UpgradeTable} {operation : UpgradeOperation} :
    operation ∈ table.interrupted ↔
      .operation operation ∈ table.rows ∧ operation.state = .interrupted := by
  unfold UpgradeTable.interrupted
  rw [List.mem_filterMap]
  constructor
  · rintro ⟨row, member, selected⟩
    cases row with
    | plan stored => cases selected
    | operation stored =>
        dsimp only at selected
        split at selected
        · next state =>
          cases selected
          exact ⟨member, state⟩
        · cases selected
  · rintro ⟨member, state⟩
    exact ⟨_, member, if_pos state⟩

theorem interrupted_distinct (table : UpgradeTable) :
    (table.interrupted.map UpgradeOperation.id).Nodup := by
  have sublist : (table.interrupted.map UpgradeOperation.id).Sublist
      (table.rows.map UpgradeRow.id) := by
    unfold UpgradeTable.interrupted
    induction table.rows with
    | nil => exact .slnil
    | cons row rest ih =>
        cases row with
        | plan stored => exact ih.cons _
        | operation stored =>
            rw [List.filterMap_cons]
            dsimp only
            split
            · next none =>
              split at none
              · cases none
              · exact ih.cons _
            · next other some =>
              split at some
              · cases some
                exact ih.cons_cons _
              · cases some
  exact table.unique.sublist sublist

/-- In a table a row is reviewed exactly when it is an interrupted operation. -/
theorem reviewedRow_of_mem {table : UpgradeTable} {row : UpgradeRow} (member : row ∈ table.rows)
    (times : String → Instant) :
    reviewedRow table.interrupted times row = row.reviewAt times := by
  unfold reviewedRow
  cases found : table.interrupted.find? (fun operation => operation.id = row.id) with
  | none =>
      cases row with
      | plan stored => rfl
      | operation stored =>
          have absent := List.find?_eq_none.mp found stored
          by_cases state : stored.state = .interrupted
          · have same : ¬ stored.id = (UpgradeRow.operation stored).id := by
              simpa using absent (mem_interrupted.mpr ⟨member, state⟩)
            exact absurd rfl same
          · exact (if_neg state).symm
  | some operation =>
      rcases mem_interrupted.mp (List.mem_of_find?_eq_some found) with ⟨known, state⟩
      have same : operation.id = row.id := by simpa using List.find?_some found
      have equal : UpgradeRow.operation operation = row :=
        List.inj_on_of_nodup_map table.unique known member same
      subst equal
      exact (if_pos state).symm

/-- Every row is rewritten by itself. -/
theorem openStore_spec (runs : ∀ count, (offers count).statement = .ok ()) (state : ServiceState) :
    ∃ times, (eval (serveWith identifiers offers) openStore (state, 0)).2.1.table.rows =
      state.table.rows.map (UpgradeRow.reopened times) := by
  let first := effect state .interruptActive
  rcases reviewEach_spec runs first.table.interrupted (interrupted_distinct first.table) first 4
    with ⟨times, after, run, rows⟩
  refine ⟨times, ?_⟩
  have opened : eval (serveWith identifiers offers) openStore (state, 0) =
      ((), (effect after.1 .serve, after.2 + 1)) := by
    refine eval_bind.trans ?_
    rw [eval_attempted runs]
    refine eval_bind.trans ?_
    rw [eval_attempted runs]
    refine eval_bind.trans ?_
    change eval (serveWith identifiers offers) (if (eval (serveWith identifiers offers)
      (reviewEach first.table.interrupted) (first, 4)).1 = true then inquire .serve
      else return ()) (eval (serveWith identifiers offers)
      (reviewEach first.table.interrupted) (first, 4)).2 = _
    rw [run]
    rfl
  rw [opened]
  change after.1.table.rows = _
  rw [rows]
  change (state.table.rows.map UpgradeRow.interrupt).map _ = _
  rw [List.map_map]
  apply List.map_congr_left
  intro row member
  have there : row.interrupt ∈ first.table.rows := List.mem_map_of_mem member
  exact reviewedRow_of_mem there times

/-! ## The law -/

theorem reviewAt_id (times : String → Instant) (row : UpgradeRow) :
    (row.reviewAt times).id = row.id := by
  cases row with
  | plan stored => rfl
  | operation stored =>
      dsimp only [UpgradeRow.reviewAt]
      split <;> rfl

theorem reviewAt_active (times : String → Instant) (row : UpgradeRow) :
    (row.reviewAt times).active = row.active := by
  cases row with
  | plan stored => rfl
  | operation stored =>
      dsimp only [UpgradeRow.reviewAt]
      split <;> rfl

theorem reopened_id (times : String → Instant) (row : UpgradeRow) :
    (row.reopened times).id = row.id :=
  (reviewAt_id times row.interrupt).trans row.interrupt_id

theorem interrupt_inactive {row : UpgradeRow} (inactive : row.active = false) :
    row.interrupt = row := by
  unfold UpgradeRow.interrupt
  rw [if_neg (by simp [inactive])]

theorem interrupt_active (row : UpgradeRow) : row.interrupt.active = false := by
  unfold UpgradeRow.interrupt
  split
  · cases row <;> rfl
  · next inactive => simpa using inactive

theorem reopened_active (times : String → Instant) (row : UpgradeRow) :
    (row.reopened times).active = false :=
  (reviewAt_active times row.interrupt).trans (interrupt_active row)

/-- A row that was not active stays exactly when it is no operation interrupted before. -/
theorem reopened_eq_iff {times : String → Instant} {row : UpgradeRow}
    (inactive : row.active = false) :
    row.reopened times = row ↔
      ∀ operation, row = .operation operation → operation.state ≠ .interrupted := by
  unfold UpgradeRow.reopened
  rw [interrupt_inactive inactive]
  cases row with
  | plan stored => simp [UpgradeRow.reviewAt]
  | operation stored =>
      constructor
      · intro same operation known state
        cases known
        rw [UpgradeRow.reviewAt, if_pos state] at same
        injection same with again
        have longer := congrArg (fun operation => operation.evidence.length) again
        simp [UpgradeOperation.review] at longer
      · intro other
        exact if_neg (other stored rfl)

/-- One constructor is lawful exactly when it finds no operation interrupted before. -/
theorem lawful_iff {before after : UpgradeTable} {times : String → Instant}
    (rows : after.rows = before.rows.map (UpgradeRow.reopened times)) :
    Lawful before after ↔
      ∀ operation, .operation operation ∈ before.rows → operation.state ≠ .interrupted := by
  constructor
  · intro lawful operation member state
    have inactive : (UpgradeRow.operation operation).active = false := by
      simp [UpgradeRow.active, state, UpgradeState.terminal]
    have kept := lawful.untouched _ member inactive
    have mapped : (UpgradeRow.operation operation).reopened times ∈ after.rows :=
      rows ▸ List.mem_map_of_mem member
    have same := List.inj_on_of_nodup_map after.unique mapped kept (reopened_id times _)
    exact (reopened_eq_iff inactive).mp same operation rfl state
  · intro none
    refine ⟨?_, ?_, ?_, ?_⟩
    · rw [rows, List.map_map]
      exact List.map_congr_left (fun row _ => reopened_id times row)
    · intro row member
      rw [rows] at member
      rcases List.mem_map.mp member with ⟨old, _, rfl⟩
      exact reopened_active times old
    · intro operation member active
      have changed : (UpgradeRow.operation operation).reopened times =
          .operation (({ operation with
            state := .interrupted
            error := some "Manager restarted before profile upgrade completed" }).review
              (times operation.id)) := by
        unfold UpgradeRow.reopened UpgradeRow.interrupt
        rw [if_pos (by simp [UpgradeRow.active, active])]
        rfl
      have there : (UpgradeRow.operation operation).reopened times ∈ after.rows := by
        rw [rows]
        exact List.mem_map_of_mem member
      rw [changed] at there
      exact ⟨_, times operation.id, there, rfl, rfl, rfl, rfl, rfl⟩
    · intro row member inactive
      have same : row.reopened times = row := by
        apply (reopened_eq_iff inactive).mpr
        rintro operation rfl
        exact none operation member
      rw [rows, ← same]
      exact List.mem_map_of_mem member

end FortifyLab.Upgrade
