import FortifyLab.Library.Ownership
import FortifyLab.Upgrade.Restarts
import FortifyLab.Upgrade.Roles

/-! What every state of the upgrade service keeps: identifiers are drawn once, a row is
created and saved by one thread at most, and a plan becomes one operation at most. -/

namespace FortifyLab.Upgrade

open Registry Authorization

/-! ## The table -/

namespace UpgradeTable

variable {table : UpgradeTable} {row : UpgradeRow} {id : String}

theorem find_id (found : table.find id = some row) : row.id = id := by
  simpa using List.find?_some found

theorem find_put_self (table : UpgradeTable) (row : UpgradeRow) :
    (table.put row).find row.id = some row := by
  have absent : (table.rows.filter (fun other => other.id ≠ row.id)).find?
      (fun other => other.id = row.id) = none := by
    rw [List.find?_eq_none]
    intro other member
    simpa using (List.mem_filter.mp member).2
  change List.find? _ (_ ++ [row]) = _
  rw [List.find?_append, absent]
  simp

theorem find_put_of_ne (different : id ≠ row.id) : (table.put row).find id = table.find id := by
  change List.find? _ (_ ++ [row]) = _
  rw [List.find?_append, List.find?_filter]
  have last : [row].find? (fun other => other.id = id) = none := by
    simpa using different.symm
  rw [last, Option.or_none]
  unfold find
  congr 1
  funext other
  by_cases same : other.id = id
  · simp [same, different]
  · simp [same]

theorem find_update (table : UpgradeTable) (change : UpgradeRow → UpgradeRow)
    (keeps : ∀ row, (change row).id = row.id) (id : String) :
    (table.update change keeps).find id = (table.find id).map change := by
  change List.find? _ (table.rows.map change) = _
  rw [List.find?_map]
  unfold find
  congr 2
  funext row
  simp [keeps]

end UpgradeTable

namespace UpgradeRow

/-- The plan that an operation executes. -/
def origin : UpgradeRow → Option String
  | .plan _ => none
  | .operation stored => some stored.planId

/-- The row is a plan that was consumed. -/
def spent : UpgradeRow → Bool
  | .plan row => row.state.isSome
  | .operation _ => false

theorem interrupt_origin (row : UpgradeRow) : row.interrupt.origin = row.origin := by
  unfold interrupt
  split
  · cases row <;> rfl
  · rfl

theorem interrupt_spent {row : UpgradeRow} (spent : row.spent = true) :
    row.interrupt.spent = true := by
  unfold interrupt
  split
  · cases row with
    | plan stored => rfl
    | operation stored => cases spent
  · exact spent

theorem consume_origin (planId : String) (row : UpgradeRow) :
    (row.consume planId).origin = row.origin := by
  cases row <;> rfl

theorem consume_spent {planId : String} {row : UpgradeRow} (spent : row.spent = true) :
    (row.consume planId).spent = true := by
  cases row with
  | operation stored => cases spent
  | plan stored =>
      dsimp only [consume]
      split
      · rfl
      · exact spent

theorem cancelAt_id (row : UpgradeRow) (now : Instant) : (row.cancelAt now).id = row.id := by
  cases row <;> rfl

theorem cancelAt_origin (row : UpgradeRow) (now : Instant) :
    (row.cancelAt now).origin = row.origin := by
  cases row <;> rfl

/-- A row of the same kind and plan, which is consumed where the other one is. -/
structure Like (row later : UpgradeRow) : Prop where
  origin : later.origin = row.origin
  spent : row.spent = true → later.spent = true

theorem Like.refl (row : UpgradeRow) : row.Like row := ⟨rfl, fun spent => spent⟩

theorem Like.trans {first second third : UpgradeRow} (early : first.Like second)
    (late : second.Like third) : first.Like third :=
  ⟨late.origin.trans early.origin, fun spent => late.spent (early.spent spent)⟩

theorem Like.operation {stored : UpgradeOperation} {later : UpgradeRow}
    (like : (UpgradeRow.operation stored).Like later) :
    ∃ version, later = .operation version ∧ version.planId = stored.planId := by
  cases later with
  | plan row => cases like.origin
  | operation version => exact ⟨version, rfl, Option.some.inj like.origin⟩

theorem Like.plan {stored : PlanRow} {later : UpgradeRow}
    (like : (UpgradeRow.plan stored).Like later) : ∃ version, later = .plan version := by
  cases later with
  | plan version => exact ⟨version, rfl⟩
  | operation version => cases like.origin

/-- What a cancellation writes is like the row that it read. -/
theorem cancelAt_like (row : UpgradeRow) (now : Instant) : row.Like (row.cancelAt now) := by
  refine ⟨cancelAt_origin row now, fun spent => ?_⟩
  cases row with
  | plan stored => rfl
  | operation stored => cases spent

end UpgradeRow

/-! ## The invariant -/

namespace ServiceState

/-- The identifier was drawn for a row. -/
def Known (identifiers : Identifiers) (state : ServiceState) (id : String) : Prop :=
  ∃ count, count < state.drawn ∧
    (id = "upgrade-plan-" ++ identifiers.uuid count ∨ id = "upgrade-" ++ identifiers.uuid count)

/-- The row is an operation that has not ended. -/
def Active (state : ServiceState) (id : String) : Prop :=
  ∃ stored, state.table.find id = some (.operation stored) ∧ stored.state.terminal = false

/-- The plan was consumed. -/
def Spent (state : ServiceState) (planId : String) : Prop :=
  ∃ row, state.table.find planId = some (.plan row) ∧ row.state.isSome = true

/-- No operation of the plan is stored. -/
def Unexecuted (state : ServiceState) (planId : String) : Prop :=
  ∀ id stored, state.table.find id = some (.operation stored) → stored.planId ≠ planId

end ServiceState

namespace Roles

open Program

/-- The row that only this thread may create or save. -/
def Role.row (role : Role) : Option String :=
  match role.task with
  | .filing id => some id
  | .placing operation => some operation.id
  | .starting id => some id
  | .awaiting =>
      match role.call with
      | some (.worker operationId _ _) => some operationId
      | _ => none
  | .working held => some held.id
  | _ => none

/-- The plan that this thread has consumed, and not stored as an operation yet. -/
def Role.plan (role : Role) : Option String :=
  match role.task with
  | .consumed planId => some planId
  | .placing operation => some operation.planId
  | _ => none

variable (identifiers : Identifiers)

/-- What holds of a thread in its role. -/
def Role.Kept (state : ServiceState) (role : Role) : Prop :=
  match role.task with
  | .idle => True
  | .opening reviews => state.serving = false ∧ (reviews.map UpgradeOperation.id).Nodup ∧
      ∀ operation ∈ reviews, state.table.find operation.id = some (.operation operation) ∧
        operation.state = .interrupted
  | .filing id => state.serving = true ∧ state.Known identifiers id ∧ state.table.find id = none
  | .consumed planId => state.serving = true ∧ state.Spent planId ∧ state.Unexecuted planId
  | .placing operation => state.serving = true ∧ state.Known identifiers operation.id ∧
      state.table.find operation.id = none ∧ operation.state = .queued ∧
      state.Spent operation.planId ∧ state.Unexecuted operation.planId
  | .starting id => state.serving = true ∧ state.Active id
  | .marking row => state.serving = true ∧ row.ended = some false ∧
      ∃ stored, state.table.find row.id = some stored ∧ stored.origin = row.origin
  | .awaiting => state.serving = true ∧ ∃ operationId plan target,
      role.call = some (.worker operationId plan target) ∧ state.Active operationId
  | .working held => state.serving = true ∧ state.Active held.id ∧
      ∃ stored, state.table.find held.id = some (.operation stored) ∧ stored.planId = held.planId

structure StoreKept (state : ServiceState) : Prop where
  known : ∀ id row, state.table.find id = some row → state.Known identifiers id
  spent : ∀ id stored, state.table.find id = some (.operation stored) → state.Spent stored.planId
  single : ∀ left right first second, state.table.find left = some (.operation first) →
    state.table.find right = some (.operation second) → first.planId = second.planId →
    left = right

structure Kept (state : ServiceState) (roles : Nat → Role) : Prop extends
    StoreKept identifiers state where
  each : ∀ index, (roles index).Kept identifiers state
  arrived : ∀ index call, (roles index).call = some call → call.outside = true →
    state.serving = true
  rows : Apart Role.row roles
  plans : Apart Role.plan roles
  alone : ∀ left right first second, (roles left).task = .opening first →
    (roles right).task = .opening second → left = right

variable {identifiers : Identifiers} {state after : ServiceState} {roles : Nat → Role}
  {role other : Role} {index : Nat}

/-! ## Identifiers -/

theorem uuid_not_plan (count : Nat) (rest : String) : identifiers.uuid count ≠ "plan-" ++ rest := by
  intro same
  have member : 'p' ∈ (identifiers.uuid count).toList := by
    rw [same, String.toList_append]
    exact List.mem_append_left _ (by decide)
  exact absurd (identifiers.hexadecimal count 'p' member) (by decide)

theorem append_left_cancel {start left right : String} (same : start ++ left = start ++ right) :
    left = right := by
  have texts := congrArg String.toList same
  rw [String.toList_append, String.toList_append] at texts
  exact String.toList_inj.mp (List.append_cancel_left texts)

theorem plan_starts (rest : String) :
    "upgrade-plan-" ++ rest = "upgrade-" ++ ("plan-" ++ rest) := by
  rw [← String.append_assoc]
  rfl

/-- The identifier of a plan that is drawn next is new. -/
theorem plan_unknown (identifiers : Identifiers) (state : ServiceState) :
    ¬ state.Known identifiers ("upgrade-plan-" ++ identifiers.uuid state.drawn) := by
  rintro ⟨count, before, same | same⟩
  · have equal := identifiers.distinct (append_left_cancel same)
    omega
  · rw [plan_starts] at same
    exact uuid_not_plan count _ (append_left_cancel same).symm

/-- So is the identifier of an operation. -/
theorem operation_unknown (identifiers : Identifiers) (state : ServiceState) :
    ¬ state.Known identifiers ("upgrade-" ++ identifiers.uuid state.drawn) := by
  rintro ⟨count, before, same | same⟩
  · rw [plan_starts] at same
    exact uuid_not_plan _ _ (append_left_cancel same)
  · have equal := identifiers.distinct (append_left_cancel same)
    omega

theorem Known.mono {id : String} (known : state.Known identifiers id)
    (drawn : state.drawn ≤ after.drawn) : after.Known identifiers id := by
  rcases known with ⟨count, before, same⟩
  exact ⟨count, by omega, same⟩

theorem StoreKept.missing (store : StoreKept identifiers state) {id : String}
    (unknown : ¬ state.Known identifiers id) : state.table.find id = none := by
  cases found : state.table.find id with
  | none => rfl
  | some row => exact absurd (store.known id row found) unknown

/-- The row of a thread has a known identifier. -/
theorem Role.Kept.known (kept : role.Kept identifiers state) (store : StoreKept identifiers state)
    {id : String} (owned : role.row = some id) : state.Known identifiers id := by
  have stored : ∀ other, state.Active other → state.Known identifiers other := by
    rintro other ⟨row, found, _⟩
    exact store.known other _ found
  unfold Role.Kept at kept
  unfold Role.row at owned
  cases task : role.task with
  | filing other =>
      simp only [task, Option.some.injEq] at kept owned
      exact owned ▸ kept.2.1
  | placing operation =>
      simp only [task, Option.some.injEq] at kept owned
      exact owned ▸ kept.2.1
  | starting other =>
      simp only [task, Option.some.injEq] at kept owned
      exact owned ▸ stored _ kept.2
  | awaiting =>
      rw [task] at kept
      rcases kept with ⟨_, operationId, plan, target, call, active⟩
      simp only [task, call, Option.some.injEq] at owned
      exact owned ▸ stored _ active
  | working held =>
      simp only [task, Option.some.injEq] at kept owned
      exact owned ▸ stored _ kept.2.1
  | _ => simp [task] at owned

/-- The plan of a thread is consumed, and has no operation. -/
theorem Role.Kept.consumed (kept : role.Kept identifiers state) {planId : String}
    (owned : role.plan = some planId) : state.Spent planId ∧ state.Unexecuted planId := by
  unfold Role.Kept at kept
  unfold Role.plan at owned
  cases task : role.task with
  | consumed other =>
      simp only [task, Option.some.injEq] at kept owned
      exact owned ▸ kept.2
  | placing operation =>
      simp only [task, Option.some.injEq] at kept owned
      exact owned ▸ kept.2.2.2.2
  | _ => simp [task] at owned

/-- Without a service there is nobody but the thread that opens the store. -/
theorem Role.Kept.closed (kept : role.Kept identifiers state) (closed : state.serving = false) :
    role.task = .idle ∨ ∃ reviews, role.task = .opening reviews := by
  unfold Role.Kept at kept
  cases task : role.task with
  | idle => exact .inl rfl
  | opening reviews => exact .inr ⟨reviews, rfl⟩
  | _ =>
      rw [task] at kept
      exact absurd (kept.1.symm.trans closed) (by decide)

theorem Role.Kept.serving (kept : role.Kept identifiers state) (quiet : role.task ≠ .idle)
    (later : ∀ reviews, role.task ≠ .opening reviews) : state.serving = true := by
  cases serving : state.serving with
  | true => rfl
  | false =>
      rcases kept.closed serving with idle | ⟨reviews, opening⟩
      · exact absurd idle quiet
      · exact absurd opening (later reviews)

/-! ## What other threads leave alone -/

/-- A state that keeps every row, like it was. -/
structure Grows (state after : ServiceState) : Prop where
  serving : after.serving = state.serving
  drawn : state.drawn ≤ after.drawn
  rows : ∀ id row, state.table.find id = some row →
    ∃ later, after.table.find id = some later ∧ row.Like later

theorem spent_of_rows (rows : ∀ id row, state.table.find id = some row →
      ∃ later, after.table.find id = some later ∧ row.Like later) {planId : String}
    (spent : state.Spent planId) : after.Spent planId := by
  rcases spent with ⟨row, found, consumed⟩
  rcases rows planId _ found with ⟨later, stored, like⟩
  rcases like.plan with ⟨version, rfl⟩
  exact ⟨version, stored, like.spent consumed⟩

theorem Grows.spent (grows : Grows state after) {planId : String} (spent : state.Spent planId) :
    after.Spent planId :=
  spent_of_rows grows.rows spent

/-- A thread keeps its place where the others write nothing of its own. -/
theorem Role.Kept.grow (kept : role.Kept identifiers state) (serving : state.serving = true)
    (grows : Grows state after)
    (active : ∀ id, role.row = some id → state.Active id → after.Active id)
    (missing : ∀ id, role.row = some id → state.table.find id = none →
      after.table.find id = none)
    (unexecuted : ∀ planId, role.plan = some planId → state.Unexecuted planId →
      after.Unexecuted planId) : role.Kept identifiers after := by
  have serves : after.serving = true := grows.serving.trans serving
  unfold Role.Kept at *
  cases task : role.task with
  | idle => trivial
  | opening reviews =>
      rw [task] at kept
      exact absurd (serving.symm.trans kept.1) (by decide)
  | filing id =>
      rw [task] at kept
      have owned : role.row = some id := by rw [Role.row, task]
      exact ⟨serves, Known.mono kept.2.1 grows.drawn, missing id owned kept.2.2⟩
  | consumed planId =>
      rw [task] at kept
      have owned : role.plan = some planId := by rw [Role.plan, task]
      exact ⟨serves, grows.spent kept.2.1, unexecuted planId owned kept.2.2⟩
  | placing operation =>
      rw [task] at kept
      rcases kept with ⟨_, known, none, queued, spent, fresh⟩
      have owned : role.row = some operation.id := by rw [Role.row, task]
      have planned : role.plan = some operation.planId := by rw [Role.plan, task]
      exact ⟨serves, Known.mono known grows.drawn, missing _ owned none, queued,
        grows.spent spent, unexecuted _ planned fresh⟩
  | starting id =>
      rw [task] at kept
      have owned : role.row = some id := by rw [Role.row, task]
      exact ⟨serves, active id owned kept.2⟩
  | marking row =>
      rw [task] at kept
      rcases kept with ⟨_, going, stored, found, same⟩
      rcases grows.rows row.id stored found with ⟨later, known, like⟩
      exact ⟨serves, going, later, known, like.origin.trans same⟩
  | awaiting =>
      rw [task] at kept
      rcases kept with ⟨_, operationId, plan, target, call, runs⟩
      have owned : role.row = some operationId := by rw [Role.row, task, call]
      exact ⟨serves, operationId, plan, target, call, active operationId owned runs⟩
  | working held =>
      rw [task] at kept
      rcases kept with ⟨_, runs, stored, found, same⟩
      have owned : role.row = some held.id := by rw [Role.row, task]
      rcases grows.rows held.id _ found with ⟨later, known, like⟩
      rcases like.operation with ⟨version, rfl, planId⟩
      exact ⟨serves, active held.id owned runs, version, known, planId.trans same⟩

end Roles

end FortifyLab.Upgrade
