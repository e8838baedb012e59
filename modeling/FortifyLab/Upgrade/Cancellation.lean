import FortifyLab.Upgrade.Reached

/-! Cancellations between the saves of a worker. A cancellation writes the whole row from the
copy that it read; the records survive as long as the copy is not behind the row. -/

namespace FortifyLab.Upgrade.Roles

open Program Registry Authorization

variable {service : ProfileUpgradeService} {identifiers : Identifiers}
  {state after : ServiceState} {roles : Nat → Role} {role other : Role} {index : Nat}

/-- What a later version of an operation keeps. -/
structure RecordKept (stored later : UpgradeOperation) : Prop where
  terminal : stored.state.terminal = true → later.state.terminal = true
  evidence : stored.evidence <+: later.evidence
  completed : stored.completedComponents <+: later.completedComponents

/-- No record is lost. -/
def RecordsKept (state later : ServiceState) : Prop :=
  ∀ id stored, state.table.find id = some (.operation stored) →
    ∃ version, later.table.find id = some (.operation version) ∧ RecordKept stored version

/-- The plans are as before, and no plan is new. -/
def PlansKept (state later : ServiceState) : Prop :=
  ∀ id row, later.table.find id = some (.plan row) ↔ state.table.find id = some (.plan row)

/-- The row is an operation that has not ended, with the records of the copy. -/
def cancelsCurrent (table : UpgradeTable) : UpgradeRow → Bool
  | .plan _ => false
  | .operation copy =>
      match table.find copy.id with
      | some (.operation stored) => !stored.state.terminal &&
          decide (stored.evidence = copy.evidence ∧
            stored.completedComponents = copy.completedComponents)
      | _ => false

/-- The action is no write of a cancellation over a row that has ended, that has other
records than the copy, or that is a plan. -/
def undisturbed (pool : ServicePool) : ServiceAction → Bool
  | .advance index _ =>
      match pool.threads[index]? with
      | some ⟨.cancel _, .ask (.put row) _⟩ => cancelsCurrent pool.shared.table row
      | _ => true
  | _ => true

def Undisturbed (pool : ServicePool) (action : ServiceAction) : Prop :=
  undisturbed pool action = true

/-- The action is one of a cancellation. -/
def cancelling (pool : ServicePool) : ServiceAction → Bool
  | .advance index _ =>
      match pool.threads[index]? with
      | some ⟨.cancel _, _⟩ => true
      | _ => false
  | _ => false

/-! ## Records -/

theorem RecordKept.refl (stored : UpgradeOperation) : RecordKept stored stored :=
  ⟨fun ended => ended, List.prefix_refl _, List.prefix_refl _⟩

theorem RecordsKept.trans {first second third : ServiceState} (early : RecordsKept first second)
    (late : RecordsKept second third) : RecordsKept first third := by
  intro id stored found
  rcases early id stored found with ⟨version, known, kept⟩
  rcases late id version known with ⟨last, final, also⟩
  exact ⟨last, final, fun ended => also.terminal (kept.terminal ended),
    kept.evidence.trans also.evidence, kept.completed.trans also.completed⟩

theorem recordsKept_of_table (same : after.table = state.table) : RecordsKept state after := by
  intro id stored found
  exact ⟨stored, by rw [same]; exact found, RecordKept.refl stored⟩

theorem recordsKept_update {change : UpgradeRow → UpgradeRow}
    {keeps : ∀ row, (change row).id = row.id}
    (kept : ∀ id stored, state.table.find id = some (.operation stored) →
      ∃ version, change (.operation stored) = .operation version ∧ RecordKept stored version) :
    RecordsKept state { state with table := state.table.update change keeps } := by
  intro id stored found
  rcases kept id stored found with ⟨version, same, kept⟩
  refine ⟨version, ?_, kept⟩
  rw [UpgradeTable.find_update, found]
  exact congrArg some same

theorem recordsKept_put {row : UpgradeRow}
    (kept : ∀ stored, state.table.find row.id = some (.operation stored) →
      ∃ version, row = .operation version ∧ RecordKept stored version) :
    RecordsKept state { state with table := state.table.put row } := by
  intro id stored found
  by_cases same : id = row.id
  · subst same
    rcases kept stored found with ⟨version, written, kept⟩
    refine ⟨version, ?_, kept⟩
    rw [← written]
    exact UpgradeTable.find_put_self _ _
  · exact ⟨stored, (UpgradeTable.find_put_of_ne same).trans found, RecordKept.refl stored⟩

theorem interrupt_recordKept (stored : UpgradeOperation) : ∃ version,
    (UpgradeRow.operation stored).interrupt = .operation version ∧ RecordKept stored version := by
  unfold UpgradeRow.interrupt
  split
  · exact ⟨_, rfl, fun _ => rfl, List.prefix_refl _, List.prefix_refl _⟩
  · exact ⟨stored, rfl, RecordKept.refl stored⟩

/-- The constructor of the store adds evidence to an operation that it has interrupted. -/
theorem review_recordKept {operation : UpgradeOperation} (now : Instant)
    (interrupted : operation.state = .interrupted) :
    RecordKept operation (operation.review now) := by
  refine ⟨fun _ => ?_, List.prefix_append _ _, List.prefix_refl _⟩
  change operation.state.terminal = true
  rw [interrupted]
  rfl

/-! ## Copies -/

/-- A worker goes on from the records that are stored. -/
def Current (state : ServiceState) (roles : Nat → Role) : Prop :=
  ∀ index held stored, (roles index).task = .working held →
    state.table.find held.id = some (.operation stored) →
    stored.evidence = held.evidence ∧ stored.completedComponents = held.completedComponents

theorem Current.step
    (others : ∀ thread, thread ≠ index → ∀ held stored, (roles thread).task = .working held →
      after.table.find held.id = some (.operation stored) →
      stored.evidence = held.evidence ∧ stored.completedComponents = held.completedComponents)
    (mine : ∀ held stored, other.task = .working held →
      after.table.find held.id = some (.operation stored) →
      stored.evidence = held.evidence ∧
        stored.completedComponents = held.completedComponents) :
    Current after (Function.update roles index other) := by
  intro thread held stored
  by_cases same : thread = index
  · rw [same, Function.update_self]
    exact mine held stored
  · rw [Function.update_of_ne same]
    exact others thread same held stored

/-- The operations are as before, and so is the copy of the thread, if it has one. -/
theorem Current.stay (current : Current state roles)
    (back : ∀ id stored, after.table.find id = some (.operation stored) →
      state.table.find id = some (.operation stored))
    (copy : ∀ held, other.task = .working held → (roles index).task = .working held) :
    Current after (Function.update roles index other) := by
  apply Current.step
  · intro thread _ held stored task found
    exact current thread held stored task (back _ _ found)
  · intro held stored task found
    exact current index held stored (copy held task) (back _ _ found)

/-- Nobody has a copy while the store is opened. -/
theorem Kept.current_opening (kept : Kept identifiers state roles)
    {reviews : List UpgradeOperation} (task : (roles index).task = .opening reviews)
    (idle : ∀ held, other.task ≠ .working held) :
    Current after (Function.update roles index other) := by
  apply Current.step
  · intro thread different held stored working
    rw [kept.others_idle task different] at working
    cases working
  · exact fun held _ working => absurd working (idle held)

/-- The thread writes its own row. -/
theorem Current.put (current : Current state roles) (kept : Kept identifiers state roles)
    {document : UpgradeOperation} (owned : (roles index).row = some document.id)
    (mine : ∀ held, other.task = .working held → held = document) :
    Current { state with table := state.table.put (.operation document) }
      (Function.update roles index other) := by
  have written : (state.table.put (.operation document)).find document.id =
      some (.operation document) := UpgradeTable.find_put_self _ _
  apply Current.step
  · intro thread different held stored task found
    have apart : held.id ≠ document.id := by
      intro same
      exact kept.foreign owned different (same ▸ (kept.works task).2.1)
    exact current thread held stored task
      ((UpgradeTable.find_put_of_ne apart).symm.trans found)
  · intro held stored task found
    cases mine held task
    cases Option.some.inj (written.symm.trans found)
    exact ⟨rfl, rfl⟩

/-! ## One move -/

/-- What a worker saves goes on from the row, which has not ended. -/
theorem Kept.save_keeps (kept : Kept identifiers state roles) (current : Current state roles)
    {held document : UpgradeOperation} (task : (roles index).task = .working held)
    (continues : Continues held document) :
    RecordsKept state { state with table := state.table.put (.operation document) } := by
  apply recordsKept_put
  intro stored found
  have known : state.table.find held.id = some (.operation stored) := by
    rw [← continues.id]
    exact found
  rcases (kept.works task).2.2.1 with ⟨row, active, going⟩
  cases Option.some.inj (active.symm.trans known)
  rcases current index held stored task known with ⟨evidence, completed⟩
  refine ⟨document, rfl, ?_, evidence ▸ continues.evidence, completed ▸ continues.completed⟩
  intro ended
  rw [going] at ended
  cases ended

theorem cancelsCurrent_row {table : UpgradeTable} {row : UpgradeRow} {now : Instant}
    (meets : cancelsCurrent table (row.cancelAt now) = true) : ∃ document stored,
      row.cancelAt now = .operation document ∧ table.find document.id = some (.operation stored) ∧
      stored.state.terminal = false ∧ stored.evidence = document.evidence ∧
      stored.completedComponents = document.completedComponents := by
  unfold cancelsCurrent at meets
  split at meets
  · cases meets
  · next document written =>
    split at meets
    · next stored found =>
      rw [Bool.and_eq_true, decide_eq_true_eq] at meets
      rcases meets with ⟨going, evidence, completed⟩
      exact ⟨document, stored, written, found, by simpa using going, evidence, completed⟩
    · cases meets

/-- A cancellation in time keeps the records, and the copy of the worker is not behind. -/
theorem mark_keeps (current : Current state roles) {row : UpgradeRow} {now : Instant}
    (meets : cancelsCurrent state.table (row.cancelAt now) = true)
    (idle : other.task = .idle) :
    RecordsKept state { state with table := state.table.put (row.cancelAt now) } ∧
      Current { state with table := state.table.put (row.cancelAt now) }
        (Function.update roles index other) := by
  rcases cancelsCurrent_row meets with
    ⟨document, stored, written, found, going, evidence, completed⟩
  rw [written]
  constructor
  · apply recordsKept_put
    intro before known
    cases Option.some.inj (found.symm.trans known)
    refine ⟨document, rfl, ?_, evidence ▸ List.prefix_refl _, completed ▸ List.prefix_refl _⟩
    intro ended
    rw [going] at ended
    cases ended
  · apply Current.step
    · intro thread _ held version task known
      by_cases same : held.id = document.id
      · rw [same] at known
        have put : (state.table.put (.operation document)).find document.id =
            some (.operation document) := UpgradeTable.find_put_self _ _
        cases Option.some.inj (put.symm.trans known)
        have before := current thread held stored task (same ▸ found)
        exact ⟨evidence.symm.trans before.1, completed.symm.trans before.2⟩
      · exact current thread held version task
          ((UpgradeTable.find_put_of_ne same).symm.trans known)
    · intro held version task
      rw [idle] at task
      cases task

/-- The first operation of the list is stored as it was read. -/
theorem Kept.review_keeps (kept : Kept identifiers state roles) {operation : UpgradeOperation}
    {rest : List UpgradeOperation} (task : (roles index).task = .opening (operation :: rest))
    (now : Instant) :
    RecordsKept state (effect state (.updatePayload (operation.review now))) := by
  have mine := kept.each index
  rw [Role.Kept, task] at mine
  have written := mine.2.2 operation List.mem_cons_self
  refine recordsKept_update ?_
  intro id stored found
  unfold UpgradeRow.setPayload
  split
  · next same =>
    have named : id = operation.id := (UpgradeTable.find_id found).symm.trans same
    rw [named] at found
    cases Option.some.inj (written.1.symm.trans found)
    exact ⟨_, rfl, review_recordKept now written.2⟩
  · exact ⟨stored, rfl, RecordKept.refl stored⟩

theorem consume_keeps (state : ServiceState) (planId : String) :
    RecordsKept state (effect state (.consumePlan planId)) :=
  recordsKept_update (fun _ stored _ => ⟨stored, rfl, RecordKept.refl stored⟩)

/-- A move keeps the records, unless it writes a cancellation too late. -/
theorem moves_keep {request : ServiceRequest} {offer : Offer} {answer : ServiceAnswer request}
    (kept : Kept identifiers state roles) (current : Current state roles)
    (moved : Moves (roles index) request answer other)
    (replied : reply identifiers state offer request = answer)
    (inTime : ∀ operationId row, (roles index).call = some (.cancel operationId) →
      request = .put row → cancelsCurrent state.table row = true) :
    RecordsKept state (effect state request) ∧
      Current (effect state request) (Function.update roles index other) := by
  have same : (effect state request).table = state.table →
      (∀ held, other.task = .working held → (roles index).task = .working held) →
      RecordsKept state (effect state request) ∧
        Current (effect state request) (Function.update roles index other) := by
    intro table copy
    refine ⟨recordsKept_of_table table, current.stay ?_ copy⟩
    intro id stored found
    rw [← table]
    exact found
  have missing : ∀ {id}, (roles index).row = some id → ∀ {row : UpgradeRow}, row.id = id →
      state.table.find id = none →
      RecordsKept state { state with table := state.table.put row } := by
    rintro id _ row rfl none
    apply recordsKept_put
    intro stored found
    rw [none] at found
    cases found
  cases moved with
  | free answer unwritten => exact same (unwritten_table unwritten) (fun _ task => task)
  | acted answer task adapts => exact same (adapts_table adapts) (fun _ task => task)
  | interrupted call task =>
      refine ⟨recordsKept_update (fun _ stored _ => interrupt_recordKept stored),
        kept.current_opening task ?_⟩
      intro held working
      rw [task] at working
      cases working
  | reviewed now task =>
      exact ⟨kept.review_keeps task now, kept.current_opening task (fun _ => Task.noConfusion)⟩
  | @filed target row call task =>
      have mine := kept.each index
      rw [Role.Kept, task] at mine
      have owned : (roles index).row = some row.plan.id := by rw [Role.row, task]
      refine ⟨missing owned rfl mine.2.2, current.stay ?_ (fun _ => Task.noConfusion)⟩
      intro id stored found
      rcases find_added found with ⟨_, impossible⟩ | before
      · cases impossible
      · exact before
  | consumed planId call task =>
      exact ⟨consume_keeps state planId,
        current.stay (fun _ _ => operation_consume) (fun _ => Task.noConfusion)⟩
  | refused planId call task =>
      exact ⟨consume_keeps state planId,
        current.stay (fun _ _ => operation_consume) (fun _ task => task)⟩
  | @placed submitted identity confirmation operation call task =>
      have mine := kept.each index
      rw [Role.Kept, task] at mine
      have owned : (roles index).row = some operation.id := by rw [Role.row, task]
      exact ⟨missing owned rfl mine.2.2.1, current.put kept owned (fun _ => Task.noConfusion)⟩
  | marked now call task => exact mark_keeps current (inTime _ _ call rfl) rfl
  | @took operationId plan target stored call task =>
      refine ⟨recordsKept_of_table rfl, Current.step ?_ ?_⟩
      · exact fun thread _ held version working found => current thread held version working found
      · intro held version working found
        have read : state.table.find operationId = some (.operation stored) := replied
        have named : stored.id = operationId := UpgradeTable.find_id read
        cases working
        rw [← named] at read
        cases Option.some.inj (read.symm.trans found)
        exact ⟨rfl, rfl⟩
  | @saved held document task continues running =>
      have owned := (kept.works task).2.1
      rw [← continues.id] at owned
      refine ⟨kept.save_keeps current task continues, current.put kept owned ?_⟩
      intro copy working
      cases working
      rfl
  | @ended held document task continues terminal =>
      have owned := (kept.works task).2.1
      rw [← continues.id] at owned
      exact ⟨kept.save_keeps current task continues,
        current.put kept owned (fun _ => Task.noConfusion)⟩
  | read documentId row task => exact same rfl (fun _ task => task)
  | _ => exact same rfl (fun _ => Task.noConfusion)

theorem cancelsCurrent_of_undisturbed {pool : ServicePool} {offer : Offer} {operationId : String}
    {row : UpgradeRow} {next : Unit → ServiceProgram Outcome}
    (meets : Undisturbed pool (.advance index offer))
    (found : pool.threads[index]? = some ⟨.cancel operationId, .ask (.put row) next⟩) :
    cancelsCurrent pool.shared.table row = true := by
  unfold Undisturbed undisturbed at meets
  dsimp only at meets
  rw [found] at meets
  exact meets

/-! ## One action -/

/-- What an undisturbed action keeps. -/
theorem evolves_keep {pool next : ServicePool} {later : Nat → Role} {action : ServiceAction}
    {entries : ServiceLog} (meets : Undisturbed pool action)
    (annotated : (upgradeProtocol service identifiers).Annotated pool roles)
    (kept : Kept identifiers pool.shared roles) (current : Current pool.shared roles)
    (evolves : (upgradeProtocol service identifiers).Evolves pool roles action entries next
      later) : RecordsKept pool.shared next.shared ∧ Current next.shared later := by
  cases evolves with
  | @advanced index offer label request rest answer after found replied moved alone =>
      refine moves_keep kept current moved (Option.some.inj replied) ?_
      rintro operationId row call rfl
      have called : (roles index).call = none ∨ (roles index).call = some label :=
        annotated.called index _ found
      rw [call] at called
      rcases called with impossible | known
      · cases impossible
      · cases Option.some.inj known
        exact cancelsCurrent_of_undisturbed meets found
  | @spawned index offer label request rest answer after started found replied moved spawns =>
      rcases spawned_started spawns with ⟨operationId, plan, target, rfl, rfl⟩
      have idle := moves_keep kept current moved (Option.some.inj replied)
        (by intro operationId row call same; cases same)
      refine ⟨idle.1, Current.step (fun thread _ => idle.2 thread) ?_⟩
      intro held stored working
      cases working
  | @admitted call admits =>
      refine ⟨recordsKept_of_table rfl,
        Current.step (fun thread _ held stored => current thread held stored) ?_⟩
      intro held stored working
      have entered : (enter call).task = .working held := working
      rw [outside_idle (Bool.and_eq_true_iff.mp admits).1] at entered
      cases entered
  | restarted =>
      refine ⟨recordsKept_of_table rfl, Current.step ?_ ?_⟩
      · intro thread _ held stored working
        cases working
      · intro held stored working
        cases working

theorem plansKept_of_table (same : after.table = state.table) : PlansKept state after := by
  intro id row
  rw [same]

/-- An operation is written over an operation. -/
theorem plansKept_put {document stored : UpgradeOperation}
    (found : state.table.find document.id = some (.operation stored)) :
    PlansKept state { state with table := state.table.put (.operation document) } := by
  intro id plan
  change (state.table.put (.operation document)).find id = _ ↔ _
  by_cases same : id = document.id
  · have put : (state.table.put (.operation document)).find document.id =
        some (.operation document) := UpgradeTable.find_put_self _ _
    rw [same, found, put]
    simp
  · rw [UpgradeTable.find_put_of_ne same]

/-- A cancellation in time writes no plan. -/
theorem mark_keeps_plans {row : UpgradeRow} {now : Instant}
    (meets : cancelsCurrent state.table (row.cancelAt now) = true) :
    PlansKept state { state with table := state.table.put (row.cancelAt now) } := by
  rcases cancelsCurrent_row meets with ⟨document, stored, written, found, _⟩
  rw [written]
  exact plansKept_put found

theorem Kept.save_keeps_plans (kept : Kept identifiers state roles)
    {held document : UpgradeOperation} (task : (roles index).task = .working held)
    (continues : Continues held document) :
    PlansKept state { state with table := state.table.put (.operation document) } := by
  rcases (kept.works task).2.2.1 with ⟨stored, found, _⟩
  rw [← continues.id] at found
  exact plansKept_put found

/-- The constructor of the store rewrites operations only. -/
theorem Kept.review_keeps_plans (kept : Kept identifiers state roles)
    {operation : UpgradeOperation} {rest : List UpgradeOperation}
    (task : (roles index).task = .opening (operation :: rest)) (now : Instant) :
    PlansKept state (effect state (.updatePayload (operation.review now))) := by
  have mine := kept.each index
  rw [Role.Kept, task] at mine
  have written := (mine.2.2 operation List.mem_cons_self).1
  have rewritten : (effect state (.updatePayload (operation.review now))).table.find
      operation.id = some (.operation (operation.review now)) := by
    change (state.table.update _ (UpgradeRow.setPayload_id _)).find operation.id = _
    rw [UpgradeTable.find_update, written]
    exact congrArg some (if_pos rfl)
  intro id plan
  by_cases same : id = operation.id
  · rw [same, written, rewritten]
    simp
  · change (state.table.update _ (UpgradeRow.setPayload_id _)).find id = _ ↔ _
    rw [UpgradeTable.find_update]
    cases found : state.table.find id with
    | none => rfl
    | some row =>
        have different : ¬ row.id = (operation.review now).id := by
          rw [UpgradeTable.find_id found]
          exact same
        rw [Option.map_some, UpgradeRow.setPayload, if_neg different]

/-- The moves of a cancellation. -/
theorem cancel_plans {request : ServiceRequest} {answer : ServiceAnswer request}
    {operationId : String} (kept : Kept identifiers state roles)
    (call : ∀ known, (roles index).call = some known → known = .cancel operationId)
    (moved : Moves (roles index) request answer other)
    (inTime : ∀ row, request = .put row → cancelsCurrent state.table row = true) :
    PlansKept state (effect state request) := by
  cases moved with
  | free answer unwritten => exact plansKept_of_table (unwritten_table unwritten)
  | acted answer task adapts => exact plansKept_of_table (adapts_table adapts)
  | marked now _ task => exact mark_keeps_plans (inTime _ rfl)
  | reviewed now task => exact kept.review_keeps_plans task now
  | interrupted called task => cases call _ called
  | filed called task => cases call _ called
  | consumed planId called task => cases call _ called
  | refused planId called task => cases call _ called
  | placed called task => cases call _ called
  | saved task continues running => exact kept.save_keeps_plans task continues
  | ended task continues terminal => exact kept.save_keeps_plans task continues
  | _ => exact plansKept_of_table rfl

/-! ## Every run -/

theorem reachable_current {log : ServiceLog} {pool : ServicePool}
    (reached : (machine service identifiers).Reachable Undisturbed log pool) :
    ∃ roles, (upgradeProtocol service identifiers).Annotated pool roles ∧
      Kept identifiers pool.shared roles ∧ Current pool.shared roles := by
  refine reachable_with (fun _ pool roles => Current pool.shared roles) ?_ ?_ reached
  · refine Current.step ?_ ?_
    · intro thread _ held stored working
      cases working
    · intro held stored working
      cases working
  · intro log pool roles action entries next later meets annotated kept current evolves
    exact (evolves_keep meets annotated kept current evolves).2

theorem later_recordsKept {pool next : ServicePool}
    (later : (machine service identifiers).Later Undisturbed pool next) :
    RecordsKept pool.shared next.shared := by
  induction later with
  | refl => exact recordsKept_of_table rfl
  | tail _ becomes ih =>
      rcases becomes with ⟨log, action, reached, meets, acted⟩
      rcases reachable_current reached with ⟨roles, annotated, kept, current⟩
      rcases annotated.evolves acted with ⟨after, evolves, _⟩
      exact ih.trans (evolves_keep meets annotated kept current evolves).1

/-- An action of a cancellation is a move of its thread. -/
theorem cancelling_thread {pool : ServicePool} {action : ServiceAction}
    (cancels : cancelling pool action = true) : ∃ index offer operationId program,
      action = .advance index offer ∧
        pool.threads[index]? = some ⟨.cancel operationId, program⟩ := by
  cases action with
  | advance index offer =>
      unfold cancelling at cancels
      dsimp only at cancels
      split at cancels
      · next operationId program found => exact ⟨index, offer, operationId, program, rfl, found⟩
      · cases cancels
  | receive call => cases cancels
  | restart => cases cancels

theorem cancelling_plansKept {pool next : ServicePool} {later : Nat → Role}
    {action : ServiceAction} {entries : ServiceLog} (meets : Undisturbed pool action)
    (cancels : cancelling pool action = true)
    (annotated : (upgradeProtocol service identifiers).Annotated pool roles)
    (kept : Kept identifiers pool.shared roles)
    (evolves : (upgradeProtocol service identifiers).Evolves pool roles action entries next
      later) : PlansKept pool.shared next.shared := by
  rcases cancelling_thread cancels with ⟨index, offer, operationId, program, rfl, thread⟩
  have called : (roles index).call = none ∨ (roles index).call = some (.cancel operationId) :=
    annotated.called index _ thread
  have call : ∀ known, (roles index).call = some known → known = .cancel operationId := by
    intro known same
    rw [same] at called
    rcases called with impossible | same
    · cases impossible
    · exact Option.some.inj same
  cases evolves with
  | advanced found replied moved alone =>
      cases Option.some.inj (found.symm.trans thread)
      refine cancel_plans kept call moved ?_
      rintro row rfl
      exact cancelsCurrent_of_undisturbed meets found
  | spawned found replied moved spawns =>
      cases Option.some.inj (found.symm.trans thread)
      refine cancel_plans kept call moved ?_
      rintro row rfl
      cases spawns

/-- Records survive, and cancellations leave the plans alone, in all runs of a kind. -/
structure Survive (service : ProfileUpgradeService) (identifiers : Identifiers)
    (allowed : ServicePool → ServiceAction → Prop) : Prop where
  records : ∀ pool next, (machine service identifiers).Later allowed pool next →
    RecordsKept pool.shared next.shared
  plans : ∀ log pool action next, (machine service identifiers).Reachable allowed log pool →
    allowed pool action → cancelling pool action = true →
    (machine service identifiers).act pool action = some next →
    PlansKept pool.shared next.shared

/-- In every run in which no cancellation is written over a plan, over a row that has ended,
or over other records than it read. -/
theorem records_survive (service : ProfileUpgradeService) (identifiers : Identifiers) :
    Survive service identifiers Undisturbed where
  records pool next later := later_recordsKept later
  plans log pool action next reached meets cancels acted := by
    rcases reachable_current reached with ⟨roles, annotated, kept, _⟩
    rcases annotated.evolves acted with ⟨after, evolves, _⟩
    exact cancelling_plansKept meets cancels annotated kept evolves

/-! ## Lost records -/

/-- A cancellation is written while the worker upgrades its component: the worker ends with
all its records. -/
theorem records_survive_cancelled : ∃ pool next stored version,
    (machine exampleService countingIdentifiers).Later Undisturbed pool next ∧
      pool.shared.table.find "upgrade-a" = some (.operation stored) ∧
      stored.state = .cancelling ∧ next.shared.table.find "upgrade-a" = some (.operation version) ∧
      version.state.terminal = true ∧ RecordKept stored version := by
  have played : (playExample undisturbed (submitScript ++ goOn 3 16 ++
      arrive (.cancel "upgrade-a") ++ goOn 4 6)).any (fun pool =>
      decide (storedState pool "upgrade-a" = some (.cancelling, 1)) &&
      ((machine exampleService countingIdentifiers).play undisturbed pool (goOn 3 8)).any
        (fun next => storedState next "upgrade-a" = some (.succeeded, 2))) = true := by
    decide +kernel
  rcases (Option.any_eq_true _ _).mp played with ⟨pool, run, holds⟩
  rcases Bool.and_eq_true_iff.mp holds with ⟨before, onward⟩
  rcases (Option.any_eq_true _ _).mp onward with ⟨next, moved, after⟩
  rcases reachable_playExample (fun _ _ permitted => permitted) run with ⟨log, reached⟩
  have later : (machine exampleService countingIdentifiers).Later Undisturbed pool next :=
    Machine.later_play (fun _ _ permitted => permitted) (goOn 3 8) reached moved
  rcases storedState_some (of_decide_eq_true before) with ⟨stored, found, cancelled, _⟩
  rcases storedState_some (of_decide_eq_true after) with ⟨last, known, ended, _⟩
  rcases (records_survive exampleService countingIdentifiers).records pool next later
    "upgrade-a" stored found with ⟨version, same, kept⟩
  cases Option.some.inj (known.symm.trans same)
  exact ⟨pool, next, stored, last, later, found, cancelled, known, by rw [ended]; rfl, kept⟩

/-- A cancellation reads the row before the worker's last write, and writes it after. -/
theorem ended_upgrade_revived :
    ¬ ∀ (service : ProfileUpgradeService) (identifiers : Identifiers),
      Survive service identifiers (fun _ _ => True) := by
  intro survives
  have played : (playExample (fun _ _ => true) (submitScript ++ goOn 3 23 ++
      arrive (.cancel "upgrade-a") ++ goOn 4 2 ++ goOn 3 1)).any (fun pool =>
      decide (storedState pool "upgrade-a" = some (.succeeded, 2)) &&
      ((machine exampleService countingIdentifiers).play (fun _ _ => true) pool
        (goOn 4 4)).any
        (fun next => storedState next "upgrade-a" = some (.cancelling, 2))) = true := by
    decide +kernel
  rcases (Option.any_eq_true _ _).mp played with ⟨pool, run, holds⟩
  rcases Bool.and_eq_true_iff.mp holds with ⟨before, onward⟩
  rcases (Option.any_eq_true _ _).mp onward with ⟨next, moved, after⟩
  rcases reachable_playExample (fun _ _ _ => trivial) run with ⟨log, reached⟩
  have later : (machine exampleService countingIdentifiers).Later (fun _ _ => True) pool next :=
    Machine.later_play (fun _ _ _ => trivial) (goOn 4 4) reached moved
  rcases storedState_some (of_decide_eq_true before) with ⟨stored, found, ended, _⟩
  rcases storedState_some (of_decide_eq_true after) with ⟨revived, known, cancelling, _⟩
  rcases (survives exampleService countingIdentifiers).records pool next later "upgrade-a" stored
    found with ⟨version, same, kept⟩
  have terminal := kept.terminal (by rw [ended]; rfl)
  cases Option.some.inj (known.symm.trans same)
  rw [cancelling] at terminal
  cases terminal

end FortifyLab.Upgrade.Roles
