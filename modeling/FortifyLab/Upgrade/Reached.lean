import FortifyLab.Upgrade.Kept

/-! Every move of the upgrade service keeps the invariant, and so does every run. -/

namespace FortifyLab.Upgrade.Roles

open Program Registry Authorization

variable {identifiers : Identifiers} {state after : ServiceState} {roles : Nat → Role}
  {role other : Role} {index : Nat}

/-! ## Rows that stay -/

/-- The rows are those of before, and like them. -/
structure Carried (state after : ServiceState) : Prop where
  drawn : state.drawn ≤ after.drawn
  forth : ∀ id row, state.table.find id = some row →
    ∃ later, after.table.find id = some later ∧ row.Like later
  back : ∀ id later, after.table.find id = some later →
    ∃ row, state.table.find id = some row ∧ row.Like later

theorem Carried.same (drawn : state.drawn ≤ after.drawn) (same : after.table = state.table) :
    Carried state after where
  drawn := drawn
  forth id row found := ⟨row, by rw [same]; exact found, UpgradeRow.Like.refl row⟩
  back id later found := ⟨later, by rw [← same]; exact found, UpgradeRow.Like.refl later⟩

theorem Carried.update (change : UpgradeRow → UpgradeRow)
    (keeps : ∀ row, (change row).id = row.id)
    (like : ∀ id row, state.table.find id = some row → row.Like (change row)) :
    Carried state { state with table := state.table.update change keeps } where
  drawn := le_rfl
  forth id row found := by
    refine ⟨change row, ?_, like id row found⟩
    rw [UpgradeTable.find_update, found]
    rfl
  back id later found := by
    rw [UpgradeTable.find_update, Option.map_eq_some_iff] at found
    rcases found with ⟨row, known, rfl⟩
    exact ⟨row, known, like id row known⟩

/-- A row is written over by one like it. -/
theorem Carried.put {row stored : UpgradeRow} (found : state.table.find row.id = some stored)
    (like : stored.Like row) :
    Carried state { state with table := state.table.put row } where
  drawn := le_rfl
  forth id old known := by
    by_cases same : id = row.id
    · subst same
      cases Option.some.inj (found.symm.trans known)
      exact ⟨row, UpgradeTable.find_put_self _ _, like⟩
    · exact ⟨old, (UpgradeTable.find_put_of_ne same).trans known, UpgradeRow.Like.refl old⟩
  back id later known := by
    by_cases same : id = row.id
    · subst same
      have written : (state.table.put row).find row.id = some row :=
        UpgradeTable.find_put_self _ _
      cases Option.some.inj (written.symm.trans known)
      exact ⟨stored, found, like⟩
    · exact ⟨later, (UpgradeTable.find_put_of_ne same).symm.trans known,
        UpgradeRow.Like.refl later⟩

theorem Carried.grows (carried : Carried state after) (serving : after.serving = state.serving) :
    Grows state after :=
  ⟨serving, carried.drawn, carried.forth⟩

/-- The operations are those of before, with their plans. -/
theorem Carried.operation (carried : Carried state after) {id : String}
    {later : UpgradeOperation} (found : after.table.find id = some (.operation later)) :
    ∃ stored, state.table.find id = some (.operation stored) ∧ stored.planId = later.planId := by
  rcases carried.back id _ found with ⟨row, known, like⟩
  cases row with
  | plan stored =>
      rcases like.plan with ⟨version, impossible⟩
      cases impossible
  | operation stored =>
      rcases like.operation with ⟨version, same, planId⟩
      cases same
      exact ⟨stored, known, planId.symm⟩

theorem Carried.unexecuted (carried : Carried state after) {planId : String}
    (before : state.Unexecuted planId) : after.Unexecuted planId := by
  intro id later found
  rcases carried.operation found with ⟨stored, known, same⟩
  exact same ▸ before id stored known

theorem Carried.missing (carried : Carried state after) {id : String}
    (before : state.table.find id = none) : after.table.find id = none := by
  cases found : after.table.find id with
  | none => rfl
  | some later =>
      rcases carried.back id later found with ⟨row, known, _⟩
      rw [before] at known
      cases known

theorem StoreKept.carried (store : StoreKept identifiers state) (carried : Carried state after) :
    StoreKept identifiers after where
  known id later found := by
    rcases carried.back id later found with ⟨row, known, _⟩
    exact Known.mono (store.known id row known) carried.drawn
  spent id later found := by
    rcases carried.operation found with ⟨stored, known, same⟩
    exact same ▸ spent_of_rows carried.forth (store.spent id stored known)
  single left right first second leftFound rightFound same := by
    rcases carried.operation leftFound with ⟨early, earlyFound, earlySame⟩
    rcases carried.operation rightFound with ⟨late, lateFound, lateSame⟩
    refine store.single left right early late earlyFound lateFound ?_
    rw [earlySame, lateSame, same]

theorem Role.Kept.carried (kept : role.Kept identifiers state) (serving : state.serving = true)
    (carried : Carried state after) (serves : after.serving = state.serving)
    (active : ∀ id, role.row = some id → state.Active id → after.Active id) :
    role.Kept identifiers after :=
  kept.grow serving (carried.grows serves) active (fun _ _ => carried.missing)
    (fun _ _ => carried.unexecuted)

/-! ## Rows that are added -/

theorem grows_added {row : UpgradeRow} (missing : state.table.find row.id = none) :
    Grows state { state with table := state.table.put row } where
  serving := rfl
  drawn := le_rfl
  rows id old found := by
    have different : id ≠ row.id := by
      rintro rfl
      rw [missing] at found
      cases found
    exact ⟨old, (UpgradeTable.find_put_of_ne different).trans found, UpgradeRow.Like.refl old⟩

/-- What is found after a row was added. -/
theorem find_added {row later : UpgradeRow} {id : String}
    (found : (state.table.put row).find id = some later) :
    id = row.id ∧ later = row ∨ state.table.find id = some later := by
  by_cases same : id = row.id
  · subst same
    have written : (state.table.put row).find row.id = some row :=
      UpgradeTable.find_put_self _ _
    exact .inl ⟨rfl, (Option.some.inj (written.symm.trans found)).symm⟩
  · exact .inr ((UpgradeTable.find_put_of_ne same).symm.trans found)

/-- A row is added, which is the first operation of its plan if it is one. -/
theorem StoreKept.added (store : StoreKept identifiers state) {row : UpgradeRow}
    (missing : state.table.find row.id = none) (known : state.Known identifiers row.id)
    (first : ∀ operation, row = .operation operation →
      state.Spent operation.planId ∧ state.Unexecuted operation.planId) :
    StoreKept identifiers { state with table := state.table.put row } where
  known id later found := by
    rcases find_added found with ⟨rfl, _⟩ | before
    · exact known
    · exact store.known id later before
  spent id stored found := by
    have grows := grows_added missing
    rcases find_added found with ⟨_, same⟩ | before
    · exact grows.spent (first stored same.symm).1
    · exact grows.spent (store.spent id stored before)
  single left right one two leftFound rightFound same := by
    rcases find_added leftFound with ⟨rfl, leftSame⟩ | leftBefore
    · rcases find_added rightFound with ⟨rfl, _⟩ | rightBefore
      · rfl
      · exact absurd same.symm ((first one leftSame.symm).2 right two rightBefore)
    · rcases find_added rightFound with ⟨rfl, rightSame⟩ | rightBefore
      · exact absurd same ((first two rightSame.symm).2 left one leftBefore)
      · exact store.single left right one two leftBefore rightBefore same

/-- The thread owns neither the row nor its plan. -/
theorem Role.Kept.added (kept : role.Kept identifiers state) (serving : state.serving = true)
    {row : UpgradeRow} (missing : state.table.find row.id = none)
    (apart : role.row ≠ some row.id)
    (foreign : ∀ operation, row = .operation operation → role.plan ≠ some operation.planId) :
    role.Kept identifiers { state with table := state.table.put row } := by
  have different : ∀ id, role.row = some id → id ≠ row.id := by
    rintro id owned rfl
    exact apart owned
  refine kept.grow serving (grows_added missing) ?_ ?_ ?_
  · rintro id owned ⟨stored, found, active⟩
    exact ⟨stored, (UpgradeTable.find_put_of_ne (different id owned)).trans found, active⟩
  · intro id owned before
    exact (UpgradeTable.find_put_of_ne (different id owned)).trans before
  · intro planId owned before id stored found same
    rcases find_added found with ⟨_, new⟩ | old
    · exact foreign stored new.symm (same ▸ owned)
    · exact before id stored old same

/-! ## One move -/

/-- The invariant after a move: the store, the other threads, the thread itself. -/
theorem Kept.step (kept : Kept identifiers state roles) (store : StoreKept identifiers after)
    (called : other.call = (roles index).call) (serving : after.serving = state.serving)
    (others : ∀ thread, thread ≠ index → (roles thread).Kept identifiers after)
    (mine : other.Kept identifiers after)
    (row : ∀ id, other.row = some id → ∀ thread, (roles thread).row = some id → thread = index)
    (plan : ∀ id, other.plan = some id → ∀ thread, (roles thread).plan = some id →
      thread = index)
    (opening : ∀ reviews, other.task = .opening reviews →
      ∃ before, (roles index).task = .opening before) :
    Kept identifiers after (Function.update roles index other) where
  toStoreKept := store
  each thread := by
    by_cases same : thread = index
    · rw [same, Function.update_self]
      exact mine
    · rw [Function.update_of_ne same]
      exact others thread same
  arrived thread call known outside := by
    rw [serving]
    by_cases same : thread = index
    · rw [same, Function.update_self, called] at known
      exact kept.arrived index call known outside
    · rw [Function.update_of_ne same] at known
      exact kept.arrived thread call known outside
  rows := kept.rows.update row
  plans := kept.plans.update plan
  alone left right first second early late := by
    have elsewhere : ∀ thread reviews,
        (Function.update roles index other thread).task = .opening reviews →
        ∃ before, (roles thread).task = .opening before := by
      intro thread reviews known
      by_cases same : thread = index
      · rw [same, Function.update_self] at known
        exact same ▸ opening reviews known
      · rw [Function.update_of_ne same] at known
        exact ⟨reviews, known⟩
    rcases elsewhere left first early with ⟨before, one⟩
    rcases elsewhere right second late with ⟨after, two⟩
    exact kept.alone left right before after one two

/-- A move that changes nothing in the store, and takes no item. -/
theorem Kept.stay (kept : Kept identifiers state roles)
    (called : other.call = (roles index).call) (mine : other.Kept identifiers state)
    (row : ∀ id, other.row = some id → (roles index).row = some id)
    (plan : ∀ id, other.plan = some id → (roles index).plan = some id)
    (opening : ∀ reviews, other.task = .opening reviews →
      ∃ before, (roles index).task = .opening before) :
    Kept identifiers state (Function.update roles index other) :=
  kept.step kept.toStoreKept called rfl (fun thread _ => kept.each thread) mine
    (fun id owned thread also => kept.rows thread index id also (row id owned))
    (fun id owned thread also => kept.plans thread index id also (plan id owned)) opening

theorem idle_row (task : role.task = .idle) : role.row = none := by
  rw [Role.row, task]

theorem idle_plan (task : role.task = .idle) : role.plan = none := by
  rw [Role.plan, task]

theorem idle_kept (task : role.task = .idle) : role.Kept identifiers state := by
  rw [Role.Kept, task]
  trivial

/-- A thread ends, or has nothing of its own any more. -/
theorem Kept.idle (kept : Kept identifiers state roles) :
    Kept identifiers state (Function.update roles index ((roles index).does .idle)) := by
  refine kept.stay rfl (idle_kept rfl) ?_ ?_ (fun _ => Task.noConfusion)
  · intro id owned
    rw [idle_row rfl] at owned
    cases owned
  · intro id owned
    rw [idle_plan rfl] at owned
    cases owned

/-- The thread writes, and has nothing of its own any more. -/
theorem Kept.put_idle (kept : Kept identifiers state roles)
    (store : StoreKept identifiers after) (serving : after.serving = state.serving)
    (others : ∀ thread, thread ≠ index → (roles thread).Kept identifiers after) :
    Kept identifiers after (Function.update roles index ((roles index).does .idle)) := by
  refine kept.step store rfl serving others (idle_kept rfl) ?_ ?_ (fun _ => Task.noConfusion)
  · intro id owned
    rw [idle_row rfl] at owned
    cases owned
  · intro id owned
    rw [idle_plan rfl] at owned
    cases owned

/-- What only adds to the set of cancelled operations. -/
theorem Kept.noted (kept : Kept identifiers state roles) (cancelled : List String) :
    Kept identifiers { state with cancelled } roles where
  known := kept.known
  spent := kept.spent
  single := kept.single
  each := kept.each
  arrived := kept.arrived
  rows := kept.rows
  plans := kept.plans
  alone := kept.alone

/-- A request that writes no row. -/
theorem Kept.unwritten (kept : Kept identifiers state roles) {request : ServiceRequest}
    (unwritten : Unwritten request = true) : Kept identifiers (effect state request) roles := by
  cases request with
  | addCancelled operationId => exact kept.noted _
  | survey | now | monotonic | statement | isCancelled | rollbackCallable | verifyLayer =>
      exact kept
  | _ => cases unwritten

theorem Kept.adapts (kept : Kept identifiers state roles) {request : ServiceRequest}
    (adapts : Adapts request = true) : Kept identifiers (effect state request) roles := by
  cases request with
  | upgrade | rollback => exact kept
  | _ => cases adapts

theorem unwritten_table {request : ServiceRequest} (unwritten : Unwritten request = true) :
    (effect state request).table = state.table := by
  cases request with
  | survey | now | monotonic | statement | addCancelled | isCancelled | rollbackCallable
  | verifyLayer => rfl
  | _ => cases unwritten

theorem adapts_table {request : ServiceRequest} (adapts : Adapts request = true) :
    (effect state request).table = state.table := by
  cases request with
  | upgrade | rollback => rfl
  | _ => cases adapts

/-! ### Opening the store -/

/-- While a thread opens the store, it is alone. -/
theorem Kept.others_idle (kept : Kept identifiers state roles)
    {reviews : List UpgradeOperation} (task : (roles index).task = .opening reviews)
    {thread : Nat} (different : thread ≠ index) : (roles thread).task = .idle := by
  have mine := kept.each index
  rw [Role.Kept, task] at mine
  rcases (kept.each thread).closed mine.1 with idle | ⟨also, opening⟩
  · exact idle
  · exact absurd (kept.alone thread index also reviews opening task) different

/-- The thread that opens the store writes rows, alike, or goes on. -/
theorem Kept.opening (kept : Kept identifiers state roles)
    {reviews rest : List UpgradeOperation} (task : (roles index).task = .opening reviews)
    (carried : Carried state after) (serving : after.serving = state.serving)
    (mine : ((roles index).does (.opening rest)).Kept identifiers after) :
    Kept identifiers after
      (Function.update roles index ((roles index).does (.opening rest))) := by
  refine kept.step (kept.toStoreKept.carried carried) rfl serving ?_ mine ?_ ?_ ?_
  · intro thread different
    exact idle_kept (kept.others_idle task different)
  · intro id owned
    cases owned
  · intro id owned
    cases owned
  · exact fun _ _ => ⟨reviews, task⟩

theorem Carried.interrupt (state : ServiceState) :
    Carried state (effect state .interruptActive) :=
  Carried.update _ _ (fun _ row _ => ⟨UpgradeRow.interrupt_origin row, UpgradeRow.interrupt_spent⟩)

theorem Kept.interrupted (kept : Kept identifiers state roles)
    (task : (roles index).task = .opening []) :
    Kept identifiers (effect state .interruptActive)
      (Function.update roles index (roles index)) := by
  have same : (roles index).does (.opening []) = roles index := by
    unfold Role.does
    rw [← task]
  have mine := kept.each index
  rw [Role.Kept, task] at mine
  rw [← same]
  refine kept.opening task (Carried.interrupt state) rfl ⟨mine.1, List.nodup_nil, ?_⟩
  intro operation member
  cases member

theorem Kept.selected (kept : Kept identifiers state roles)
    (task : (roles index).task = .opening []) :
    Kept identifiers state (Function.update roles index
      ((roles index).does (.opening state.table.interrupted))) := by
  have mine := kept.each index
  rw [Role.Kept, task] at mine
  refine kept.opening task (Carried.same le_rfl rfl) rfl
    ⟨mine.1, interrupted_distinct state.table, ?_⟩
  intro operation member
  rcases mem_interrupted.mp member with ⟨stored, interrupted⟩
  exact ⟨find_of_mem stored, interrupted⟩

/-- The operation that is written again is stored as it was read. -/
theorem Kept.carried_review (kept : Kept identifiers state roles) {operation : UpgradeOperation}
    {rest : List UpgradeOperation} (task : (roles index).task = .opening (operation :: rest))
    (now : Instant) : Carried state (effect state (.updatePayload (operation.review now))) := by
  have mine := kept.each index
  rw [Role.Kept, task] at mine
  have written := (mine.2.2 operation List.mem_cons_self).1
  refine Carried.update _ _ ?_
  intro id row found
  unfold UpgradeRow.setPayload
  split
  · next same =>
    have named : id = operation.id := (UpgradeTable.find_id found).symm.trans same
    rw [named] at found
    cases Option.some.inj (written.symm.trans found)
    exact ⟨rfl, fun spent => by cases spent⟩
  · exact UpgradeRow.Like.refl row

/-- The first operation of the list is written again. -/
theorem Kept.reviewed (kept : Kept identifiers state roles) {operation : UpgradeOperation}
    {rest : List UpgradeOperation} (task : (roles index).task = .opening (operation :: rest))
    (now : Instant) :
    Kept identifiers (effect state (.updatePayload (operation.review now)))
      (Function.update roles index ((roles index).does (.opening rest))) := by
  have mine := kept.each index
  rw [Role.Kept, task] at mine
  rcases mine with ⟨closed, distinct, stored⟩
  rw [List.map_cons, List.nodup_cons] at distinct
  refine kept.opening task (kept.carried_review task now) rfl ⟨closed, distinct.2, ?_⟩
  intro later member
  have before := stored later (List.mem_cons_of_mem _ member)
  refine ⟨?_, before.2⟩
  have different : ¬ later.id = operation.id := by
    intro same
    exact distinct.1 (same ▸ List.mem_map_of_mem member)
  change (state.table.update _ (UpgradeRow.setPayload_id _)).find later.id = _
  rw [UpgradeTable.find_update, before.1]
  exact congrArg some (if_neg different)

/-- The service is there, and the thread that opened the store has ended. -/
theorem Kept.served (kept : Kept identifiers state roles)
    {reviews : List UpgradeOperation} (task : (roles index).task = .opening reviews) :
    Kept identifiers { state with serving := true }
      (Function.update roles index ((roles index).does .idle)) := by
  have everyone : ∀ thread,
      (Function.update roles index ((roles index).does .idle) thread).task = .idle := by
    intro thread
    by_cases same : thread = index
    · rw [same, Function.update_self]
      rfl
    · rw [Function.update_of_ne same]
      exact kept.others_idle task same
  have store : StoreKept identifiers { state with serving := true } :=
    kept.toStoreKept.carried (Carried.same le_rfl rfl)
  refine
    { toStoreKept := store, each := fun thread => idle_kept (everyone thread),
      arrived := fun _ _ _ _ => rfl, rows := ?_, plans := ?_, alone := ?_ }
  · exact apart_none (fun thread => idle_row (everyone thread))
  · exact apart_none (fun thread => idle_plan (everyone thread))
  · intro left right first second opening
    rw [everyone left] at opening
    cases opening

/-! ### Identifiers -/

theorem Carried.draw (state : ServiceState) :
    Carried state { state with drawn := state.drawn + 1 } :=
  Carried.same (Nat.le_succ _) rfl

/-- Nobody has the row of an identifier that was never drawn. -/
theorem Kept.unowned (kept : Kept identifiers state roles) {id : String}
    (unknown : ¬ state.Known identifiers id) (thread : Nat) : (roles thread).row ≠ some id :=
  fun owned => unknown ((kept.each thread).known kept.toStoreKept owned)

/-- A thread draws an identifier that was not known. -/
theorem Kept.draw (kept : Kept identifiers state roles) (serving : state.serving = true)
    {task : Task} {id : String} (unknown : ¬ state.Known identifiers id)
    (mine : ((roles index).does task).Kept identifiers
      { state with drawn := state.drawn + 1 })
    (row : ((roles index).does task).row = some id)
    (plan : ∀ planId, ((roles index).does task).plan = some planId →
      (roles index).plan = some planId)
    (opening : ∀ reviews, task ≠ .opening reviews) :
    Kept identifiers { state with drawn := state.drawn + 1 }
      (Function.update roles index ((roles index).does task)) := by
  refine kept.step (kept.toStoreKept.carried (Carried.draw state)) rfl rfl ?_ mine ?_ ?_ ?_
  · intro thread _
    exact (kept.each thread).carried serving (Carried.draw state) rfl (fun _ _ active => active)
  · intro other owned thread also
    rw [row] at owned
    cases owned
    exact absurd also (kept.unowned unknown thread)
  · intro planId owned thread also
    exact kept.plans thread index planId also (plan planId owned)
  · exact fun reviews known => absurd known (opening reviews)

theorem Kept.named (kept : Kept identifiers state roles) (serving : state.serving = true) :
    Kept identifiers { state with drawn := state.drawn + 1 } (Function.update roles index
      ((roles index).does (.filing ("upgrade-plan-" ++ identifiers.uuid state.drawn)))) := by
  have unknown := plan_unknown identifiers state
  refine kept.draw serving unknown ?_ rfl ?_ (fun _ => Task.noConfusion)
  · exact ⟨serving, ⟨state.drawn, Nat.lt_succ_self _, .inl rfl⟩, kept.missing unknown⟩
  · intro planId owned
    cases owned

theorem Kept.drew (kept : Kept identifiers state roles) {planId : String}
    {operation : UpgradeOperation} (task : (roles index).task = .consumed planId)
    (fresh : Fresh (identifiers.uuid state.drawn) planId operation) :
    Kept identifiers { state with drawn := state.drawn + 1 }
      (Function.update roles index ((roles index).does (.placing operation))) := by
  have mine := kept.each index
  rw [Role.Kept, task] at mine
  rcases mine with ⟨serving, spent, unexecuted⟩
  have unknown : ¬ state.Known identifiers operation.id :=
    fresh.id ▸ operation_unknown identifiers state
  refine kept.draw serving unknown ?_ rfl ?_ (fun _ => Task.noConfusion)
  · refine ⟨serving, ⟨state.drawn, Nat.lt_succ_self _, .inr fresh.id⟩, kept.missing unknown,
      fresh.queued, ?_, ?_⟩
    · rw [fresh.planId]
      exact spent
    · rw [fresh.planId]
      exact unexecuted
  · intro other owned
    have same : operation.planId = other := Option.some.inj owned
    rw [Role.plan, task, ← same, fresh.planId]

/-! ### New rows -/

theorem Kept.foreign (kept : Kept identifiers state roles) {id : String}
    (owned : (roles index).row = some id) {thread : Nat} (different : thread ≠ index) :
    (roles thread).row ≠ some id :=
  fun also => different (kept.rows thread index id also owned)

theorem Kept.filed (kept : Kept identifiers state roles) {row : PlanRow}
    (task : (roles index).task = .filing row.plan.id) :
    Kept identifiers { state with table := state.table.put (.plan row) }
      (Function.update roles index ((roles index).does .idle)) := by
  have mine := kept.each index
  rw [Role.Kept, task] at mine
  rcases mine with ⟨serving, known, missing⟩
  have owned : (roles index).row = some row.plan.id := by rw [Role.row, task]
  have store : StoreKept identifiers { state with table := state.table.put (.plan row) } :=
    kept.toStoreKept.added missing known (fun _ same => by cases same)
  refine kept.put_idle store rfl ?_
  intro thread different
  refine (kept.each thread).added serving missing (kept.foreign owned different) ?_
  intro operation same
  cases same

theorem Kept.placed (kept : Kept identifiers state roles) {operation : UpgradeOperation}
    (task : (roles index).task = .placing operation) :
    Kept identifiers { state with table := state.table.put (.operation operation) }
      (Function.update roles index ((roles index).does (.starting operation.id))) := by
  have mine := kept.each index
  rw [Role.Kept, task] at mine
  rcases mine with ⟨serving, known, missing, queued, spent, unexecuted⟩
  have owned : (roles index).row = some operation.id := by rw [Role.row, task]
  have planned : (roles index).plan = some operation.planId := by rw [Role.plan, task]
  have store :
      StoreKept identifiers { state with table := state.table.put (.operation operation) } := by
    refine kept.toStoreKept.added missing known ?_
    intro other same
    cases same
    exact ⟨spent, unexecuted⟩
  refine kept.step store rfl rfl ?_ ?_ ?_ ?_ (fun _ => Task.noConfusion)
  · intro thread different
    refine (kept.each thread).added serving missing (kept.foreign owned different) ?_
    intro other same also
    cases same
    exact different (kept.plans thread index _ also planned)
  · refine ⟨serving, operation, UpgradeTable.find_put_self _ _, ?_⟩
    rw [queued]
    rfl
  · intro id starting thread also
    cases starting
    exact kept.rows thread index _ also owned
  · intro planId starting
    cases starting

/-! ### The plan is consumed -/

theorem Carried.consume (state : ServiceState) (planId : String) :
    Carried state (effect state (.consumePlan planId)) :=
  Carried.update _ _ (fun _ row _ =>
    ⟨UpgradeRow.consume_origin planId row, UpgradeRow.consume_spent⟩)

theorem find_consume (state : ServiceState) (planId id : String) :
    (effect state (.consumePlan planId)).table.find id =
      (state.table.find id).map (UpgradeRow.consume planId) :=
  UpgradeTable.find_update _ _ (UpgradeRow.consume_id planId) id

theorem active_consume {id planId : String} (active : state.Active id) :
    (effect state (.consumePlan planId)).Active id := by
  rcases active with ⟨stored, found, active⟩
  refine ⟨stored, ?_, active⟩
  rw [find_consume, found]
  rfl

theorem operation_consume {planId id : String} {stored : UpgradeOperation}
    (found : (effect state (.consumePlan planId)).table.find id = some (.operation stored)) :
    state.table.find id = some (.operation stored) := by
  rw [find_consume, Option.map_eq_some_iff] at found
  rcases found with ⟨row, known, same⟩
  cases row with
  | plan row => cases same
  | operation operation =>
      cases same
      exact known

/-- The plan that `consume_plan` finds unconsumed. -/
theorem consumable_row {planId : String} (consumable : state.table.consumable planId = true) :
    ∃ row, state.table.find planId = some (.plan row) ∧ row.state = none := by
  unfold UpgradeTable.consumable at consumable
  split at consumable
  · next row found => exact ⟨row, found, Option.isNone_iff_eq_none.mp consumable⟩
  · cases consumable

theorem unspent_of_consumable {planId : String}
    (consumable : state.table.consumable planId = true) : ¬ state.Spent planId := by
  rintro ⟨row, found, consumed⟩
  rcases consumable_row consumable with ⟨stored, known, none⟩
  cases Option.some.inj (known.symm.trans found)
  rw [none] at consumed
  cases consumed

theorem spent_consume {planId : String} (consumable : state.table.consumable planId = true) :
    (effect state (.consumePlan planId)).Spent planId := by
  rcases consumable_row consumable with ⟨row, found, none⟩
  have named : row.plan.id = planId := UpgradeTable.find_id found
  refine ⟨{ row with state := some .consumed }, ?_, rfl⟩
  rw [find_consume, found]
  exact congrArg (fun row => some (UpgradeRow.plan row)) (if_pos ⟨named, none⟩)

theorem Kept.consumed (kept : Kept identifiers state roles) (serving : state.serving = true)
    {planId : String} (consumable : state.table.consumable planId = true) :
    Kept identifiers (effect state (.consumePlan planId))
      (Function.update roles index ((roles index).does (.consumed planId))) := by
  have carried := Carried.consume state planId
  have unspent := unspent_of_consumable consumable
  refine kept.step (kept.toStoreKept.carried carried) rfl rfl ?_ ?_ ?_ ?_
    (fun _ => Task.noConfusion)
  · intro thread _
    exact (kept.each thread).carried serving carried rfl (fun _ _ => active_consume)
  · refine ⟨serving, spent_consume consumable, carried.unexecuted ?_⟩
    rintro id stored found rfl
    exact unspent (kept.spent id stored found)
  · intro id owned
    cases owned
  · intro other owned thread also
    cases owned
    exact absurd ((kept.each thread).consumed also).1 unspent

theorem Kept.refused (kept : Kept identifiers state roles) (planId : String)
    (serving : state.serving = true) (task : (roles index).task = .idle) :
    Kept identifiers (effect state (.consumePlan planId))
      (Function.update roles index (roles index)) := by
  have carried := Carried.consume state planId
  refine kept.step (kept.toStoreKept.carried carried) rfl rfl ?_ (idle_kept task) ?_ ?_ ?_
  · intro thread _
    exact (kept.each thread).carried serving carried rfl (fun _ _ => active_consume)
  · intro id owned
    rw [idle_row task] at owned
    cases owned
  · intro id owned
    rw [idle_plan task] at owned
    cases owned
  · intro reviews opening
    rw [task] at opening
    cases opening

/-! ### Stored rows -/

theorem cancelAt_active {row : UpgradeRow} {stored : UpgradeOperation} (now : Instant)
    (origin : stored.planId ∈ row.origin) :
    ∃ version, row.cancelAt now = .operation version ∧ version.state.terminal = false := by
  cases row with
  | plan row => cases origin
  | operation operation => exact ⟨_, rfl, rfl⟩

/-- An active document is written over a stored row. -/
theorem active_put {row : UpgradeRow} {id : String} (active : state.Active id)
    (own : id = row.id → ∃ version, row = .operation version ∧ version.state.terminal = false) :
    ServiceState.Active { state with table := state.table.put row } id := by
  by_cases same : id = row.id
  · rcases own same with ⟨version, rfl, running⟩
    exact ⟨version, same ▸ UpgradeTable.find_put_self _ _, running⟩
  · rcases active with ⟨stored, found, running⟩
    exact ⟨stored, (UpgradeTable.find_put_of_ne same).trans found, running⟩

/-- A cancellation is written over the row, or over what became of it. -/
theorem Kept.carried_mark (kept : Kept identifiers state roles) {row : UpgradeRow}
    (task : (roles index).task = .marking row) (now : Instant) :
    Carried state { state with table := state.table.put (row.cancelAt now) } := by
  have mine := kept.each index
  rw [Role.Kept, task] at mine
  rcases mine with ⟨_, _, stored, found, same⟩
  rw [← UpgradeRow.cancelAt_id row now] at found
  refine Carried.put found ⟨(UpgradeRow.cancelAt_origin row now).trans same.symm, ?_⟩
  intro spent
  cases row with
  | plan row => rfl
  | operation operation =>
      cases stored with
      | plan stored => cases same
      | operation stored => cases spent

theorem Kept.marked (kept : Kept identifiers state roles) {row : UpgradeRow}
    (task : (roles index).task = .marking row) (now : Instant) :
    Kept identifiers { state with table := state.table.put (row.cancelAt now) }
      (Function.update roles index ((roles index).does .idle)) := by
  have carried := kept.carried_mark task now
  have mine := kept.each index
  rw [Role.Kept, task] at mine
  rcases mine with ⟨serving, going, stored, found, same⟩
  rw [← UpgradeRow.cancelAt_id row now] at found
  refine kept.put_idle (kept.toStoreKept.carried carried) rfl ?_
  intro thread _
  refine (kept.each thread).carried serving carried rfl ?_
  intro id _ active
  refine active_put active ?_
  rintro rfl
  rcases active with ⟨operation, known, _⟩
  cases Option.some.inj (known.symm.trans found)
  have origin : operation.planId ∈ row.origin := by
    rw [← same]
    rfl
  exact cancelAt_active now origin

/-- The row that a worker saves is its own, and has not ended. -/
theorem Kept.works (kept : Kept identifiers state roles) {held : UpgradeOperation}
    (task : (roles index).task = .working held) :
    state.serving = true ∧ (roles index).row = some held.id ∧ state.Active held.id ∧
      ∃ stored, state.table.find held.id = some (.operation stored) ∧
        stored.planId = held.planId := by
  have mine := kept.each index
  rw [Role.Kept, task] at mine
  exact ⟨mine.1, by rw [Role.row, task], mine.2⟩

/-- A worker's document is written over the stored one. -/
theorem Kept.carried_save (kept : Kept identifiers state roles)
    {held document : UpgradeOperation} (task : (roles index).task = .working held)
    (continues : Continues held document) :
    Carried state { state with table := state.table.put (.operation document) } := by
  rcases (kept.works task).2.2.2 with ⟨stored, found, same⟩
  have known : state.table.find (UpgradeRow.operation document).id =
      some (.operation stored) := by
    rw [← found]
    exact congrArg state.table.find continues.id
  refine Carried.put known ⟨?_, fun spent => by cases spent⟩
  exact congrArg some (continues.planId.trans same.symm)

theorem Kept.saved (kept : Kept identifiers state roles) {held document : UpgradeOperation}
    (task : (roles index).task = .working held) (continues : Continues held document)
    (running : document.state = .running) :
    Kept identifiers { state with table := state.table.put (.operation document) }
      (Function.update roles index ((roles index).does (.working document))) := by
  rcases kept.works task with ⟨serving, owned, _⟩
  have carried := kept.carried_save task continues
  have going : document.state.terminal = false := by
    rw [running]
    rfl
  have written : (state.table.put (.operation document)).find document.id =
      some (.operation document) := UpgradeTable.find_put_self _ _
  refine kept.step (kept.toStoreKept.carried carried) rfl rfl ?_ ?_ ?_ ?_
    (fun _ => Task.noConfusion)
  · intro thread _
    refine (kept.each thread).carried serving carried rfl ?_
    exact fun id _ runs => active_put runs (fun _ => ⟨document, rfl, going⟩)
  · exact ⟨serving, ⟨document, written, going⟩, document, written, rfl⟩
  · intro id saved thread also
    have named : held.id = id := continues.id.symm.trans (Option.some.inj saved)
    exact kept.rows thread index id also (named ▸ owned)
  · intro planId saved
    cases saved

theorem Kept.ended (kept : Kept identifiers state roles) {held document : UpgradeOperation}
    (task : (roles index).task = .working held) (continues : Continues held document) :
    Kept identifiers { state with table := state.table.put (.operation document) }
      (Function.update roles index ((roles index).does .idle)) := by
  rcases kept.works task with ⟨serving, owned, _⟩
  have carried := kept.carried_save task continues
  refine kept.put_idle (kept.toStoreKept.carried carried) rfl ?_
  intro thread different
  refine (kept.each thread).carried serving carried rfl ?_
  intro id also runs
  refine active_put runs ?_
  intro named
  have mine : (roles index).row = some id := by
    rw [owned, ← continues.id]
    exact congrArg some named.symm
  exact absurd also (kept.foreign mine different)

/-! ### Workers -/

theorem Kept.took (kept : Kept identifiers state roles) {operationId : String}
    {plan : ProfileUpgradePlan} {target : PlatformProfile} {stored : UpgradeOperation}
    (call : (roles index).call = some (.worker operationId plan target))
    (task : (roles index).task = .awaiting)
    (found : state.table.find operationId = some (.operation stored)) :
    Kept identifiers state
      (Function.update roles index ((roles index).does (.working stored))) := by
  have mine := kept.each index
  rw [Role.Kept, task] at mine
  rcases mine with ⟨serving, other, _, _, known, active⟩
  cases Option.some.inj (call.symm.trans known)
  have named : stored.id = operationId := UpgradeTable.find_id found
  have owned : (roles index).row = some operationId := by rw [Role.row, task, call]
  refine kept.stay rfl ?_ ?_ ?_ (fun _ => Task.noConfusion)
  · refine ⟨serving, named ▸ active, stored, ?_, rfl⟩
    rw [named]
    exact found
  · intro id working
    rw [owned, ← named]
    exact working
  · intro planId working
    cases working

theorem Kept.considered (kept : Kept identifiers state roles) {documentId : String}
    {row : UpgradeRow} (serving : state.serving = true) (going : row.ended = some false)
    (found : state.table.find documentId = some row) :
    Kept identifiers state
      (Function.update roles index ((roles index).does (.marking row))) := by
  refine kept.stay rfl ?_ ?_ ?_ (fun _ => Task.noConfusion)
  · refine ⟨serving, going, row, ?_, rfl⟩
    rw [UpgradeTable.find_id found]
    exact found
  · intro id marking
    cases marking
  · intro planId marking
    cases marking

/-- The service starts the worker of an operation that it has stored. -/
theorem Kept.spawned (kept : Kept identifiers state roles) {operationId : String}
    (plan : ProfileUpgradePlan) (target : PlatformProfile)
    (task : (roles index).task = .starting operationId) (thread : Nat) :
    Kept identifiers state (Function.update (Function.update roles index
      ((roles index).does .idle)) thread (enter (.worker operationId plan target))) := by
  have mine := kept.each index
  rw [Role.Kept, task] at mine
  rcases mine with ⟨serving, active⟩
  have owned : (roles index).row = some operationId := by rw [Role.row, task]
  have idle : Kept identifiers state
      (Function.update roles index ((roles index).does .idle)) := kept.idle
  refine
    { toStoreKept := kept.toStoreKept, each := ?_, arrived := fun _ _ _ _ => serving,
      rows := ?_, plans := ?_, alone := ?_ }
  · intro other
    by_cases same : other = thread
    · rw [same, Function.update_self]
      exact ⟨serving, operationId, plan, target, rfl, active⟩
    · rw [Function.update_of_ne same]
      exact idle.each other
  · refine kept.rows.handed (idle_row rfl) ?_ thread
    intro id entered
    rw [owned]
    exact entered
  · refine kept.plans.handed (idle_plan rfl) ?_ thread
    intro id entered
    cases entered
  · intro left right first second opening
    by_cases same : left = thread
    · rw [same, Function.update_self] at opening
      cases opening
    · rw [Function.update_of_ne same] at opening
      have closed := idle.each left
      rw [Role.Kept, opening] at closed
      exact absurd (serving.symm.trans closed.1) (by decide)

/-! ## One action, and every run -/

/-- A move keeps the invariant; the worker that a call starts comes later. -/
theorem Kept.moves (kept : Kept identifiers state roles) {request : ServiceRequest}
    {offer : Offer} {answer : ServiceAnswer request}
    (moved : Moves (roles index) request answer other)
    (replied : reply identifiers state offer request = answer) :
    Kept identifiers (effect state request) (Function.update roles index other) := by
  have same : Kept identifiers state (Function.update roles index (roles index)) := by
    rw [Function.update_eq_self]
    exact kept
  cases moved with
  | free answer unwritten => exact same.unwritten unwritten
  | dropped => exact kept.idle
  | interrupted call task => exact kept.interrupted task
  | selected operations task =>
      subst replied
      exact kept.selected task
  | reviewed now task => exact kept.reviewed task now
  | served task => exact kept.served task
  | named uuid call task =>
      subst replied
      exact kept.named (kept.arrived index _ call rfl)
  | filed call task => exact kept.filed task
  | consumed planId call task => exact kept.consumed (kept.arrived index _ call rfl) replied
  | refused planId call task => exact kept.refused planId (kept.arrived index _ call rfl) task
  | drew task fresh =>
      subst replied
      exact kept.drew task fresh
  | placed call task => exact kept.placed task
  | started plan target task => exact kept.idle
  | read documentId row task => exact same
  | considered call task going =>
      exact kept.considered (kept.arrived index _ call rfl) going replied
  | marked now call task => exact kept.marked task now
  | missed documentId row task => exact kept.idle
  | took call task => exact kept.took call task replied
  | acted answer task adapts => exact same.adapts adapts
  | saved task continues running => exact kept.saved task continues running
  | ended task continues terminal => exact kept.ended task continues

theorem outside_idle {call : Call} (outside : call.outside = true) :
    (enter call).task = .idle := by
  cases call with
  | openStore => cases outside
  | worker operationId plan target => cases outside
  | _ => rfl

/-- A call arrives while the service is there. -/
theorem Kept.admitted (kept : Kept identifiers state roles) {call : Call}
    (admits : (call.outside && state.serving) = true) (thread : Nat) :
    Kept identifiers state (Function.update roles thread (enter call)) := by
  rcases Bool.and_eq_true_iff.mp admits with ⟨outside, serving⟩
  have idle := outside_idle outside
  refine
    { toStoreKept := kept.toStoreKept, each := ?_, arrived := fun _ _ _ _ => serving,
      rows := ?_, plans := ?_, alone := ?_ }
  · intro other
    by_cases same : other = thread
    · rw [same, Function.update_self]
      exact idle_kept idle
    · rw [Function.update_of_ne same]
      exact kept.each other
  · refine kept.rows.update (fun id owned => ?_)
    rw [idle_row idle] at owned
    cases owned
  · refine kept.plans.update (fun id owned => ?_)
    rw [idle_plan idle] at owned
    cases owned
  · intro left right first second opening
    by_cases same : left = thread
    · rw [same, Function.update_self, idle] at opening
      cases opening
    · rw [Function.update_of_ne same] at opening
      have closed := kept.each left
      rw [Role.Kept, opening] at closed
      exact absurd (serving.symm.trans closed.1) (by decide)

/-- A store is opened, by one thread. -/
theorem StoreKept.opened (store : StoreKept identifiers state) (closed : state.serving = false)
    (thread : Nat) :
    Kept identifiers state
      (Function.update (fun _ => nobody) thread (enter .openStore)) := by
  have nobodies : ∀ owns : Role → Option String, owns nobody = none →
      owns (enter .openStore) = none → ∀ other,
        owns (Function.update (fun _ => nobody) thread (enter .openStore) other) = none := by
    intro owns first second other
    by_cases same : other = thread
    · rw [same, Function.update_self]
      exact second
    · rw [Function.update_of_ne same]
      exact first
  refine
    { toStoreKept := store, each := ?_, arrived := ?_,
      rows := apart_none (nobodies Role.row rfl rfl),
      plans := apart_none (nobodies Role.plan rfl rfl), alone := ?_ }
  · intro other
    by_cases same : other = thread
    · rw [same, Function.update_self]
      refine ⟨closed, List.nodup_nil, ?_⟩
      intro operation member
      cases member
    · rw [Function.update_of_ne same]
      trivial
  · intro other call known outside
    by_cases same : other = thread
    · rw [same, Function.update_self] at known
      cases known
      cases outside
    · rw [Function.update_of_ne same] at known
      cases known
  · have only : ∀ other reviews,
        (Function.update (fun _ => nobody) thread (enter .openStore) other).task =
          .opening reviews → other = thread := by
      intro other reviews opening
      by_cases same : other = thread
      · exact same
      · rw [Function.update_of_ne same] at opening
        cases opening
    intro left right first second early late
    rw [only left first early, only right second late]

theorem StoreKept.lost (store : StoreKept identifiers state) :
    StoreKept identifiers { state with cancelled := [], serving := false } :=
  store.carried (Carried.same le_rfl rfl)

theorem spawned_started {request : ServiceRequest} {call : Call}
    (spawns : spawned request = some call) : ∃ operationId plan target,
      request = .startWorker operationId plan target ∧
        call = .worker operationId plan target := by
  cases request with
  | startWorker operationId plan target =>
      cases spawns
      exact ⟨operationId, plan, target, rfl, rfl⟩
  | _ => cases spawns

abbrev ServiceLog := List (Entry Call ServiceRequest ServiceAnswer)

variable {service : ProfileUpgradeService}

/-- Every action keeps the invariant. -/
theorem Kept.evolves {pool next : ServicePool} {later : Nat → Role} {action : ServiceAction}
    {entries : ServiceLog} (kept : Kept identifiers pool.shared roles)
    (evolves : (upgradeProtocol service identifiers).Evolves pool roles action entries next
      later) : Kept identifiers next.shared later := by
  cases evolves with
  | advanced found replied moved alone => exact kept.moves moved (Option.some.inj replied)
  | @spawned index offer label request rest answer after call found replied moved spawns =>
      rcases spawned_started spawns with ⟨operationId, plan, target, rfl, rfl⟩
      cases moved with
      | free answer unwritten => cases unwritten
      | started plan target task => exact kept.spawned plan target task _
      | acted answer task adapts => cases adapts
  | admitted admits => exact kept.admitted admits _
  | restarted => exact kept.toStoreKept.lost.opened rfl _

theorem initial_kept (identifiers : Identifiers) :
    StoreKept identifiers ⟨.empty, [], false, 0⟩ where
  known id row found := by cases found
  spent id stored found := by cases found
  single left right first second found := by cases found

variable {allowed : ServicePool → ServiceAction → Prop}

/-- More that every action keeps, given that the store and the threads are kept. -/
theorem reachable_with (holds : ServiceLog → ServicePool → (Nat → Role) → Prop)
    (initial : holds [] (machine service identifiers).initial
      (upgradeProtocol service identifiers).initialRoles)
    (step : ∀ log pool roles action entries next later, allowed pool action →
      (upgradeProtocol service identifiers).Annotated pool roles →
      Kept identifiers pool.shared roles → holds log pool roles →
      (upgradeProtocol service identifiers).Evolves pool roles action entries next later →
      holds (log ++ entries) next later)
    {log : ServiceLog} {pool : ServicePool}
    (reached : (machine service identifiers).Reachable allowed log pool) :
    ∃ roles, (upgradeProtocol service identifiers).Annotated pool roles ∧
      Kept identifiers pool.shared roles ∧ holds log pool roles := by
  let invariant (log : ServiceLog) (pool : ServicePool) (roles : Nat → Role) : Prop :=
    Kept identifiers pool.shared roles ∧ holds log pool roles
  have always : ∃ roles, (upgradeProtocol service identifiers).Annotated pool roles ∧
      invariant log pool roles := by
    refine Protocol.reachable_invariant
      ⟨(initial_kept identifiers).opened rfl 0, initial⟩ ?_ reached
    intro log pool roles action entries next later meets annotated known evolves
    exact ⟨known.1.evolves evolves,
      step log pool roles action entries next later meets annotated known.1 known.2 evolves⟩
  exact always

/-! ## Scripted runs -/

/-- Everything that the service asks of the world succeeds. -/
def smooth : Offer where
  surroundings := exampleSurroundings (exampleTarget .licensedLive [])
  now := 0
  monotonic := 0
  statement := .ok ()
  adapter := .ok ()
  callable := true
  verified := .ok true

def goOn (thread count : Nat) : List (ServicePool → ServiceAction) :=
  List.replicate count (fun _ => .advance thread smooth)

def arrive (call : Call) : List (ServicePool → ServiceAction) := [fun _ => .receive call]

def exampleConfirmation : String :=
  "UPGRADE fortify-24.4-eval.1 TO fortify-24.4-eval.2 Up to ten minutes"

/-- A plan is made. -/
def planScript : List (ServicePool → ServiceAction) :=
  goOn 0 5 ++ arrive (.plan "fortify-24.4-eval.2") ++ goOn 1 4

/-- A plan is made and submitted. -/
def submitScript : List (ServicePool → ServiceAction) :=
  planScript ++ arrive (.submit "upgrade-plan-" exampleIdentity (some exampleConfirmation)) ++
    goOn 2 9

def playExample (permits : ServicePool → ServiceAction → Bool)
    (script : List (ServicePool → ServiceAction)) : Option ServicePool :=
  (machine exampleService countingIdentifiers).play permits
    (machine exampleService countingIdentifiers).initial script

theorem reachable_playExample {permits : ServicePool → ServiceAction → Bool}
    (sound : ∀ pool action, permits pool action = true → allowed pool action)
    {script : List (ServicePool → ServiceAction)} {pool : ServicePool}
    (played : playExample permits script = some pool) :
    ∃ log, (machine exampleService countingIdentifiers).Reachable allowed log pool :=
  Machine.reachable_play sound script .initial played

def storedState (pool : ServicePool) (operationId : String) :
    Option (UpgradeState × Nat) :=
  match pool.shared.table.find operationId with
  | some (.operation stored) => some (stored.state, stored.evidence.length)
  | _ => none

theorem storedState_some {pool : ServicePool} {operationId : String} {state : UpgradeState}
    {evidence : Nat} (stored : storedState pool operationId = some (state, evidence)) :
    ∃ operation, pool.shared.table.find operationId = some (.operation operation) ∧
      operation.state = state ∧ operation.evidence.length = evidence := by
  unfold storedState at stored
  split at stored
  · next operation found =>
    rw [Option.some.injEq, Prod.mk.injEq] at stored
    exact ⟨operation, found, stored.1, stored.2⟩
  · cases stored

end FortifyLab.Upgrade.Roles
