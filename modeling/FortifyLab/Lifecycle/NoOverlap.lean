import FortifyLab.Lifecycle.Bookkeeping

/-! Active operations have no component in common. The conflict check is made once,
under the engine lock; every later write leaves at most the same components active. -/

namespace FortifyLab.Lifecycle

open Registry Authorization

/-- Every active row was active before, with the same components. -/
def Shrinks (before after : ManagerState) : Prop :=
  ∀ row ∈ after.rows, row.state.active = true → ∃ old ∈ before.rows, old.state.active = true ∧
    old.payload.id = row.payload.id ∧ old.payload.components = row.payload.components

/-- No active row but its own shares a component with the document. -/
def ApartFrom (state : ManagerState) (document : Document) : Prop :=
  ∀ row ∈ state.rows, row.state.active = true → row.payload.id ≠ document.id →
    List.Disjoint document.components row.payload.components

/-- The survey lists every component of every active row. -/
def Covers (state : ManagerState) (active : List ComponentId) : Prop :=
  ∀ row ∈ state.rows, row.state.active = true → ∀ componentId ∈ row.payload.components,
    componentId ∈ active

/-- What a thread has seen under the engine lock still holds. -/
structure Role.Separate (role : Role) (state : ManagerState) : Prop where
  surveyed : ∀ active, role.task = .surveyed active → Covers state active
  cancelling : ∀ document, role.task = .cancelling document → ApartFrom state document

structure Separate (state : ManagerState) (roles : Nat → Role) : Prop where
  rows : ∀ row ∈ state.rows, row.state.active = true → ApartFrom state row.payload
  each : ∀ index, (roles index).Separate state

variable {settings : Settings} {engine : Engine} {state after : ManagerState} {books : Books}
  {role other : Role} {roles : Nat → Role} {index : Nat} {request : Request}

theorem shrinks_of_rows (rows : after.rows = state.rows) : Shrinks state after := by
  intro row member active
  rw [rows] at member
  exact ⟨row, member, active, rfl, rfl⟩

theorem ApartFrom.shrink {document : Document} (apart : ApartFrom state document)
    (shrinks : Shrinks state after) : ApartFrom after document := by
  intro row member active different
  rcases shrinks row member active with ⟨old, known, wasActive, id, components⟩
  rw [← components]
  exact apart old known wasActive (fun same => different (id.symm.trans same))

theorem ApartFrom.of_same {left right : Document} (apart : ApartFrom state right)
    (id : left.id = right.id) (components : left.components = right.components) :
    ApartFrom state left := by
  intro row member active different
  rw [components]
  exact apart row member active (fun same => different (same.trans id.symm))

theorem Covers.shrink {active : List ComponentId} (covers : Covers state active)
    (shrinks : Shrinks state after) : Covers after active := by
  intro row member isActive componentId within
  rcases shrinks row member isActive with ⟨old, known, wasActive, _, components⟩
  exact covers old known wasActive componentId (components ▸ within)

theorem Role.Separate.shrink (separate : role.Separate state) (shrinks : Shrinks state after) :
    role.Separate after where
  surveyed active surveyed := (separate.surveyed active surveyed).shrink shrinks
  cancelling document cancelling := (separate.cancelling document cancelling).shrink shrinks

theorem separate_of_unguarded (unguarded : ¬ role.task.Guarded) : role.Separate state where
  surveyed _ surveyed := absurd (surveyed ▸ trivial) unguarded
  cancelling _ cancelling := absurd (cancelling ▸ trivial) unguarded

theorem rows_shrink (rows : ∀ row ∈ state.rows, row.state.active = true →
      ApartFrom state row.payload) (shrinks : Shrinks state after) :
    ∀ row ∈ after.rows, row.state.active = true → ApartFrom after row.payload := by
  intro row member active
  rcases shrinks row member active with ⟨old, known, wasActive, id, components⟩
  exact ((rows old known wasActive).of_same id.symm components.symm).shrink shrinks

/-! ## Which writes shrink -/

theorem shrinks_write {document : Document}
    (known : document.state.active = true → ∃ row ∈ state.rows, row.state.active = true ∧
      row.payload.id = document.id ∧ row.payload.components = document.components) :
    Shrinks state (state.write document) := by
  intro row member active
  rcases ManagerState.mem_write.mp member with ⟨old, _⟩ | ⟨rfl, _⟩
  · exact ⟨row, old, active, rfl, rfl⟩
  · exact known active

theorem shrinks_interrupt (state : ManagerState) (now : Timestamp) :
    Shrinks state (state.withRows (state.rows.map (ManagerState.interruptRow now))) := by
  intro row member active
  rcases List.mem_map.mp member with ⟨old, known, rfl⟩
  unfold ManagerState.interruptRow at active
  split at active
  · cases active
  · next inactive => exact absurd active inactive

theorem Kept.shrinks_recover (kept : Kept engine state books) {document : Document}
    (known : Known state books document) :
    Shrinks state (state.withRows (state.rows.map (ManagerState.updatePayload document))) := by
  intro row member active
  rcases List.mem_map.mp member with ⟨old, stored, rfl⟩
  unfold ManagerState.updatePayload at active ⊢
  split
  · next id =>
    rw [if_pos id] at active
    refine ⟨old, stored, active, id, ?_⟩
    have same := (kept.known old stored).same
    rw [id] at same
    exact same.components.trans known.same.components.symm
  · next id =>
    rw [if_neg id] at active
    exact ⟨old, stored, active, rfl, rfl⟩

/-! ## Every deed keeps the operations apart -/

/-- What a deed does to the active rows: they shrink, or a new row or one being
cancelled joins them apart from the rest. -/
inductive Joins (state after : ManagerState) (role : Role) : Prop where
  | shrinks (shrinks : Shrinks state after)
  | joins (guarded : role.task.Guarded) (document : Document) (apart : ApartFrom state document)
      (rows : ∀ row ∈ after.rows, row.state.active = true →
        (row ∈ state.rows ∧ row.payload.id ≠ document.id) ∨
          row = ⟨document.state, document⟩)

theorem Deed.joins (kept : Kept engine state books) (mine : role.Kept state books)
    (separate : role.Separate state) (deed : Deed engine index state role request after other) :
    Joins state after role := by
  cases deed with
  | quiet same ordinary => exact .shrinks (shrinks_of_rows same.rows)
  | @created document active work surveyed holds apart creates fresh =>
      refine .joins (surveyed ▸ trivial) document ?_ ?_
      · intro row member isActive different componentId own also
        exact apart componentId own
          (separate.surveyed active surveyed row member isActive componentId also)
      · intro row member isActive
        rcases List.mem_append.mp member with old | last
        · exact .inl ⟨old, fresh row old⟩
        · exact .inr (List.mem_singleton.mp last)
  | @marked stored now cancelling =>
      refine .joins (cancelling ▸ trivial) { stored with state := .cancelling, updatedAt := now }
        ((separate.cancelling stored cancelling).of_same rfl rfl) ?_
      intro row member isActive
      rcases ManagerState.mem_write.mp member with ⟨old, different⟩ | ⟨written, _⟩
      · exact .inl ⟨old, different⟩
      · exact .inr written
  | @saved work document owns same saved =>
      apply Joins.shrinks
      apply shrinks_write
      intro active
      have owned := mine.owned work owns
      rcases owned.active with ⟨row, member, id, wasActive⟩
      refine ⟨row, member, wasActive, id.trans same.id.symm, ?_⟩
      have known := (kept.known row member).same
      rw [id, owned.booked] at known
      exact known.components.trans same.components.symm
  | @concluded work document owns same terminal uninterrupted lab running complete =>
      apply Joins.shrinks
      apply shrinks_write
      intro active
      rw [OperationState.active_eq_not_terminal, terminal] at active
      cases active
  | _ => exact .shrinks (shrinks_of_rows rfl)

theorem active_of_not_terminal {state : OperationState} (active : state.terminal = false) :
    state.active = true := by
  rw [OperationState.active_eq_not_terminal, active]
  rfl

/-- What the thread sees under the lock as it moves. -/
theorem Deed.separate (kept : Kept engine state books)
    (rows : ∀ row ∈ state.rows, row.state.active = true → ApartFrom state row.payload)
    (separate : role.Separate state) (deed : Deed engine index state role request after other) :
    other.Separate after := by
  cases deed with
  | quiet same ordinary => exact separate.shrink (shrinks_of_rows same.rows)
  | noted operationId plain => exact separate.shrink (shrinks_of_rows rfl)
  | acquired free unlocked =>
      exact ⟨separate.surveyed, separate.cancelling⟩
  | releasedOwner holds owns => exact ⟨separate.surveyed, separate.cancelling⟩
  | read operationId idle => exact ⟨separate.surveyed, separate.cancelling⟩
  | heard operationId idle => exact ⟨separate.surveyed, separate.cancelling⟩
  | unregistered idle called => exact separate.shrink (shrinks_of_rows rfl)
  | surveyed holds idle =>
      refine ⟨?_, fun _ cancelling => nomatch cancelling⟩
      intro active surveyed row member isActive componentId within
      cases surveyed
      exact List.mem_flatMap.mpr ⟨row, List.mem_filter.mpr ⟨member, isActive⟩, within⟩
  | @considered operationId actor identity holds idle called =>
      cases found : state.row? operationId with
      | none => exact separate_of_unguarded id
      | some document =>
          by_cases terminal : document.state.terminal = true
          · have task : cancelTask (some document) = .idle := if_pos terminal
            rw [task]
            exact separate_of_unguarded id
          · have task : cancelTask (some document) = .cancelling document := if_neg terminal
            rw [task]
            refine ⟨(fun _ surveyed => nomatch surveyed), ?_⟩
            intro other cancelling
            cases cancelling
            rcases ManagerState.row?_eq_some found with ⟨row, member, rfl, _⟩
            apply rows row member
            rw [kept.columns row member]
            exact active_of_not_terminal (eq_false_of_ne_true terminal)
  | _ => exact separate_of_unguarded id

theorem Separate.beside {bystander : Role} (joins : Joins state after role)
    (separate : bystander.Separate state)
    (exclusive : role.task.Guarded → ¬ bystander.task.Guarded) : bystander.Separate after := by
  cases joins with
  | shrinks shrinks => exact separate.shrink shrinks
  | joins guarded document apart rows => exact separate_of_unguarded (exclusive guarded)

theorem rows_join (rows : ∀ row ∈ state.rows, row.state.active = true →
      ApartFrom state row.payload) (joins : Joins state after role) :
    ∀ row ∈ after.rows, row.state.active = true → ApartFrom after row.payload := by
  cases joins with
  | shrinks shrinks => exact rows_shrink rows shrinks
  | joins guarded document apart from_ =>
      intro left leftMember leftActive right rightMember rightActive different
      rcases from_ left leftMember leftActive with ⟨leftOld, leftOther⟩ | rfl
      · rcases from_ right rightMember rightActive with ⟨rightOld, _⟩ | rfl
        · exact rows left leftOld leftActive right rightOld rightActive different
        · exact (apart left leftOld leftActive leftOther).symm
      · rcases from_ right rightMember rightActive with ⟨rightOld, rightOther⟩ | rfl
        · exact apart right rightOld rightActive rightOther
        · exact absurd rfl different

theorem OpeningDeed.shrinks (kept : Kept engine state books) (mine : role.Kept state books)
    (deed : OpeningDeed state role request after other) : Shrinks state after := by
  cases deed with
  | interrupts now idle => exact shrinks_interrupt state now
  | @recovers documents stored recovering listed =>
      have known : Known state books stored := mine.carries _ (recovering ▸ listed)
      exact kept.shrinks_recover (known.of_same ⟨rfl, rfl, rfl, rfl, rfl, rfl, rfl⟩ rfl rfl)
  | _ => exact shrinks_of_rows rfl

theorem OpeningDeed.unguarded (deed : OpeningDeed state role request after other)
    (unguarded : ¬ role.task.Guarded) : ¬ other.task.Guarded := by
  cases deed with
  | waited => exact unguarded
  | noted operationId at_ => exact unguarded
  | recovers recovering known => exact unguarded
  | _ => exact id

/-- Two threads are never under the lock at once. -/
theorem Orderly.exclusive (orderly : Orderly state roles) {left right : Nat}
    (leftGuarded : (roles left).task.Guarded) (rightGuarded : (roles right).task.Guarded) :
    left = right := by
  rcases orderly with ⟨boot, orderly⟩
  have first := (orderly left).locked ((orderly left).guarded leftGuarded)
  have second := (orderly right).locked ((orderly right).guarded rightGuarded)
  rw [first] at second
  exact Option.some.inj second

theorem turn_separate {nextRoles : Nat → Role} {asked : Option (Nat × Request)}
    (orderly : Orderly state roles) (booked : Booked settings.engine state roles books)
    (separate : Separate state roles) (turn : Turn settings state roles asked after nextRoles) :
    Separate after nextRoles := by
  cases turn with
  | @opening index request after role opens deed =>
      have shrinks := deed.shrinks booked.kept (booked.each index)
      have unguarded : ¬ (roles index).task.Guarded := by
        intro guarded
        rcases orderly with ⟨boot, orderly⟩
        have holds := (orderly index).guarded guarded
        rw [((orderly index).inert (not_serves_of_opens opens)).1] at holds
        cases holds
      exact ⟨rows_shrink separate.rows shrinks, forall_update (fun _ each => each.Separate after)
        (separate_of_unguarded (deed.unguarded unguarded))
        (fun other _ => (separate.each other).shrink shrinks)⟩
  | @serving index request after role serves deed alone =>
      have joins := deed.joins booked.kept (booked.each index) (separate.each index)
      refine ⟨rows_join separate.rows joins, forall_update (fun _ each => each.Separate after)
        (deed.separate booked.kept separate.rows (separate.each index)) ?_⟩
      intro other different
      exact Separate.beside joins (separate.each other)
        (fun mine theirs => different (orderly.exclusive theirs mine))
  | @started index worker document steps after role serves deed absent other =>
      have joins := deed.joins booked.kept (booked.each index) (separate.each index)
      have moved := forall_update (fun _ each => each.Separate after)
        (deed.separate booked.kept separate.rows (separate.each index))
        (fun other different => Separate.beside joins (separate.each other)
          (fun mine theirs => different (orderly.exclusive theirs mine)))
      refine ⟨rows_join separate.rows joins, forall_update (fun _ each => each.Separate after) ?_
        (fun thread _ => moved thread)⟩
      cases deed with
      | quiet same ordinary => cases ordinary
      | handed owns unlocked queued registered resumed total lab =>
          rw [owns]
          exact separate_of_unguarded id
  | @arrived index call serving arrives absent =>
      exact ⟨separate.rows, forall_update (fun _ each => each.Separate state)
        (separate_of_unguarded id) (fun other _ => separate.each other)⟩
  | crashed index =>
      exact ⟨separate.rows, forall_update (fun _ each => each.Separate state.afterCrash)
        (separate_of_unguarded id) (fun _ _ => separate_of_unguarded id)⟩

theorem initial_separate (settings : Settings) :
    Separate (manager settings).initial.shared (managerProtocol settings).initialRoles :=
  ⟨(fun _ member => nomatch member), forall_update (fun _ each => each.Separate _)
    (separate_of_unguarded id) (fun _ _ => separate_of_unguarded id)⟩

/-! ## Over whole runs -/

/-- What every reachable state of the manager satisfies. -/
structure Consistent (settings : Settings) (state : ManagerState) (roles : Nat → Role)
    (books : Books) : Prop where
  orderly : Orderly state roles
  booked : Booked settings.engine state roles books
  separate : Separate state roles

theorem turn_consistent {nextRoles : Nat → Role} {asked : Option (Nat × Request)}
    (consistent : Consistent settings state roles books)
    (turn : Turn settings state roles asked after nextRoles) :
    Consistent settings after nextRoles (books.follow asked nextRoles) where
  orderly := turn_orderly consistent.orderly turn
  booked := turn_booked consistent.orderly consistent.booked turn
  separate := turn_separate consistent.orderly consistent.booked consistent.separate turn

theorem initial_consistent (settings : Settings) :
    Consistent settings (manager settings).initial.shared
      (managerProtocol settings).initialRoles blankBooks :=
  ⟨initial_orderly settings, initial_booked settings, initial_separate settings⟩

/-- The request that an action of the pool answers. -/
def Asks (pool : ManagerPool) (action : ManagerAction) (asked : Option (Nat × Request)) : Prop :=
  ∀ index request, asked = some (index, request) →
    (∃ offer, action = .advance index offer) ∧
      ∃ label rest, pool.threads[index]? = some ⟨label, .ask request rest⟩

/-- The rule for what more is claimed of every reachable state: it holds at first and
every turn of a consistent manager keeps it. -/
theorem reachable_with {allowed : ManagerPool → ManagerAction → Prop}
    {holds : ManagerState → (Nat → Role) → Books → Prop}
    (initial : holds (manager settings).initial.shared (managerProtocol settings).initialRoles
      blankBooks)
    (step : ∀ pool roles books action asked after next, allowed pool action →
      (managerProtocol settings).Annotated pool roles →
      Consistent settings pool.shared roles books → holds pool.shared roles books →
      Turn settings pool.shared roles asked after next → Asks pool action asked →
      holds after next (books.follow asked next))
    {log : List (Entry Call Request Answer)} {pool : ManagerPool}
    (reached : (manager settings).Reachable allowed log pool) :
    ∃ roles books, (managerProtocol settings).Annotated pool roles ∧
      Consistent settings pool.shared roles books ∧ holds pool.shared roles books := by
  let invariant (_ : List (Entry Call Request Answer)) (pool : ManagerPool) (roles : Nat → Role) :
      Prop := ∃ books, Consistent settings pool.shared roles books ∧ holds pool.shared roles books
  have kept : ∃ roles, (managerProtocol settings).Annotated pool roles ∧
      invariant log pool roles := by
    refine Protocol.reachable_invariant ?_ ?_ reached
    · exact ⟨blankBooks, initial_consistent settings, initial⟩
    · intro log pool roles action entries next after meets annotated known evolves
      rcases known with ⟨books, consistent, holds⟩
      rcases evolves_turn annotated evolves with ⟨asked, turn, asks⟩
      exact ⟨books.follow asked after, turn_consistent consistent turn, step pool roles books action
        asked next.shared after meets annotated consistent holds turn asks⟩
  rcases kept with ⟨roles, annotated, books, consistent, holds⟩
  exact ⟨roles, books, annotated, consistent, holds⟩

theorem reachable_consistent {allowed : ManagerPool → ManagerAction → Prop}
    {log : List (Entry Call Request Answer)} {pool : ManagerPool}
    (reached : (manager settings).Reachable allowed log pool) :
    ∃ roles books, (managerProtocol settings).Annotated pool roles ∧
      Consistent settings pool.shared roles books := by
  let nothing (_ : ManagerState) (_ : Nat → Role) (_ : Books) : Prop := True
  have always : ∃ roles books, (managerProtocol settings).Annotated pool roles ∧
      Consistent settings pool.shared roles books ∧ nothing pool.shared roles books :=
    reachable_with trivial (fun _ _ _ _ _ _ _ _ _ _ _ _ _ => trivial) reached
  rcases always with ⟨roles, books, annotated, consistent, _⟩
  exact ⟨roles, books, annotated, consistent⟩

/-! ## Active operations do not overlap -/

theorem mem_affected {steps : List Step} {step : Step} (member : step ∈ steps) :
    step.componentId ∈ affected steps :=
  List.mem_eraseDups.mpr (List.mem_map_of_mem member)

/-- What a thread is to execute next is a step of its own operation. -/
theorem executes_own {pool : ManagerPool}
    (annotated : (managerProtocol settings).Annotated pool roles)
    {thread : Thread Call Request Answer Outcome} (found : pool.threads[index]? = some thread)
    {operationId : OperationId} {step : Step} {deadline : ℚ}
    (asks : thread.program.asks = some (.execute operationId step deadline)) :
    ∃ work rest, (roles index).task = .owns work ∧ work.document.id = operationId ∧
      work.rest = step :: rest := by
  rcases thread with ⟨label, _ | ⟨request, next⟩⟩
  · cases asks
  · cases asks
    rcases annotated.follows index _ found (.ok ()) with ⟨after, moved, _⟩
    rcases moves_serves_or_opens moved with ⟨_, opening⟩ | ⟨_, serving⟩
    · exact opening.elim
    · rcases serving with ⟨⟨work, rest, owns, id, _, next⟩, _⟩
      exact ⟨work, rest, owns, id, next⟩

theorem Work.Sound.mem_plan {work : Work} (sound : work.Sound engine) {step : Step}
    (member : step ∈ work.rest) : step ∈ work.plan := by
  have remaining : step ∈ remainingSteps work.plan work.completed := by
    rw [sound.split]
    exact List.mem_append_right _ member
  exact List.mem_of_mem_filter remaining

/-- Two rows that are active at once have no component in common, and a worker only
executes steps on the components of its own row. -/
theorem active_operations_apart {log : List (Entry Call Request Answer)} {pool : ManagerPool}
    (reached : (manager settings).Reachable (fun _ _ => True) log pool) :
    pool.shared.rows.Pairwise (fun left right => left.state.active = true →
      right.state.active = true →
        List.Disjoint left.payload.components right.payload.components) ∧
    ∀ (index : Nat) (thread : Thread Call Request Answer Outcome),
      pool.threads[index]? = some thread →
      ∀ operationId step deadline, thread.program.asks = some (.execute operationId step deadline) →
        ∃ row ∈ pool.shared.rows, row.payload.id = operationId ∧ row.state.active = true ∧
          step.componentId ∈ row.payload.components := by
  rcases reachable_consistent reached with ⟨roles, books, annotated, consistent⟩
  have kept := consistent.booked.kept
  constructor
  · have unique : pool.shared.rows.Pairwise (fun left right => left.payload.id ≠ right.payload.id) :=
      List.pairwise_map.mp kept.ids
    apply List.Pairwise.imp_of_mem _ unique
    intro left right leftMember rightMember different leftActive rightActive
    exact consistent.separate.rows left leftMember leftActive right rightMember rightActive
      (Ne.symm different)
  · intro index thread found operationId step deadline asks
    rcases executes_own annotated found asks with ⟨work, rest, owns, rfl, next⟩
    have owned := (consistent.booked.each index).owned work owns
    rcases owned.active with ⟨row, member, id, active⟩
    refine ⟨row, member, id, active, ?_⟩
    have known := kept.known row member
    have sound := kept.sound _ (ManagerState.stored_of_mem member)
    rw [id, owned.booked] at sound
    have same := known.same
    rw [id, owned.booked] at same
    rw [same.components, sound.components]
    apply mem_affected
    apply sound.mem_plan
    rw [next]
    exact List.mem_cons_self

/-- Two starts at once: one worker is running, the other operation is still queued. -/
def twoStarts : List (ManagerPool → ManagerAction) :=
  goOn 0 4 "" ++ arrive (.submitAsync .insertion "start" ["mysql"] ⟨"operator", none, none⟩ none) ++
    goOn 1 11 "first" ++
    arrive (.submitAsync .insertion "start" ["lim"] ⟨"operator", none, none⟩ none) ++
    goOn 3 9 "second" ++ goOn 2 3 ""

theorem active_operations_apart_shipped :
    ∃ pool, playShipped (fun _ _ => true) twoStarts = some pool ∧
      pool.shared.rows.map (fun row => (row.state, row.payload.components)) =
        [(.running, ["mysql"]), (.queued, ["lim"])] ∧
      pool.shared.rows.Pairwise (fun left right => left.state.active = true →
        right.state.active = true →
          List.Disjoint left.payload.components right.payload.components) := by
  have played : (playShipped (fun _ _ => true) twoStarts).any (fun pool =>
      decide (pool.shared.rows.map (fun row => (row.state, row.payload.components)) =
        [(.running, ["mysql"]), (.queued, ["lim"])])) = true := by decide +kernel
  rcases (Option.any_eq_true _ _).mp played with ⟨pool, isPlayed, rows⟩
  rcases Machine.reachable_play (fun _ _ _ => trivial) twoStarts .initial isPlayed with
    ⟨log, reached⟩
  exact ⟨pool, isPlayed, of_decide_eq_true rows, (active_operations_apart reached).1⟩

end FortifyLab.Lifecycle
