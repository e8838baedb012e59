import FortifyLab.Health.ShippedHealth

/-! The root causes of an item: failing checks of its own or of what it depends on. -/

namespace FortifyLab.Health

open Registry

/-- A failing check: an entry of its own right, required, and not healthy. -/
def Entry.Failing (entry : Entry) : Prop :=
  entry.required = true ∧ entry.derived = false ∧ entry.state ≠ .healthy

/-- The item with the id lists the dependency. -/
def Lists (items : List Item) (id dependency : String) : Prop :=
  ∃ item ∈ items, item.id = id ∧ dependency ∈ item.dependencies

/-- The text names a failing check of an item that the id is, or depends on through any number
of items. -/
def RealRoot (items : List Item) (id root : String) : Prop :=
  ∃ source ∈ items, Relation.ReflTransGen (Lists items) id source.id ∧
    ∃ entry ∈ source.evidence, entry.Failing ∧ root = source.id ++ "/" ++ entry.id

/-- Every item of the first list is in the second, up to what roots do not depend on. -/
def Covered (small large : List Item) : Prop :=
  ∀ item ∈ small, ∃ other ∈ large, other.id = item.id ∧ other.dependencies = item.dependencies ∧
    other.evidence = item.evidence

theorem Lists.mono {small large : List Item} (covered : Covered small large)
    {id dependency : String} (lists : Lists small id dependency) :
    Lists large id dependency := by
  rcases lists with ⟨item, member, named, listed⟩
  rcases covered item member with ⟨other, inside, sameId, sameDependencies, _⟩
  exact ⟨other, inside, sameId.trans named, sameDependencies ▸ listed⟩

theorem RealRoot.mono {small large : List Item} (covered : Covered small large)
    {id root : String} (real : RealRoot small id root) : RealRoot large id root := by
  rcases real with ⟨source, member, path, entry, inside, failing, named⟩
  rcases covered source member with ⟨other, found, sameId, _, sameEvidence⟩
  have longer : Relation.ReflTransGen (Lists large) id source.id :=
    path.lift (fun other => other) (fun _ _ lists => Lists.mono covered lists)
  exact ⟨other, found, sameId ▸ longer, entry, sameEvidence ▸ inside, failing, sameId ▸ named⟩

/-! ## The entries of an item -/

section Entries

variable {engine : HealthEngine} {probe : CheckSpec → Observation} {subject : Subject}
  {results : List Item} {now : Int}

theorem itemEvidence_external {runtime : Runtime} {staleAfter now : Int} {item : Value}
    {entries : List Entry} (run : itemEvidence runtime staleAfter item now = .ok entries)
    {entry : Entry} (member : entry ∈ entries) :
    entry.derived = true ∧ entry.required = true ∧ entry.blockedBy = [] ∧
      (entry.layer = .externalReachability ∨ entry.layer = .tls) := by
  simp only [itemEvidence, bind_ok] at run
  rcases run with ⟨external, _, tls, _, ⟨observed, replaced⟩, _, latency, _, made⟩
  split at made
  · cases made
    simp only [List.mem_cons, List.not_mem_nil, or_false] at member
    rcases member with rfl | rfl <;> simp
  · cases made
    simp only [List.mem_singleton] at member
    subst member
    simp

theorem externalEvidence_external {runtime : Runtime} {staleAfter now : Int}
    {availability : Value} {id : String} {entries : List Entry}
    (run : externalEvidence runtime staleAfter availability id now = .ok entries)
    {entry : Entry} (member : entry ∈ entries) :
    entry.derived = true ∧ entry.required = true ∧ entry.blockedBy = [] ∧
      (entry.layer = .externalReachability ∨ entry.layer = .tls) := by
  simp only [externalEvidence, bind_ok] at run
  rcases run with ⟨items, _, found, _, made⟩
  cases found with
  | none =>
      cases made
      cases member
  | some item => exact itemEvidence_external made member

/-- Every entry of the checks: of one that was probed, or of one that was skipped. -/
theorem mem_checkEvidence {entry : Entry} :
    entry ∈ engine.checkEvidence probe subject results now ↔
      (∃ check ∈ subject.checks, blockersOf results check = [] ∧
        entry = result engine.runtime engine.staleAfter check (probe check) now) ∨
      ∃ check ∈ subject.checks, blockersOf results check ≠ [] ∧
        entry = unavailableEvidence engine.runtime check (blockersOf results check) now := by
  simp only [HealthEngine.checkEvidence, List.mem_append, List.mem_map, List.mem_filter,
    List.isEmpty_iff, Bool.not_eq_true', List.isEmpty_eq_false_iff, and_assoc, @eq_comm _ entry]

theorem mem_blockedDependencies {dependency : String} :
    dependency ∈ blockedDependencies subject results ↔
      ∃ check ∈ subject.checks, dependency ∈ blockersOf results check := by
  simp [blockedDependencies]

/-- What an evaluation makes of the entries. -/
structure Evaluated (subject : Subject) (entries : List Entry) (results : List Item)
    (blocked : List String) (item : Item) : Prop where
  id : item.id = subject.id
  dependencies : item.dependencies = subject.dependencies
  evidence : item.evidence = entries
  state : item.state = itemState entries blocked
  domains : item.domains = domains entries
  blockedBy : item.blockedBy = blocked.head?
  roots : ∃ roots, blocked.mapM (rootOf results) = .ok roots ∧
    item.rootCauses = (roots ++ localRoots subject.id entries).eraseDups

theorem evaluate_ok {runtime : Runtime} {entries : List Entry} {blocked : List String}
    {item : Item} (run : evaluate runtime subject now entries results blocked = .ok item) :
    Evaluated subject entries results blocked item := by
  simp only [evaluate, bind_ok, pure_ok] at run
  rcases run with ⟨roots, found, projected, _, rfl⟩
  exact ⟨rfl, rfl, rfl, rfl, rfl, rfl, roots, found, rfl⟩

theorem item_ok {item : Item} (run : engine.item probe subject results now = .ok item) :
    ∃ external,
      externalEvidence engine.runtime engine.staleAfter engine.availability subject.id now =
        .ok external ∧
      Evaluated subject (engine.checkEvidence probe subject results now ++ external) results
        (blockedDependencies subject results) item := by
  simp only [HealthEngine.item, bind_ok] at run
  rcases run with ⟨external, found, made⟩
  exact ⟨external, found, evaluate_ok made⟩

/-! ## A blocking item has a root cause -/

theorem firstOf_ne_healthy {precedence states : List HealthState}
    (ranked : firstOf precedence states ≠ .healthy) :
    firstOf precedence states ∈ states := by
  unfold firstOf at ranked ⊢
  cases found : precedence.find? (fun candidate => decide (candidate ∈ states)) with
  | none => simp [found] at ranked
  | some state => simpa using List.find?_some found

theorem rankState_ne_healthy {entries : List Entry} (ranked : rankState entries ≠ .healthy) :
    ∃ entry ∈ entries, entry.state ≠ .healthy := by
  have occurs := firstOf_ne_healthy ranked
  rcases List.mem_map.mp occurs with ⟨entry, member, same⟩
  exact ⟨entry, member, fun healthy => ranked (same.symm.trans healthy)⟩

theorem mem_localRoots {id root : String} {entries : List Entry} :
    root ∈ localRoots id entries ↔
      ∃ entry ∈ entries, entry.Failing ∧ root = id ++ "/" ++ entry.id := by
  simp only [localRoots, List.mem_map, List.mem_filter, Entry.Failing, Bool.and_eq_true,
    Bool.not_eq_true', decide_eq_true_eq, @eq_comm _ root]
  constructor
  · intro parts
    rcases parts with ⟨entry, ⟨⟨member, required⟩, unhealthy, own⟩, named⟩
    exact ⟨entry, member, ⟨required, own, unhealthy⟩, named⟩
  · intro parts
    rcases parts with ⟨entry, member, ⟨required, own, unhealthy⟩, named⟩
    exact ⟨entry, ⟨⟨member, required⟩, unhealthy, own⟩, named⟩

/-- The state of infrastructure blocks because of a failing check or a blocked dependency. -/
theorem itemState_blocking {entries : List Entry} {blocked : List String}
    (blocking : itemState entries blocked ∈ blockingStates) :
    (∃ entry ∈ entries, entry.Failing) ∨ blocked ≠ [] := by
  by_cases direct :
      rankState ((entries.filter Entry.required).filter (fun entry => !entry.derived)) = .healthy
  · refine .inr ?_
    intro unblocked
    simp only [itemState, direct, unblocked, ne_eq, not_true_eq_false, if_false,
      List.isEmpty_nil, Bool.not_true, Bool.false_eq_true] at blocking
    revert blocking
    split
    · decide
    · split <;> decide
  · rcases rankState_ne_healthy direct with ⟨entry, member, unhealthy⟩
    simp only [List.mem_filter, Bool.not_eq_true'] at member
    exact .inl ⟨entry, member.1.1, member.1.2, member.2, unhealthy⟩

theorem relevant_layers {name : String} (relevant : name ∈ relevantDomains) :
    ∃ layers, domainLayers.lookup name = some layers ∧ .externalReachability ∉ layers ∧
      .tls ∉ layers := by
  simp only [relevantDomains, List.mem_cons, List.not_mem_nil, or_false] at relevant
  rcases relevant with rfl | rfl | rfl | rfl <;> exact ⟨_, rfl, by decide, by decide⟩

theorem lookup_map_snd {α β : Type} (make : α → β) (table : List (String × α)) (key : String) :
    (table.map (fun row => (row.1, make row.2))).lookup key = (table.lookup key).map make := by
  induction table with
  | nil => rfl
  | cons row table ih =>
      rcases row with ⟨name, value⟩
      cases same : key == name <;> simp [List.lookup_cons, same, ih]

/-- The domains of a component block because of an entry that is not about access. -/
theorem domains_blocking {item : Item} {entries : List Entry}
    (made : item.domains = domains entries) (component : item.id ∉ infrastructureIds)
    (blocks : item.blocks = true) :
    ∃ entry ∈ entries, entry.state ≠ .healthy ∧ entry.layer ≠ .externalReachability ∧
      entry.layer ≠ .tls := by
  have outside : infrastructureIds.contains item.id = false := by simpa using component
  simp only [Item.blocks, outside, made, Bool.false_eq_true, if_false] at blocks
  rcases List.any_eq_true.mp blocks with ⟨name, relevant, blocking⟩
  rcases relevant_layers relevant with ⟨layers, found, reachability, tls⟩
  rw [domains, lookup_map_snd, found] at blocking
  simp only [Option.map_some, Option.any_some, domainOf] at blocking
  split at blocking
  · cases blocking
  · have unhealthy : rankState (entries.filter (fun entry => decide (entry.layer ∈ layers))) ≠
        .healthy := by
      intro healthy
      simp [healthy, blockingStates] at blocking
    rcases rankState_ne_healthy unhealthy with ⟨entry, member, state⟩
    rcases List.mem_filter.mp member with ⟨inside, layer⟩
    have layer := of_decide_eq_true layer
    exact ⟨entry, inside, state, fun same => reachability (same ▸ layer),
      fun same => tls (same ▸ layer)⟩

/-- An entry that is not about access fails, or its check was skipped. -/
theorem failing_or_blocked (sound : subject.Sound) {external : List Entry}
    (attached : ∀ entry ∈ external,
      entry.layer = .externalReachability ∨ entry.layer = .tls) {entry : Entry}
    (member : entry ∈ engine.checkEvidence probe subject results now ++ external)
    (unhealthy : entry.state ≠ .healthy) (reachability : entry.layer ≠ .externalReachability)
    (tls : entry.layer ≠ .tls) :
    entry.Failing ∨ blockedDependencies subject results ≠ [] := by
  rcases List.mem_append.mp member with own | route
  · rcases mem_checkEvidence.mp own with ⟨check, inside, _, rfl⟩ | ⟨check, inside, skipped, rfl⟩
    · exact .inl ⟨sound.required check inside, rfl, unhealthy⟩
    · rcases List.exists_mem_of_ne_nil _ skipped with ⟨dependency, blocker⟩
      exact .inr (List.ne_nil_of_mem (mem_blockedDependencies.mpr ⟨check, inside, blocker⟩))
  · rcases attached entry route with same | same
    · exact absurd same reachability
    · exact absurd same tls

end Entries

/-! ## Along an evaluation -/

theorem findItem_some {results : List Item} {id : String} {item : Item}
    (found : findItem results id = some item) : item ∈ results ∧ item.id = id :=
  ⟨List.mem_of_find?_eq_some found, by simpa using List.find?_some found⟩

theorem findItem_of_mem {results : List Item} {id : String}
    (member : id ∈ results.map Item.id) : ∃ item, findItem results id = some item := by
  rcases List.mem_map.mp member with ⟨item, inside, named⟩
  have found : (findItem results id).isSome = true :=
    List.find?_isSome.mpr ⟨item, inside, by simpa using named⟩
  exact Option.isSome_iff_exists.mp found

/-- A dependency that blocks a check is an item that blocks. -/
theorem blocker_found {results : List Item} {check : CheckSpec} {dependency : String}
    (known : dependency ∈ results.map Item.id) (blocker : dependency ∈ blockersOf results check) :
    ∃ item, findItem results dependency = some item ∧ item.blocks = true := by
  rcases findItem_of_mem known with ⟨item, found⟩
  have blocks := (List.mem_filter.mp blocker).2
  simp only [dependencyBlocks, found] at blocks
  exact ⟨item, found, blocks⟩

/-- What holds of the items so far. -/
structure Rooted (items : List Item) : Prop where
  real : ∀ item ∈ items, ∀ root ∈ item.rootCauses, RealRoot items item.id root
  blocking : ∀ item ∈ items, item.blocks = true → item.rootCauses ≠ []
  blocked : ∀ item ∈ items, item.blockedBy ≠ none → item.rootCauses ≠ []

section Step

variable {engine : HealthEngine} {probe : CheckSpec → Observation} {subject : Subject}
  {results : List Item} {now : Int} {item : Item}

/-- The root that a blocking dependency passes on is a root of that dependency. -/
theorem rootOf_blocker (rooted : Rooted results)
    (known : ∀ dependency ∈ subject.dependencies, dependency ∈ results.map Item.id)
    (sound : subject.Sound) {dependency root : String}
    (blocked : dependency ∈ blockedDependencies subject results)
    (passed : rootOf results dependency = .ok root) :
    dependency ∈ subject.dependencies ∧ RealRoot results dependency root := by
  rcases mem_blockedDependencies.mp blocked with ⟨check, inside, blocker⟩
  have listed := sound.gated check inside dependency (List.mem_filter.mp blocker).1
  rcases blocker_found (known dependency listed) blocker with ⟨source, found, blocks⟩
  rcases findItem_some found with ⟨member, named⟩
  have some_root := rooted.blocking source member blocks
  rcases List.exists_cons_of_ne_nil some_root with ⟨first, others, shape⟩
  simp only [rootOf, found, shape, List.head?_cons, Option.getD_some, Except.ok.injEq] at passed
  subst passed
  have real := rooted.real source member first (by simp [shape])
  exact ⟨listed, named ▸ real⟩

theorem rooted_concat (rooted : Rooted results)
    (known : ∀ dependency ∈ subject.dependencies, dependency ∈ results.map Item.id)
    (sound : subject.Sound) (run : engine.item probe subject results now = .ok item) :
    Rooted (results ++ [item]) := by
  rcases item_ok run with ⟨external, attached, made⟩
  have access : ∀ entry ∈ external, entry.layer = .externalReachability ∨ entry.layer = .tls :=
    fun entry member => (externalEvidence_external attached member).2.2.2
  rcases made.roots with ⟨roots, passed, rootCauses⟩
  have passed := mapM_ok.mp passed
  have covered : Covered results (results ++ [item]) :=
    fun other member => ⟨other, List.mem_append_left _ member, rfl, rfl, rfl⟩
  have own : item ∈ results ++ [item] := by simp
  have nonempty : (∃ entry ∈ item.evidence, entry.Failing) ∨
      blockedDependencies subject results ≠ [] → item.rootCauses ≠ [] := by
    intro cause
    rw [rootCauses]
    rcases cause with ⟨entry, member, failing⟩ | blocked
    · have root : subject.id ++ "/" ++ entry.id ∈ localRoots subject.id _ :=
        mem_localRoots.mpr ⟨entry, made.evidence ▸ member, failing, rfl⟩
      exact List.ne_nil_of_mem (List.mem_eraseDups.mpr (List.mem_append_right _ root))
    · have some_root : roots ≠ [] := by
        intro none
        subst none
        exact blocked (List.forall₂_nil_right_iff.mp passed)
      rcases List.exists_mem_of_ne_nil _ some_root with ⟨root, member⟩
      exact List.ne_nil_of_mem (List.mem_eraseDups.mpr (List.mem_append_left _ member))
  constructor
  · intro other member root cause
    rcases List.mem_append.mp member with before | last
    · exact (rooted.real other before root cause).mono covered
    · rcases List.mem_singleton.mp last with rfl
      rw [rootCauses] at cause
      rcases List.mem_append.mp (List.mem_eraseDups.mp cause) with inherited | direct
      · rcases made_mem passed inherited with ⟨dependency, blocked, from_it⟩
        rcases rootOf_blocker rooted known sound blocked from_it with ⟨listed, real⟩
        rcases real.mono covered with ⟨source, inside, path, failing⟩
        have edge : Lists (results ++ [other]) other.id dependency :=
          ⟨other, own, rfl, made.dependencies ▸ listed⟩
        exact ⟨source, inside, .head edge path, failing⟩
      · rcases mem_localRoots.mp direct with ⟨entry, inside, failing, named⟩
        exact ⟨other, own, .refl, entry, made.evidence ▸ inside, failing, made.id ▸ named⟩
  · intro other member blocks
    rcases List.mem_append.mp member with before | last
    · exact rooted.blocking other before blocks
    · rcases List.mem_singleton.mp last with rfl
      apply nonempty
      by_cases shared : other.id ∈ infrastructureIds
      · have inside : infrastructureIds.contains other.id = true := by simpa using shared
        simp only [Item.blocks, inside, if_true, made.state] at blocks
        rw [made.evidence]
        exact itemState_blocking (by simpa using blocks)
      · rcases domains_blocking made.domains shared blocks with
          ⟨entry, inside, unhealthy, reachability, tls⟩
        rcases failing_or_blocked sound access inside unhealthy reachability tls with
          failing | blocked
        · exact .inl ⟨entry, made.evidence ▸ inside, failing⟩
        · exact .inr blocked
  · intro other member blockedBy
    rcases List.mem_append.mp member with before | last
    · exact rooted.blocked other before blockedBy
    · rcases List.mem_singleton.mp last with rfl
      apply nonempty
      refine .inr ?_
      intro none
      exact blockedBy (by rw [made.blockedBy, none]; rfl)

end Step

section Run

variable {engine : HealthEngine} {order : SetOrder} {probe : CheckSpec → Observation} {now : Int}
  {subjects : List Subject} {items : List Item} {document : HealthDocument}

/-- The loop of `document`, round by round. -/
abbrev Rounds (engine : HealthEngine) (probe : CheckSpec → Observation) (now : Int) :
    List Subject → List Item → Prop :=
  Swept (fun subject results => engine.item probe subject results now)

theorem rounds_map_id (rounds : Rounds engine probe now subjects items) :
    items.map Item.id = subjects.map Subject.id := by
  apply rounds.map_name
  intro subject results item run
  rcases item_ok run with ⟨_, _, made⟩
  exact made.id

theorem rooted_of_rounds (rounds : Rounds engine probe now subjects items)
    (arranged : Arranged subjects) : Rooted items := by
  induction rounds with
  | nil => constructor <;> simp
  | @snoc subjects results subject item before run ih =>
      refine rooted_concat (ih arranged.front) ?_ (arranged.sound subject (by simp)) run
      intro dependency member
      rw [rounds_map_id before]
      exact arranged.evaluated member

theorem document_ok (run : engine.document order probe now = .ok document) :
    ∃ subjects items, engine.subjects order = .ok subjects ∧
      Rounds engine probe now subjects items ∧
      document.items = items.map (withImpact items) ∧
      document.state = aggregate document.items := by
  simp only [HealthEngine.document, bind_ok, pure_ok] at run
  rcases run with ⟨subjects, listed, items, evaluated, rfl⟩
  exact ⟨subjects, items, listed, sweep_swept evaluated, rfl, rfl⟩

/-! ## Names of checks -/

theorem slash_split {left right : List Char} {leftRest rightRest : List Char}
    (leftFree : '/' ∉ left) (rightFree : '/' ∉ right)
    (same : left ++ '/' :: leftRest = right ++ '/' :: rightRest) :
    left = right ∧ leftRest = rightRest := by
  induction left generalizing right with
  | nil =>
      cases right with
      | nil => simpa using same
      | cons head tail =>
          simp only [List.nil_append, List.cons_append, List.cons.injEq] at same
          exact absurd (List.mem_cons.mpr (.inl same.1)) rightFree
  | cons head tail ih =>
      cases right with
      | nil =>
          simp only [List.nil_append, List.cons_append, List.cons.injEq] at same
          exact absurd (List.mem_cons.mpr (.inl same.1.symm)) leftFree
      | cons other others =>
          simp only [List.cons_append, List.cons.injEq] at same
          simp only [List.mem_cons, not_or] at leftFree rightFree
          have rest := ih leftFree.2 rightFree.2 same.2
          exact ⟨by rw [same.1, rest.1], rest.2⟩

theorem name_injective {left right leftCheck rightCheck : String} (leftFree : '/' ∉ left.toList)
    (rightFree : '/' ∉ right.toList)
    (same : left ++ "/" ++ leftCheck = right ++ "/" ++ rightCheck) :
    left = right ∧ leftCheck = rightCheck := by
  have lists := congrArg String.toList same
  simp only [String.toList_append, List.append_assoc] at lists
  have parts := slash_split leftFree rightFree lists
  exact ⟨String.toList_inj.mp parts.1, String.toList_inj.mp parts.2⟩

/-! ## The document -/

/-- Every check was probed, or skipped for blocking items that were evaluated before. -/
structure Accounted (subject : Subject) (earlier : List Item) (item : Item) : Prop where
  found : ∀ check ∈ subject.checks, ∀ dependency ∈ check.dependencies,
    ∃ source, findItem earlier dependency = some source
  checked : ∀ check ∈ subject.checks, ∃ entry ∈ item.evidence,
    entry.id = check.id ∧ (entry.derived = false ∨ entry.blockedBy ≠ [])
  skipped : ∀ entry ∈ item.evidence, ∀ dependency ∈ entry.blockedBy,
    dependency ∈ item.dependencies ∧
      ∃ source, findItem earlier dependency = some source ∧ source.blocks = true

theorem accounted_of_item {subject : Subject} {earlier : List Item} {item : Item}
    (sound : subject.Sound)
    (known : ∀ dependency ∈ subject.dependencies, dependency ∈ earlier.map Item.id)
    (run : engine.item probe subject earlier now = .ok item) : Accounted subject earlier item := by
  rcases item_ok run with ⟨external, attached, made⟩
  constructor
  · intro check inside dependency gate
    exact findItem_of_mem (known dependency (sound.gated check inside dependency gate))
  · intro check inside
    rw [made.evidence]
    by_cases free : blockersOf earlier check = []
    · have probed : result engine.runtime engine.staleAfter check (probe check) now ∈
          engine.checkEvidence probe subject earlier now :=
        mem_checkEvidence.mpr (.inl ⟨check, inside, free, rfl⟩)
      exact ⟨_, List.mem_append_left _ probed, rfl, .inl rfl⟩
    · have skipped : unavailableEvidence engine.runtime check (blockersOf earlier check) now ∈
          engine.checkEvidence probe subject earlier now :=
        mem_checkEvidence.mpr (.inr ⟨check, inside, free, rfl⟩)
      exact ⟨_, List.mem_append_left _ skipped, rfl, .inr free⟩
  · intro entry member dependency blocker
    rw [made.evidence] at member
    rcases List.mem_append.mp member with own | route
    · rcases mem_checkEvidence.mp own with ⟨check, _, _, rfl⟩ | ⟨check, inside, _, rfl⟩
      · cases blocker
      · have listed := sound.gated check inside dependency (List.mem_filter.mp blocker).1
        exact ⟨made.dependencies ▸ listed, blocker_found (known dependency listed) blocker⟩
    · rw [(externalEvidence_external attached route).2.2.1] at blocker
      cases blocker

/-- A skipped check does not fail: it has one entry only. -/
theorem skipped_not_failing {subject : Subject} {earlier : List Item} {item : Item}
    (sound : subject.Sound) (run : engine.item probe subject earlier now = .ok item)
    {entry check : Entry} (member : entry ∈ item.evidence) (skipped : entry.blockedBy ≠ [])
    (inside : check ∈ item.evidence) (failing : check.Failing) : check.id ≠ entry.id := by
  rcases item_ok run with ⟨external, attached, made⟩
  rw [made.evidence] at member inside
  intro same
  rcases List.mem_append.mp inside with own | route
  · rcases mem_checkEvidence.mp own with ⟨first, listed, free, rfl⟩ | ⟨_, _, _, rfl⟩
    · rcases List.mem_append.mp member with other | route
      · rcases mem_checkEvidence.mp other with ⟨_, _, _, rfl⟩ | ⟨second, also, blocked, rfl⟩
        · exact skipped rfl
        · have equal : first = second := List.inj_on_of_nodup_map sound.distinct listed also same
          exact blocked (equal ▸ free)
      · exact skipped (externalEvidence_external attached route).2.2.1
    · exact absurd failing.2.1 (by simp [unavailableEvidence])
  · have derived := (externalEvidence_external attached route).1
    exact absurd failing.2.1 (by simp [derived])

/-- A root cause with the name of an entry is a failing check of that item with the same id. -/
theorem named_root (distinct : (items.map Item.id).Nodup)
    (slashless : ∀ item ∈ items, '/' ∉ item.id.toList) {source : Item} (member : source ∈ items)
    {id check : String} (real : RealRoot items id (source.id ++ "/" ++ check)) :
    ∃ entry ∈ source.evidence, entry.Failing ∧ entry.id = check := by
  rcases real with ⟨other, inside, _, entry, own, failing, named⟩
  rcases name_injective (slashless source member) (slashless other inside) named with
    ⟨sameSubject, sameCheck⟩
  have same : source = other := List.inj_on_of_nodup_map distinct member inside sameSubject
  exact ⟨entry, same ▸ own, failing, sameCheck.symm⟩

theorem findItem_withImpact (earlier : List Item) (id : String) :
    findItem (earlier.map (withImpact items)) id =
      (findItem earlier id).map (withImpact items) := by
  rw [findItem, List.find?_map]
  rfl

theorem Accounted.shown {subject : Subject} {earlier : List Item} {item : Item}
    (accounted : Accounted subject earlier item) :
    Accounted subject (earlier.map (withImpact items)) (withImpact items item) where
  found check inside dependency gate := by
    rcases accounted.found check inside dependency gate with ⟨source, found⟩
    exact ⟨withImpact items source, by rw [findItem_withImpact, found]; rfl⟩
  checked := accounted.checked
  skipped entry member dependency blocker := by
    rcases accounted.skipped entry member dependency blocker with ⟨listed, source, found, blocks⟩
    exact ⟨listed, withImpact items source, by rw [findItem_withImpact, found]; rfl, blocks⟩

end Run

/-- For every registry that was accepted, availability document and assignment of outcomes: a root
cause names a failing check of the item or of what it depends on, an item with `blockedBy` has a
root cause, no derived entry is one, and every skipped check was skipped for items that were
evaluated before and block. -/
theorem rootCauses_real (engine : HealthEngine) (valid : ValidHealth engine.registry)
    (order : SetOrder) (probe : CheckSpec → Observation) (now : Int) (document : HealthDocument)
    (run : engine.document order probe now = .ok document) :
    (∀ item ∈ document.items, ∀ root ∈ item.rootCauses,
      RealRoot document.items item.id root) ∧
    (∀ item ∈ document.items, item.blockedBy ≠ none → item.rootCauses ≠ []) ∧
    (∀ item ∈ document.items, ∀ source ∈ document.items, ∀ entry ∈ source.evidence,
      entry.derived = true → source.id ++ "/" ++ entry.id ∈ item.rootCauses →
        entry.blockedBy = [] ∧ ∃ check ∈ source.evidence, check.Failing ∧ check.id = entry.id) ∧
    ∃ subjects, engine.subjects order = .ok subjects ∧
      ∀ front subject back, subjects = front ++ subject :: back →
        ∃ earlier item later, document.items = earlier ++ item :: later ∧
          item.id = subject.id ∧ earlier.map Item.id = front.map Subject.id ∧
          Accounted subject earlier item := by
  rcases document_ok run with ⟨subjects, items, listed, rounds, shown, _⟩
  have arranged := arranged_of_subjects valid listed
  have rooted := rooted_of_rounds rounds arranged
  have covered : Covered items document.items := by
    intro item member
    rw [shown]
    exact ⟨withImpact items item, List.mem_map.mpr ⟨item, member, rfl⟩, rfl, rfl, rfl⟩
  have real : ∀ item ∈ document.items, ∀ root ∈ item.rootCauses,
      RealRoot document.items item.id root := by
    intro item member root cause
    rw [shown] at member
    rcases List.mem_map.mp member with ⟨original, inside, rfl⟩
    exact (rooted.real original inside root cause).mono covered
  refine ⟨real, ?_, ?_, subjects, listed, ?_⟩
  · intro item member blockedBy
    rw [shown] at member
    rcases List.mem_map.mp member with ⟨original, inside, rfl⟩
    exact rooted.blocked original inside blockedBy
  · intro item member source inside entry own _ cause
    have names : document.items.map Item.id = subjects.map Subject.id := by
      rw [shown, List.map_map]
      exact rounds_map_id rounds
    have slashless : ∀ other ∈ document.items, '/' ∉ other.id.toList := by
      intro other found
      have named : other.id ∈ subjects.map Subject.id := names ▸ List.mem_map_of_mem found
      rcases List.mem_map.mp named with ⟨subject, known, same⟩
      exact same ▸ (arranged.sound subject known).slashless
    have root := real item member _ cause
    rcases named_root (names ▸ arranged.distinct) slashless inside root with
      ⟨check, failed, failing, same⟩
    refine ⟨?_, check, failed, failing, same⟩
    rw [shown] at inside
    rcases List.mem_map.mp inside with ⟨original, evaluated, rfl⟩
    rcases rounds.of_mem evaluated with ⟨subject, known, earlier, made⟩
    by_contra skipped
    exact skipped_not_failing (arranged.sound subject known) made own skipped failed failing same
  · intro front subject back parts
    rcases rounds.split parts with ⟨earlier, item, later, split, before, made⟩
    subst parts
    have known : ∀ dependency ∈ subject.dependencies, dependency ∈ earlier.map Item.id := by
      intro dependency member
      rw [rounds_map_id before]
      exact arranged.evaluated member
    have accounted := accounted_of_item (arranged.sound subject (by simp)) known made
    rcases item_ok made with ⟨_, _, facts⟩
    refine ⟨earlier.map (withImpact items), withImpact items item, later.map (withImpact items),
      ?_, facts.id, ?_, accounted.shown⟩
    · simp [shown, split]
    · rw [List.map_map]
      exact rounds_map_id before

/-- The first evaluation of the shipped registry, where no probe answers. -/
theorem rootCauses_real_shipped : ∃ document,
    shippedHealthEngine.document .insertion unavailableProbe 0 = .ok document ∧
    (∀ item ∈ document.items, ∀ root ∈ item.rootCauses,
      RealRoot document.items item.id root) := by
  rcases exists_of_isOk (show (shippedHealthEngine.document .insertion unavailableProbe 0).isOk =
    true by decide +kernel) with ⟨document, run⟩
  exact ⟨document, run, (rootCauses_real shippedHealthEngine shippedHealth_valid .insertion
    unavailableProbe 0 document run).1⟩

end FortifyLab.Health
