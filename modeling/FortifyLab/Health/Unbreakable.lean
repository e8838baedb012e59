import FortifyLab.Health.Containment
import FortifyLab.Health.FalseGreen

/-! When an evaluation returns: what a probe says of replicas can break it. -/

namespace FortifyLab.Health

open Registry

/-! ## Replicas -/

/-- Fewer replicas are ready than desired. -/
def Short (observation : Observation) : Prop :=
  ∃ result desired ready, observation.outcome = .returned result ∧
    result.workloadPresent = some true ∧ result.desiredReplicas = some desired ∧
    result.readyReplicas = some ready ∧ ready < desired

/-- Replicas are desired, and nothing is said of how many are ready. -/
def Incomplete (observation : Observation) : Prop :=
  ∃ result desired, observation.outcome = .returned result ∧
    result.workloadPresent = some true ∧ result.desiredReplicas = some desired ∧
    result.readyReplicas = none

/-- An incomplete answer before any that is short. -/
def Clash (observations : List Observation) : Prop :=
  ∃ front last back, observations = front ++ last :: back ∧ Incomplete last ∧
    ∀ earlier ∈ front, ¬ Short earlier

theorem not_clash_nil : ¬ Clash [] := by
  intro clash
  rcases clash with ⟨front, last, back, split, _⟩
  simp at split

theorem clash_cons {first : Observation} {rest : List Observation} :
    Clash (first :: rest) ↔ Incomplete first ∨ ¬ Short first ∧ Clash rest := by
  constructor
  · intro clash
    rcases clash with ⟨front, last, back, split, incomplete, none⟩
    cases front with
    | nil =>
        simp only [List.nil_append, List.cons.injEq] at split
        exact .inl (split.1 ▸ incomplete)
    | cons head front =>
        simp only [List.cons_append, List.cons.injEq] at split
        refine .inr ⟨split.1 ▸ none head List.mem_cons_self, front, last, back, split.2,
          incomplete, ?_⟩
        intro earlier member
        exact none earlier (List.mem_cons_of_mem _ member)
  · intro cause
    rcases cause with incomplete | ⟨full, front, last, back, split, incomplete, none⟩
    · exact ⟨[], first, rest, rfl, incomplete, by simp⟩
    · refine ⟨first :: front, last, back, by simp [split], incomplete, ?_⟩
      intro earlier member
      rcases List.mem_cons.mp member with rfl | later
      · exact full
      · exact none earlier later

section Test

variable {runtime : Runtime} {staleAfter now : Int} {check : CheckSpec}
  {observation : Observation} {entry : Entry} {rest : List Entry}

theorem mismatch_incomplete (layer : check.layer = .workload)
    (incomplete : Incomplete observation) :
    (result runtime staleAfter check observation now).workload.map Workload.mismatch =
      some (.error .typeError) := by
  rcases incomplete with ⟨answer, desired, returned, present, wanted, silent⟩
  simp [result, layer, returned, present, wanted, silent, Workload.mismatch]

theorem mismatch_short (layer : check.layer = .workload) (short : Short observation) :
    (result runtime staleAfter check observation now).workload.map Workload.mismatch =
      some (.ok true) := by
  rcases short with ⟨answer, desired, ready, returned, present, wanted, counted, fewer⟩
  simp [result, layer, returned, present, wanted, counted, Workload.mismatch, fewer]

theorem mismatch_full (layer : check.layer = .workload) (complete : ¬ Incomplete observation)
    (full : ¬ Short observation) :
    (result runtime staleAfter check observation now).workload = none ∨
      (result runtime staleAfter check observation now).workload.map Workload.mismatch =
        some (.ok false) := by
  cases returned : observation.outcome with
  | late => simp [result, layer, returned]
  | raised timedOut => simp [result, layer, returned]
  | returned answer =>
      refine .inr ?_
      simp only [result, layer, returned, if_true, Option.map_some, Workload.mismatch]
      cases present : answer.workloadPresent with
      | none => rfl
      | some here =>
          cases here with
          | false => rfl
          | true =>
              cases wanted : answer.desiredReplicas with
              | none => rfl
              | some desired =>
                  cases counted : answer.readyReplicas with
                  | none =>
                      exact absurd ⟨answer, desired, returned, present, wanted, counted⟩ complete
                  | some ready =>
                      have enough : ¬ ready < desired := fun fewer =>
                        full ⟨answer, desired, ready, returned, present, wanted, counted, fewer⟩
                      simp [enough]

theorem anyMismatch_raises {error : HealthError}
    (raises : entry.workload.map Workload.mismatch = some (.error error)) :
    anyMismatch (entry :: rest) = .error error := by
  rcases Option.map_eq_some_iff.mp raises with ⟨workload, found, tested⟩
  simp only [anyMismatch, found, tested]
  rfl

theorem anyMismatch_stops (stops : entry.workload.map Workload.mismatch = some (.ok true)) :
    anyMismatch (entry :: rest) = .ok true := by
  rcases Option.map_eq_some_iff.mp stops with ⟨workload, found, tested⟩
  simp only [anyMismatch, found, tested]
  rfl

theorem anyMismatch_goes_on (goes : entry.workload = none ∨
    entry.workload.map Workload.mismatch = some (.ok false)) :
    anyMismatch (entry :: rest) = anyMismatch rest := by
  rcases goes with none | some
  · simp only [anyMismatch, none]
  · rcases Option.map_eq_some_iff.mp some with ⟨workload, found, tested⟩
    simp only [anyMismatch, found, tested]
    rfl

end Test

section Item

variable {engine : HealthEngine} {probe : CheckSpec → Observation} {now : Int}
  {subject : Subject} {results : List Item}

theorem anyMismatch_probed {checks : List CheckSpec}
    (layers : ∀ check ∈ checks, check.layer = .workload) :
    (∃ mismatch, anyMismatch (checks.map (fun check =>
        result engine.runtime engine.staleAfter check (probe check) now)) = .ok mismatch) ↔
      ¬ Clash (checks.map probe) := by
  induction checks with
  | nil => simp [anyMismatch, not_clash_nil]
  | cons check checks ih =>
      have later := ih (fun other member => layers other (List.mem_cons_of_mem _ member))
      have layer := layers check List.mem_cons_self
      simp only [List.map_cons, clash_cons]
      by_cases incomplete : Incomplete (probe check)
      · rw [anyMismatch_raises (mismatch_incomplete layer incomplete)]
        simp [incomplete]
      · by_cases short : Short (probe check)
        · rw [anyMismatch_stops (mismatch_short layer short)]
          simp [incomplete, short]
        · rw [anyMismatch_goes_on (mismatch_full layer incomplete short), later]
          simp [incomplete, short]

theorem anyMismatch_skipped {checks : List CheckSpec} {blockers : CheckSpec → List String} :
    anyMismatch (checks.map (fun check =>
      unavailableEvidence engine.runtime check (blockers check) now)) = .ok false := by
  induction checks with
  | nil => rfl
  | cons check checks ih =>
      rw [List.map_cons, anyMismatch_goes_on (.inl rfl), ih]

/-- The workload checks of a subject. -/
def Subject.workloadChecks (subject : Subject) : List CheckSpec :=
  subject.checks.filter (fun check => decide (check.layer = .workload))

theorem workload_blockers (sound : subject.Sound) {check : CheckSpec}
    (member : check ∈ subject.workloadChecks) :
    blockersOf results check =
      if dependencyBlocks results "microk8s-node" then ["microk8s-node"] else [] := by
  rcases List.mem_filter.mp member with ⟨inside, layer⟩
  rw [blockersOf, sound.workload check inside (of_decide_eq_true layer)]
  cases blocks : dependencyBlocks results "microk8s-node" <;> simp [blocks]

/-- The workload entries: of all workload checks of the subject, probed or skipped. -/
theorem workload_entries (sound : subject.Sound) {external : List Entry}
    (access : ∀ entry ∈ external, entry.layer = .externalReachability ∨ entry.layer = .tls) :
    (engine.checkEvidence probe subject results now ++ external).filter
        (fun entry => decide (entry.layer = .workload)) =
      if dependencyBlocks results "microk8s-node" then
        subject.workloadChecks.map (fun check =>
          unavailableEvidence engine.runtime check (blockersOf results check) now)
      else subject.workloadChecks.map (fun check =>
        result engine.runtime engine.staleAfter check (probe check) now) := by
  have none : external.filter (fun entry => decide (entry.layer = .workload)) = [] := by
    apply List.filter_eq_nil_iff.mpr
    intro entry member
    rcases access entry member with layer | layer <;> simp [layer]
  have workload : ∀ keep : CheckSpec → Bool,
      (subject.checks.filter keep).filter (fun check => decide (check.layer = .workload)) =
        subject.workloadChecks.filter keep := by
    intro keep
    simp only [Subject.workloadChecks, List.filter_filter, Bool.and_comm]
  have probed : ∀ check ∈ subject.workloadChecks, (blockersOf results check).isEmpty =
      !dependencyBlocks results "microk8s-node" := by
    intro check member
    rw [workload_blockers sound member]
    cases dependencyBlocks results "microk8s-node" <;> rfl
  have free : subject.workloadChecks.filter (fun check => (blockersOf results check).isEmpty) =
      subject.workloadChecks.filter (fun _ => !dependencyBlocks results "microk8s-node") :=
    List.filter_congr probed
  have gated : subject.workloadChecks.filter (fun check => !(blockersOf results check).isEmpty) =
      subject.workloadChecks.filter (fun _ => dependencyBlocks results "microk8s-node") :=
    List.filter_congr (fun check member => by rw [probed check member, Bool.not_not])
  have layers : ∀ check, (result engine.runtime engine.staleAfter check (probe check) now).layer =
      check.layer := fun _ => rfl
  have skippedLayers : ∀ check,
      (unavailableEvidence engine.runtime check (blockersOf results check) now).layer =
        check.layer := fun _ => rfl
  simp only [HealthEngine.checkEvidence, List.filter_append, none, List.append_nil,
    List.filter_map, Function.comp_def, layers, skippedLayers, workload, free, gated]
  cases dependencyBlocks results "microk8s-node" <;> simp

theorem dimensions_isOk {entries : List Entry} {blockedBy : Option String} :
    (∃ projected, dimensions entries blockedBy = .ok projected) ↔
      ∃ mismatch, anyMismatch (entries.filter (fun entry => decide (entry.layer = .workload))) =
        .ok mismatch := by
  simp only [dimensions, bind_ok, pure_ok]
  constructor
  · intro parts
    rcases parts with ⟨_, mismatch, tested, _⟩
    exact ⟨mismatch, tested⟩
  · intro parts
    rcases parts with ⟨mismatch, tested⟩
    exact ⟨_, mismatch, tested, rfl⟩

/-- The dimensions of an item are projected unless the node is up and its workload answers
clash. -/
theorem dimensions_ok_iff (sound : subject.Sound) {external : List Entry}
    (access : ∀ entry ∈ external, entry.layer = .externalReachability ∨ entry.layer = .tls)
    {blockedBy : Option String} :
    (∃ projected, dimensions (engine.checkEvidence probe subject results now ++ external)
        blockedBy = .ok projected) ↔
      (dependencyBlocks results "microk8s-node" = false →
        ¬ Clash (subject.workloadChecks.map probe)) := by
  have layers : ∀ check ∈ subject.workloadChecks, check.layer = .workload := by
    intro check member
    exact of_decide_eq_true (List.mem_filter.mp member).2
  have probed := @anyMismatch_probed engine probe now _ layers
  rw [dimensions_isOk, workload_entries sound access]
  cases dependencyBlocks results "microk8s-node" with
  | false => simpa using probed
  | true =>
      have skipped := @anyMismatch_skipped engine now subject.workloadChecks (blockersOf results)
      simp [skipped]

/-! ## External evidence -/

/-- An item of the documented availability document, as far as it is read. -/
structure DocumentedItem (item : Value) : Prop where
  object : ∃ fields, item = .obj fields
  state : ∃ text, item.get "state" = some (.str text)
  tls : ∃ text, item.get "tls" = some (.str text)
  latencyMs : item.get "latencyMs" = some .null ∨
    ∃ number : Nat, item.get "latencyMs" = some (.int number)
  checkedAt : item.get "checkedAt" = some .null ∨ ∃ text, item.get "checkedAt" = some (.str text)

/-- There is no availability document, or one of the documented shape. -/
def Documented (availability : Value) : Prop :=
  availability.truthy = false ∨ ∃ fields items, availability = .obj fields ∧
    fields.lookup "items" = some (.arr items) ∧ ∀ item ∈ items, DocumentedItem item

/-- The time that an item was checked at has a time in UTC, if it is read. -/
def TimeInRange (runtime : Runtime) (now : Int) (item : Value) : Prop :=
  ∀ text time, checkedText runtime item now = .str text →
    runtime.fromisoformat (text.replace "Z" "+00:00") = some time → inUtc time ≠ none

/-- The item attached to the id, if there is one, was checked at a time in range. -/
def AttachedInRange (engine : HealthEngine) (now : Int) (id : String) : Prop :=
  ∀ items item, availabilityItems engine.availability = .ok items →
    firstItem id items = .ok (some item) → TimeInRange engine.runtime now item

theorem availabilityItems_documented {availability : Value} (documented : Documented availability) :
    ∃ items, availabilityItems availability = .ok items ∧ ∀ item ∈ items, DocumentedItem item := by
  rcases documented with empty | ⟨fields, items, rfl, listed, shapes⟩
  · exact ⟨[], by simp [availabilityItems, empty], by simp⟩
  · have present : (Value.obj fields).truthy = true := by
      cases fields with
      | nil => cases listed
      | cons field fields => rfl
    exact ⟨items, by simp [availabilityItems, present, listed], shapes⟩

theorem firstItem_documented {id : String} {items : List Value}
    (shapes : ∀ item ∈ items, DocumentedItem item) :
    ∃ found, firstItem id items = .ok found ∧ ∀ item, found = some item → DocumentedItem item := by
  induction items with
  | nil => exact ⟨none, rfl, by simp⟩
  | cons item items ih =>
      rcases (shapes item List.mem_cons_self).object with ⟨fields, rfl⟩
      simp only [firstItem]
      split
      · refine ⟨_, rfl, ?_⟩
        intro other same
        cases same
        exact shapes _ List.mem_cons_self
      · exact ih (fun other member => shapes other (List.mem_cons_of_mem _ member))

theorem checkedAt_ok_iff {item : Value} :
    (∃ judged, checkedAt engine.runtime engine.staleAfter item now = .ok judged) ↔
      TimeInRange engine.runtime now item := by
  constructor
  · intro ended text time shown read utc
    rcases ended with ⟨judged, run⟩
    simp only [checkedAt, shown, read, utc] at run
    cases run
  · intro inRange
    unfold checkedAt
    split
    · next text shown =>
        split
        · exact ⟨_, rfl⟩
        · next time read =>
            split
            · next utc => exact absurd utc (inRange text time shown read)
            · exact ⟨_, rfl⟩
    · exact ⟨_, rfl⟩

theorem itemEvidence_ok_iff {item : Value} (documented : DocumentedItem item) :
    (∃ entries, itemEvidence engine.runtime engine.staleAfter item now = .ok entries) ↔
      TimeInRange engine.runtime now item := by
  rcases documented.state with ⟨state, hasState⟩
  rcases documented.tls with ⟨tls, hasTlsText⟩
  have latency : ∃ number, wholeNumber engine.runtime (item.get "latencyMs") = .ok number := by
    rcases documented.latencyMs with null | ⟨number, given⟩
    · exact ⟨0, by rw [null]; rfl⟩
    · rw [given]
      cases number with
      | zero => exact ⟨0, rfl⟩
      | succ number => exact ⟨(number + 1 : Nat), rfl⟩
  rcases latency with ⟨number, latency⟩
  rw [← checkedAt_ok_iff]
  constructor
  · intro ended
    rcases ended with ⟨entries, run⟩
    simp only [itemEvidence, bind_ok] at run
    rcases run with ⟨_, _, _, _, judged, time, _⟩
    exact ⟨judged, time⟩
  · intro ended
    rcases ended with ⟨judged, time⟩
    simp only [itemEvidence, hasState, hasTlsText, stateOf, time, latency, bind_ok]
    by_cases certified : hasTls item = true
    · exact ⟨_, _, rfl, _, rfl, _, rfl, _, rfl, by rw [if_pos certified]; rfl⟩
    · exact ⟨_, _, rfl, _, rfl, _, rfl, _, rfl, by rw [if_neg certified]; rfl⟩

theorem externalEvidence_ok_iff (documented : Documented engine.availability) {id : String} :
    (∃ entries, externalEvidence engine.runtime engine.staleAfter engine.availability id now =
        .ok entries) ↔ AttachedInRange engine now id := by
  rcases availabilityItems_documented documented with ⟨items, listed, shapes⟩
  rcases @firstItem_documented id items shapes with ⟨found, first, shape⟩
  simp only [externalEvidence, listed, bind_ok, Except.ok.injEq, exists_eq_left', first]
  cases found with
  | none =>
      constructor
      · intro _ others item alsoListed alsoFirst
        rw [listed, Except.ok.injEq] at alsoListed
        rw [← alsoListed, first] at alsoFirst
        cases alsoFirst
      · intro _
        exact ⟨[], rfl⟩
  | some item =>
      rw [itemEvidence_ok_iff (shape item rfl)]
      constructor
      · intro inRange others other alsoListed alsoFirst
        rw [listed, Except.ok.injEq] at alsoListed
        rw [← alsoListed, first] at alsoFirst
        cases alsoFirst
        exact inRange
      · intro inRange
        exact inRange items item listed first

/-- The round of a subject ends with an item exactly when its external evidence is read and its
dimensions are projected. -/
theorem item_ok_iff (documented : Documented engine.availability) (sound : subject.Sound)
    (known : ∀ dependency ∈ subject.dependencies, dependency ∈ results.map Item.id) :
    (∃ item, engine.item probe subject results now = .ok item) ↔
      AttachedInRange engine now subject.id ∧
        (dependencyBlocks results "microk8s-node" = false →
          ¬ Clash (subject.workloadChecks.map probe)) := by
  rw [← externalEvidence_ok_iff documented]
  constructor
  · intro ended
    rcases ended with ⟨item, run⟩
    simp only [HealthEngine.item, evaluate, bind_ok] at run
    rcases run with ⟨external, attached, _, _, projected, dimensioned, _⟩
    have access : ∀ entry ∈ external, entry.layer = .externalReachability ∨ entry.layer = .tls :=
      fun entry member => (externalEvidence_external attached member).2.2.2
    exact ⟨⟨external, attached⟩, (dimensions_ok_iff sound access).mp ⟨projected, dimensioned⟩⟩
  · intro parts
    rcases parts with ⟨⟨external, attached⟩, calm⟩
    have access : ∀ entry ∈ external, entry.layer = .externalReachability ∨ entry.layer = .tls :=
      fun entry member => (externalEvidence_external attached member).2.2.2
    have roots : ∃ roots, (blockedDependencies subject results).mapM (rootOf results) =
        .ok roots := by
      refine mapM_isOk.mpr ?_
      intro dependency blocked
      rcases mem_blockedDependencies.mp blocked with ⟨check, inside, blocker⟩
      have listed := sound.gated check inside dependency (List.mem_filter.mp blocker).1
      rcases findItem_of_mem (known dependency listed) with ⟨item, found⟩
      exact ⟨item.rootCauses.head?.getD dependency, by simp only [rootOf, found]⟩
    rcases roots with ⟨roots, passed⟩
    have projects := @dimensions_ok_iff engine probe now subject results sound external access
      (blockedDependencies subject results).head?
    rcases projects.mpr calm with ⟨projected, dimensioned⟩
    simp only [HealthEngine.item, evaluate, bind_ok, attached, passed]
    exact ⟨_, _, rfl, _, rfl, _, dimensioned, rfl⟩

end Item

/-! ## The node -/

/-- The only check of the node. -/
def nodeCheck : CheckSpec where
  id := "node-ready"
  subjectId := "microk8s-node"
  layer := .infrastructure
  probeType := "node-ready"
  target := "node"
  timeoutSeconds := 10
  required := true
  dependencies := []

/-- The node answered in time, and what it answered does not block. -/
def NodeUsable (engine : HealthEngine) (probe : CheckSpec → Observation) (now : Int) : Prop :=
  Answered .healthy engine.staleAfter now (probe nodeCheck) ∨
    Answered .degraded engine.staleAfter now (probe nodeCheck)

section Node

variable {engine : HealthEngine} {probe : CheckSpec → Observation} {now : Int}
  {subject : Subject} {results : List Item}

def nodeSubject : Subject :=
  infrastructureSubject "microk8s-node" "MicroK8s node" [] .infrastructure "node-ready" "node"

theorem result_not_blocked {runtime : Runtime} {staleAfter now : Int} {check : CheckSpec}
    {observation : Observation} :
    (result runtime staleAfter check observation now).state ≠ .blocked := by
  intro blocked
  rcases (result_state_iff (by decide) (by decide)).mp blocked with ⟨answer, _, _, same, _⟩
  exact answer.probed.1 same

theorem rankState_singleton {entry : Entry} (notBlocked : entry.state ≠ .blocked) :
    rankState [entry] = entry.state := by
  cases state : entry.state <;> simp_all [rankState, firstOf, directPrecedence]

theorem node_state {external : List Entry} {entry : Entry} (own : entry.derived = false)
    (required : entry.required = true) (notBlocked : entry.state ≠ .blocked)
    (attached : ∀ other ∈ external, other.derived = true) :
    itemState ([entry] ++ external) [] ∉ blockingStates ↔
      entry.state = .healthy ∨ entry.state = .degraded := by
  have direct : (([entry] ++ external).filter Entry.required).filter (fun other => !other.derived) =
      [entry] := by
    have none : (external.filter Entry.required).filter (fun other => !other.derived) = [] := by
      apply List.filter_eq_nil_iff.mpr
      intro other member
      simp [attached other (List.mem_of_mem_filter member)]
    simp [required, own] at none ⊢
    exact none
  by_cases healthy : entry.state = .healthy
  · have calm : itemState ([entry] ++ external) [] = .degraded ∨
        itemState ([entry] ++ external) [] = .healthy := by
      simp only [itemState, direct, rankState_singleton notBlocked, healthy, ne_eq,
        not_true_eq_false, if_false, List.isEmpty_nil, Bool.not_true, Bool.false_eq_true]
      split
      · exact .inl rfl
      · split
        · exact .inl rfl
        · exact .inr rfl
    rcases calm with same | same <;> rw [same] <;> simp [healthy, blockingStates]
  · have state : itemState ([entry] ++ external) [] = entry.state := by
      simp only [itemState, direct, rankState_singleton notBlocked, ne_eq, healthy,
        not_false_eq_true, if_true]
    rw [state]
    cases shown : entry.state <;> simp_all [blockingStates]

/-- The node keeps workload checks from being probed exactly when it is not usable. -/
theorem node_blocks_iff {item : Item}
    (run : engine.item probe nodeSubject [] now = .ok item) :
    item.blocks = false ↔ NodeUsable engine probe now := by
  rcases item_ok run with ⟨external, attached, made⟩
  have entries : engine.checkEvidence probe nodeSubject [] now =
      [result engine.runtime engine.staleAfter nodeCheck (probe nodeCheck) now] := rfl
  have shared : infrastructureIds.contains item.id = true := by
    rw [made.id]
    rfl
  have state : item.blocks = false ↔ item.state ∉ blockingStates := by
    rw [Item.blocks, if_pos shared]
    simp
  rw [state, made.state, entries, show blockedDependencies nodeSubject [] = [] from rfl,
    node_state rfl rfl result_not_blocked
      (fun other member => (externalEvidence_external attached member).1),
    result_state_iff (by decide) (by decide), result_state_iff (by decide) (by decide)]
  exact Iff.rfl

/-- After the node, what keeps workload checks from being probed is the node alone. -/
theorem node_blocks_of_rounds {rest : List Subject}
    (rounds : Rounds engine probe now (nodeSubject :: rest) results) :
    dependencyBlocks results "microk8s-node" = false ↔ NodeUsable engine probe now := by
  rcases rounds.split (show nodeSubject :: rest = [] ++ nodeSubject :: rest from rfl) with
    ⟨earlier, item, later, rfl, before, made⟩
  have none : earlier = [] := List.eq_nil_of_length_eq_zero before.length
  subst none
  rcases item_ok made with ⟨_, _, facts⟩
  have found : findItem ([] ++ item :: later) "microk8s-node" = some item := by
    have named : item.id = "microk8s-node" := facts.id
    simp [findItem, named]
  simp only [dependencyBlocks, found]
  exact node_blocks_iff made

end Node

/-! ## The document -/

/-- What a declared workload check of a component becomes. -/
def workloadCheck (componentId : ComponentId) (declared : DeclaredCheck) : CheckSpec where
  id := declared.id
  subjectId := componentId
  layer := .workload
  probeType := declared.type
  target := declared.target
  timeoutSeconds := min declared.timeoutSeconds 30
  required := declared.required
  dependencies := ["microk8s-node"]

/-- The required workload checks that the registry declares for a component. -/
def workloadChecks (registry : HealthRegistry) (componentId : ComponentId) : List CheckSpec :=
  ((registry.checks componentId).filter (fun declared =>
    declared.required && decide (declared.type = "workload-ready"))).map
      (workloadCheck componentId)

theorem workload_type {type : String} :
    componentLayers.lookup type = some .workload ↔ type = "workload-ready" := by
  rw [lookup_iff_mem (by decide)]
  simp [componentLayers]

theorem specs_workload {componentId : ComponentId} {dependencies : List String}
    {declared : List DeclaredCheck} {checks : List CheckSpec}
    (specs : List.Forall₂ (fun one check => checkSpec componentId dependencies one = .ok check)
      declared checks) :
    checks.filter (fun check => decide (check.layer = .workload)) =
      (declared.filter (fun one => decide (one.type = "workload-ready"))).map
        (workloadCheck componentId) := by
  induction specs with
  | nil => rfl
  | @cons one check declared checks first _ ih =>
      rcases checkSpec_ok.mp first with ⟨layer, known, rfl⟩
      by_cases workload : layer = .workload
      · subst workload
        have type := workload_type.mp known
        simp only [List.filter_cons, type, decide_true, if_true, List.map_cons, ih, workloadCheck]
        rfl
      · have type : one.type ≠ "workload-ready" := by
          intro same
          rw [workload_type.mpr same] at known
          exact workload (Option.some.inj known).symm
        simp only [List.filter_cons, workload, type, decide_false, Bool.false_eq_true, if_false, ih]

theorem componentSubject_workloadChecks {registry : HealthRegistry} {componentId : ComponentId}
    {subject : Subject} (made : componentSubject registry componentId = .ok subject) :
    subject.workloadChecks = workloadChecks registry componentId := by
  rcases componentSubject_ok.mp made with ⟨checks, specs, rfl⟩
  simp only [Subject.workloadChecks, specs_workload specs, List.filter_filter, workloadChecks,
    Bool.and_comm]

theorem infrastructure_workloadChecks {subject : Subject}
    (member : subject ∈ infrastructureSubjects) : subject.workloadChecks = [] := by
  simp only [infrastructureSubjects, List.mem_cons, List.not_mem_nil, or_false] at member
  rcases member with rfl | rfl | rfl | rfl | rfl <;> rfl

variable {engine : HealthEngine} {order : SetOrder} {probe : CheckSpec → Observation} {now : Int}
  {subjects : List Subject}

/-- The checks that a run depends on to return, with the answers as they are. -/
structure Calm (engine : HealthEngine) (probe : CheckSpec → Observation) (now : Int) : Prop where
  types : ∀ componentId ∈ engine.registry.registry.componentIds,
    ∀ declared ∈ engine.registry.checks componentId, declared.required = true →
      declared.type ∈ componentLayers.map Prod.fst
  times : ∀ id, id ∈ infrastructureIds ∨ id ∈ engine.registry.registry.componentIds →
    AttachedInRange engine now id
  replicas : NodeUsable engine probe now →
    ∀ componentId ∈ engine.registry.registry.componentIds,
      ¬ Clash ((workloadChecks engine.registry componentId).map probe)

theorem checkSpec_isOk {componentId : ComponentId} {dependencies : List String}
    {declared : DeclaredCheck} :
    (∃ check, checkSpec componentId dependencies declared = .ok check) ↔
      declared.type ∈ componentLayers.map Prod.fst := by
  simp only [checkSpec_ok]
  constructor
  · intro parts
    rcases parts with ⟨_, layer, known, _⟩
    exact List.mem_map_of_mem ((lookup_iff_mem (by decide)).mp known)
  · intro member
    rcases List.mem_map.mp member with ⟨⟨type, layer⟩, listed, same⟩
    exact ⟨_, layer, (lookup_iff_mem (by decide)).mpr (same ▸ listed), rfl⟩

/-- The subjects are listed exactly when the type of every required check is known. -/
theorem subjects_isOk (valid : ValidHealth engine.registry) :
    (∃ subjects, engine.subjects order = .ok subjects) ↔
      ∀ componentId ∈ engine.registry.registry.componentIds,
        ∀ declared ∈ engine.registry.checks componentId, declared.required = true →
          declared.type ∈ componentLayers.map Prod.fst := by
  rcases valid.valid.dependencyOrder_ok order [] (by simp) with ⟨ordered, sorted⟩
  have member : ∀ componentId, componentId ∈ ordered ↔
      componentId ∈ engine.registry.registry.componentIds := by
    intro componentId
    constructor
    · exact ordered_declared valid sorted
    · intro known
      refine (ComponentRegistry.dependencyOrder_mem sorted componentId).mpr
        (DependencyGraph.Closure.of_mem ?_)
      simpa [ComponentRegistry.selection] using known
  have component : ∀ componentId,
      (∃ subject, componentSubject engine.registry componentId = .ok subject) ↔
        ∀ declared ∈ engine.registry.checks componentId, declared.required = true →
          declared.type ∈ componentLayers.map Prod.fst := by
    intro componentId
    have made : (∃ subject, componentSubject engine.registry componentId = .ok subject) ↔
        ∃ checks, ((engine.registry.checks componentId).filter DeclaredCheck.required).mapM
          (checkSpec componentId (engine.registry.registry.dependencies componentId)) =
            .ok checks := by
      simp only [componentSubject_ok, ← mapM_ok]
      constructor
      · intro parts
        rcases parts with ⟨_, checks, run, _⟩
        exact ⟨checks, run⟩
      · intro parts
        rcases parts with ⟨checks, run⟩
        exact ⟨_, checks, run, rfl⟩
    rw [made, mapM_isOk]
    simp only [List.mem_filter, checkSpec_isOk, and_imp]
  have listed : (∃ subjects, engine.subjects order = .ok subjects) ↔
      ∃ components, ordered.mapM (componentSubject engine.registry) = .ok components := by
    simp only [subjects_ok, sorted, ← mapM_ok, Except.ok.injEq]
    constructor
    · intro parts
      rcases parts with ⟨_, _, components, rfl, run, _⟩
      exact ⟨components, run⟩
    · intro parts
      rcases parts with ⟨components, run⟩
      exact ⟨_, ordered, components, rfl, run, rfl⟩
  rw [listed, mapM_isOk]
  simp only [member, component]

/-- A subject comes from the infrastructure, or from a component of the registry. -/
theorem mem_subjects (valid : ValidHealth engine.registry)
    (run : engine.subjects order = .ok subjects) {subject : Subject} (member : subject ∈ subjects) :
    subject ∈ infrastructureSubjects ∨
      subject.id ∈ engine.registry.registry.componentIds ∧
        subject.workloadChecks = workloadChecks engine.registry subject.id := by
  rcases subjects_ok.mp run with ⟨ordered, components, sorted, made, rfl⟩
  rcases List.mem_append.mp member with shared | component
  · exact .inl shared
  · rcases made_mem made component with ⟨componentId, inside, one⟩
    have named := componentSubject_id one
    exact .inr ⟨named ▸ ordered_declared valid sorted inside,
      named ▸ componentSubject_workloadChecks one⟩

theorem infrastructure_id {subject : Subject} (member : subject ∈ infrastructureSubjects) :
    subject.id ∈ infrastructureIds :=
  infrastructure_map_id ▸ List.mem_map_of_mem member

/-- The subjects begin with the node. -/
theorem subjects_node (run : engine.subjects order = .ok subjects) :
    ∃ rest, subjects = nodeSubject :: rest := by
  rcases subjects_ok.mp run with ⟨_, components, _, _, rfl⟩
  exact ⟨_, rfl⟩

/-- What a round needs beyond the rounds before it. -/
theorem round_ok_iff (valid : ValidHealth engine.registry)
    (documented : Documented engine.availability) (run : engine.subjects order = .ok subjects)
    {front back : List Subject} {subject : Subject} {results : List Item}
    (parts : subjects = front ++ subject :: back)
    (rounds : Rounds engine probe now front results) :
    (∃ item, engine.item probe subject results now = .ok item) ↔
      AttachedInRange engine now subject.id ∧ (NodeUsable engine probe now →
        ¬ Clash (subject.workloadChecks.map probe)) := by
  have arranged := arranged_of_subjects valid run
  subst parts
  have known : ∀ dependency ∈ subject.dependencies, dependency ∈ results.map Item.id := by
    intro dependency member
    rw [rounds_map_id rounds]
    exact arranged.evaluated member
  rw [item_ok_iff documented (arranged.sound subject (by simp)) known]
  rcases subjects_node run with ⟨rest, node⟩
  cases front with
  | nil =>
      simp only [List.nil_append, List.cons.injEq] at node
      have none : subject.workloadChecks = [] := by
        rw [node.1]
        rfl
      simp [none, not_clash_nil]
  | cons first front =>
      simp only [List.cons_append, List.cons.injEq] at node
      rw [node.1] at rounds
      rw [node_blocks_of_rounds rounds]

/-- For every accepted registry and documented availability document, an evaluation returns one
item for each subject, and each answer changes nothing but its own entry and what depends on it,
exactly when the type of every required check is known, the times of the availability document are
in range, and no component of a usable node has an incomplete workload answer before any short
one. -/
theorem document_unbroken_iff (engine : HealthEngine) (valid : ValidHealth engine.registry)
    (documented : Documented engine.availability) (order : SetOrder)
    (probe : CheckSpec → Observation) (now : Int) :
    (∃ subjects document, engine.subjects order = .ok subjects ∧
      engine.document order probe now = .ok document ∧
      document.items.map Item.id = subjects.map Subject.id ∧
      ∀ check changed other, (∀ spec, spec ≠ check → changed spec = probe spec) →
        engine.document order changed now = .ok other →
          List.Forall₂ (Kept subjects check) document.items other.items) ↔
      Calm engine probe now := by
  constructor
  · intro ended
    rcases ended with ⟨subjects, document, listed, run, _, _⟩
    rcases document_ok run with ⟨subjects', items, listed', rounds, _, _⟩
    rw [listed, Except.ok.injEq] at listed'
    subst listed'
    have types := (subjects_isOk valid).mp ⟨subjects, listed⟩
    have each : ∀ subject ∈ subjects, AttachedInRange engine now subject.id ∧
        (NodeUsable engine probe now → ¬ Clash (subject.workloadChecks.map probe)) := by
      intro subject member
      rcases List.append_of_mem member with ⟨front, back, parts⟩
      rcases rounds.split parts with ⟨earlier, item, _, _, before, made⟩
      exact (round_ok_iff valid documented listed parts before).mp ⟨item, made⟩
    refine ⟨types, ?_, ?_⟩
    · intro id known
      rcases known with shared | component
      · rw [← infrastructure_map_id] at shared
        rcases List.mem_map.mp shared with ⟨subject, member, named⟩
        exact named ▸ (each subject (infrastructure_listed listed member)).1
      · rcases component_listed listed component with ⟨subject, member, made⟩
        exact componentSubject_id made ▸ (each subject member).1
    · intro usable componentId component
      rcases component_listed listed component with ⟨subject, member, made⟩
      rw [← componentSubject_workloadChecks made]
      exact (each subject member).2 usable
  · intro calm
    rcases (subjects_isOk valid).mpr calm.types with ⟨subjects, listed⟩
    have steps : ∀ front subject back results, subjects = front ++ subject :: back →
        Rounds engine probe now front results →
        ∃ item, engine.item probe subject results now = .ok item := by
      intro front subject back results parts before
      refine (round_ok_iff valid documented listed parts before).mpr ?_
      have member : subject ∈ subjects := by simp [parts]
      rcases mem_subjects valid listed member with shared | ⟨component, checks⟩
      · refine ⟨calm.times subject.id (.inl (infrastructure_id shared)), fun _ => ?_⟩
        rw [infrastructure_workloadChecks shared]
        exact not_clash_nil
      · refine ⟨calm.times subject.id (.inr component), fun usable => ?_⟩
        rw [checks]
        exact calm.replicas usable subject.id component
    rcases Swept.exists_of_steps steps with ⟨items, evaluated⟩
    have run : ∃ document, engine.document order probe now = .ok document ∧
        document.items = items.map (withImpact items) := by
      simp only [HealthEngine.document, bind_ok, pure_ok]
      exact ⟨_, ⟨subjects, listed, items, evaluated, rfl⟩, rfl⟩
    rcases run with ⟨document, run, shown⟩
    refine ⟨subjects, document, listed, run, ?_, ?_⟩
    · rw [shown, List.map_map]
      exact rounds_map_id (sweep_swept evaluated)
    · intro check changed other agree runChanged
      exact document_kept valid listed agree run runChanged

theorem shipped_documented : Documented shippedHealthEngine.availability := .inl rfl

theorem shipped_inRange (id : String) : AttachedInRange shippedHealthEngine 0 id := by
  intro items item listed first
  cases listed
  cases first

/-- Where every probe answers that all is well, the evaluation returns. -/
theorem document_unbroken_iff_shipped : ∃ subjects document,
    shippedHealthEngine.subjects .insertion = .ok subjects ∧
    shippedHealthEngine.document .insertion readyProbe 0 = .ok document ∧
    document.items.map Item.id = subjects.map Subject.id := by
  have calm : Calm shippedHealthEngine readyProbe 0 := by
    refine ⟨by decide, fun id _ => shipped_inRange id, ?_⟩
    intro _ componentId _ clash
    rcases clash with ⟨front, last, back, split, incomplete, _⟩
    have member : last ∈ (workloadChecks shippedHealthEngine.registry componentId).map
        readyProbe := by simp [split]
    rcases List.mem_map.mp member with ⟨check, _, rfl⟩
    rcases incomplete with ⟨answer, desired, returned, _, _, silent⟩
    cases returned
    cases silent
  rcases (document_unbroken_iff shippedHealthEngine shippedHealth_valid shipped_documented .insertion
    readyProbe 0).mpr calm with ⟨subjects, document, listed, run, names, _⟩
  exact ⟨subjects, document, listed, run, names⟩

/-- The webapp of the Software Security Center is there, and its ready replicas are not counted. -/
def uncountedProbe (check : CheckSpec) : Observation :=
  if check.id == "webapp-ready" then
    ⟨.returned { readyResult with readyReplicas := none }, 4⟩
  else readyProbe check

theorem uncounted_breaks : ValidHealth shippedHealth ∧
    Documented shippedHealthEngine.availability ∧
    ∀ document, shippedHealthEngine.document .insertion uncountedProbe 0 ≠ .ok document := by
  refine ⟨shippedHealth_valid, shipped_documented, ?_⟩
  intro document run
  have raised : (shippedHealthEngine.document .insertion uncountedProbe 0).isOk = false := by
    decide +kernel
  rw [run] at raised
  cases raised

end FortifyLab.Health
