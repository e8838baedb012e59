import FortifyLab.Health.Roots

/-! When an environment is healthy: every check answered in time, healthy and fresh. -/

namespace FortifyLab.Health

open Registry

/-! ## Precedences -/

theorem firstOf_healthy_iff {precedence states : List HealthState}
    (above : .healthy ∉ precedence) :
    firstOf precedence states = .healthy ↔ ∀ state ∈ precedence, state ∉ states := by
  unfold firstOf
  cases found : precedence.find? (fun candidate => decide (candidate ∈ states)) with
  | none =>
      have absent := List.find?_eq_none.mp found
      simpa using absent
  | some state =>
      have listed := List.mem_of_find?_eq_some found
      have occurs : state ∈ states := by simpa using List.find?_some found
      constructor
      · intro healthy
        exact absurd (by simpa using healthy ▸ listed) above
      · intro none
        exact absurd occurs (none state listed)

theorem rankState_healthy {entries : List Entry}
    (healthy : ∀ entry ∈ entries, entry.state = .healthy) : rankState entries = .healthy := by
  by_contra ranked
  rcases rankState_ne_healthy ranked with ⟨entry, member, unhealthy⟩
  exact unhealthy (healthy entry member)

/-- The list of `_aggregate` names every state but `healthy`. -/
theorem aggregate_healthy_iff {items : List Item} :
    aggregate items = .healthy ↔ ∀ item ∈ items, item.state = .healthy := by
  have complete : ∀ state : HealthState, state ∈ aggregatePrecedence ↔ state ≠ .healthy := by
    intro state
    cases state <;> simp [aggregatePrecedence]
  rw [aggregate, firstOf_healthy_iff (by simp [complete])]
  constructor
  · intro none item member
    by_contra unhealthy
    exact none item.state ((complete _).mpr unhealthy) (List.mem_map_of_mem member)
  · intro healthy state listed occurs
    rcases List.mem_map.mp occurs with ⟨item, member, rfl⟩
    exact (complete _).mp listed (healthy item member)

theorem itemState_healthy_iff {entries : List Entry} {blocked : List String} :
    itemState entries blocked = .healthy ↔
      blocked = [] ∧ ∀ entry ∈ entries, entry.state = .healthy := by
  constructor
  · intro healthy
    simp only [itemState] at healthy
    split at healthy
    · next unhealthy => exact absurd healthy unhealthy
    · split at healthy
      · cases healthy
      · next unblocked =>
          split at healthy
          · cases healthy
          · split at healthy
            · cases healthy
            · next none => exact ⟨by simpa using unblocked, by simpa using none⟩
  · intro parts
    rcases parts with ⟨rfl, healthy⟩
    have direct : rankState ((entries.filter Entry.required).filter (fun entry => !entry.derived)) =
        .healthy :=
      rankState_healthy (fun entry member =>
        healthy entry (List.mem_of_mem_filter (List.mem_of_mem_filter member)))
    have access : rankState ((entries.filter Entry.required).filter (fun entry =>
        decide (entry.layer ∈ accessLayers))) = .healthy :=
      rankState_healthy (fun entry member =>
        healthy entry (List.mem_of_mem_filter (List.mem_of_mem_filter member)))
    have none : entries.any (fun entry => decide (entry.state ≠ .healthy)) = false := by
      simpa using healthy
    simp only [itemState, direct, access, none, ne_eq, not_true_eq_false, if_false,
      List.isEmpty_nil, Bool.not_true, Bool.false_eq_true]

/-! ## Evidence -/

/-- The check was probed in time, and the probe returned a fresh result of the state. -/
def Answered (state : HealthState) (staleAfter now : Int) (observation : Observation) : Prop :=
  ∃ result time, observation.outcome = .returned result ∧ result.state = state ∧
    inUtc result.observedAt = some time ∧ now - time ≤ staleAfter

theorem result_state_iff {runtime : Runtime} {staleAfter now : Int} {check : CheckSpec}
    {observation : Observation} {state : HealthState} (known : state ≠ .unknown)
    (fresh : state ≠ .stale) :
    (result runtime staleAfter check observation now).state = state ↔
      Answered state staleAfter now observation := by
  unfold Answered result assess
  cases observation.outcome with
  | late => simp [known.symm]
  | raised timedOut => cases timedOut <;> simp [known.symm]
  | returned result =>
      simp only [Outcome.returned.injEq]
      cases read : inUtc result.observedAt with
      | none =>
          simp only [known.symm, false_iff, not_exists, not_and]
          intro other time same _ utc
          rw [← same, read] at utc
          cases utc
      | some time =>
          by_cases late : staleAfter < now - time
          · simp only [judge, late, if_true, fresh.symm, false_iff, not_exists, not_and, not_le]
            intro other moment same _ utc
            rw [← same, read] at utc
            cases utc
            exact late
          · simp only [judge, late, if_false]
            constructor
            · intro same
              exact ⟨result, time, rfl, same, read, by omega⟩
            · intro answered
              rcases answered with ⟨other, _, rfl, same, _, _⟩
              exact same

theorem result_healthy_iff {runtime : Runtime} {staleAfter now : Int} {check : CheckSpec}
    {observation : Observation} :
    (result runtime staleAfter check observation now).state = .healthy ↔
      Answered .healthy staleAfter now observation :=
  result_state_iff (by decide) (by decide)

/-- An item of the availability document is fresh and says that all is well. -/
structure ItemHealthy (runtime : Runtime) (staleAfter now : Int) (item : Value) : Prop where
  fresh : ∃ text time, checkedText runtime item now = .str text ∧
    runtime.fromisoformat (text.replace "Z" "+00:00") = some time ∧ now - time ≤ staleAfter
  reachable : item.get "state" = some (.str "reachable")
  untroubled : item.get "tls" ≠ some (.str "warning") ∧ item.get "tls" ≠ some (.str "failed")

theorem stateOf_healthy_iff {table : List (String × HealthState)} {value : Option Value}
    {state : HealthState} {good : String} (distinct : (table.map Prod.fst).Nodup)
    (only : ∀ key, (key, HealthState.healthy) ∈ table ↔ key = good)
    (run : stateOf table value = .ok state) :
    state = .healthy ↔ value = some (.str good) := by
  unfold stateOf at run
  split at run
  · next key =>
      cases run
      simp only [Option.some.injEq, Value.str.injEq, ← only key, ← lookup_iff_mem distinct]
      cases table.lookup key <;> simp
  · cases run
  · cases run
  · next noText _ _ =>
      cases run
      simp only [reduceCtorEq, false_iff]
      exact noText good

theorem inUtc_some {time same : Int} (read : inUtc time = some same) : same = time := by
  unfold inUtc at read
  split at read
  · exact (Option.some.inj read).symm
  · cases read

theorem checkedAt_fresh_iff {runtime : Runtime} {staleAfter now : Int} {item : Value}
    {observed : String} {replaced : Option HealthState}
    (run : checkedAt runtime staleAfter item now = .ok (observed, replaced)) :
    (∃ text time, checkedText runtime item now = .str text ∧
        runtime.fromisoformat (text.replace "Z" "+00:00") = some time ∧ now - time ≤ staleAfter) ↔
      replaced = none := by
  unfold checkedAt at run
  split at run
  · next text shown =>
      simp only [shown, Value.str.injEq, exists_and_left, exists_eq_left']
      cases read : runtime.fromisoformat (text.replace "Z" "+00:00") with
      | none =>
          rw [read] at run
          cases run
          simp
      | some time =>
          rw [read] at run
          cases utc : inUtc time with
          | none =>
              simp only [utc] at run
              cases run
          | some same =>
              rcases inUtc_some utc with rfl
              simp only [utc, Except.ok.injEq, Prod.mk.injEq] at run
              rw [← run.2]
              by_cases late : staleAfter < now - same
              · rw [if_pos late]
                simp only [Option.some.injEq, exists_eq_left', reduceCtorEq, iff_false]
                omega
              · rw [if_neg late]
                simp only [Option.some.injEq, exists_eq_left', iff_true]
                omega
  · next other =>
      cases run
      simp only [reduceCtorEq, iff_false, not_exists, not_and]
      intro text _ shown
      exact absurd shown (other text)

theorem checkedAt_replaced {runtime : Runtime} {staleAfter now : Int} {item : Value}
    {observed : String} {replaced : Option HealthState}
    (run : checkedAt runtime staleAfter item now = .ok (observed, replaced)) :
    replaced ≠ some .healthy := by
  unfold checkedAt at run
  split at run
  · split at run
    · cases run
      simp
    · split at run
      · cases run
      · simp only [Except.ok.injEq, Prod.mk.injEq] at run
        rw [← run.2]
        split <;> simp
  · cases run
    simp

theorem hasTls_iff {item : Value} :
    hasTls item = true ↔ item.get "tls" = some (.str "valid") ∨
      item.get "tls" = some (.str "warning") ∨ item.get "tls" = some (.str "failed") := by
  unfold hasTls
  cases item.get "tls" with
  | none => simp
  | some tls => simp [Value.isText_iff, or_assoc]

/-- The evidence of an item of the availability document is healthy exactly when the item is. -/
theorem itemEvidence_healthy_iff {runtime : Runtime} {staleAfter now : Int} {item : Value}
    {entries : List Entry} (run : itemEvidence runtime staleAfter item now = .ok entries) :
    (∀ entry ∈ entries, entry.state = .healthy) ↔ ItemHealthy runtime staleAfter now item := by
  simp only [itemEvidence, bind_ok] at run
  rcases run with ⟨external, route, tls, certificate, ⟨observed, replaced⟩, time, latency, _, made⟩
  have reachable : external = .healthy ↔ item.get "state" = some (.str "reachable") :=
    stateOf_healthy_iff (by decide) (by simp [externalStates]) route
  have valid : tls = .healthy ↔ item.get "tls" = some (.str "valid") :=
    stateOf_healthy_iff (by decide) (by simp [tlsStates]) certificate
  have fresh := checkedAt_fresh_iff time
  have replaces : ∀ state, replaced.getD state = .healthy ↔ replaced = none ∧ state = .healthy := by
    intro state
    have other := checkedAt_replaced time
    cases replaced <;> simp_all
  split at made
  · next certified =>
      cases made
      simp only [List.mem_cons, List.not_mem_nil, or_false, forall_eq_or_imp, forall_eq, replaces,
        reachable, valid, ← fresh]
      constructor
      · intro parts
        rcases parts with ⟨⟨known, state⟩, _, proved⟩
        exact ⟨known, state, by simp [proved], by simp [proved]⟩
      · intro healthy
        have proved := (hasTls_iff.mp certified).resolve_right
          (not_or.mpr healthy.untroubled)
        exact ⟨⟨healthy.fresh, healthy.reachable⟩, healthy.fresh, proved⟩
  · next uncertified =>
      cases made
      simp only [List.mem_singleton, forall_eq, replaces, reachable, ← fresh]
      have silent := mt hasTls_iff.mpr uncertified
      simp only [not_or] at silent
      constructor
      · intro parts
        exact ⟨parts.1, parts.2, silent.2⟩
      · intro healthy
        exact ⟨healthy.fresh, healthy.reachable⟩

/-! ## Items -/

section Run

variable {engine : HealthEngine} {order : SetOrder} {probe : CheckSpec → Observation} {now : Int}
  {subject : Subject} {subjects : List Subject} {results items : List Item} {item : Item}

/-- The external route and TLS evidence attached to the id is fresh and healthy. -/
def AttachedHealthy (engine : HealthEngine) (now : Int) (id : String) : Prop :=
  ∀ items item, availabilityItems engine.availability = .ok items →
    firstItem id items = .ok (some item) → ItemHealthy engine.runtime engine.staleAfter now item

/-- Every check of the subject answered healthy, and so does what is attached to it. -/
structure SubjectHealthy (engine : HealthEngine) (probe : CheckSpec → Observation) (now : Int)
    (subject : Subject) : Prop where
  answered : ∀ check ∈ subject.checks, Answered .healthy engine.staleAfter now (probe check)
  attached : AttachedHealthy engine now subject.id

theorem externalEvidence_healthy_iff {id : String} {entries : List Entry}
    (run : externalEvidence engine.runtime engine.staleAfter engine.availability id now =
      .ok entries) :
    (∀ entry ∈ entries, entry.state = .healthy) ↔ AttachedHealthy engine now id := by
  simp only [externalEvidence, bind_ok] at run
  rcases run with ⟨items, listed, found, first, made⟩
  have same : ∀ others item, availabilityItems engine.availability = .ok others →
      firstItem id others = .ok (some item) → found = some item := by
    intro others item alsoListed alsoFirst
    rw [listed, Except.ok.injEq] at alsoListed
    rw [← alsoListed, first, Except.ok.injEq] at alsoFirst
    exact alsoFirst
  cases found with
  | none =>
      cases made
      constructor
      · intro _ others item alsoListed alsoFirst
        cases same others item alsoListed alsoFirst
      · intro _ entry member
        cases member
  | some item =>
      rw [itemEvidence_healthy_iff made]
      constructor
      · intro healthy others other alsoListed alsoFirst
        cases same others other alsoListed alsoFirst
        exact healthy
      · intro attached
        exact attached items item listed first

theorem item_healthy_iff (run : engine.item probe subject results now = .ok item) :
    item.state = .healthy ↔ (∀ check ∈ subject.checks, blockersOf results check = []) ∧
      SubjectHealthy engine probe now subject := by
  rcases item_ok run with ⟨external, attached, made⟩
  rw [made.state, itemState_healthy_iff]
  constructor
  · intro parts
    rcases parts with ⟨unblocked, healthy⟩
    have free : ∀ check ∈ subject.checks, blockersOf results check = [] := by
      intro check member
      apply List.eq_nil_iff_forall_not_mem.mpr
      intro dependency blocker
      have blocked := mem_blockedDependencies.mpr ⟨check, member, blocker⟩
      rw [unblocked] at blocked
      cases blocked
    refine ⟨free, ?_, ?_⟩
    · intro check member
      have probed : result engine.runtime engine.staleAfter check (probe check) now ∈
          engine.checkEvidence probe subject results now :=
        mem_checkEvidence.mpr (.inl ⟨check, member, free check member, rfl⟩)
      exact result_healthy_iff.mp (healthy _ (List.mem_append_left _ probed))
    · apply (externalEvidence_healthy_iff attached).mp
      intro entry member
      exact healthy entry (List.mem_append_right _ member)
  · intro parts
    rcases parts with ⟨free, healthy⟩
    constructor
    · apply List.eq_nil_iff_forall_not_mem.mpr
      intro dependency blocked
      rcases mem_blockedDependencies.mp blocked with ⟨check, member, blocker⟩
      rw [free check member] at blocker
      cases blocker
    · intro entry member
      rcases List.mem_append.mp member with own | route
      · rcases mem_checkEvidence.mp own with ⟨check, inside, _, rfl⟩ | ⟨check, inside, skipped, _⟩
        · exact result_healthy_iff.mpr (healthy.answered check inside)
        · exact absurd (free check inside) skipped
      · exact (externalEvidence_healthy_iff attached).mpr healthy.attached entry route

/-- A healthy item blocks nothing. -/
theorem healthy_not_blocks (run : engine.item probe subject results now = .ok item)
    (healthy : item.state = .healthy) : item.blocks = false := by
  rcases item_ok run with ⟨external, _, made⟩
  have entries := (itemState_healthy_iff.mp (made.state ▸ healthy)).2
  by_contra blocks
  rw [Bool.not_eq_false] at blocks
  by_cases shared : item.id ∈ infrastructureIds
  · have inside : infrastructureIds.contains item.id = true := by simpa using shared
    simp only [Item.blocks, inside, if_true, healthy] at blocks
    cases blocks
  · rcases domains_blocking made.domains shared blocks with ⟨entry, member, unhealthy, _, _⟩
    exact unhealthy (entries entry member)

theorem rounds_healthy_iff (rounds : Rounds engine probe now subjects items)
    (arranged : Arranged subjects) :
    (∀ item ∈ items, item.state = .healthy) ↔
      ∀ subject ∈ subjects, SubjectHealthy engine probe now subject := by
  induction rounds with
  | nil => simp
  | @snoc subjects results subject item before run ih =>
      have unblocked : (∀ earlier ∈ results, earlier.state = .healthy) →
          ∀ check ∈ subject.checks, blockersOf results check = [] := by
        intro healthy check member
        apply List.eq_nil_iff_forall_not_mem.mpr
        intro dependency blocker
        have sound := arranged.sound subject (by simp)
        have listed := sound.gated check member dependency (List.mem_filter.mp blocker).1
        have known := arranged.evaluated listed
        rw [← rounds_map_id before] at known
        rcases blocker_found known blocker with ⟨source, found, blocks⟩
        have inside := (findItem_some found).1
        rcases before.of_mem inside with ⟨_, _, _, made⟩
        rw [healthy_not_blocks made (healthy source inside)] at blocks
        cases blocks
      simp only [List.forall_mem_append, List.forall_mem_singleton, ← ih arranged.front,
        item_healthy_iff run]
      constructor
      · intro parts
        exact ⟨parts.1, parts.2.2⟩
      · intro parts
        exact ⟨parts.1, unblocked parts.1, parts.2⟩

end Run

/-- For every accepted registry, availability document, freshness threshold and assignment of
outcomes: the environment is healthy exactly when every required check answered in time with a
healthy, fresh result and everything attached to a subject is fresh and healthy. Then nothing was
skipped; otherwise some item is not healthy. -/
theorem document_healthy_iff (engine : HealthEngine) (valid : ValidHealth engine.registry)
    (order : SetOrder) (probe : CheckSpec → Observation) (now : Int) (document : HealthDocument)
    (run : engine.document order probe now = .ok document) :
    ∃ subjects, engine.subjects order = .ok subjects ∧
      (∀ subject ∈ infrastructureSubjects, subject ∈ subjects) ∧
      (∀ componentId ∈ engine.registry.registry.componentIds,
        ∀ declared ∈ engine.registry.checks componentId, declared.required = true →
          ∃ subject ∈ subjects, subject.id = componentId ∧ ∃ check ∈ subject.checks,
            check.id = declared.id ∧ check.probeType = declared.type ∧
              check.target = declared.target) ∧
      (document.state = .healthy ↔
        ∀ subject ∈ subjects, SubjectHealthy engine probe now subject) ∧
      (document.state = .healthy ↔ ∀ item ∈ document.items, item.state = .healthy) ∧
      (document.state = .healthy → ∀ item ∈ document.items, ∀ entry ∈ item.evidence,
        entry.state = .healthy ∧ entry.blockedBy = []) := by
  rcases document_ok run with ⟨subjects, items, listed, rounds, shown, state⟩
  have arranged := arranged_of_subjects valid listed
  have items_iff : (∀ item ∈ document.items, item.state = .healthy) ↔
      ∀ item ∈ items, item.state = .healthy := by
    rw [shown, List.forall_mem_map]
    exact Iff.rfl
  refine ⟨subjects, listed, fun _ member => infrastructure_listed listed member, ?_, ?_, ?_, ?_⟩
  · intro componentId known declared member required
    exact declared_listed listed known member required
  · rw [state, aggregate_healthy_iff, items_iff, rounds_healthy_iff rounds arranged]
  · rw [state, aggregate_healthy_iff]
  · intro healthy item member entry inside
    rw [state, aggregate_healthy_iff, items_iff] at healthy
    rw [shown] at member
    rcases List.mem_map.mp member with ⟨original, evaluated, rfl⟩
    rcases rounds.of_mem evaluated with ⟨subject, known, earlier, made⟩
    have free := ((item_healthy_iff made).mp (healthy original evaluated)).1
    rcases item_ok made with ⟨external, attached, facts⟩
    have entries := (itemState_healthy_iff.mp (facts.state ▸ healthy original evaluated)).2
    have own : entry ∈ original.evidence := inside
    rw [facts.evidence] at own
    refine ⟨entries entry own, ?_⟩
    rcases List.mem_append.mp own with probed | route
    · rcases mem_checkEvidence.mp probed with ⟨_, _, _, rfl⟩ | ⟨check, checked, skipped, _⟩
      · rfl
      · exact absurd (free check checked) skipped
    · exact (externalEvidence_external attached route).2.2.1

/-- Where every probe answers that all is well, the environment is healthy. -/
theorem document_healthy_iff_shipped : ∃ document,
    shippedHealthEngine.document .insertion readyProbe 0 = .ok document ∧
      document.state = .healthy := by
  rcases exists_of_isOk (show (shippedHealthEngine.document .insertion readyProbe 0).isOk = true by
    decide +kernel) with ⟨document, run⟩
  rcases document_healthy_iff shippedHealthEngine shippedHealth_valid .insertion readyProbe 0
    document run with ⟨subjects, _, _, _, healthy, _⟩
  refine ⟨document, run, healthy.mpr ?_⟩
  intro subject _
  constructor
  · intro check _
    exact ⟨readyResult, 0, rfl, rfl, by decide, by decide⟩
  · intro items item listed first
    cases listed
    cases first

end FortifyLab.Health
