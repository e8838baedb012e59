import FortifyLab.Lifecycle.ShippedRegistry

/-! Stop, uninstall and delete-data plans, and the suspend plan of the lab: the
consumer-closed selections, consumers before what they need. -/

namespace FortifyLab.Lifecycle

open Registry DependencyGraph

/-- Some declared component outside the selection needs one of its members. -/
def ConsumerMissing (registry : ComponentRegistry) (requested : List ComponentId) : Prop :=
  ∃ consumer, consumer ∉ requested ∧ ∃ target ∈ requested,
    Relation.TransGen (Needs registry.dependencies) consumer target

/-- The step list works on exactly these components, each once, every consumer
before each of its transitive dependencies. -/
structure StopOrder (registry : ComponentRegistry) (operation : Operation)
    (part : ComponentId → Prop) (steps : List Step) : Prop where
  once : (steps.map Step.componentId).Nodup
  exact : ∀ componentId, componentId ∈ steps.map Step.componentId ↔ part componentId
  operation : ∀ step ∈ steps, step.operation = operation
  consumersFirst : ∀ consumer ∈ steps.map Step.componentId,
    ∀ target ∈ steps.map Step.componentId,
      Relation.TransGen (Needs registry.dependencies) consumer target →
      Precedes (steps.map Step.componentId) consumer target

section

variable {engine : Engine} (order : SetOrder)

/-- Keeping a part of a reversed dependency order gives a stop order of that part. -/
theorem stopOrder_of_reversed {selected ordered : List ComponentId} {operation : Operation}
    {steps : List Step} (part : List ComponentId)
    (run : engine.registry.dependencyOrder order selected = .ok ordered)
    (inside : ∀ componentId ∈ part, componentId ∈ ordered)
    (resolved : engine.stepsFor operation
      (ordered.reverse.filter (fun item => decide (item ∈ part))) = .ok steps) :
    StopOrder engine.registry operation (fun componentId => componentId ∈ part) steps := by
  have names := (stepsFor_spec resolved).1
  refine ⟨?_, ?_, stepsFor_operation resolved, ?_⟩
  · rw [names]
    exact (List.nodup_reverse.mpr (ComponentRegistry.dependencyOrder_nodup run)).filter _
  · intro componentId
    rw [names, List.mem_filter, List.mem_reverse, decide_eq_true_eq]
    exact ⟨fun both => both.2, fun member => ⟨inside _ member, member⟩⟩
  · intro consumer member target other path
    rw [names, List.mem_filter, List.mem_reverse] at member other
    rw [names]
    exact ((ComponentRegistry.dependencyOrder_ordered run).precedes_of_path member.1
      path).reverse.filter _ member.2 other.2

theorem orderedSteps_stop (valid : ValidRegistry engine.registry) {operation : Operation}
    (declares : ∀ componentId ∈ engine.registry.componentIds,
      Declares engine.registry operation componentId)
    {requested : List ComponentId} (nonempty : requested ≠ [])
    (declared : ∀ componentId ∈ requested, componentId ∈ engine.registry.componentIds) :
    (ConsumerMissing engine.registry requested ∧
      engine.orderedSteps order operation requested false = .error .dependencyBlocked) ∨
    (¬ ConsumerMissing engine.registry requested ∧
      ∃ steps, engine.orderedSteps order operation requested false = .ok steps ∧
        StopOrder engine.registry operation (fun componentId => componentId ∈ requested) steps ∧
        ∀ step ∈ steps, engine.step step.componentId operation = .ok step) := by
  obtain ⟨missing, computed, members⟩ := missingConsumers_ok order valid requested
    engine.registry.componentIds (fun _ member => member)
  have blocked_iff : missing ≠ [] ↔ ConsumerMissing engine.registry requested := by
    constructor
    · intro some_
      obtain ⟨consumer, member⟩ := List.exists_mem_of_ne_nil missing some_
      exact ⟨consumer, ((members _).mp member).2⟩
    · rintro ⟨consumer, outside, target, inside, path⟩
      exact List.ne_nil_of_mem
        ((members consumer).mpr ⟨declared_of_path path, outside, target, inside, path⟩)
  by_cases blocked : missing ≠ []
  · left
    refine ⟨blocked_iff.mp blocked, ?_⟩
    simp [Engine.orderedSteps, computed, bind, Except.bind, blocked]
  · right
    refine ⟨fun missing_ => blocked (blocked_iff.mpr missing_), ?_⟩
    obtain ⟨ordered, run⟩ := valid.dependencyOrder_ok order requested declared
    obtain ⟨steps, resolved⟩ := stepsFor_ok valid operation
      (ordered.reverse.filter (fun item => decide (item ∈ requested))) (by
        intro componentId member
        rw [List.mem_filter, decide_eq_true_eq] at member
        exact declares componentId (declared componentId member.2))
    refine ⟨steps, ?_, ?_, ?_⟩
    · simp [Engine.orderedSteps, computed, bind, Except.bind, blocked, run, liftRegistry, resolved,
        -List.filter_reverse]
    · apply stopOrder_of_reversed order requested run _ resolved
      intro componentId member
      rw [ComponentRegistry.dependencyOrder_mem run]
      exact Closure.of_mem (by simpa [ComponentRegistry.selection, nonempty] using member)
    · intro step member
      exact ((stepsFor_spec resolved).2 step |>.mp member).2

/-- `plan` for a stop operation on declared components. -/
theorem plan_stop_eq (valid : ValidRegistry engine.registry) {operation : Operation}
    (stops : operation ∈ stopOperations) {requested : List ComponentId}
    (nonempty : requested ≠ [])
    (declared : ∀ componentId ∈ requested, componentId ∈ engine.registry.componentIds) :
    engine.plan order operation.name requested =
      (engine.orderedSteps order operation requested.eraseDups false).map
        (describePlan operation requested.eraseDups) := by
  have kept : requested.eraseDups ≠ [] := by
    obtain ⟨componentId, member⟩ := List.exists_mem_of_ne_nil requested nonempty
    exact List.ne_nil_of_mem (List.mem_eraseDups.mpr member)
  have declaredOnce : ∀ componentId ∈ requested.eraseDups,
      componentId ∈ engine.registry.componentIds :=
    fun componentId member => declared componentId (List.mem_eraseDups.mp member)
  have wellFormed : requested.eraseDups.all isIdentifier = true := by
    rw [List.all_eq_true]
    exact fun componentId member => valid.identifiers componentId (declaredOnce componentId member)
  have notRestart : operation ≠ .restart := by
    rintro rfl
    exact absurd stops (by decide)
  have notStart : operation ∉ startOperations := by
    revert stops
    cases operation <;> decide
  have refused : ¬ (requested.eraseDups = [] ∨ ¬ requested.eraseDups.all isIdentifier = true) := by
    simp only [kept, wellFormed, not_true_eq_false, or_self, not_false_eq_true]
  simp only [Engine.plan, requestOperation_name, if_neg refused, Engine.planSteps,
    requireDeclared_ok declaredOnce, if_neg notRestart, decide_eq_false notStart, bind,
    Except.bind, Except.map]

theorem consumerMissing_eraseDups {registry : ComponentRegistry} {requested : List ComponentId} :
    ConsumerMissing registry requested.eraseDups ↔ ConsumerMissing registry requested := by
  simp [ConsumerMissing]

/-- A stop plan is refused exactly when it leaves out a consumer, and otherwise
is a stop order of the requested components. -/
theorem plan_stop (valid : ValidRegistry engine.registry) {operation : Operation}
    (stops : operation ∈ stopOperations)
    (declares : ∀ componentId ∈ engine.registry.componentIds,
      Declares engine.registry operation componentId)
    {requested : List ComponentId} (nonempty : requested ≠ [])
    (declared : ∀ componentId ∈ requested, componentId ∈ engine.registry.componentIds) :
    (ConsumerMissing engine.registry requested ∧
      engine.plan order operation.name requested = .error .dependencyBlocked) ∨
    (¬ ConsumerMissing engine.registry requested ∧
      ∃ steps, engine.plan order operation.name requested =
          .ok (describePlan operation requested.eraseDups steps) ∧
        StopOrder engine.registry operation (fun componentId => componentId ∈ requested) steps ∧
        ∀ step ∈ steps, engine.step step.componentId operation = .ok step) := by
  have kept : requested.eraseDups ≠ [] := by
    obtain ⟨componentId, member⟩ := List.exists_mem_of_ne_nil requested nonempty
    exact List.ne_nil_of_mem (List.mem_eraseDups.mpr member)
  have declaredOnce : ∀ componentId ∈ requested.eraseDups,
      componentId ∈ engine.registry.componentIds :=
    fun componentId member => declared componentId (List.mem_eraseDups.mp member)
  rw [plan_stop_eq order valid stops nonempty declared, ← consumerMissing_eraseDups]
  rcases orderedSteps_stop order valid declares kept declaredOnce with
    ⟨missing, blocked⟩ | ⟨complete, steps, planned, stopOrder, resolved⟩
  · exact .inl ⟨missing, by rw [blocked]; rfl⟩
  · refine .inr ⟨complete, steps, by rw [planned]; rfl, ?_, resolved⟩
    exact { stopOrder with exact := fun componentId => by rw [stopOrder.exact, List.mem_eraseDups] }

/-- What the suspend plan of one component resolves: it and its transitive consumers,
in the reverse of the full dependency order. -/
theorem labSteps_suspend_eq (valid : ValidRegistry engine.registry)
    {selected : ComponentId} (declared : selected ∈ engine.registry.componentIds) :
    ∃ (part ordered : List ComponentId), engine.registry.dependencyOrder order [] = .ok ordered ∧
      (∀ componentId, componentId ∈ part ↔
        Relation.ReflTransGen (Needs engine.registry.dependencies) componentId selected) ∧
      (∀ componentId ∈ part, componentId ∈ ordered) ∧
      engine.labSteps order "suspend" (some selected) =
        (engine.stepsFor .stop (ordered.reverse.filter (fun item => decide (item ∈ part)))).map
          (fun steps => (.stop, [selected], steps)) := by
  obtain ⟨component, found⟩ := engine.registry.component_of_declared declared
  obtain ⟨consumers, computed, members⟩ := consumersOf_ok order valid selected
    engine.registry.componentIds (fun _ member => member)
  obtain ⟨ordered, run⟩ := valid.dependencyOrder_ok order []
    (fun _ member => by cases member)
  have inPart : ∀ componentId, componentId ∈ [selected] ++ consumers ↔
      Relation.ReflTransGen (Needs engine.registry.dependencies) componentId selected := by
    intro componentId
    rw [List.singleton_append, List.mem_cons, members, Relation.reflTransGen_iff_eq_or_transGen]
    constructor
    · rintro (same | ⟨_, path⟩)
      · exact .inl same.symm
      · exact .inr path
    · rintro (same | path)
      · exact .inl same.symm
      · exact .inr ⟨declared_of_path path, path⟩
  refine ⟨[selected] ++ consumers, ordered, run, inPart, ?_, ?_⟩
  · intro componentId member
    rw [ComponentRegistry.dependencyOrder_mem run]
    apply Closure.of_mem
    rcases List.mem_append.mp member with single | consumer
    · rwa [List.mem_singleton.mp single]
    · exact ((members _).mp consumer).1
  · have action : labAction "suspend" = some .suspend := labAction_name .suspend
    simp only [Engine.labSteps, action, Engine.labRequested, valid.identifiers selected declared,
      not_true_eq_false, if_false, found, liftRegistry, bind, Except.bind, computed, run,
      LabAction.operation, Except.map]

/-- The suspend plan of one component stops it and all its transitive consumers. -/
theorem labSteps_suspend (valid : ValidRegistry engine.registry)
    (declares : ∀ componentId ∈ engine.registry.componentIds,
      Declares engine.registry .stop componentId)
    {selected : ComponentId} (declared : selected ∈ engine.registry.componentIds) :
    ∃ steps, engine.labSteps order "suspend" (some selected) = .ok (.stop, [selected], steps) ∧
      StopOrder engine.registry .stop (fun componentId =>
        Relation.ReflTransGen (Needs engine.registry.dependencies) componentId selected) steps ∧
      ∀ step ∈ steps, engine.step step.componentId .stop = .ok step := by
  obtain ⟨part, ordered, run, inPart, inside, planned⟩ := labSteps_suspend_eq order valid declared
  have known : ∀ componentId ∈ part, componentId ∈ engine.registry.componentIds := by
    intro componentId member
    have listed := (ComponentRegistry.dependencyOrder_mem run componentId).mp (inside _ member)
    exact valid.closure_declared (fun _ member => member) listed
  obtain ⟨steps, resolved⟩ := stepsFor_ok valid .stop
    (ordered.reverse.filter (fun item => decide (item ∈ part))) (by
        intro componentId member
        rw [List.mem_filter, decide_eq_true_eq] at member
        exact declares componentId (known componentId member.2))
  refine ⟨steps, ?_, ?_, ?_⟩
  · rw [planned, resolved]
    rfl
  · have stopOrder := stopOrder_of_reversed order part run inside resolved
    exact { stopOrder with exact := fun componentId => by rw [stopOrder.exact, inPart] }
  · intro step member
    exact ((stepsFor_spec resolved).2 step |>.mp member).2

/-- A step is determined by its component, so a list that resolves the component
of a step holds the step. -/
theorem mem_of_listed {operation : Operation} {steps : List Step} {step : Step}
    (resolved : ∀ other ∈ steps, engine.step other.componentId operation = .ok other)
    (own : engine.step step.componentId operation = .ok step)
    (listed : step.componentId ∈ steps.map Step.componentId) : step ∈ steps := by
  obtain ⟨twin, inside, same⟩ := List.mem_map.mp listed
  have equal := resolved twin inside
  rw [same, own] at equal
  exact Except.ok.inj equal ▸ inside

/-- A component together with all its transitive consumers misses no consumer. -/
theorem not_consumerMissing_of_consumers {registry : ComponentRegistry}
    {selected : ComponentId} {part : List ComponentId}
    (exact_ : ∀ componentId, componentId ∈ part ↔
      Relation.ReflTransGen (Needs registry.dependencies) componentId selected) :
    ¬ ConsumerMissing registry part := by
  rintro ⟨consumer, outside, target, inside, path⟩
  exact outside ((exact_ consumer).mpr (path.to_reflTransGen.trans ((exact_ target).mp inside)))

end

/-- Stop plans are exactly the consumer-closed selections. For every iteration
order of the sets: a stop, uninstall or delete-data plan is refused exactly when
it leaves out a transitive consumer and is a stop order of the request otherwise;
the suspend plan of a component is a stop order of the least consumer-closed set
with it, and planning to stop that set succeeds with the same steps. -/
theorem stop_plans_consumer_closed (engine : Engine) (valid : ValidRegistry engine.registry)
    (order : SetOrder) :
    (∀ operation ∈ stopOperations,
      (∀ componentId ∈ engine.registry.componentIds,
        Declares engine.registry operation componentId) →
      ∀ requested, requested ≠ [] →
        (∀ componentId ∈ requested, componentId ∈ engine.registry.componentIds) →
        (engine.plan order operation.name requested = .error .dependencyBlocked ↔
          ConsumerMissing engine.registry requested) ∧
        (¬ ConsumerMissing engine.registry requested →
          ∃ steps, engine.plan order operation.name requested =
              .ok (describePlan operation requested.eraseDups steps) ∧
            StopOrder engine.registry operation
              (fun componentId => componentId ∈ requested) steps)) ∧
    ((∀ componentId ∈ engine.registry.componentIds,
        Declares engine.registry .stop componentId) →
      ∀ selected ∈ engine.registry.componentIds,
        ∃ steps, engine.labSteps order "suspend" (some selected) =
            .ok (.stop, [selected], steps) ∧
          (∀ report, requireActionReady report "suspend" = .ok () →
            ∃ document, engine.labPlan order report "suspend" (some selected) = .ok document ∧
              document.plan = describePlan .stop [selected] steps) ∧
          StopOrder engine.registry .stop (fun componentId =>
            Relation.ReflTransGen (Needs engine.registry.dependencies) componentId selected)
            steps ∧
          ConsumerClosed engine.registry.dependencies
            (fun componentId => componentId ∈ steps.map Step.componentId) ∧
          (∀ part : ComponentId → Prop, ConsumerClosed engine.registry.dependencies part →
            part selected → ∀ componentId ∈ steps.map Step.componentId, part componentId) ∧
          ∀ otherOrder part,
            (∀ componentId, componentId ∈ part ↔ componentId ∈ steps.map Step.componentId) →
            ∃ others, engine.plan otherOrder "stop" part =
                .ok (describePlan .stop part.eraseDups others) ∧
              ∀ step, step ∈ others ↔ step ∈ steps) := by
  constructor
  · intro operation stops declares requested nonempty declared
    rcases plan_stop order valid stops declares nonempty declared with
      ⟨missing, blocked⟩ | ⟨complete, steps, planned, stopOrder, _⟩
    · exact ⟨⟨fun _ => missing, fun _ => blocked⟩, fun complete => absurd missing complete⟩
    · refine ⟨⟨fun blocked => ?_, fun missing => absurd missing complete⟩,
        fun _ => ⟨steps, planned, stopOrder⟩⟩
      rw [planned] at blocked
      cases blocked
  · intro declares selected declared
    obtain ⟨steps, planned, stopOrder, resolved⟩ :=
      labSteps_suspend order valid declares declared
    have action : labAction "suspend" = some .suspend := labAction_name .suspend
    refine ⟨steps, planned, ?_, stopOrder, ?_, ?_, ?_⟩
    · intro report ready
      simp only [Engine.labPlan, ready, planned, action, bind, Except.bind]
      exact ⟨_, rfl, rfl⟩
    · intro consumer need edge inside
      rw [stopOrder.exact] at inside ⊢
      exact .head edge inside
    · intro part closed inside componentId member
      exact closed.of_path ((stopOrder.exact _).mp member) inside
    · intro otherOrder part same
      have inPart : ∀ componentId, componentId ∈ part ↔
          Relation.ReflTransGen (Needs engine.registry.dependencies) componentId selected :=
        fun componentId => (same componentId).trans (stopOrder.exact componentId)
      have known : ∀ componentId ∈ part, componentId ∈ engine.registry.componentIds := by
        intro componentId member
        rcases Relation.reflTransGen_iff_eq_or_transGen.mp ((inPart _).mp member) with here | path
        · exact here ▸ declared
        · exact declared_of_path path
      have nonempty : part ≠ [] := List.ne_nil_of_mem ((inPart selected).mpr .refl)
      rcases plan_stop otherOrder valid (show .stop ∈ stopOperations by decide) declares
        nonempty known with ⟨missing, _⟩ | ⟨_, others, plannedStop, otherStop, otherResolved⟩
      · exact absurd missing (not_consumerMissing_of_consumers inPart)
      · refine ⟨others, plannedStop, fun step => ⟨?_, ?_⟩⟩
        · intro member
          refine mem_of_listed resolved (otherResolved step member) ((same _).mp ?_)
          exact (otherStop.exact _).mp (List.mem_map_of_mem (f := Step.componentId) member)
        · intro member
          refine mem_of_listed otherResolved (resolved step member) ((otherStop.exact _).mpr ?_)
          exact (same _).mpr (List.mem_map_of_mem (f := Step.componentId) member)

/-- On the shipped registry nothing may be stopped under `ssc`. -/
theorem stop_plans_consumer_closed_shipped :
    shippedEngine.plan .insertion "stop" ["mysql"] = .error .dependencyBlocked :=
  ((stop_plans_consumer_closed shippedEngine shipped_valid .insertion).1 .stop (by decide)
    (by decide) ["mysql"] (by decide) (by decide)).1.mpr
    ⟨"ssc", by decide, "mysql", by decide,
      .single (show "mysql" ∈ shippedRegistry.dependencies "ssc" by decide)⟩

end FortifyLab.Lifecycle
