import FortifyLab.Lifecycle.Plan

/-! What an accepted registry promises, and the planning steps that never fail on one. -/

namespace FortifyLab.Lifecycle

open Registry DependencyGraph

/-- The part of `validate_registry` that planning relies on. Component ids come
from the platform profile, which names identifiers only. -/
structure ValidRegistry (registry : ComponentRegistry) : Prop where
  declared : ∀ componentId ∈ registry.componentIds,
    ∀ dependency ∈ registry.dependencies componentId, dependency ∈ registry.componentIds
  acyclic : ∀ componentId ∈ registry.componentIds, ¬ OnCycle registry.dependencies componentId
  identifiers : ∀ componentId ∈ registry.componentIds, isIdentifier componentId = true
  boundedTimeouts : ∀ component ∈ registry.components, ∀ capability ∈ component.operations,
    1 ≤ capability.timeoutSeconds ∧ capability.timeoutSeconds ≤ 7200

/-- The component exists and lists the operation among its capabilities. -/
def Declares (registry : ComponentRegistry) (operation : Operation)
    (componentId : ComponentId) : Prop :=
  ∃ component, registry.component componentId = .ok component ∧
    ∃ capability ∈ component.operations, capability.id = operation.name

instance (registry : ComponentRegistry) (operation : Operation) (componentId : ComponentId) :
    Decidable (Declares registry operation componentId) :=
  match found : registry.component componentId with
  | .ok component =>
      decidable_of_iff (∃ capability ∈ component.operations, capability.id = operation.name)
        ⟨fun declares => ⟨component, found, declares⟩, fun ⟨other, same, declares⟩ => by
          rw [found] at same
          exact Except.ok.inj same ▸ declares⟩
  | .error _ => .isFalse (fun ⟨other, same, _⟩ => by rw [found] at same; cases same)

theorem declared_of_edge {registry : ComponentRegistry} {componentId dependency : ComponentId}
    (edge : dependency ∈ registry.dependencies componentId) :
    componentId ∈ registry.componentIds := by
  unfold ComponentRegistry.dependencies at edge
  split at edge
  · next found => exact registry.component_declared found
  · cases edge

theorem declared_of_path {registry : ComponentRegistry} {componentId other : ComponentId}
    (path : Relation.TransGen (Needs registry.dependencies) componentId other) :
    componentId ∈ registry.componentIds := by
  obtain ⟨dependency, edge, _⟩ := Relation.TransGen.head'_iff.mp path
  exact declared_of_edge edge

namespace ValidRegistry

variable {registry : ComponentRegistry} (valid : ValidRegistry registry)

include valid

theorem closure_declared {selection : List ComponentId}
    (declared : ∀ componentId ∈ selection, componentId ∈ registry.componentIds)
    {componentId : ComponentId}
    (inside : Closure registry.dependencies selection componentId) :
    componentId ∈ registry.componentIds :=
  inside.induct declared valid.declared

/-- Planning over a valid registry never meets a registry error. -/
theorem dependencyOrder_ok (order : SetOrder) (selected : List ComponentId)
    (declared : ∀ componentId ∈ selected, componentId ∈ registry.componentIds) :
    ∃ ordered, registry.dependencyOrder order selected = .ok ordered := by
  cases run : registry.dependencyOrder order selected with
  | ok ordered => exact ⟨ordered, rfl⟩
  | error error =>
      obtain ⟨componentId, inside, bad⟩ :=
        (ComponentRegistry.dependencyOrder_error_iff order).mp ⟨error, run⟩
      have known : ∀ other ∈ registry.selection selected, other ∈ registry.componentIds := by
        intro other member
        unfold ComponentRegistry.selection at member
        split at member
        · exact member
        · exact declared other member
      have named := valid.closure_declared known inside
      rcases bad with undeclared | cyclic
      · exact absurd named undeclared
      · exact absurd cyclic (valid.acyclic _ named)

end ValidRegistry

section Steps

variable {engine : Engine} (order : SetOrder)

theorem requireDeclared_ok {requested : List ComponentId}
    (declared : ∀ componentId ∈ requested, componentId ∈ engine.registry.componentIds) :
    engine.requireDeclared requested = .ok () := by
  induction requested with
  | nil => rfl
  | cons head tail ih =>
      obtain ⟨component, found⟩ :=
        engine.registry.component_of_declared (declared head (by simp))
      simp only [Engine.requireDeclared, found, liftRegistry, bind, Except.bind]
      exact ih (fun other member => declared other (List.mem_cons_of_mem _ member))

/-- A step carries the component and the operation it was resolved for. -/
theorem step_fields {componentId : ComponentId} {operation : Operation} {step : Step}
    (resolved : engine.step componentId operation = .ok step) :
    step.componentId = componentId ∧ step.operation = operation := by
  unfold Engine.step at resolved
  cases found : engine.registry.component componentId with
  | error error =>
      rw [found] at resolved
      cases resolved
  | ok component =>
      rw [found] at resolved
      simp only [liftRegistry, bind, Except.bind] at resolved
      split at resolved
      · cases resolved
      · split at resolved
        · cases resolved
        · cases resolved
          exact ⟨rfl, rfl⟩

theorem step_ok (valid : ValidRegistry engine.registry) {componentId : ComponentId}
    {operation : Operation} (declares : Declares engine.registry operation componentId) :
    ∃ step, engine.step componentId operation = .ok step := by
  obtain ⟨component, found, capability, member, named⟩ := declares
  cases match_ : component.operations.reverse.find? (fun item => item.id == operation.name) with
  | none =>
      have absent := List.find?_eq_none.mp match_ capability (List.mem_reverse.mpr member)
      simp [named] at absent
  | some item =>
      have inside : item ∈ component.operations :=
        List.mem_reverse.mp (List.mem_of_find?_eq_some match_)
      have atLeast := (valid.boundedTimeouts component
        (engine.registry.component_id found).1 item inside).1
      have positive : ¬ min (item.timeoutSeconds : ℚ) engine.maxStepTimeout ≤ 0 := by
        rw [not_le]
        refine lt_min ?_ engine.timeout_pos
        exact_mod_cast atLeast
      simp only [Engine.step, found, liftRegistry, bind, Except.bind, match_, if_neg positive]
      exact ⟨_, rfl⟩

theorem stepsFor_ok (valid : ValidRegistry engine.registry) (operation : Operation)
    (componentIds : List ComponentId)
    (declares : ∀ componentId ∈ componentIds, Declares engine.registry operation componentId) :
    ∃ steps, engine.stepsFor operation componentIds = .ok steps := by
  induction componentIds with
  | nil => exact ⟨[], rfl⟩
  | cons head tail ih =>
      obtain ⟨step, first⟩ := step_ok valid (declares head (by simp))
      obtain ⟨steps, others⟩ :=
        ih (fun other member => declares other (List.mem_cons_of_mem _ member))
      exact ⟨step :: steps, by
        simp only [Engine.stepsFor, first, others, bind, Except.bind]⟩

/-- Resolved steps stand in the order of their components. -/
theorem stepsFor_spec {operation : Operation} {componentIds : List ComponentId}
    {steps : List Step} (resolved : engine.stepsFor operation componentIds = .ok steps) :
    steps.map Step.componentId = componentIds ∧
      ∀ step, step ∈ steps ↔
        step.componentId ∈ componentIds ∧ engine.step step.componentId operation = .ok step := by
  induction componentIds generalizing steps with
  | nil =>
      cases resolved
      simp
  | cons head tail ih =>
      simp only [Engine.stepsFor, bind, Except.bind] at resolved
      cases first : engine.step head operation with
      | error error => simp [first] at resolved
      | ok firstStep =>
          rw [first] at resolved
          cases others : engine.stepsFor operation tail with
          | error error => simp [others] at resolved
          | ok rest =>
              simp only [others, Except.ok.injEq] at resolved
              subst resolved
              obtain ⟨names, members⟩ := ih others
              have same := (step_fields first).1
              refine ⟨by simp [names, same], ?_⟩
              intro step
              simp only [List.mem_cons, members]
              constructor
              · rintro (rfl | ⟨member, found⟩)
                · exact ⟨.inl same, same ▸ first⟩
                · exact ⟨.inr member, found⟩
              · rintro ⟨named | member, found⟩
                · rw [named, first] at found
                  exact .inl (Except.ok.inj found).symm
                · exact .inr ⟨member, found⟩

theorem stepsFor_operation {operation : Operation} {componentIds : List ComponentId}
    {steps : List Step} (resolved : engine.stepsFor operation componentIds = .ok steps) :
    ∀ step ∈ steps, step.operation = operation := by
  intro step member
  exact (step_fields ((stepsFor_spec resolved).2 step |>.mp member).2).2

theorem transitiveDependencies_ok (valid : ValidRegistry engine.registry)
    {componentId : ComponentId} (declared : componentId ∈ engine.registry.componentIds) :
    ∃ needs, engine.transitiveDependencies order componentId = .ok needs ∧
      ∀ other, other ∈ needs ↔
        Relation.TransGen (Needs engine.registry.dependencies) componentId other := by
  obtain ⟨ordered, run⟩ := valid.dependencyOrder_ok order [componentId]
    (by simpa using declared)
  refine ⟨_, by simp only [Engine.transitiveDependencies, run, liftRegistry, bind, Except.bind]; rfl,
    ?_⟩
  intro other
  have inside : other ∈ ordered ↔
      Relation.ReflTransGen (Needs engine.registry.dependencies) componentId other := by
    rw [ComponentRegistry.dependencyOrder_mem run]
    simp [ComponentRegistry.selection, Closure]
  simp only [List.mem_filter, inside, decide_eq_true_eq,
    Relation.reflTransGen_iff_eq_or_transGen]
  constructor
  · rintro ⟨same | path, different⟩
    · exact absurd same different
    · exact path
  · intro path
    refine ⟨.inr path, ?_⟩
    rintro rfl
    exact valid.acyclic _ declared path

theorem missingConsumers_ok (valid : ValidRegistry engine.registry)
    (selected componentIds : List ComponentId)
    (declared : ∀ componentId ∈ componentIds, componentId ∈ engine.registry.componentIds) :
    ∃ missing, engine.missingConsumers order selected componentIds = .ok missing ∧
      ∀ consumer, consumer ∈ missing ↔ consumer ∈ componentIds ∧ consumer ∉ selected ∧
        ∃ target ∈ selected,
          Relation.TransGen (Needs engine.registry.dependencies) consumer target := by
  induction componentIds with
  | nil => exact ⟨[], rfl, by simp⟩
  | cons head tail ih =>
      obtain ⟨others, rest, members⟩ :=
        ih (fun other member => declared other (List.mem_cons_of_mem _ member))
      by_cases chosen : head ∈ selected
      · refine ⟨others, by simp only [Engine.missingConsumers, if_pos chosen, rest], ?_⟩
        intro consumer
        rw [members]
        constructor
        · exact fun inside => ⟨List.mem_cons_of_mem _ inside.1, inside.2⟩
        · rintro ⟨member, outside, path⟩
          rcases List.mem_cons.mp member with rfl | later
          · exact absurd chosen outside
          · exact ⟨later, outside, path⟩
      · obtain ⟨needs, computed, exact_⟩ :=
          transitiveDependencies_ok order valid (declared head (by simp))
        refine ⟨_, by
          simp only [Engine.missingConsumers, if_neg chosen, computed, rest, bind, Except.bind]
          rfl, ?_⟩
        intro consumer
        have reaches : needs.any (fun other => decide (other ∈ selected)) = true ↔
            ∃ target ∈ selected,
              Relation.TransGen (Needs engine.registry.dependencies) head target := by
          simp only [List.any_eq_true, decide_eq_true_eq, exact_]
          exact ⟨fun ⟨target, path, member⟩ => ⟨target, member, path⟩,
            fun ⟨target, member, path⟩ => ⟨target, path, member⟩⟩
        split
        · next hit =>
          rw [List.mem_cons, members]
          constructor
          · rintro (rfl | ⟨later, outside, path⟩)
            · exact ⟨by simp, chosen, reaches.mp hit⟩
            · exact ⟨List.mem_cons_of_mem _ later, outside, path⟩
          · rintro ⟨member, outside, path⟩
            rcases List.mem_cons.mp member with rfl | later
            · exact .inl rfl
            · exact .inr ⟨later, outside, path⟩
        · next miss =>
          rw [members]
          constructor
          · exact fun inside => ⟨List.mem_cons_of_mem _ inside.1, inside.2⟩
          · rintro ⟨member, outside, path⟩
            rcases List.mem_cons.mp member with rfl | later
            · exact absurd (reaches.mpr path) miss
            · exact ⟨later, outside, path⟩

theorem consumersOf_ok (valid : ValidRegistry engine.registry)
    (componentId : ComponentId) (candidates : List ComponentId)
    (declared : ∀ candidate ∈ candidates, candidate ∈ engine.registry.componentIds) :
    ∃ consumers, engine.consumersOf order componentId candidates = .ok consumers ∧
      ∀ consumer, consumer ∈ consumers ↔ consumer ∈ candidates ∧
        Relation.TransGen (Needs engine.registry.dependencies) consumer componentId := by
  induction candidates with
  | nil => exact ⟨[], rfl, by simp⟩
  | cons head tail ih =>
      obtain ⟨others, rest, members⟩ :=
        ih (fun other member => declared other (List.mem_cons_of_mem _ member))
      obtain ⟨needs, computed, exact_⟩ :=
        transitiveDependencies_ok order valid (declared head (by simp))
      refine ⟨_, by
        simp only [Engine.consumersOf, computed, rest, bind, Except.bind]
        rfl, ?_⟩
      intro consumer
      split
      · next hit =>
        rw [List.mem_cons, List.mem_cons, members]
        constructor
        · rintro (rfl | ⟨later, path⟩)
          · exact ⟨.inl rfl, (exact_ _).mp hit⟩
          · exact ⟨.inr later, path⟩
        · rintro ⟨rfl | later, path⟩
          · exact .inl rfl
          · exact .inr ⟨later, path⟩
      · next miss =>
        rw [List.mem_cons, members]
        constructor
        · exact fun inside => ⟨.inr inside.1, inside.2⟩
        · rintro ⟨rfl | later, path⟩
          · exact absurd ((exact_ _).mpr path) miss
          · exact ⟨later, path⟩

end Steps

end FortifyLab.Lifecycle
