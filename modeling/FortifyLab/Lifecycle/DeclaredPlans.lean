import FortifyLab.Lifecycle.CanonicalPlans

/-! Which declared operations can be planned at all: the closure rules of the planner against the
operations that the affected components declare. -/

namespace FortifyLab.Lifecycle

open Registry DependencyGraph

/-- No plan with this operation on the component leaves the other one out. -/
def Affects (registry : ComponentRegistry) (operation : Operation)
    (componentId other : ComponentId) : Prop :=
  if operation ∈ startOperations then
    Relation.ReflTransGen (Needs registry.dependencies) componentId other
  else Relation.ReflTransGen (Needs registry.dependencies) other componentId

/-- Some selection with the component has a plan with this step. -/
def Plannable (engine : Engine) (order : SetOrder) (operation : Operation)
    (componentId : ComponentId) : Prop :=
  ∃ requested document, componentId ∈ requested ∧
    engine.plan order operation.name requested = .ok document ∧
      ∃ step ∈ document.steps, step.component = componentId ∧ step.operation = operation

variable {engine : Engine} {order : SetOrder} {operation : Operation} {componentId : ComponentId}

theorem declares_of_step {step : Step}
    (resolved : engine.step componentId operation = .ok step) :
    Declares engine.registry operation componentId := by
  simp only [Engine.step, bind_eq_ok, liftRegistry_eq_ok] at resolved
  rcases resolved with ⟨component, found, rest⟩
  split at rest
  · cases rest
  · next capability last =>
    have listed := List.mem_reverse.mp (List.mem_of_find?_eq_some last)
    exact ⟨component, found, capability, listed, by simpa using List.find?_some last⟩

theorem declared_of_declares (declares : Declares engine.registry operation componentId) :
    componentId ∈ engine.registry.componentIds := by
  rcases declares with ⟨component, found, _⟩
  exact engine.registry.component_declared found

/-! ## What a plan contains -/

/-- The components that a plan cannot leave out are in its phase. -/
theorem affects_phase (valid : ValidRegistry engine.registry) {requested ordered : List ComponentId}
    (run : engine.registry.dependencyOrder order requested = .ok ordered)
    (complete : decide (operation ∈ startOperations) = false →
      engine.missingConsumers order requested engine.registry.componentIds = .ok [])
    (member : componentId ∈ requested) {other : ComponentId}
    (affects : Affects engine.registry operation componentId other) :
    other ∈ phaseComponents requested ordered (decide (operation ∈ startOperations)) := by
  have nonempty : requested ≠ [] := List.ne_nil_of_mem member
  have selection : engine.registry.selection requested = requested := by
    simp [ComponentRegistry.selection, nonempty]
  have inOrder : ∀ item, item ∈ ordered ↔ Closure engine.registry.dependencies requested item := by
    intro item
    rw [ComponentRegistry.dependencyOrder_mem run, selection]
  unfold Affects at affects
  by_cases starts : operation ∈ startOperations
  · rw [if_pos starts] at affects
    simpa [phaseComponents, starts, inOrder] using ⟨componentId, member, affects⟩
  · rw [if_neg starts] at affects
    obtain ⟨missing, computed, members⟩ := missingConsumers_ok order valid requested
      engine.registry.componentIds (fun _ known => known)
    rw [complete (by simpa using starts)] at computed
    cases computed
    have selected : other ∈ requested := by
      rcases Relation.reflTransGen_iff_eq_or_transGen.mp affects with same | path
      · exact same ▸ member
      · by_contra outside
        exact List.not_mem_nil ((members other).mpr
          ⟨declared_of_path path, outside, componentId, member, path⟩)
    simp [phaseComponents, starts, inOrder, selected, Closure.of_mem]

/-- Every component that a plan cannot leave out has declared the operation. -/
theorem declares_of_plannable (valid : ValidRegistry engine.registry)
    (single : operation ≠ .restart) (plannable : Plannable engine order operation componentId)
    {other : ComponentId} (affects : Affects engine.registry operation componentId other) :
    Declares engine.registry operation other := by
  rcases plannable with ⟨requested, document, member, planned, _⟩
  obtain ⟨found, steps, named, _, made, _⟩ := plan_eq_ok planned
  rw [requestOperation_name] at named
  cases named
  obtain ⟨declared, ⟨restart, _⟩ | ⟨_, ordered⟩⟩ := planSteps_eq_ok made
  · exact absurd restart single
  · obtain ⟨complete, listed, run, resolved⟩ := orderedSteps_eq_ok.mp ordered
    have inPhase := affects_phase valid run complete (List.mem_eraseDups.mpr member) affects
    rcases stepsFor_resolvable.mp ⟨steps, resolved⟩ other inPhase with ⟨step, found⟩
    exact declares_of_step found

/-! ## The least selection -/

open scoped Classical in
/-- The component itself, and for a stop operation its transitive consumers. -/
noncomputable def leastSelection (registry : ComponentRegistry) (operation : Operation)
    (componentId : ComponentId) : List ComponentId :=
  if operation ∈ startOperations then [componentId]
  else registry.componentIds.filter (fun other =>
    decide (Relation.ReflTransGen (Needs registry.dependencies) other componentId))

theorem mem_leastSelection {registry : ComponentRegistry}
    (declared : componentId ∈ registry.componentIds) {other : ComponentId} :
    other ∈ leastSelection registry operation componentId ↔
      if operation ∈ startOperations then other = componentId
      else Relation.ReflTransGen (Needs registry.dependencies) other componentId := by
  unfold leastSelection
  split
  · simp
  · simp only [List.mem_filter, decide_eq_true_eq, and_iff_right_iff_imp]
    intro path
    rcases Relation.reflTransGen_iff_eq_or_transGen.mp path with same | longer
    · exact same ▸ declared
    · exact declared_of_path longer

theorem leastSelection_declared {registry : ComponentRegistry}
    (declared : componentId ∈ registry.componentIds) :
    ∀ other ∈ leastSelection registry operation componentId, other ∈ registry.componentIds := by
  intro other member
  unfold leastSelection at member
  split at member
  · exact List.mem_singleton.mp member ▸ declared
  · exact List.mem_of_mem_filter member

/-- The least selection is affected whole, and nothing else is. -/
theorem affects_of_phase {ordered : List ComponentId}
    (declared : componentId ∈ engine.registry.componentIds)
    (run : engine.registry.dependencyOrder order
      (leastSelection engine.registry operation componentId).eraseDups = .ok ordered)
    {other : ComponentId}
    (member : other ∈ phaseComponents (leastSelection engine.registry operation componentId).eraseDups
      ordered (decide (operation ∈ startOperations))) :
    Affects engine.registry operation componentId other := by
  have own : componentId ∈ leastSelection engine.registry operation componentId := by
    rw [mem_leastSelection declared]
    split
    · rfl
    · exact .refl
  have nonempty : (leastSelection engine.registry operation componentId).eraseDups ≠ [] :=
    List.ne_nil_of_mem (List.mem_eraseDups.mpr own)
  unfold Affects
  by_cases starts : operation ∈ startOperations
  · simp only [phaseComponents, starts, decide_true, if_true] at member
    rw [ComponentRegistry.dependencyOrder_mem run] at member
    simp only [ComponentRegistry.selection, nonempty, if_false] at member
    rcases member with ⟨start, selected, path⟩
    rw [List.mem_eraseDups, mem_leastSelection declared, if_pos starts] at selected
    rw [if_pos starts]
    exact selected ▸ path
  · simp only [phaseComponents, starts, decide_false, Bool.false_eq_true, if_false,
      List.mem_filter, decide_eq_true_eq, List.mem_eraseDups] at member
    rw [if_neg starts]
    have selected := (mem_leastSelection declared).mp member.2
    rwa [if_neg starts] at selected

theorem leastSelection_complete (valid : ValidRegistry engine.registry)
    (declared : componentId ∈ engine.registry.componentIds)
    (stops : operation ∉ startOperations) :
    engine.missingConsumers order (leastSelection engine.registry operation componentId).eraseDups
      engine.registry.componentIds = .ok [] := by
  obtain ⟨missing, computed, members⟩ := missingConsumers_ok order valid
    (leastSelection engine.registry operation componentId).eraseDups engine.registry.componentIds
    (fun _ known => known)
  have none : missing = [] := by
    rw [List.eq_nil_iff_forall_not_mem]
    intro consumer member
    obtain ⟨_, outside, target, inside, path⟩ := (members consumer).mp member
    rw [List.mem_eraseDups, mem_leastSelection declared, if_neg stops] at outside inside
    exact outside (path.to_reflTransGen.trans inside)
  rw [computed, none]

/-- Planning the least selection succeeds when all it affects declares the operation. -/
theorem plannable_of_declares (valid : ValidRegistry engine.registry)
    (single : operation ≠ .restart)
    (declares : ∀ other, Affects engine.registry operation componentId other →
      Declares engine.registry operation other) :
    Plannable engine order operation componentId := by
  have self : Affects engine.registry operation componentId componentId := by
    unfold Affects
    split <;> exact .refl
  have declared := declared_of_declares (declares componentId self)
  let selection := leastSelection engine.registry operation componentId
  have own : componentId ∈ selection := by
    rw [mem_leastSelection declared]
    split
    · rfl
    · exact .refl
  have known : ∀ other ∈ selection.eraseDups, other ∈ engine.registry.componentIds :=
    fun other member => leastSelection_declared declared other (List.mem_eraseDups.mp member)
  have nonempty : selection.eraseDups ≠ [] := List.ne_nil_of_mem (List.mem_eraseDups.mpr own)
  obtain ⟨ordered, run⟩ := valid.dependencyOrder_ok order selection.eraseDups known
  have complete : decide (operation ∈ startOperations) = false →
      engine.missingConsumers order selection.eraseDups engine.registry.componentIds = .ok [] :=
    fun stops => leastSelection_complete valid declared (by simpa using stops)
  obtain ⟨steps, resolved⟩ := stepsFor_ok valid operation
    (phaseComponents selection.eraseDups ordered (decide (operation ∈ startOperations)))
    (fun other member => declares other (affects_of_phase declared run member))
  have planned : engine.orderedSteps order operation selection.eraseDups
      (decide (operation ∈ startOperations)) = .ok steps :=
    orderedSteps_eq_ok.mpr ⟨complete, ordered, run, resolved⟩
  have wellFormed : selection.eraseDups.all isIdentifier = true := by
    rw [List.all_eq_true]
    exact fun other member => valid.identifiers other (known other member)
  have made : engine.plan order operation.name selection =
      .ok (describePlan operation selection.eraseDups steps) := by
    simp [Engine.plan, requestOperation_name, nonempty, wellFormed, Engine.planSteps,
      requireDeclared_ok known, single, planned, bind, Except.bind]
  refine ⟨selection, _, own, made, ?_⟩
  have inPhase := affects_phase valid run complete (List.mem_eraseDups.mpr own) self
  rw [← (stepsFor_spec resolved).1] at inPhase
  rcases List.mem_map.mp inPhase with ⟨step, member, named⟩
  rcases List.mem_iff_getElem?.mp member with ⟨index, found⟩
  have numbered : (step, index) ∈ steps.zipIdx := List.mem_zipIdx_iff_getElem?.mpr found
  exact ⟨_, List.mem_map_of_mem numbered, named, stepsFor_operation resolved step member⟩

theorem affected_shipped {part : List ComponentId} (start : componentId ∈ part)
    (closed : ∀ consumer ∈ shippedRegistry.componentIds,
      ∀ need ∈ shippedRegistry.dependencies consumer, need ∈ part → consumer ∈ part)
    {other : ComponentId}
    (path : Relation.ReflTransGen (Needs shippedRegistry.dependencies) other componentId) :
    other ∈ part := by
  have consumerClosed : ConsumerClosed shippedRegistry.dependencies (fun item => item ∈ part) :=
    fun consumer need edge inside => closed consumer (declared_of_edge edge) need edge inside
  exact consumerClosed.of_path path start

end FortifyLab.Lifecycle
