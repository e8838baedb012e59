import FortifyLab.Authorization.OperationPlan
import FortifyLab.Lifecycle.StopPlans
import FortifyLab.Registry.CanonicalOrder

/-! Which part of a plan's order survives a manager restart: the plan made again
iterates its sets in another order. -/

namespace FortifyLab.Lifecycle

open Registry DependencyGraph Authorization

theorem bind_eq_ok {α β : Type} {first : Except Failure α} {next : α → Except Failure β}
    {result : β} : (first >>= next) = .ok result ↔ ∃ value, first = .ok value ∧
      next value = .ok result := by
  cases first with
  | error error => simp [bind, Except.bind]
  | ok value => simp [bind, Except.bind]

theorem liftRegistry_eq_ok {α : Type} {computed : Except RegistryError α} {value : α} :
    liftRegistry computed = .ok value ↔ computed = .ok value := by
  cases computed with
  | error error => simp [liftRegistry]
  | ok value => simp [liftRegistry]

/-- The plan an approval for this request is bound to. -/
def Engine.operationPlan (engine : Engine) (order : SetOrder) (operation : String)
    (componentIds : List ComponentId) (currentState : List (String × String)) :
    Except Failure OperationPlan := do
  let document ← engine.plan order operation componentIds
  .ok ⟨document.operation.name, document.components, currentState⟩

/-- What one phase of a plan works on, given the dependency order of the request. -/
def phaseComponents (requested ordered : List ComponentId) (includeDependencies : Bool) :
    List ComponentId :=
  if includeDependencies then ordered
  else ordered.reverse.filter (fun item => decide (item ∈ requested))

/-- What a whole plan works on, given the dependency order of the request. -/
def arrangement (operation : Operation) (requested ordered : List ComponentId) :
    List ComponentId :=
  if operation = .restart then
    phaseComponents requested ordered false ++
      ordered.filter (fun item => decide (item ∉ requested))
  else phaseComponents requested ordered (decide (operation ∈ startOperations))

/-- The declarations order every two components that the plan handles in one phase. -/
def CanonicalPlan (registry : ComponentRegistry) (operation : Operation)
    (requested : List ComponentId) : Prop :=
  if operation = .restart then
    registry.SettledOn (fun componentId => componentId ∈ requested) ∧
    registry.SettledOn (fun componentId =>
      Closure registry.dependencies requested componentId ∧ componentId ∉ requested)
  else if operation ∈ startOperations then
    registry.SettledOn (Closure registry.dependencies requested)
  else registry.SettledOn (fun componentId => componentId ∈ requested)

section

variable {engine : Engine}

theorem stepsFor_resolvable {operation : Operation} {componentIds : List ComponentId} :
    (∃ steps, engine.stepsFor operation componentIds = .ok steps) ↔
      ∀ componentId ∈ componentIds, ∃ step, engine.step componentId operation = .ok step := by
  induction componentIds with
  | nil => simp [Engine.stepsFor]
  | cons head tail ih =>
      simp only [Engine.stepsFor, bind_eq_ok, List.forall_mem_cons, ← ih]
      constructor
      · rintro ⟨steps, first, found, others, resolved, _⟩
        exact ⟨⟨first, found⟩, others, resolved⟩
      · rintro ⟨⟨first, found⟩, others, resolved⟩
        exact ⟨first :: others, first, found, others, resolved, rfl⟩

theorem requireDeclared_declared {requested : List ComponentId}
    (resolved : engine.requireDeclared requested = .ok ()) :
    ∀ componentId ∈ requested, componentId ∈ engine.registry.componentIds := by
  induction requested with
  | nil => simp
  | cons head tail ih =>
      simp only [Engine.requireDeclared, bind_eq_ok, liftRegistry_eq_ok] at resolved
      obtain ⟨component, found, rest⟩ := resolved
      rw [List.forall_mem_cons]
      exact ⟨engine.registry.component_declared found, ih rest⟩

theorem orderedSteps_eq_ok {order : SetOrder} {operation : Operation}
    {requested : List ComponentId} {includeDependencies : Bool} {steps : List Step} :
    engine.orderedSteps order operation requested includeDependencies = .ok steps ↔
      (includeDependencies = false →
        engine.missingConsumers order requested engine.registry.componentIds = .ok []) ∧
      ∃ ordered, engine.registry.dependencyOrder order requested = .ok ordered ∧
        engine.stepsFor operation (phaseComponents requested ordered includeDependencies) =
          .ok steps := by
  cases includeDependencies with
  | true => simp [Engine.orderedSteps, phaseComponents, bind_eq_ok, liftRegistry_eq_ok]
  | false =>
      simp only [Engine.orderedSteps, phaseComponents, Bool.false_eq_true, if_false, bind_eq_ok,
        forall_const]
      constructor
      · rintro ⟨missing, computed, rest⟩
        split at rest
        · cases rest
        · next none =>
          rw [not_not] at none
          subst none
          simp only [bind_eq_ok, liftRegistry_eq_ok] at rest
          exact ⟨computed, rest⟩
      · rintro ⟨computed, rest⟩
        refine ⟨[], computed, ?_⟩
        simp only [ne_eq, not_true_eq_false, if_false, bind_eq_ok, liftRegistry_eq_ok]
        exact rest

/-- Whether a consumer is missing does not depend on the iteration of the sets. -/
theorem missingConsumers_again (valid : ValidRegistry engine.registry) {order : SetOrder}
    {selected : List ComponentId}
    (complete : engine.missingConsumers order selected engine.registry.componentIds = .ok [])
    (other : SetOrder) :
    engine.missingConsumers other selected engine.registry.componentIds = .ok [] := by
  have whole : ∀ componentId ∈ engine.registry.componentIds,
      componentId ∈ engine.registry.componentIds := fun _ member => member
  obtain ⟨before, computed, exact_⟩ := missingConsumers_ok order valid selected _ whole
  obtain ⟨after, computedAgain, exactAgain⟩ := missingConsumers_ok other valid selected _ whole
  rw [complete] at computed
  cases computed
  have empty : after = [] := by
    rw [List.eq_nil_iff_forall_not_mem]
    intro consumer member
    exact List.not_mem_nil ((exact_ consumer).mpr ((exactAgain consumer).mp member))
  rw [computedAgain, empty]

theorem mem_phaseComponents {order other : SetOrder} {requested ordered reordered : List ComponentId}
    (run : engine.registry.dependencyOrder order requested = .ok ordered)
    (rerun : engine.registry.dependencyOrder other requested = .ok reordered)
    (includeDependencies : Bool) (componentId : ComponentId) :
    componentId ∈ phaseComponents requested reordered includeDependencies ↔
      componentId ∈ phaseComponents requested ordered includeDependencies := by
  cases includeDependencies <;>
    simp [phaseComponents, ComponentRegistry.dependencyOrder_mem run,
      ComponentRegistry.dependencyOrder_mem rerun]

/-- A phase that was planned once is planned under every iteration of the sets. -/
theorem orderedSteps_again (valid : ValidRegistry engine.registry) {order : SetOrder}
    {operation : Operation} {requested : List ComponentId} {includeDependencies : Bool}
    {steps : List Step}
    (planned : engine.orderedSteps order operation requested includeDependencies = .ok steps)
    (other : SetOrder) {reordered : List ComponentId}
    (rerun : engine.registry.dependencyOrder other requested = .ok reordered) :
    ∃ others, engine.orderedSteps other operation requested includeDependencies = .ok others ∧
      others.map Step.componentId = phaseComponents requested reordered includeDependencies := by
  obtain ⟨complete, ordered, run, resolved⟩ := orderedSteps_eq_ok.mp planned
  have resolvable := stepsFor_resolvable.mp ⟨steps, resolved⟩
  obtain ⟨others, again⟩ := stepsFor_resolvable.mpr (by
    intro componentId member
    exact resolvable componentId ((mem_phaseComponents run rerun _ _).mp member))
  refine ⟨others, orderedSteps_eq_ok.mpr ⟨?_, reordered, rerun, again⟩, (stepsFor_spec again).1⟩
  intro stops
  exact missingConsumers_again valid (complete stops) other

theorem phaseComponents_nodup {order : SetOrder} {requested ordered : List ComponentId}
    (run : engine.registry.dependencyOrder order requested = .ok ordered)
    (includeDependencies : Bool) :
    (phaseComponents requested ordered includeDependencies).Nodup := by
  have distinct := ComponentRegistry.dependencyOrder_nodup run
  cases includeDependencies with
  | true => exact distinct
  | false => exact (List.nodup_reverse.mpr distinct).filter _

theorem affected_restart {stops starts : List Step} {requested ordered : List ComponentId}
    (distinct : ordered.Nodup)
    (stopped : stops.map Step.componentId = phaseComponents requested ordered false)
    (started : starts.map Step.componentId = phaseComponents requested ordered true) :
    affected (stops ++ starts) = arrangement .restart requested ordered := by
  have rest : ordered.removeAll (phaseComponents requested ordered false) =
      ordered.filter (fun item => decide (item ∉ requested)) := by
    apply List.filter_congr
    intro componentId member
    simp [phaseComponents, member]
  rw [affected, List.map_append, stopped, started, List.eraseDups_append, arrangement, if_pos rfl]
  simp only [phaseComponents, if_true, Bool.false_eq_true, if_false] at rest ⊢
  rw [rest, eraseDups_of_nodup ((List.nodup_reverse.mpr distinct).filter _),
    eraseDups_of_nodup (distinct.filter _)]

theorem affected_phase {order : SetOrder} {requested ordered : List ComponentId}
    {operation : Operation} {steps : List Step} (single : operation ≠ .restart)
    (run : engine.registry.dependencyOrder order requested = .ok ordered)
    (names : steps.map Step.componentId =
      phaseComponents requested ordered (decide (operation ∈ startOperations))) :
    affected steps = arrangement operation requested ordered := by
  rw [affected, names, arrangement, if_neg single,
    eraseDups_of_nodup (phaseComponents_nodup run _)]

theorem planSteps_eq_ok {order : SetOrder} {operation : Operation}
    {requested : List ComponentId} {steps : List Step}
    (planned : engine.planSteps order operation requested = .ok steps) :
    (∀ componentId ∈ requested, componentId ∈ engine.registry.componentIds) ∧
    ((operation = .restart ∧ ∃ stop start,
        engine.orderedSteps order .stop requested false = .ok stop ∧
        engine.orderedSteps order .start requested true = .ok start ∧ steps = stop ++ start) ∨
      (operation ≠ .restart ∧ engine.orderedSteps order operation requested
        (decide (operation ∈ startOperations)) = .ok steps)) := by
  simp only [Engine.planSteps, bind_eq_ok] at planned
  obtain ⟨_, declared, rest⟩ := planned
  refine ⟨requireDeclared_declared declared, ?_⟩
  split at rest
  · next restart =>
    simp only [bind_eq_ok, Except.ok.injEq] at rest
    obtain ⟨stop, stopped, start, started, same⟩ := rest
    exact .inl ⟨restart, stop, start, stopped, started, same.symm⟩
  · next single => exact .inr ⟨single, rest⟩

/-- A plan that was made once is made under every iteration of the sets, and the
dependency order of the request then decides what it works on. -/
theorem planSteps_again (valid : ValidRegistry engine.registry) {order : SetOrder}
    {operation : Operation} {requested : List ComponentId} {steps : List Step}
    (planned : engine.planSteps order operation requested = .ok steps) (other : SetOrder) :
    ∃ reordered others, engine.registry.dependencyOrder other requested = .ok reordered ∧
      engine.planSteps other operation requested = .ok others ∧
      affected others = arrangement operation requested reordered := by
  obtain ⟨declared, phases⟩ := planSteps_eq_ok planned
  obtain ⟨reordered, rerun⟩ := valid.dependencyOrder_ok other requested declared
  have declaredOk := requireDeclared_ok declared
  refine ⟨reordered, ?_⟩
  rcases phases with ⟨rfl, stop, start, stopped, started, rfl⟩ | ⟨single, whole⟩
  · obtain ⟨stops, stoppedAgain, stopNames⟩ := orderedSteps_again valid stopped other rerun
    obtain ⟨starts, startedAgain, startNames⟩ := orderedSteps_again valid started other rerun
    refine ⟨stops ++ starts, rerun, ?_, affected_restart
      (ComponentRegistry.dependencyOrder_nodup rerun) stopNames startNames⟩
    simp [Engine.planSteps, declaredOk, stoppedAgain, startedAgain, bind, Except.bind]
  · obtain ⟨others, again, names⟩ := orderedSteps_again valid whole other rerun
    refine ⟨others, rerun, ?_, affected_phase single rerun names⟩
    simp [Engine.planSteps, declaredOk, single, again, bind, Except.bind]

theorem plan_eq_ok {order : SetOrder} {name : String} {requested : List ComponentId}
    {document : PlanDocument} (made : engine.plan order name requested = .ok document) :
    ∃ operation steps, requestOperation name = some operation ∧ requested ≠ [] ∧
      engine.planSteps order operation requested.eraseDups = .ok steps ∧
      document = describePlan operation requested.eraseDups steps := by
  unfold Engine.plan at made
  split at made
  · cases made
  · next operation found =>
    dsimp only at made
    split at made
    · cases made
    · next wellFormed =>
      simp only [bind_eq_ok, Except.ok.injEq] at made
      obtain ⟨steps, planned, same⟩ := made
      refine ⟨operation, steps, found, ?_, planned, same.symm⟩
      intro empty
      subst empty
      exact wellFormed (.inl rfl)

theorem plan_again (valid : ValidRegistry engine.registry) {order : SetOrder} {name : String}
    {requested : List ComponentId} {operation : Operation} {document : PlanDocument}
    (named : requestOperation name = some operation)
    (made : engine.plan order name requested = .ok document) (other : SetOrder) :
    ∃ reordered another,
      engine.registry.dependencyOrder other requested.eraseDups = .ok reordered ∧
      engine.plan other name requested = .ok another ∧ another.operation = operation ∧
      another.components = arrangement operation requested.eraseDups reordered := by
  obtain ⟨same, steps, found, _, planned, _⟩ := plan_eq_ok made
  rw [named] at found
  cases found
  obtain ⟨reordered, others, rerun, again, arranged⟩ := planSteps_again valid planned other
  refine ⟨reordered, describePlan operation requested.eraseDups others, rerun, ?_, rfl, arranged⟩
  unfold Engine.plan at made ⊢
  simp only [named] at made ⊢
  split at made
  · cases made
  · next wellFormed =>
    rw [if_neg wellFormed, again]
    rfl

/-! ## When the arrangement is the same for every iteration of the sets -/

theorem arrangement_of_canonical {leftOrder rightOrder : SetOrder} {operation : Operation}
    {requested left right : List ComponentId} (nonempty : requested ≠ [])
    (leftRun : engine.registry.dependencyOrder leftOrder requested = .ok left)
    (rightRun : engine.registry.dependencyOrder rightOrder requested = .ok right)
    (canonical : CanonicalPlan engine.registry operation requested) :
    arrangement operation requested left = arrangement operation requested right := by
  classical
  have leftMem := ComponentRegistry.dependencyOrder_mem leftRun
  have rightMem := ComponentRegistry.dependencyOrder_mem rightRun
  have selected : engine.registry.selection requested = requested := if_neg nonempty
  rw [selected] at leftMem rightMem
  have stops : engine.registry.SettledOn (fun componentId => componentId ∈ requested) →
      phaseComponents requested left false = phaseComponents requested right false := by
    intro settled
    have same := settled.filter_eq leftRun rightRun
      (fun componentId member => (leftMem componentId).mpr (Closure.of_mem member))
      (fun componentId member => (rightMem componentId).mpr (Closure.of_mem member))
    simp only [phaseComponents, Bool.false_eq_true, if_false, List.filter_reverse, same]
  unfold CanonicalPlan at canonical
  unfold arrangement
  split at canonical
  · next restart =>
    rw [if_pos restart, if_pos restart, stops canonical.1]
    have rest := canonical.2.filter_eq leftRun rightRun
      (fun componentId inside => (leftMem componentId).mpr inside.1)
      (fun componentId inside => (rightMem componentId).mpr inside.1)
    have keep : ∀ (ordered : List ComponentId),
        (∀ componentId, componentId ∈ ordered ↔
          Closure engine.registry.dependencies requested componentId) →
        ordered.filter (fun item => decide (item ∉ requested)) =
          ordered.filter (fun item => decide
            (Closure engine.registry.dependencies requested item ∧ item ∉ requested)) := by
      intro ordered members
      apply List.filter_congr
      intro componentId member
      simp [(members componentId).mp member]
    rw [keep left leftMem, keep right rightMem, rest]
  · next single =>
    rw [if_neg single, if_neg single]
    split at canonical
    · next starts =>
      have same := canonical.filter_eq leftRun rightRun
        (fun componentId => (leftMem componentId).mpr)
        (fun componentId => (rightMem componentId).mpr)
      rw [List.filter_eq_self.mpr (fun item member => decide_eq_true ((leftMem item).mp member)),
        List.filter_eq_self.mpr (fun item member => decide_eq_true ((rightMem item).mp member))]
        at same
      rw [same]
    · next notStart =>
      rw [decide_eq_false notStart]
      exact stops canonical

theorem canonical_of_arrangement {order : SetOrder} {operation : Operation}
    {requested ordered : List ComponentId} (nonempty : requested ≠ [])
    (run : engine.registry.dependencyOrder order requested = .ok ordered)
    (same : ∀ leftOrder rightOrder left right,
      engine.registry.dependencyOrder leftOrder requested = .ok left →
      engine.registry.dependencyOrder rightOrder requested = .ok right →
      arrangement operation requested left = arrangement operation requested right) :
    CanonicalPlan engine.registry operation requested := by
  classical
  have selected : engine.registry.selection requested = requested := if_neg nonempty
  have mem : ∀ {other result}, engine.registry.dependencyOrder other requested = .ok result →
      ∀ componentId, componentId ∈ result ↔
        Closure engine.registry.dependencies requested componentId := by
    intro other result rerun componentId
    rw [ComponentRegistry.dependencyOrder_mem rerun, selected]
  have stops : (∀ leftOrder rightOrder left right,
        engine.registry.dependencyOrder leftOrder requested = .ok left →
        engine.registry.dependencyOrder rightOrder requested = .ok right →
        phaseComponents requested left false = phaseComponents requested right false) →
      engine.registry.SettledOn (fun componentId => componentId ∈ requested) := by
    intro agree
    apply ComponentRegistry.settledOn_of_canonical run
      (fun componentId member => (mem run componentId).mpr (Closure.of_mem member))
    intro leftOrder rightOrder left right leftRun rightRun
    have reversed := agree leftOrder rightOrder left right leftRun rightRun
    simp only [phaseComponents, Bool.false_eq_true, if_false, List.filter_reverse,
      List.reverse_inj] at reversed
    exact reversed
  unfold CanonicalPlan
  unfold arrangement at same
  split
  · next restart =>
    simp only [if_pos restart] at same
    have parts : ∀ leftOrder rightOrder left right,
        engine.registry.dependencyOrder leftOrder requested = .ok left →
        engine.registry.dependencyOrder rightOrder requested = .ok right →
        phaseComponents requested left false = phaseComponents requested right false ∧
          left.filter (fun item => decide (item ∉ requested)) =
            right.filter (fun item => decide (item ∉ requested)) := by
      intro leftOrder rightOrder left right leftRun rightRun
      apply List.append_inj (same leftOrder rightOrder left right leftRun rightRun)
      apply List.Perm.length_eq
      rw [List.perm_ext_iff_of_nodup (phaseComponents_nodup leftRun false)
        (phaseComponents_nodup rightRun false)]
      exact fun componentId => mem_phaseComponents rightRun leftRun false componentId
    constructor
    · exact stops (fun leftOrder rightOrder left right leftRun rightRun =>
        (parts leftOrder rightOrder left right leftRun rightRun).1)
    · apply ComponentRegistry.settledOn_of_canonical run
        (fun componentId inside => (mem run componentId).mpr inside.1)
      intro leftOrder rightOrder left right leftRun rightRun
      have keep : ∀ (other : SetOrder) (result : List ComponentId),
          engine.registry.dependencyOrder other requested = .ok result →
          result.filter (fun item => decide
            (Closure engine.registry.dependencies requested item ∧ item ∉ requested)) =
          result.filter (fun item => decide (item ∉ requested)) := by
        intro other result rerun
        apply List.filter_congr
        intro componentId member
        simp [(mem rerun componentId).mp member]
      rw [keep leftOrder left leftRun, keep rightOrder right rightRun]
      exact (parts leftOrder rightOrder left right leftRun rightRun).2
  · next single =>
    simp only [if_neg single] at same
    split
    · next starts =>
      apply ComponentRegistry.settledOn_of_canonical run
        (fun componentId => (mem run componentId).mpr)
      intro leftOrder rightOrder left right leftRun rightRun
      have equal := same leftOrder rightOrder left right leftRun rightRun
      rw [decide_eq_true starts] at equal
      simp only [phaseComponents, if_true] at equal
      rw [equal]
    · next notStart =>
      rw [decide_eq_false notStart] at same
      exact stops same

/-! ## The suspend plan against the stop plan of the same components -/

theorem labSteps_suspend_declared {order : SetOrder} {selected : ComponentId}
    {result : Operation × List ComponentId × List Step}
    (made : engine.labSteps order "suspend" (some selected) = .ok result) :
    selected ∈ engine.registry.componentIds := by
  have action : labAction "suspend" = some .suspend := labAction_name .suspend
  simp only [Engine.labSteps, action, bind_eq_ok] at made
  obtain ⟨requested, asked, _⟩ := made
  unfold Engine.labRequested at asked
  dsimp only at asked
  split at asked
  · cases asked
  · simp only [bind_eq_ok, liftRegistry_eq_ok] at asked
    obtain ⟨component, found, _⟩ := asked
    exact engine.registry.component_declared found

open scoped Classical in
/-- A suspend plan that was made once is made under every iteration of the sets. -/
theorem labSteps_suspend_again (valid : ValidRegistry engine.registry) {order : SetOrder}
    {selected : ComponentId} {result : Operation × List ComponentId × List Step}
    (made : engine.labSteps order "suspend" (some selected) = .ok result) (other : SetOrder) :
    ∃ reordered steps, engine.registry.dependencyOrder other [] = .ok reordered ∧
      engine.labSteps other "suspend" (some selected) = .ok (.stop, [selected], steps) ∧
      steps.map Step.componentId = reordered.reverse.filter (fun item => decide
        (Relation.ReflTransGen (Needs engine.registry.dependencies) item selected)) ∧
      ∀ componentId, Relation.ReflTransGen (Needs engine.registry.dependencies)
        componentId selected → ∃ step, engine.step componentId .stop = .ok step := by
  have declared := labSteps_suspend_declared made
  obtain ⟨part, ordered, run, inPart, inside, planned⟩ := labSteps_suspend_eq order valid declared
  obtain ⟨partAgain, reordered, rerun, inPartAgain, _, plannedAgain⟩ :=
    labSteps_suspend_eq other valid declared
  rw [planned] at made
  have resolvable : ∀ componentId, Relation.ReflTransGen (Needs engine.registry.dependencies)
      componentId selected → ∃ step, engine.step componentId .stop = .ok step := by
    intro componentId path
    cases resolved : engine.stepsFor .stop
        (ordered.reverse.filter (fun item => decide (item ∈ part))) with
    | error error =>
        rw [resolved] at made
        cases made
    | ok steps =>
        apply stepsFor_resolvable.mp ⟨steps, resolved⟩ componentId
        have member := (inPart componentId).mpr path
        simp [inside _ member, member]
  have again : ∃ steps, engine.stepsFor .stop
      (reordered.reverse.filter (fun item => decide (item ∈ partAgain))) = .ok steps := by
    rw [stepsFor_resolvable]
    intro componentId member
    rw [List.mem_filter, decide_eq_true_eq] at member
    exact resolvable componentId ((inPartAgain _).mp member.2)
  obtain ⟨steps, resolved⟩ := again
  refine ⟨reordered, steps, rerun, ?_, ?_, resolvable⟩
  · rw [plannedAgain, resolved]
    rfl
  · rw [(stepsFor_spec resolved).1]
    apply List.filter_congr
    intro componentId _
    rw [decide_eq_decide, inPartAgain]

theorem labPlan_eq_ok {order : SetOrder} {report : Option PreflightReport}
    {componentId : Option ComponentId} {document : LabPlanDocument}
    (made : engine.labPlan order report "suspend" componentId = .ok document) :
    requireActionReady report "suspend" = .ok () ∧
      ∃ operation requested steps,
        engine.labSteps order "suspend" componentId = .ok (operation, requested, steps) ∧
        document.plan = describePlan operation requested steps := by
  have action : labAction "suspend" = some .suspend := labAction_name .suspend
  simp only [Engine.labPlan, bind_eq_ok, action, Except.ok.injEq] at made
  obtain ⟨_, ready, ⟨operation, requested, steps⟩, planned, same⟩ := made
  exact ⟨ready, operation, requested, steps, planned, by rw [← same]⟩

open scoped Classical in
theorem labPlan_suspend_again (valid : ValidRegistry engine.registry) {order : SetOrder}
    {report : Option PreflightReport} {selected : ComponentId} {document : LabPlanDocument}
    (made : engine.labPlan order report "suspend" (some selected) = .ok document) :
    ∃ reordered, engine.registry.dependencyOrder order [] = .ok reordered ∧
      document.plan.components = reordered.reverse.filter (fun item => decide
        (Relation.ReflTransGen (Needs engine.registry.dependencies) item selected)) ∧
      ∀ componentId, Relation.ReflTransGen (Needs engine.registry.dependencies)
        componentId selected → ∃ step, engine.step componentId .stop = .ok step := by
  obtain ⟨_, operation, requested, steps, planned, described⟩ := labPlan_eq_ok made
  obtain ⟨reordered, others, rerun, again, names, resolvable⟩ :=
    labSteps_suspend_again valid planned order
  rw [planned] at again
  cases again
  refine ⟨reordered, rerun, ?_, resolvable⟩
  rw [described]
  change affected steps = _
  rw [affected, names, eraseDups_of_nodup]
  exact (List.nodup_reverse.mpr (ComponentRegistry.dependencyOrder_nodup rerun)).filter _

open scoped Classical in
/-- Planning to stop a component with all its consumers keeps their part of the
dependency order of the selection, reversed. -/
theorem plan_stop_consumers (valid : ValidRegistry engine.registry) {selected : ComponentId}
    (declared : selected ∈ engine.registry.componentIds)
    (resolvable : ∀ componentId, Relation.ReflTransGen (Needs engine.registry.dependencies)
      componentId selected → ∃ step, engine.step componentId .stop = .ok step)
    {part : List ComponentId}
    (inPart : ∀ componentId, componentId ∈ part ↔
      Relation.ReflTransGen (Needs engine.registry.dependencies) componentId selected)
    (order : SetOrder) :
    ∃ ordered document, engine.registry.dependencyOrder order part.eraseDups = .ok ordered ∧
      engine.plan order "stop" part = .ok document ∧
      document.components = ordered.reverse.filter (fun item => decide
        (Relation.ReflTransGen (Needs engine.registry.dependencies) item selected)) := by
  have known : ∀ componentId ∈ part, componentId ∈ engine.registry.componentIds := by
    intro componentId member
    rcases Relation.reflTransGen_iff_eq_or_transGen.mp ((inPart _).mp member) with here | path
    · exact here ▸ declared
    · exact declared_of_path path
  have nonempty : part ≠ [] := List.ne_nil_of_mem ((inPart selected).mpr .refl)
  have knownOnce : ∀ componentId ∈ part.eraseDups,
      componentId ∈ engine.registry.componentIds :=
    fun componentId member => known componentId (List.mem_eraseDups.mp member)
  obtain ⟨ordered, run⟩ := valid.dependencyOrder_ok order part.eraseDups knownOnce
  obtain ⟨missing, computed, members⟩ := missingConsumers_ok order valid part.eraseDups
    engine.registry.componentIds (fun _ member => member)
  have complete : missing = [] := by
    rw [List.eq_nil_iff_forall_not_mem]
    intro consumer member
    exact not_consumerMissing_of_consumers inPart (consumerMissing_eraseDups.mp
      ⟨consumer, ((members consumer).mp member).2⟩)
  rw [complete] at computed
  have again : ∃ steps, engine.stepsFor .stop (phaseComponents part.eraseDups ordered false) =
      .ok steps := by
    rw [stepsFor_resolvable]
    intro componentId member
    apply resolvable componentId
    simp only [phaseComponents, Bool.false_eq_true, if_false, List.mem_filter,
      decide_eq_true_eq, List.mem_eraseDups] at member
    exact (inPart componentId).mp member.2
  obtain ⟨steps, resolved⟩ := again
  have planned : engine.orderedSteps order .stop part.eraseDups false = .ok steps :=
    orderedSteps_eq_ok.mpr ⟨fun _ => computed, ordered, run, resolved⟩
  refine ⟨ordered, describePlan .stop part.eraseDups steps, run, ?_, ?_⟩
  · have whole := plan_stop_eq order valid (show .stop ∈ stopOperations by decide) nonempty known
    rw [planned] at whole
    exact whole
  · change affected steps = _
    rw [affected, (stepsFor_spec resolved).1,
      eraseDups_of_nodup (phaseComponents_nodup run false), phaseComponents]
    simp only [Bool.false_eq_true, if_false]
    apply List.filter_congr
    intro componentId _
    rw [decide_eq_decide, List.mem_eraseDups, inPart]

/-- The suspend plan and the stop plan of its components agree for every iteration
of the sets exactly when the declarations order those components. -/
theorem suspend_agrees_iff (valid : ValidRegistry engine.registry) {order : SetOrder}
    {report : Option PreflightReport} {selected : ComponentId} {document : LabPlanDocument}
    (made : engine.labPlan order report "suspend" (some selected) = .ok document) :
    (∀ first second suspended stopped,
      engine.labPlan first report "suspend" (some selected) = .ok suspended →
      engine.plan second "stop" suspended.plan.components = .ok stopped →
      stopped.components = suspended.plan.components) ↔
    engine.registry.SettledOn (fun componentId =>
      Relation.ReflTransGen (Needs engine.registry.dependencies) componentId selected) := by
  classical
  have declared : selected ∈ engine.registry.componentIds := by
    obtain ⟨_, operation, requested, steps, planned, _⟩ := labPlan_eq_ok made
    exact labSteps_suspend_declared planned
  have inOrder : ∀ {first : SetOrder} {ordered}, engine.registry.dependencyOrder first [] =
      .ok ordered → ∀ componentId, Relation.ReflTransGen (Needs engine.registry.dependencies)
        componentId selected → componentId ∈ ordered := by
    intro first ordered run componentId path
    rw [ComponentRegistry.dependencyOrder_mem run]
    apply Closure.of_mem
    rcases Relation.reflTransGen_iff_eq_or_transGen.mp path with here | way
    · exact here ▸ declared
    · exact declared_of_path way
  have inPart : ∀ {first : SetOrder} {ordered}, engine.registry.dependencyOrder first [] =
      .ok ordered → ∀ componentId, componentId ∈ ordered.reverse.filter (fun item => decide
        (Relation.ReflTransGen (Needs engine.registry.dependencies) item selected)) ↔
      Relation.ReflTransGen (Needs engine.registry.dependencies) componentId selected := by
    intro first ordered run componentId
    rw [List.mem_filter, List.mem_reverse, decide_eq_true_eq]
    exact ⟨fun both => both.2, fun path => ⟨inOrder run componentId path, path⟩⟩
  have listed : ∀ {first : SetOrder} {part ordered : List ComponentId},
      (∀ componentId, componentId ∈ part ↔
        Relation.ReflTransGen (Needs engine.registry.dependencies) componentId selected) →
      engine.registry.dependencyOrder first part.eraseDups = .ok ordered →
      ∀ componentId, Relation.ReflTransGen (Needs engine.registry.dependencies)
        componentId selected → componentId ∈ ordered := by
    intro first part ordered exact_ run componentId path
    have member := List.mem_eraseDups.mpr ((exact_ componentId).mpr path)
    rw [ComponentRegistry.dependencyOrder_mem run]
    apply Closure.of_mem
    rwa [ComponentRegistry.selection, if_neg (List.ne_nil_of_mem member)]
  constructor
  · intro agree
    obtain ⟨full, fullRun, fullNames, resolvable⟩ := labPlan_suspend_again valid made
    have exactPart := inPart fullRun
    rw [← fullNames] at exactPart
    obtain ⟨start, _, startRun, _, _⟩ :=
      plan_stop_consumers valid declared resolvable exactPart .insertion
    apply ComponentRegistry.settledOn_of_canonical startRun (listed exactPart startRun)
    have fixed : ∀ other ordered, engine.registry.dependencyOrder other
          document.plan.components.eraseDups = .ok ordered →
        ordered.filter (fun item => decide
          (Relation.ReflTransGen (Needs engine.registry.dependencies) item selected)) =
          document.plan.components.reverse := by
      intro other ordered run
      obtain ⟨again, stopped, rerun, planned, names⟩ :=
        plan_stop_consumers valid declared resolvable exactPart other
      rw [run] at rerun
      cases rerun
      rw [← agree order other document stopped made planned, names, List.filter_reverse,
        List.reverse_reverse]
    intro left right leftResult rightResult leftRun rightRun
    rw [fixed left leftResult leftRun, fixed right rightResult rightRun]
  · intro settled first second suspended stopped lab planned
    obtain ⟨full, fullRun, fullNames, resolvable⟩ := labPlan_suspend_again valid lab
    have exactPart := inPart fullRun
    rw [← fullNames] at exactPart
    obtain ⟨ordered, again, run, replanned, names⟩ :=
      plan_stop_consumers valid declared resolvable exactPart second
    rw [planned] at replanned
    cases replanned
    have same := settled.filter_eq run fullRun (listed exactPart run) (inOrder fullRun)
    rw [names, fullNames, List.filter_reverse, List.filter_reverse, same]

theorem canonicalPlan_eraseDups {registry : ComponentRegistry} {operation : Operation}
    {requested : List ComponentId} :
    CanonicalPlan registry operation requested.eraseDups ↔
      CanonicalPlan registry operation requested := by
  have same : Closure registry.dependencies requested.eraseDups =
      Closure registry.dependencies requested := by
    funext componentId
    simp [Closure]
  simp only [CanonicalPlan, same, List.mem_eraseDups]

theorem operationPlan_again (valid : ValidRegistry engine.registry) {order : SetOrder}
    {name : String} {requested : List ComponentId} {operation : Operation}
    {document : PlanDocument} (named : requestOperation name = some operation)
    (made : engine.plan order name requested = .ok document)
    (currentState : List (String × String)) (other : SetOrder) :
    ∃ reordered, engine.registry.dependencyOrder other requested.eraseDups = .ok reordered ∧
      engine.operationPlan other name requested currentState =
        .ok ⟨operation.name, arrangement operation requested.eraseDups reordered,
          currentState⟩ := by
  obtain ⟨reordered, another, rerun, again, sameOperation, arranged⟩ :=
    plan_again valid named made other
  refine ⟨reordered, rerun, ?_⟩
  rw [Engine.operationPlan, again, ← arranged, ← sameOperation]
  rfl

theorem eraseDups_ne_nil {requested : List ComponentId} (nonempty : requested ≠ []) :
    requested.eraseDups ≠ [] := by
  obtain ⟨componentId, member⟩ := List.exists_mem_of_ne_nil requested nonempty
  exact List.ne_nil_of_mem (List.mem_eraseDups.mpr member)

/-- The plan an approval is bound to is the same for every iteration of the sets
exactly when the declarations order what each phase handles. -/
theorem operationPlan_canonical_iff (valid : ValidRegistry engine.registry) {order : SetOrder}
    {name : String} {requested : List ComponentId} {operation : Operation}
    {document : PlanDocument} (named : requestOperation name = some operation)
    (made : engine.plan order name requested = .ok document)
    (currentState : List (String × String)) :
    (∀ first second, engine.operationPlan first name requested currentState =
      engine.operationPlan second name requested currentState) ↔
    CanonicalPlan engine.registry operation requested := by
  obtain ⟨_, _, _, nonempty, _, _⟩ := plan_eq_ok made
  have kept := eraseDups_ne_nil nonempty
  have planned := operationPlan_again valid named made currentState
  rw [← canonicalPlan_eraseDups]
  constructor
  · intro same
    obtain ⟨start, startRun, _⟩ := planned .insertion
    apply canonical_of_arrangement kept startRun
    intro leftOrder rightOrder left right leftRun rightRun
    obtain ⟨leftResult, leftRerun, leftPlan⟩ := planned leftOrder
    obtain ⟨rightResult, rightRerun, rightPlan⟩ := planned rightOrder
    rw [leftRun] at leftRerun
    rw [rightRun] at rightRerun
    cases leftRerun
    cases rightRerun
    have equal := same leftOrder rightOrder
    rw [leftPlan, rightPlan] at equal
    exact (OperationPlan.mk.inj (Except.ok.inj equal)).2.1
  · intro canonical first second
    obtain ⟨left, leftRun, leftPlan⟩ := planned first
    obtain ⟨right, rightRun, rightPlan⟩ := planned second
    rw [leftPlan, rightPlan, arrangement_of_canonical kept leftRun rightRun canonical]

theorem dependencyOrder_canonical_iff (valid : ValidRegistry engine.registry)
    {selected : List ComponentId}
    (declared : ∀ componentId ∈ selected, componentId ∈ engine.registry.componentIds) :
    (∀ first second others, (∀ componentId, componentId ∈ others ↔ componentId ∈ selected) →
      engine.registry.dependencyOrder first selected =
        engine.registry.dependencyOrder second others) ↔
    engine.registry.SettledOn
      (Closure engine.registry.dependencies (engine.registry.selection selected)) := by
  classical
  obtain ⟨start, startRun⟩ := valid.dependencyOrder_ok .insertion selected declared
  constructor
  · intro same
    apply ComponentRegistry.settledOn_of_canonical startRun
      (fun componentId => (ComponentRegistry.dependencyOrder_mem startRun componentId).mpr)
    intro left right leftResult rightResult leftRun rightRun
    have equal := same left right selected (fun _ => Iff.rfl)
    rw [leftRun, rightRun] at equal
    rw [Except.ok.inj equal]
  · intro settled first second others sameMembers
    obtain ⟨left, leftRun⟩ := valid.dependencyOrder_ok first selected declared
    obtain ⟨right, rightRun⟩ := valid.dependencyOrder_ok second others
      (fun componentId member => declared componentId ((sameMembers componentId).mp member))
    have sameSelection : ∀ componentId, componentId ∈ engine.registry.selection others ↔
        componentId ∈ engine.registry.selection selected := by
      intro componentId
      have empty : others = [] ↔ selected = [] := by
        simp only [List.eq_nil_iff_forall_not_mem, sameMembers]
      by_cases none : selected = []
      · simp [ComponentRegistry.selection, none, empty.mpr none]
      · have some_ : others ≠ [] := fun missing => none (empty.mp missing)
        simp [ComponentRegistry.selection, none, some_, sameMembers]
    have leftMem := ComponentRegistry.dependencyOrder_mem leftRun
    have rightMem : ∀ componentId, componentId ∈ right ↔
        Closure engine.registry.dependencies (engine.registry.selection selected)
          componentId := by
      intro componentId
      rw [ComponentRegistry.dependencyOrder_mem rightRun]
      constructor
      · exact Closure.mono (fun item member => (sameSelection item).mp member)
      · exact Closure.mono (fun item member => (sameSelection item).mpr member)
    have same := settled.filter_eq leftRun rightRun (fun componentId => (leftMem componentId).mpr)
      (fun componentId => (rightMem componentId).mpr)
    rw [List.filter_eq_self.mpr (fun item member => decide_eq_true ((leftMem item).mp member)),
      List.filter_eq_self.mpr (fun item member => decide_eq_true ((rightMem item).mp member))]
      at same
    rw [leftRun, rightRun, same]

end

/-- Plan order is canonical exactly where the declarations order the components of
one phase. This decides whether a dependency order is one fixed tuple, whether the
digest of a plan is the same after a restart (or the hash function has a collision),
and whether a suspend plan lists its components as the stop plan for them does. -/
theorem plan_order_canonical_iff (engine : Engine) (valid : ValidRegistry engine.registry) :
    (∀ selected, (∀ componentId ∈ selected, componentId ∈ engine.registry.componentIds) →
      ((∀ first second others, (∀ componentId, componentId ∈ others ↔ componentId ∈ selected) →
          engine.registry.dependencyOrder first selected =
            engine.registry.dependencyOrder second others) ↔
        engine.registry.SettledOn
          (Closure engine.registry.dependencies (engine.registry.selection selected)))) ∧
    (∀ order name requested operation document currentState,
      requestOperation name = some operation →
      engine.plan order name requested = .ok document →
      ((∀ first second, engine.operationPlan first name requested currentState =
          engine.operationPlan second name requested currentState) ↔
        CanonicalPlan engine.registry operation requested) ∧
      ∀ sha256,
        (CanonicalPlan engine.registry operation requested → ∀ first second,
          (engine.operationPlan first name requested currentState).map
              (OperationPlan.digest sha256) =
            (engine.operationPlan second name requested currentState).map
              (OperationPlan.digest sha256)) ∧
        ((∀ first second,
          (engine.operationPlan first name requested currentState).map
              (OperationPlan.digest sha256) =
            (engine.operationPlan second name requested currentState).map
              (OperationPlan.digest sha256)) →
          CanonicalPlan engine.registry operation requested ∨ Collision sha256)) ∧
    (∀ order report selected document,
      engine.labPlan order report "suspend" (some selected) = .ok document →
      ((∀ first second suspended stopped,
          engine.labPlan first report "suspend" (some selected) = .ok suspended →
          engine.plan second "stop" suspended.plan.components = .ok stopped →
          stopped.components = suspended.plan.components) ↔
        engine.registry.SettledOn (fun componentId =>
          Relation.ReflTransGen (Needs engine.registry.dependencies) componentId selected))) := by
  refine ⟨fun selected declared => dependencyOrder_canonical_iff valid declared, ?_,
    fun order report selected document made => suspend_agrees_iff valid made⟩
  intro order name requested operation document currentState named made
  have canonical := operationPlan_canonical_iff valid named made currentState
  refine ⟨canonical, fun sha256 => ⟨?_, ?_⟩⟩
  · intro settled first second
    rw [canonical.mpr settled first second]
  · intro same
    by_cases collision : Collision sha256
    · exact .inr collision
    · refine .inl (canonical.mp (fun first second => ?_))
      obtain ⟨left, _, leftPlan⟩ := operationPlan_again valid named made currentState first
      obtain ⟨right, _, rightPlan⟩ := operationPlan_again valid named made currentState second
      have equal := same first second
      rw [leftPlan, rightPlan] at equal
      have payloads := (digest_inj (Except.ok.inj equal)).resolve_right collision
      have targets := (payload_inj payloads).2.1
      dsimp only at targets
      rw [leftPlan, rightPlan, targets]

/-- The shipped order of `ssc` and what it needs is one fixed tuple. -/
theorem plan_order_canonical_iff_ssc :
    shippedRegistry.dependencyOrder .insertion ["ssc"] =
      shippedRegistry.dependencyOrder .reversed ["ssc"] := by
  have chain : shippedRegistry.SettledOn (Closure shippedRegistry.dependencies
      (shippedRegistry.selection ["ssc"])) := by
    have run : shippedRegistry.dependencyOrder .insertion ["ssc"] = .ok ["mysql", "ssc"] := by
      decide +kernel
    have before : shippedRegistry.Before "mysql" "ssc" :=
      .waits "mysql" (by decide) (by
        intro need edge
        have none : shippedRegistry.dependencies "mysql" = [] := by decide
        rw [none] at edge
        cases edge)
    intro first second left right different
    rw [← ComponentRegistry.dependencyOrder_mem run] at left right
    simp only [List.mem_cons, List.not_mem_nil, or_false] at left right
    rcases left with rfl | rfl <;> rcases right with rfl | rfl
    · exact absurd rfl different
    · exact .inl before
    · exact .inr before
    · exact absurd rfl different
  exact ((plan_order_canonical_iff shippedEngine shipped_valid).1 ["ssc"] (by decide)).mpr chain
    .insertion .reversed ["ssc"] (fun _ => Iff.rfl)

/-- On the shipped registry the iteration of the sets decides which consumer of
`ssc` comes first: in the dependency order, in a stop plan and its digest, and
between a suspend plan and the stop plan of its components. -/
theorem plan_order_not_canonical_shipped :
    shippedRegistry.dependencyOrder .insertion [] ≠
      shippedRegistry.dependencyOrder .reversed [] ∧
    (∃ first second : OperationPlan,
      shippedEngine.operationPlan .insertion "stop" shippedRegistry.componentIds [] = .ok first ∧
      shippedEngine.operationPlan .reversed "stop" shippedRegistry.componentIds [] = .ok second ∧
      first.payload ≠ second.payload) ∧
    (shippedEngine.labPlan .insertion (some ⟨true, fun _ => true⟩) "suspend" (some "ssc")).map
        (fun document => document.plan.components) =
      .ok ["scancentral-dast-scanner", "scancentral-dast-core", "scancentral-sast", "ssc"] ∧
    (shippedEngine.plan .insertion "stop" ["scancentral-dast-scanner", "scancentral-dast-core",
        "scancentral-sast", "ssc"]).map PlanDocument.components =
      .ok ["scancentral-dast-scanner", "scancentral-sast", "scancentral-dast-core", "ssc"] := by
  refine ⟨by decide +kernel, ?_, by decide +kernel, by decide +kernel⟩
  refine ⟨⟨"stop", ["scancentral-dast-scanner", "scancentral-dast-core", "scancentral-sast",
    "ssc", "lim", "postgresql", "mysql"], []⟩, ⟨"stop", ["scancentral-dast-scanner",
    "scancentral-sast", "scancentral-dast-core", "ssc", "lim", "postgresql", "mysql"], []⟩,
    by decide +kernel, by decide +kernel, ?_⟩
  intro same
  exact absurd (payload_inj same).2.1 (by decide)

end FortifyLab.Lifecycle
