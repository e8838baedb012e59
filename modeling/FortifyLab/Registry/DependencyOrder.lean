import FortifyLab.Library.KahnQueue
import FortifyLab.Registry.Closure

/-! `dependency_order`: the counters of the source keep exactly the edges whose
dependency has not been emitted, so the loop is Kahn's algorithm on the closure. -/

namespace FortifyLab.Registry.ComponentRegistry

open DependencyGraph

/-- The components that start in the ready queue, in the order of declaration. -/
def initialReady (registry : ComponentRegistry) (closure : List ComponentId)
    (indegree : ComponentId → Int) : List ComponentId :=
  registry.componentIds.filter (fun componentId =>
    decide (componentId ∈ closure ∧ indegree componentId = 0))

/-- `dependency_order`; no selection (or an empty one) selects every component. -/
def dependencyOrder (registry : ComponentRegistry) (order : SetOrder)
    (selected : List ComponentId) : Except RegistryError (List ComponentId) :=
  let requested := order.requested
    (if selected = [] then registry.componentIds else selected.eraseDups)
  match registry.closureOf requested with
  | .error error => .error error
  | .ok closure =>
      let tables := registry.countEdges (order.closure closure)
      let (ordered, indegree) := drainReady tables.consumers closure.length tables.indegree []
        (registry.initialReady closure tables.indegree)
      if ordered.length = closure.length then .ok ordered
      else .error (.dependencyCycle
        ((closure.filter (fun componentId => decide (indegree componentId ≠ 0))).mergeSort))

/-! ## The edge tables -/

theorem foldl_countEdge (componentId : ComponentId) (dependencies : List ComponentId)
    (tables : EdgeTables) :
    dependencies.foldl (countEdge componentId) tables =
      ⟨Function.update tables.indegree componentId
          (tables.indegree componentId + dependencies.length),
        fun dependency => tables.consumers dependency ++
          List.replicate (dependencies.count dependency) componentId⟩ := by
  induction dependencies generalizing tables with
  | nil => simp
  | cons head tail ih =>
      rw [List.foldl_cons, ih]
      congr 1
      · simp only [countEdge, Function.update_self, Function.update_idem, List.length_cons]
        congr 1
        push_cast
        omega
      · funext dependency
        by_cases same : dependency = head
        · subst same
          simp [countEdge, List.replicate_succ]
        · simp [countEdge, same, Ne.symm same]

theorem foldl_countEdges (registry : ComponentRegistry) (iteration : List ComponentId)
    (distinct : iteration.Nodup) (tables : EdgeTables)
    (fresh : ∀ componentId ∈ iteration, tables.indegree componentId = 0) :
    iteration.foldl (fun tables componentId =>
        (registry.dependencies componentId).foldl (countEdge componentId) tables) tables =
      ⟨fun componentId => if componentId ∈ iteration
          then ((registry.dependencies componentId).length : Int) else tables.indegree componentId,
        fun dependency => tables.consumers dependency ++ iteration.flatMap (fun componentId =>
          List.replicate ((registry.dependencies componentId).count dependency) componentId)⟩ := by
  induction iteration generalizing tables with
  | nil => simp
  | cons head tail ih =>
      obtain ⟨absent, distinctTail⟩ := List.nodup_cons.mp distinct
      rw [List.foldl_cons, foldl_countEdge, ih distinctTail]
      · congr 1
        · funext componentId
          by_cases same : componentId = head
          · subst same
            simp [absent, fresh componentId (by simp)]
          · simp [same]
        · funext dependency
          simp
      · intro componentId member
        have different : componentId ≠ head := fun same => absent (same ▸ member)
        simpa [different] using fresh componentId (List.mem_cons_of_mem _ member)

theorem countEdges_eq (registry : ComponentRegistry) {iteration : List ComponentId}
    (distinct : iteration.Nodup) :
    registry.countEdges iteration =
      ⟨fun componentId => if componentId ∈ iteration
          then ((registry.dependencies componentId).length : Int) else 0,
        fun dependency => iteration.flatMap (fun componentId =>
          List.replicate ((registry.dependencies componentId).count dependency) componentId)⟩ := by
  rw [countEdges, foldl_countEdges registry iteration distinct _ (fun _ _ => rfl)]
  simp

/-! ## One round of the loop -/

/-- A component listed `times` times among the consumers loses that many
dependencies and is ready exactly when they were its last. -/
theorem foldl_settle_replicate (componentId : ComponentId) (times : Nat)
    (indegree : ComponentId → Int) (ready : List ComponentId)
    (bound : (times : Int) ≤ indegree componentId) :
    (List.replicate times componentId).foldl settle (indegree, ready) =
      (Function.update indegree componentId (indegree componentId - times),
        ready ++ if 0 < times ∧ indegree componentId = times then [componentId] else []) := by
  induction times generalizing indegree ready with
  | zero => simp
  | succ times ih =>
      rw [List.replicate_succ, List.foldl_cons, settle]
      simp only [Function.update_self]
      rw [ih _ _ (by simp only [Function.update_self]; push_cast at bound; omega)]
      simp only [Function.update_self, Function.update_idem]
      congr 1
      · congr 1
        push_cast
        omega
      · rcases Nat.eq_zero_or_pos times with rfl | positive
        · by_cases last : indegree componentId = 1
          · simp [last]
          · have more : indegree componentId - 1 ≠ 0 := by omega
            simp [last, more]
        · have more : indegree componentId - 1 ≠ 0 := by push_cast at bound; omega
          have exact_iff : (indegree componentId - 1 = times) ↔
              (indegree componentId = ((times + 1 : Nat) : Int)) := by
            push_cast
            omega
          simp only [more, if_false, positive, true_and, Nat.succ_pos, exact_iff]

/-- The round over all consumers of one dependency, `times` being how often each
component of the iteration is listed. -/
theorem foldl_settle_blocks (times : ComponentId → Nat) (iteration : List ComponentId)
    (distinct : iteration.Nodup) (indegree : ComponentId → Int) (ready : List ComponentId)
    (bound : ∀ componentId ∈ iteration, (times componentId : Int) ≤ indegree componentId) :
    (iteration.flatMap (fun componentId => List.replicate (times componentId) componentId)).foldl
        settle (indegree, ready) =
      (fun componentId => if componentId ∈ iteration
          then indegree componentId - times componentId else indegree componentId,
        ready ++ iteration.filter (fun componentId =>
          decide (0 < times componentId ∧ indegree componentId = times componentId))) := by
  induction iteration generalizing indegree ready with
  | nil => simp
  | cons head tail ih =>
      obtain ⟨absent, distinctTail⟩ := List.nodup_cons.mp distinct
      have untouched : ∀ componentId ∈ tail,
          Function.update indegree head (indegree head - times head) componentId =
            indegree componentId := by
        intro componentId member
        have different : componentId ≠ head := fun same => absent (same ▸ member)
        exact Function.update_of_ne different _ _
      rw [List.flatMap_cons, List.foldl_append,
        foldl_settle_replicate head (times head) indegree ready (bound head (by simp)),
        ih distinctTail _ _ (by
          intro componentId member
          rw [untouched componentId member]
          exact bound componentId (List.mem_cons_of_mem _ member))]
      congr 1
      · funext componentId
        by_cases same : componentId = head
        · subst same
          simp [absent]
        · simp [same]
      · rw [List.append_assoc]
        congr 1
        have rest : tail.filter (fun componentId => decide (0 < times componentId ∧
              Function.update indegree head (indegree head - times head) componentId =
                times componentId)) =
            tail.filter (fun componentId =>
              decide (0 < times componentId ∧ indegree componentId = times componentId)) := by
          apply List.filter_congr
          intro componentId member
          rw [untouched componentId member]
        rw [rest]
        by_cases exhausted : 0 < times head ∧ indegree head = times head
        · rw [if_pos exhausted, List.filter_cons_of_pos (by simpa using exhausted)]
          rfl
        · rw [if_neg exhausted, List.filter_cons_of_neg (by simpa using exhausted)]
          rfl

/-- The dependencies of a component that are still to be emitted, entry by entry. -/
def missing (registry : ComponentRegistry) (emitted : List ComponentId)
    (componentId : ComponentId) : Nat :=
  (registry.dependencies componentId).countP (fun dependency => decide (dependency ∉ emitted))

theorem missing_emit (registry : ComponentRegistry) {emitted : List ComponentId}
    {next : ComponentId} (fresh : next ∉ emitted) (componentId : ComponentId) :
    registry.missing emitted componentId =
      (registry.dependencies componentId).count next +
        registry.missing (emitted ++ [next]) componentId := by
  unfold missing
  induction registry.dependencies componentId with
  | nil => rfl
  | cons head tail ih =>
      rw [List.countP_cons, List.countP_cons, List.count_cons, ih]
      by_cases same : head = next
      · subst same
        simp [fresh]
        omega
      · by_cases old : head ∈ emitted <;> simp only [old] <;> grind

theorem missing_eq_zero (registry : ComponentRegistry) {emitted : List ComponentId}
    {componentId : ComponentId} :
    registry.missing emitted componentId = 0 ↔
      ∀ dependency ∈ registry.dependencies componentId, dependency ∈ emitted := by
  simp [missing, List.countP_eq_zero]

/-- The counters hold the number of missing dependencies. -/
def Counts (registry : ComponentRegistry) (iteration emitted : List ComponentId)
    (indegree : ComponentId → Int) : Prop :=
  ∀ componentId ∈ iteration, indegree componentId = registry.missing emitted componentId

theorem settle_round (registry : ComponentRegistry) {iteration emitted : List ComponentId}
    (ready : List ComponentId)
    {indegree : ComponentId → Int} {next : ComponentId} (distinct : iteration.Nodup)
    (counts : registry.Counts iteration emitted indegree) (fresh : next ∉ emitted) :
    ∃ settled, ((registry.countEdges iteration).consumers next).foldl settle (indegree, ready) =
        (settled, ready ++ KahnQueue.released registry.dependencies iteration emitted next) ∧
      registry.Counts iteration (emitted ++ [next]) settled := by
  have bound : ∀ componentId ∈ iteration,
      (((registry.dependencies componentId).count next : Nat) : Int) ≤ indegree componentId := by
    intro componentId member
    rw [counts componentId member, registry.missing_emit fresh componentId]
    omega
  rw [registry.countEdges_eq distinct,
    foldl_settle_blocks (fun componentId => (registry.dependencies componentId).count next)
      iteration distinct indegree ready bound]
  refine ⟨fun componentId => if componentId ∈ iteration
      then indegree componentId - (registry.dependencies componentId).count next
      else indegree componentId, ?_, ?_⟩
  · congr 2
    apply List.filter_congr
    intro componentId member
    rw [decide_eq_decide, List.count_pos_iff, counts componentId member,
      ← registry.missing_eq_zero, registry.missing_emit fresh componentId]
    apply and_congr_right
    intro _
    omega
  · intro componentId member
    beta_reduce
    rw [if_pos member, counts componentId member, registry.missing_emit fresh componentId]
    omega

/-- The loop over the counters emits what Kahn's queue emits. -/
theorem drainReady_eq (registry : ComponentRegistry) {iteration : List ComponentId}
    (distinct : iteration.Nodup) (fuel : Nat) {indegree : ComponentId → Int}
    {emitted ready : List ComponentId}
    (counts : registry.Counts iteration emitted indegree)
    (sound : KahnQueue.Sound registry.dependencies iteration emitted ready) :
    (drainReady (registry.countEdges iteration).consumers fuel indegree emitted ready).1 =
      KahnQueue.drain registry.dependencies iteration fuel emitted ready := by
  induction fuel generalizing indegree emitted ready with
  | zero => rfl
  | succ fuel ih =>
      cases ready with
      | nil => rfl
      | cons next ready =>
          have fresh : next ∉ emitted := by
            intro member
            exact (List.nodup_append.mp sound.nodup).2.2 next member next (by simp) rfl
          obtain ⟨settled, round, after⟩ :=
            registry.settle_round ready distinct counts fresh
          simp only [drainReady, KahnQueue.drain, round]
          exact ih after (sound.step distinct)

/-! ## The whole computation -/

/-- The components a selection names; an empty one names them all. -/
def selection (registry : ComponentRegistry) (selected : List ComponentId) : List ComponentId :=
  if selected = [] then registry.componentIds else selected

/-- The set `requested` in its order of iteration. -/
def requestedSet (registry : ComponentRegistry) (order : SetOrder)
    (selected : List ComponentId) : List ComponentId :=
  order.requested (if selected = [] then registry.componentIds else selected.eraseDups)

/-- The components of the closure without dependencies, as declared. -/
def sources (registry : ComponentRegistry) (closure : List ComponentId) : List ComponentId :=
  registry.componentIds.filter (fun componentId =>
    decide (componentId ∈ closure ∧ registry.dependencies componentId = []))

/-- Kahn's queue on a closure, drained. -/
def emission (registry : ComponentRegistry) (order : SetOrder) (closure : List ComponentId) :
    List ComponentId :=
  KahnQueue.drain registry.dependencies (order.closure closure) closure.length []
    (registry.sources closure)

variable {registry : ComponentRegistry} (order : SetOrder) {selected : List ComponentId}

theorem mem_requestedSet {componentId : ComponentId} :
    componentId ∈ registry.requestedSet order selected ↔
      componentId ∈ registry.selection selected := by
  unfold requestedSet selection
  rw [(order.requested_perm _).mem_iff]
  split
  · rfl
  · exact List.mem_eraseDups

theorem closure_requestedSet {componentId : ComponentId} :
    Closure registry.dependencies (registry.requestedSet order selected) componentId ↔
      Closure registry.dependencies (registry.selection selected) componentId := by
  constructor
  · exact Closure.mono (fun _ member => (mem_requestedSet order).mp member)
  · exact Closure.mono (fun _ member => (mem_requestedSet order).mpr member)

theorem initialReady_eq {requested closure : List ComponentId}
    (isClosure : registry.IsClosure requested closure) :
    registry.initialReady closure (registry.countEdges (order.closure closure)).indegree =
      registry.sources closure := by
  have perm := order.closure_perm closure
  rw [registry.countEdges_eq (perm.nodup_iff.mpr isClosure.nodup)]
  apply List.filter_congr
  intro componentId _
  rw [decide_eq_decide]
  apply and_congr_right
  intro member
  simp [perm.mem_iff.mpr member]

/-- Kahn's queue starts sound: the sources are the nodes that need nothing. -/
theorem sound_sources {requested closure : List ComponentId}
    (isClosure : registry.IsClosure requested closure) :
    KahnQueue.Sound registry.dependencies (order.closure closure) [] (registry.sources closure) := by
  have perm := order.closure_perm closure
  apply KahnQueue.sound_initial (registry.uniqueIds.filter _)
  intro componentId
  simp only [List.mem_filter, decide_eq_true_eq, perm.mem_iff]
  constructor
  · exact fun inside => inside.2
  · exact fun inside => ⟨isClosure.declared _ inside.1, inside⟩

theorem emission_sound {requested closure : List ComponentId}
    (isClosure : registry.IsClosure requested closure) :
    KahnQueue.Sound registry.dependencies (order.closure closure)
      (registry.emission order closure) [] := by
  have perm := order.closure_perm closure
  apply (sound_sources order isClosure).drain (perm.nodup_iff.mpr isClosure.nodup)
  simp [perm.length_eq]

theorem emission_length_iff {requested closure : List ComponentId}
    (isClosure : registry.IsClosure requested closure) :
    (registry.emission order closure).length = closure.length ↔
      ∀ componentId ∈ closure, ¬ OnCycle registry.dependencies componentId := by
  have perm := order.closure_perm closure
  have counted := (emission_sound order isClosure).length_eq_iff
    (perm.nodup_iff.mpr isClosure.nodup) (by
      intro componentId member dependency edge
      rw [perm.mem_iff] at member ⊢
      exact isClosure.closed componentId member dependency edge)
  rw [perm.length_eq] at counted
  rw [counted]
  simp only [perm.mem_iff]

/-- `dependency_order` without its counters. -/
theorem dependencyOrder_eq (registry : ComponentRegistry) (selected : List ComponentId) :
    (∃ error, registry.closureOf (registry.requestedSet order selected) = .error error ∧
      registry.dependencyOrder order selected = .error error) ∨
    ∃ closure, registry.IsClosure (registry.requestedSet order selected) closure ∧
      registry.closureOf (registry.requestedSet order selected) = .ok closure ∧
      (((registry.emission order closure).length = closure.length ∧
          registry.dependencyOrder order selected = .ok (registry.emission order closure)) ∨
        ((registry.emission order closure).length ≠ closure.length ∧
          ∃ involved, registry.dependencyOrder order selected =
            .error (.dependencyCycle involved))) := by
  cases run : registry.closureOf (registry.requestedSet order selected) with
  | error error =>
      refine .inl ⟨error, rfl, ?_⟩
      simp only [requestedSet] at run
      simp only [dependencyOrder, run]
  | ok closure =>
      have isClosure := closureOf_ok run
      have distinct := (order.closure_perm closure).nodup_iff.mpr isClosure.nodup
      have counts : registry.Counts (order.closure closure) []
          (registry.countEdges (order.closure closure)).indegree := by
        intro componentId member
        rw [registry.countEdges_eq distinct]
        simp [member, missing]
      have loop := registry.drainReady_eq distinct closure.length counts
        (sound_sources order isClosure)
      refine .inr ⟨closure, isClosure, rfl, ?_⟩
      simp only [requestedSet] at run
      simp only [dependencyOrder, run, initialReady_eq order isClosure, loop]
      by_cases complete : (registry.emission order closure).length = closure.length
      · exact .inl ⟨complete, if_pos complete⟩
      · exact .inr ⟨complete, _, if_neg complete⟩

variable {order} in
theorem dependencyOrder_ok {ordered : List ComponentId}
    (run : registry.dependencyOrder order selected = .ok ordered) :
    ∃ closure, registry.IsClosure (registry.requestedSet order selected) closure ∧
      registry.closureOf (registry.requestedSet order selected) = .ok closure ∧
      ordered = registry.emission order closure ∧ ordered.Perm closure := by
  rcases registry.dependencyOrder_eq order selected with
    ⟨error, _, failed⟩ | ⟨closure, isClosure, collected, ⟨complete, done⟩ | ⟨_, _, failed⟩⟩
  · rw [run] at failed
    cases failed
  · rw [run] at done
    cases done
    have perm := order.closure_perm closure
    have acyclic := (emission_length_iff order isClosure).mp complete
    refine ⟨closure, isClosure, collected, rfl, List.Perm.trans ?_ perm⟩
    have sound := emission_sound order isClosure
    apply sound.perm (perm.nodup_iff.mpr isClosure.nodup)
    apply sound.all_emitted
    · intro componentId member dependency edge
      rw [perm.mem_iff] at member ⊢
      exact isClosure.closed componentId member dependency edge
    · intro componentId member
      exact acyclic componentId (perm.mem_iff.mp member)
  · rw [run] at failed
    cases failed

theorem dependencyOrder_error_iff :
    (∃ error, registry.dependencyOrder order selected = .error error) ↔
      ∃ componentId, Closure registry.dependencies (registry.selection selected) componentId ∧
        (componentId ∉ registry.componentIds ∨ OnCycle registry.dependencies componentId) := by
  simp only [← closure_requestedSet order]
  rcases registry.dependencyOrder_eq order selected with
    ⟨error, collected, failed⟩ | ⟨closure, isClosure, _, ⟨complete, done⟩ | ⟨short, _, failed⟩⟩
  · obtain ⟨componentId, _, inside, undeclared⟩ := closureOf_error collected
    exact ⟨fun _ => ⟨componentId, inside, .inl undeclared⟩, fun _ => ⟨error, failed⟩⟩
  · have acyclic := (emission_length_iff order isClosure).mp complete
    constructor
    · rintro ⟨error, failed⟩
      rw [done] at failed
      cases failed
    · rintro ⟨componentId, inside, undeclared | cyclic⟩
      · exact absurd (isClosure.declared _ ((isClosure.mem_iff _).mpr inside)) undeclared
      · exact absurd cyclic (acyclic _ ((isClosure.mem_iff _).mpr inside))
  · refine ⟨fun _ => ?_, fun _ => ⟨_, failed⟩⟩
    rw [Ne, emission_length_iff order isClosure] at short
    push Not at short
    obtain ⟨componentId, member, cyclic⟩ := short
    exact ⟨componentId, (isClosure.mem_iff _).mp member, .inr cyclic⟩

variable {order} in
theorem dependencyOrder_mem {ordered : List ComponentId}
    (run : registry.dependencyOrder order selected = .ok ordered) (componentId : ComponentId) :
    componentId ∈ ordered ↔
      Closure registry.dependencies (registry.selection selected) componentId := by
  obtain ⟨closure, isClosure, _, _, perm⟩ := dependencyOrder_ok run
  rw [perm.mem_iff, isClosure.mem_iff, closure_requestedSet order]

variable {order} in
theorem dependencyOrder_nodup {ordered : List ComponentId}
    (run : registry.dependencyOrder order selected = .ok ordered) : ordered.Nodup := by
  obtain ⟨closure, isClosure, _, _, perm⟩ := dependencyOrder_ok run
  exact perm.nodup_iff.mpr isClosure.nodup

variable {order} in
theorem dependencyOrder_ordered {ordered : List ComponentId}
    (run : registry.dependencyOrder order selected = .ok ordered) :
    Ordered registry.dependencies ordered := by
  obtain ⟨closure, isClosure, _, rfl, _⟩ := dependencyOrder_ok run
  exact (emission_sound order isClosure).ordered

/-- For every registry, selection and iteration order of the sets: the recursive
`include` ends, the call fails exactly on an undeclared component or a cycle in
the closure, and otherwise lists the closure once, dependencies first. -/
theorem dependencyOrder_correct (registry : ComponentRegistry) (order : SetOrder)
    (selected : List ComponentId) :
    (∀ depth, registry.components.length < depth → ∀ requested,
      includeEach (registry.includeComponent depth) [] requested =
        some (registry.closureOf requested)) ∧
    ((∃ error, registry.dependencyOrder order selected = .error error) ↔
      ∃ componentId, Closure registry.dependencies (registry.selection selected) componentId ∧
        (componentId ∉ registry.componentIds ∨ OnCycle registry.dependencies componentId)) ∧
    ∀ ordered, registry.dependencyOrder order selected = .ok ordered →
      ordered.Nodup ∧
      (∀ componentId, componentId ∈ ordered ↔
        Closure registry.dependencies (registry.selection selected) componentId) ∧
      Ordered registry.dependencies ordered := by
  refine ⟨?_, dependencyOrder_error_iff order, ?_⟩
  · intro depth enough requested
    exact includeEach_eq_closureOf requested depth enough
  · intro ordered run
    exact ⟨dependencyOrder_nodup run, dependencyOrder_mem run, dependencyOrder_ordered run⟩

end FortifyLab.Registry.ComponentRegistry
