import FortifyLab.Library.KahnOrder
import FortifyLab.Registry.DependencyOrder

/-! The part of a dependency order that Python's iteration of its sets cannot
change: the dependencies and the order of declaration decide it. -/

namespace FortifyLab.Registry

open DependencyGraph KahnQueue

theorem iterating_perm (iteration inserted : List ComponentId) :
    (if inserted.Perm iteration then iteration else inserted).Perm inserted := by
  split
  · next same => exact same.symm
  · exact .refl _

/-- A set order that iterates one closure in the given order. -/
def SetOrder.iterating (iteration : List ComponentId) : SetOrder where
  requested := id
  closure inserted := if inserted.Perm iteration then iteration else inserted
  requested_perm := List.Perm.refl
  closure_perm := iterating_perm iteration

/-- The closure iterated against the order of insertion. -/
def SetOrder.reversed : SetOrder where
  requested := id
  closure := List.reverse
  requested_perm := List.Perm.refl
  closure_perm := List.reverse_perm

namespace ComponentRegistry

/-- The components without dependencies, as declared. -/
def roots (registry : ComponentRegistry) : List ComponentId :=
  registry.componentIds.filter (fun componentId =>
    decide (registry.dependencies componentId = []))

/-- The dependencies and the order of declaration put one component before the other. -/
def Before (registry : ComponentRegistry) (first second : ComponentId) : Prop :=
  Earlier registry.dependencies registry.roots first second

/-- Any two components of the part are put in an order. -/
def SettledOn (registry : ComponentRegistry) (part : ComponentId → Prop) : Prop :=
  ∀ first second, part first → part second → first ≠ second →
    registry.Before first second ∨ registry.Before second first

variable {registry : ComponentRegistry} {selected : List ComponentId}

theorem SettledOn.mono {small large : ComponentId → Prop}
    (included : ∀ componentId, small componentId → large componentId)
    (settled : registry.SettledOn large) : registry.SettledOn small :=
  fun first second left right => settled first second (included _ left) (included _ right)

theorem sources_eq (closure : List ComponentId) :
    registry.sources closure =
      registry.roots.filter (fun componentId => decide (componentId ∈ closure)) := by
  rw [roots, List.filter_filter]
  apply List.filter_congr
  intro componentId _
  rw [← Bool.decide_and, decide_eq_decide]

theorem before_iff {requested closure : List ComponentId}
    (isClosure : registry.IsClosure requested closure) {first second : ComponentId}
    (left : first ∈ closure) (right : second ∈ closure) :
    registry.Before first second ↔
      Earlier registry.dependencies (registry.sources closure) first second := by
  rw [sources_eq]
  constructor
  · intro earlier
    apply Earlier.filter _ earlier (by simpa using left) (by simpa using right)
    intro node member need edge
    rw [decide_eq_true_eq] at member ⊢
    exact isClosure.closed node member need edge
  · exact Earlier.mono List.filter_sublist

theorem layout {requested closure : List ComponentId}
    (isClosure : registry.IsClosure requested closure)
    (acyclic : ∀ componentId ∈ closure, ¬ OnCycle registry.dependencies componentId) :
    Layout registry.dependencies closure (registry.sources closure) where
  distinct := isClosure.nodup
  sourcesDistinct := registry.uniqueIds.filter _
  sourcesExact componentId := by
    simp only [sources, List.mem_filter, decide_eq_true_eq]
    constructor
    · exact fun inside => inside.2
    · exact fun inside => ⟨isClosure.declared _ inside.1, inside⟩
  closed := isClosure.closed
  acyclic := acyclic

theorem dependencyOrder_acyclic {order : SetOrder} {ordered : List ComponentId}
    (run : registry.dependencyOrder order selected = .ok ordered) :
    ∀ componentId ∈ ordered, ¬ OnCycle registry.dependencies componentId :=
  fun _ member => (dependencyOrder_ordered run).not_onCycle member

/-- Every computed order follows what the declarations decide. -/
theorem Before.precedes {order : SetOrder} {ordered : List ComponentId}
    (run : registry.dependencyOrder order selected = .ok ordered) {first second : ComponentId}
    (before : registry.Before first second) (left : first ∈ ordered) (right : second ∈ ordered) :
    Precedes ordered first second := by
  have acyclic := dependencyOrder_acyclic run
  obtain ⟨closure, isClosure, _, same, perm⟩ := dependencyOrder_ok run
  have iterated := order.closure_perm closure
  have drained := ((layout isClosure (fun componentId member =>
    acyclic componentId (perm.mem_iff.mpr member))).perm iterated).drained iterated.length_eq.le
  rw [emission] at same
  rw [← same] at drained
  have earlier := (before_iff isClosure (perm.mem_iff.mp left) (perm.mem_iff.mp right)).mp before
  exact earlier.precedes drained left right

/-- What the declarations leave open, some iteration of the sets turns around. -/
theorem exists_order_of_not_before {order : SetOrder} {ordered : List ComponentId}
    (run : registry.dependencyOrder order selected = .ok ordered) {first second : ComponentId}
    (left : first ∈ ordered) (right : second ∈ ordered) (different : first ≠ second)
    (undecided : ¬ registry.Before first second) :
    ∃ other result, registry.dependencyOrder other selected = .ok result ∧
      Precedes result second first := by
  have inside := dependencyOrder_mem run
  have solvable : ¬ ∃ error, registry.dependencyOrder .insertion selected = .error error := by
    rw [dependencyOrder_error_iff, ← dependencyOrder_error_iff order]
    intro failed
    obtain ⟨error, failed⟩ := failed
    rw [run] at failed
    cases failed
  cases plain : registry.dependencyOrder .insertion selected with
  | error error => exact absurd ⟨error, plain⟩ solvable
  | ok start =>
      have acyclic := dependencyOrder_acyclic plain
      obtain ⟨closure, isClosure, collected, _, perm⟩ := dependencyOrder_ok plain
      have member : ∀ componentId, componentId ∈ ordered ↔ componentId ∈ closure := by
        intro componentId
        rw [inside, ← perm.mem_iff, dependencyOrder_mem plain]
      have whole := layout isClosure
        (fun componentId listed => acyclic componentId (perm.mem_iff.mpr listed))
      obtain ⟨iteration, iterationPerm, delays⟩ := exists_delaying whole first
      have chosen : (SetOrder.iterating iteration).closure closure = iteration :=
        if_pos iterationPerm.symm
      cases turned : registry.dependencyOrder (.iterating iteration) selected with
      | error error =>
          have failed := (dependencyOrder_error_iff (.iterating iteration)).mp ⟨error, turned⟩
          exact absurd ((dependencyOrder_error_iff .insertion).mpr failed) solvable
      | ok result =>
          refine ⟨_, result, turned, ?_⟩
          obtain ⟨again, _, recollected, same, _⟩ := dependencyOrder_ok turned
          have known : again = closure := by
            have equal : registry.requestedSet (.iterating iteration) selected =
                registry.requestedSet .insertion selected := rfl
            rw [equal, collected] at recollected
            exact (Except.ok.inj recollected).symm
          rw [known, emission, chosen] at same
          have drained := (whole.perm iterationPerm).drained
            iterationPerm.length_eq.le
          rw [← same] at drained
          apply delays result drained second ((member _).mp right) different.symm
            ((member _).mp left)
          rw [← before_iff isClosure ((member _).mp left) ((member _).mp right)]
          exact undecided

/-- Two computed orders agree on a settled part, also for different selections. -/
theorem SettledOn.filter_eq {part : ComponentId → Prop} [DecidablePred part]
    (settled : registry.SettledOn part) {leftOrder rightOrder : SetOrder}
    {leftSelected rightSelected left right : List ComponentId}
    (leftRun : registry.dependencyOrder leftOrder leftSelected = .ok left)
    (rightRun : registry.dependencyOrder rightOrder rightSelected = .ok right)
    (leftAll : ∀ componentId, part componentId → componentId ∈ left)
    (rightAll : ∀ componentId, part componentId → componentId ∈ right) :
    left.filter (fun componentId => decide (part componentId)) =
      right.filter (fun componentId => decide (part componentId)) := by
  have distinct := (dependencyOrder_nodup leftRun).filter (fun item => decide (part item))
  apply eq_of_precedes distinct
  · rw [List.perm_ext_iff_of_nodup distinct ((dependencyOrder_nodup rightRun).filter _)]
    intro componentId
    simp only [List.mem_filter, decide_eq_true_eq]
    constructor
    · exact fun inside => ⟨rightAll _ inside.2, inside.2⟩
    · exact fun inside => ⟨leftAll _ inside.2, inside.2⟩
  · intro first second before
    have firstPart : part first := by simpa using (List.mem_filter.mp before.mem_left).2
    have secondPart : part second := by simpa using (List.mem_filter.mp before.mem_right).2
    have whole : Precedes left first second := before.mono List.filter_sublist
    have nodup := dependencyOrder_nodup leftRun
    rcases settled first second firstPart secondPart (whole.ne nodup) with forwards | backwards
    · exact (forwards.precedes rightRun (rightAll _ firstPart) (rightAll _ secondPart)).filter _
        (by simpa using firstPart) (by simpa using secondPart)
    · exact absurd (backwards.precedes leftRun whole.mem_right whole.mem_left)
        (whole.asymm nodup)

/-- A part on which every iteration of the sets agrees is settled. -/
theorem settledOn_of_canonical {part : ComponentId → Prop} [DecidablePred part]
    {order : SetOrder} {ordered : List ComponentId}
    (run : registry.dependencyOrder order selected = .ok ordered)
    (inside : ∀ componentId, part componentId → componentId ∈ ordered)
    (canonical : ∀ left right leftResult rightResult,
      registry.dependencyOrder left selected = .ok leftResult →
      registry.dependencyOrder right selected = .ok rightResult →
      leftResult.filter (fun componentId => decide (part componentId)) =
        rightResult.filter (fun componentId => decide (part componentId))) :
    registry.SettledOn part := by
  intro first second firstPart secondPart different
  by_contra undecided
  push Not at undecided
  obtain ⟨left, leftResult, leftRun, late⟩ := exists_order_of_not_before run
    (inside _ firstPart) (inside _ secondPart) different undecided.1
  obtain ⟨right, rightResult, rightRun, early⟩ := exists_order_of_not_before run
    (inside _ secondPart) (inside _ firstPart) different.symm undecided.2
  have lateKept := late.filter (fun item => decide (part item))
    (by simpa using secondPart) (by simpa using firstPart)
  have earlyKept := early.filter (fun item => decide (part item))
    (by simpa using firstPart) (by simpa using secondPart)
  rw [canonical left right leftResult rightResult leftRun rightRun] at lateKept
  exact lateKept.asymm ((dependencyOrder_nodup rightRun).filter _) earlyKept

end ComponentRegistry

end FortifyLab.Registry
