import FortifyLab.Registry.ComponentRegistry
import Mathlib.Data.Finset.Card
import Mathlib.Data.Finset.Dedup

/-! The recursive `include`: it ends on every graph, cyclic ones too, and what it
collects is the dependency closure of the selection. -/

namespace FortifyLab.Registry.ComponentRegistry

open DependencyGraph

variable (registry : ComponentRegistry)

theorem component_id {componentId : ComponentId} {component : Component}
    (found : registry.component componentId = .ok component) :
    component ∈ registry.components ∧ component.id = componentId := by
  unfold ComponentRegistry.component at found
  split at found
  · next match_ =>
    cases found
    exact ⟨List.mem_of_find?_eq_some match_, by simpa using List.find?_some match_⟩
  · cases found

theorem component_error {componentId : ComponentId} {error : RegistryError}
    (missing : registry.component componentId = .error error) :
    componentId ∉ registry.componentIds ∧ error = .unknownComponent componentId := by
  unfold ComponentRegistry.component at missing
  split at missing
  · cases missing
  · next match_ =>
    cases missing
    refine ⟨?_, rfl⟩
    intro declared
    obtain ⟨component, member, same⟩ := List.mem_map.mp declared
    exact absurd same (by simpa using List.find?_eq_none.mp match_ component member)

theorem component_declared {componentId : ComponentId} {component : Component}
    (found : registry.component componentId = .ok component) :
    componentId ∈ registry.componentIds := by
  obtain ⟨member, rfl⟩ := registry.component_id found
  exact List.mem_map_of_mem member

theorem component_of_declared {componentId : ComponentId}
    (declared : componentId ∈ registry.componentIds) :
    ∃ component, registry.component componentId = .ok component := by
  cases found : registry.component componentId with
  | ok component => exact ⟨component, rfl⟩
  | error error => exact absurd declared (registry.component_error found).1

theorem dependencies_of_component {componentId : ComponentId} {component : Component}
    (found : registry.component componentId = .ok component) :
    registry.dependencies componentId = component.dependencies := by
  simp only [dependencies, found]

/-- What a successful run of `include` from `starts` adds to the closure. -/
structure Included (before starts after : List ComponentId) : Prop where
  kept : ∀ componentId ∈ before, componentId ∈ after
  started : ∀ componentId ∈ starts, componentId ∈ after
  nodup : before.Nodup → after.Nodup
  declared : ∀ componentId ∈ after, componentId ∈ before ∨ componentId ∈ registry.componentIds
  followed : ∀ componentId ∈ after, componentId ∈ before ∨
    ∀ dependency ∈ registry.dependencies componentId, dependency ∈ after
  reached : ∀ componentId ∈ after, componentId ∈ before ∨
    Closure registry.dependencies starts componentId

/-- `include` either extends the closure as it should or names an undeclared
component that the start needs. -/
def IncludeOutcome (before starts : List ComponentId) :
    Except RegistryError (List ComponentId) → Prop
  | .ok after => registry.Included before starts after
  | .error error => ∃ componentId, error = .unknownComponent componentId ∧
      Closure registry.dependencies starts componentId ∧
      componentId ∉ registry.componentIds

variable {registry}

theorem Included.nil (before : List ComponentId) : registry.Included before [] before where
  kept _ member := member
  started _ member := by cases member
  nodup distinct := distinct
  declared _ member := .inl member
  followed _ member := .inl member
  reached _ member := .inl member

theorem Included.cons {before middle after rest : List ComponentId} {start : ComponentId}
    (first : registry.Included before [start] middle)
    (others : registry.Included middle rest after) :
    registry.Included before (start :: rest) after where
  kept componentId member := others.kept _ (first.kept _ member)
  started componentId member := by
    rcases List.mem_cons.mp member with rfl | later
    · exact others.kept _ (first.started _ (by simp))
    · exact others.started _ later
  nodup distinct := others.nodup (first.nodup distinct)
  declared componentId member := by
    rcases others.declared _ member with old | new
    · exact first.declared _ old
    · exact .inr new
  followed componentId member := by
    rcases others.followed _ member with old | new
    · rcases first.followed _ old with older | recent
      · exact .inl older
      · exact .inr (fun dependency edge => others.kept _ (recent dependency edge))
    · exact .inr new
  reached componentId member := by
    rcases others.reached _ member with old | new
    · rcases first.reached _ old with older | recent
      · exact .inl older
      · exact .inr (recent.mono (by simp))
    · exact .inr (new.mono (fun _ inside => List.mem_cons_of_mem _ inside))

/-- Entering a component and then all its dependencies. -/
theorem Included.enter {before after : List ComponentId} {componentId : ComponentId}
    (fresh : componentId ∉ before) (declared : componentId ∈ registry.componentIds)
    (below : registry.Included (before ++ [componentId])
      (registry.dependencies componentId) after) :
    registry.Included before [componentId] after where
  kept other member := below.kept _ (List.mem_append_left _ member)
  started other member := by
    rw [List.mem_singleton.mp member]
    exact below.kept _ (by simp)
  nodup distinct := by
    apply below.nodup
    refine List.nodup_append.mpr ⟨distinct, by simp, ?_⟩
    intro left inside right single same
    rw [List.mem_singleton.mp single] at same
    exact fresh (same ▸ inside)
  declared other member := by
    rcases below.declared _ member with old | new
    · rcases List.mem_append.mp old with older | single
      · exact .inl older
      · exact .inr (List.mem_singleton.mp single ▸ declared)
    · exact .inr new
  followed other member := by
    rcases below.followed _ member with old | new
    · rcases List.mem_append.mp old with older | single
      · exact .inl older
      · refine .inr (fun dependency edge => below.started _ ?_)
        rwa [List.mem_singleton.mp single] at edge
    · exact .inr new
  reached other member := by
    rcases below.reached _ member with old | new
    · rcases List.mem_append.mp old with older | single
      · exact .inl older
      · exact .inr (.of_mem single)
    · obtain ⟨dependency, edge, path⟩ := new
      exact .inr ⟨componentId, by simp, .head edge path⟩

theorem includeEach_outcome
    {visit : List ComponentId → ComponentId → Option (Except RegistryError (List ComponentId))}
    (sound : ∀ before start result, visit before start = some result →
      registry.IncludeOutcome before [start] result)
    {before starts : List ComponentId} {result : Except RegistryError (List ComponentId)}
    (run : includeEach visit before starts = some result) :
    registry.IncludeOutcome before starts result := by
  induction starts generalizing before with
  | nil =>
      cases run
      exact Included.nil before
  | cons start rest ih =>
      simp only [includeEach] at run
      cases visited : visit before start with
      | none => simp [visited] at run
      | some outcome =>
          have first := sound before start outcome visited
          cases outcome with
          | error error =>
              rw [visited] at run
              cases run
              obtain ⟨componentId, named, inside, missing⟩ := first
              exact ⟨componentId, named, inside.mono (by simp), missing⟩
          | ok middle =>
              rw [visited] at run
              have others := ih run
              cases result with
              | ok after => exact Included.cons first others
              | error error =>
                  obtain ⟨componentId, named, inside, missing⟩ := others
                  exact ⟨componentId, named,
                    inside.mono (fun _ member => List.mem_cons_of_mem _ member), missing⟩

theorem includeComponent_outcome (depth : Nat) (before : List ComponentId) (start : ComponentId)
    (result : Except RegistryError (List ComponentId))
    (run : registry.includeComponent depth before start = some result) :
    registry.IncludeOutcome before [start] result := by
  induction depth generalizing before start result with
  | zero => cases run
  | succ depth ih =>
      simp only [includeComponent] at run
      cases found : registry.component start with
      | error error =>
          simp only [found, Option.some.injEq] at run
          subst run
          obtain ⟨missing, named⟩ := registry.component_error found
          exact ⟨start, named, .of_mem (by simp), missing⟩
      | ok component =>
          simp only [found] at run
          have declared := registry.component_declared found
          have same := registry.dependencies_of_component found
          split at run
          · next member =>
            cases run
            refine { Included.nil before with started := ?_, reached := fun _ inside => .inl inside }
            intro other single
            rwa [List.mem_singleton.mp single]
          · next fresh =>
            have below := includeEach_outcome ih run
            cases result with
            | ok after => exact Included.enter fresh declared (same ▸ below)
            | error error =>
                obtain ⟨componentId, named, inside, missing⟩ := below
                obtain ⟨dependency, edge, path⟩ := inside
                exact ⟨componentId, named,
                  ⟨start, by simp, .head (show dependency ∈ _ from same ▸ edge) path⟩, missing⟩

/-- The declared components that the closure does not hold yet; every level of
the recursion takes one of them. -/
def remaining (registry : ComponentRegistry) (closure : List ComponentId) : Finset ComponentId :=
  registry.componentIds.toFinset \ closure.toFinset

theorem remaining_mono {before after : List ComponentId}
    (kept : ∀ componentId ∈ before, componentId ∈ after) :
    (registry.remaining after).card ≤ (registry.remaining before).card := by
  apply Finset.card_le_card
  intro componentId member
  simp only [remaining, Finset.mem_sdiff, List.mem_toFinset] at member ⊢
  exact ⟨member.1, fun inside => member.2 (kept _ inside)⟩

theorem remaining_enter {closure : List ComponentId} {componentId : ComponentId}
    (fresh : componentId ∉ closure) (declared : componentId ∈ registry.componentIds) :
    (registry.remaining (closure ++ [componentId])).card < (registry.remaining closure).card := by
  apply Finset.card_lt_card
  refine Finset.ssubset_iff_of_subset ?_ |>.mpr ⟨componentId, ?_, ?_⟩
  · intro other member
    simp only [remaining, Finset.mem_sdiff, List.mem_toFinset, List.mem_append] at member ⊢
    exact ⟨member.1, fun inside => member.2 (.inl inside)⟩
  · simp [remaining, fresh, declared]
  · simp [remaining]

theorem includeEach_total
    {visit : List ComponentId → ComponentId → Option (Except RegistryError (List ComponentId))}
    (sound : ∀ before start result, visit before start = some result →
      registry.IncludeOutcome before [start] result)
    {bound : Nat}
    (total : ∀ before start, (registry.remaining before).card < bound →
      ∃ result, visit before start = some result)
    {before : List ComponentId} (small : (registry.remaining before).card < bound)
    (starts : List ComponentId) : ∃ result, includeEach visit before starts = some result := by
  induction starts generalizing before with
  | nil => exact ⟨_, rfl⟩
  | cons start rest ih =>
      obtain ⟨outcome, visited⟩ := total before start small
      have first := sound before start outcome visited
      cases outcome with
      | error error => exact ⟨.error error, by simp only [includeEach, visited]⟩
      | ok middle =>
          have smaller := (remaining_mono first.kept).trans_lt small
          obtain ⟨result, run⟩ := ih smaller
          exact ⟨result, by simp only [includeEach, visited, run]⟩

/-- The recursion is never deeper than the number of components still missing. -/
theorem includeComponent_total (depth : Nat) (before : List ComponentId) (start : ComponentId)
    (small : (registry.remaining before).card < depth) :
    ∃ result, registry.includeComponent depth before start = some result := by
  induction depth generalizing before start with
  | zero => omega
  | succ depth ih =>
      cases found : registry.component start with
      | error error => exact ⟨.error error, by simp only [includeComponent, found]⟩
      | ok component =>
          by_cases member : start ∈ before
          · exact ⟨.ok before, by simp only [includeComponent, found, if_pos member]⟩
          · have entered := remaining_enter member (registry.component_declared found)
            obtain ⟨result, run⟩ := includeEach_total (includeComponent_outcome depth) ih
              (show (registry.remaining (before ++ [start])).card < depth by omega)
              component.dependencies
            exact ⟨result, by simp only [includeComponent, found, if_neg member, run]⟩

theorem remaining_card_le (closure : List ComponentId) :
    (registry.remaining closure).card ≤ registry.components.length := by
  calc
    (registry.remaining closure).card ≤ registry.componentIds.toFinset.card :=
      Finset.card_le_card Finset.sdiff_subset
    _ ≤ registry.componentIds.length := List.toFinset_card_le _
    _ = registry.components.length := by simp [componentIds]

/-- One level more than there are components is depth enough for any loop. -/
theorem includeEach_isSome (registry : ComponentRegistry) (starts : List ComponentId) :
    (includeEach (registry.includeComponent (registry.components.length + 1)) [] starts).isSome := by
  obtain ⟨result, run⟩ := includeEach_total (includeComponent_outcome _)
    (includeComponent_total (registry.components.length + 1))
    (Nat.lt_succ_of_le (remaining_card_le [])) starts
  rw [run]
  rfl

/-- `for component_id in requested: include(component_id)` from an empty closure. -/
def closureOf (registry : ComponentRegistry) (requested : List ComponentId) :
    Except RegistryError (List ComponentId) :=
  (includeEach (registry.includeComponent (registry.components.length + 1)) [] requested).get
    (includeEach_isSome registry requested)

theorem includeEach_deeper
    {visit deeper : List ComponentId → ComponentId → Option (Except RegistryError (List ComponentId))}
    (agree : ∀ before start result, visit before start = some result →
      deeper before start = some result)
    {before starts : List ComponentId} {result : Except RegistryError (List ComponentId)}
    (run : includeEach visit before starts = some result) :
    includeEach deeper before starts = some result := by
  induction starts generalizing before with
  | nil => exact run
  | cons start rest ih =>
      simp only [includeEach] at run ⊢
      cases visited : visit before start with
      | none => simp [visited] at run
      | some outcome =>
          rw [agree before start outcome visited]
          rw [visited] at run
          cases outcome with
          | error error => exact run
          | ok middle => exact ih run

theorem includeComponent_deeper (depth : Nat) (before : List ComponentId) (start : ComponentId)
    (result : Except RegistryError (List ComponentId))
    (run : registry.includeComponent depth before start = some result) :
    registry.includeComponent (depth + 1) before start = some result := by
  induction depth generalizing before start result with
  | zero => cases run
  | succ depth ih =>
      rw [includeComponent] at run ⊢
      cases found : registry.component start with
      | error error => simpa only [found] using run
      | ok component =>
          simp only [found] at run ⊢
          split
          · next member => rwa [if_pos member] at run
          · next fresh =>
            rw [if_neg fresh] at run
            exact includeEach_deeper ih run

/-- Any deeper recursion limit gives the same closure. -/
theorem includeEach_eq_closureOf (requested : List ComponentId) (depth : Nat)
    (enough : registry.components.length < depth) :
    includeEach (registry.includeComponent depth) [] requested =
      some (registry.closureOf requested) := by
  induction depth, enough using Nat.le_induction with
  | base => exact (Option.some_get _).symm
  | succ depth _ ih => exact includeEach_deeper (includeComponent_deeper depth) ih

theorem closureOf_outcome (requested : List ComponentId) :
    registry.IncludeOutcome [] requested (registry.closureOf requested) :=
  includeEach_outcome (includeComponent_outcome _) (Option.some_get _).symm

/-- The closure as a list: every component the request needs, once. -/
structure IsClosure (registry : ComponentRegistry) (requested closure : List ComponentId) :
    Prop where
  nodup : closure.Nodup
  mem_iff : ∀ componentId, componentId ∈ closure ↔
    Closure registry.dependencies requested componentId
  declared : ∀ componentId ∈ closure, componentId ∈ registry.componentIds
  closed : ∀ componentId ∈ closure, ∀ dependency ∈ registry.dependencies componentId,
    dependency ∈ closure

theorem closureOf_ok {requested closure : List ComponentId}
    (run : registry.closureOf requested = .ok closure) :
    registry.IsClosure requested closure := by
  have outcome := registry.closureOf_outcome requested
  rw [run] at outcome
  have included : registry.Included [] requested closure := outcome
  have closed : ∀ componentId ∈ closure, ∀ dependency ∈ registry.dependencies componentId,
      dependency ∈ closure := by
    intro componentId member
    exact (included.followed _ member).resolve_left (by simp)
  refine ⟨included.nodup List.nodup_nil, ?_, ?_, closed⟩
  · intro componentId
    constructor
    · intro member
      exact (included.reached _ member).resolve_left (by simp)
    · intro inside
      exact inside.induct included.started closed
  · intro componentId member
    exact (included.declared _ member).resolve_left (by simp)

theorem closureOf_error {requested : List ComponentId} {error : RegistryError}
    (run : registry.closureOf requested = .error error) :
    ∃ componentId, error = .unknownComponent componentId ∧
      Closure registry.dependencies requested componentId ∧
      componentId ∉ registry.componentIds := by
  have outcome := registry.closureOf_outcome requested
  rwa [run] at outcome

end FortifyLab.Registry.ComponentRegistry
