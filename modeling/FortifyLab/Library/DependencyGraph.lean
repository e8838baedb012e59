import Mathlib.Data.Set.Finite.List
import Mathlib.Data.List.Nodup
import Mathlib.Logic.Relation
import Mathlib.Order.WellFounded

/-! Dependency graphs given by a function from a node to the list of nodes it
needs. Lists may repeat an edge; reachability and orders do not see that. -/

namespace FortifyLab.DependencyGraph

variable {α : Type*} (deps : α → List α)

/-- `source` lists `target` among the nodes it needs. -/
def Needs (source target : α) : Prop := target ∈ deps source

/-- Everything the selection needs, directly or not, the selection included. -/
def Closure (selection : List α) (node : α) : Prop :=
  ∃ start ∈ selection, Relation.ReflTransGen (Needs deps) start node

/-- A node that needs itself through at least one edge. -/
def OnCycle (node : α) : Prop := Relation.TransGen (Needs deps) node node

variable {deps}

theorem Closure.of_mem {selection : List α} {node : α} (member : node ∈ selection) :
    Closure deps selection node :=
  ⟨node, member, .refl⟩

theorem Closure.tail {selection : List α} {node next : α}
    (inside : Closure deps selection node) (edge : next ∈ deps node) :
    Closure deps selection next := by
  obtain ⟨start, member, path⟩ := inside
  exact ⟨start, member, path.tail edge⟩

/-- A set that holds the selection and follows every edge holds the closure. -/
theorem Closure.induct {selection : List α} {P : α → Prop}
    (base : ∀ node ∈ selection, P node)
    (closed : ∀ node, P node → ∀ next ∈ deps node, P next)
    {node : α} (inside : Closure deps selection node) : P node := by
  obtain ⟨start, member, path⟩ := inside
  induction path with
  | refl => exact base start member
  | tail _ edge ih => exact closed _ ih _ edge

theorem Closure.mono {small large : List α} (included : ∀ node ∈ small, node ∈ large)
    {node : α} (inside : Closure deps small node) : Closure deps large node := by
  obtain ⟨start, member, path⟩ := inside
  exact ⟨start, included start member, path⟩

theorem Closure.singleton {start node : α} :
    Closure deps [start] node ↔ Relation.ReflTransGen (Needs deps) start node := by
  simp [Closure]

theorem Closure.trans {selection : List α} {node next : α}
    (inside : Closure deps selection node)
    (path : Relation.ReflTransGen (Needs deps) node next) : Closure deps selection next := by
  obtain ⟨start, member, before⟩ := inside
  exact ⟨start, member, before.trans path⟩

/-- A part of the nodes that holds every consumer of its members. -/
def ConsumerClosed (deps : α → List α) (part : α → Prop) : Prop :=
  ∀ consumer need, need ∈ deps consumer → part need → part consumer

theorem ConsumerClosed.of_path {part : α → Prop} (closed : ConsumerClosed deps part)
    {consumer need : α} (path : Relation.ReflTransGen (Needs deps) consumer need)
    (inside : part need) : part consumer := by
  induction path using Relation.ReflTransGen.head_induction_on with
  | refl => exact inside
  | head edge _ ih => exact closed _ _ edge ih

/-- A node and everything that needs it form the least consumer-closed part with that node. -/
theorem consumerClosed_consumers (deps : α → List α) (node : α) :
    ConsumerClosed deps (fun consumer => Relation.ReflTransGen (Needs deps) consumer node) :=
  fun _ _ edge path => .head edge path

/-- On a finite part of the graph that follows its own edges, the absence of
cycles gives induction along the edges. -/
theorem wellFounded_of_acyclic (nodes : List α)
    (closed : ∀ node ∈ nodes, ∀ next ∈ deps node, next ∈ nodes)
    (acyclic : ∀ node ∈ nodes, ¬ OnCycle deps node)
    {P : α → Prop}
    (step : ∀ node ∈ nodes, (∀ next ∈ deps node, P next) → P node) :
    ∀ node ∈ nodes, P node := by
  let below : {node // node ∈ nodes} → {node // node ∈ nodes} → Prop :=
    fun left right => Relation.TransGen (Needs deps) right.1 left.1
  have finite : Finite {node // node ∈ nodes} := List.finite_toSet nodes
  have transitive : IsTrans _ below := ⟨fun _ _ _ first second => second.trans first⟩
  have irreflexive : Std.Irrefl below := ⟨fun node cycle => acyclic node.1 node.2 cycle⟩
  have wellFounded : WellFounded below := Finite.wellFounded_of_trans_of_irrefl below
  intro node member
  exact wellFounded.induction (C := fun start => P start.1) ⟨node, member⟩ (by
    intro current ih
    apply step current.1 current.2
    intro next edge
    exact ih ⟨next, closed current.1 current.2 next edge⟩ (.single edge))

/-- Every entry of the list comes after all the nodes it needs. -/
def Ordered (deps : α → List α) (nodes : List α) : Prop :=
  ∀ front node back, nodes = front ++ node :: back → ∀ next ∈ deps node, next ∈ front

theorem ordered_nil : Ordered deps [] := by
  intro front node back split
  simp at split

theorem ordered_concat {nodes : List α} {last : α} (ordered : Ordered deps nodes)
    (ready : ∀ next ∈ deps last, next ∈ nodes) : Ordered deps (nodes ++ [last]) := by
  intro front node back split next edge
  rcases List.eq_nil_or_concat back with rfl | ⟨rest, final, rfl⟩
  · obtain ⟨rfl, rfl⟩ : nodes = front ∧ last = node := by
      simpa using List.append_inj' split rfl
    exact ready next edge
  · have shorter : nodes = front ++ node :: rest := by
      have regroup : nodes ++ [last] = (front ++ node :: rest) ++ [final] := by
        simpa using split
      exact (List.append_inj' regroup rfl).1
    exact ordered front node rest shorter next edge

theorem Ordered.mem_of_edge {nodes : List α} (ordered : Ordered deps nodes) {node next : α}
    (member : node ∈ nodes) (edge : next ∈ deps node) : next ∈ nodes := by
  obtain ⟨front, back, split⟩ := List.append_of_mem member
  rw [split]
  exact List.mem_append_left _ (ordered front node back split next edge)

/-- `first` stands somewhere before `second`. -/
def Precedes (nodes : List α) (first second : α) : Prop := [first, second].Sublist nodes

theorem Precedes.reverse {nodes : List α} {first second : α}
    (before : Precedes nodes first second) : Precedes nodes.reverse second first := by
  simpa [Precedes] using List.Sublist.reverse before

theorem Precedes.filter {nodes : List α} {first second : α} (keep : α → Bool)
    (before : Precedes nodes first second) (left : keep first = true)
    (right : keep second = true) : Precedes (nodes.filter keep) first second := by
  simpa [Precedes, left, right] using List.Sublist.filter keep before

theorem Precedes.mono {small large : List α} {first second : α} (sub : small.Sublist large)
    (before : Precedes small first second) : Precedes large first second :=
  List.Sublist.trans before sub

theorem precedes_append {left right : List α} {first second : α} :
    Precedes (left ++ right) first second ↔
      Precedes left first second ∨ (first ∈ left ∧ second ∈ right) ∨
        Precedes right first second := by
  constructor
  · intro before
    obtain ⟨front, back, split, inLeft, inRight⟩ := List.sublist_append_iff.mp before
    match front, split with
    | [], split =>
        rw [List.nil_append] at split
        rw [← split] at inRight
        exact .inr (.inr inRight)
    | [_], split =>
        obtain ⟨rfl, rfl⟩ := List.cons.inj split
        exact .inr (.inl ⟨List.singleton_sublist.mp inLeft, List.singleton_sublist.mp inRight⟩)
    | [_, _], split =>
        obtain ⟨rfl, rest⟩ := List.cons.inj split
        obtain ⟨rfl, rfl⟩ := List.cons.inj rest
        exact .inl inLeft
    | _ :: _ :: _ :: _, split => simp at split
  · intro cases_
    rcases cases_ with inLeft | inBoth | inRight
    · exact inLeft.mono (List.sublist_append_left left right)
    · exact List.Sublist.append (List.singleton_sublist.mpr inBoth.1)
        (List.singleton_sublist.mpr inBoth.2)
    · exact inRight.mono (List.sublist_append_right left right)

theorem Precedes.mem_left {nodes : List α} {first second : α}
    (before : Precedes nodes first second) : first ∈ nodes :=
  before.subset (by simp)

theorem Precedes.mem_right {nodes : List α} {first second : α}
    (before : Precedes nodes first second) : second ∈ nodes :=
  before.subset (by simp)

theorem not_precedes_singleton {node first second : α} : ¬ Precedes [node] first second := by
  intro before
  have short := List.Sublist.length_le before
  simp at short

theorem Precedes.ne {nodes : List α} (distinct : nodes.Nodup) {first second : α}
    (before : Precedes nodes first second) : first ≠ second :=
  List.pairwise_iff_forall_sublist.mp distinct before

theorem Precedes.asymm {nodes : List α} (distinct : nodes.Nodup) {first second : α}
    (before : Precedes nodes first second) : ¬ Precedes nodes second first := by
  intro after
  induction nodes with
  | nil => exact absurd before.mem_left (by simp)
  | cons head tail ih =>
      obtain ⟨absent, distinctTail⟩ := List.nodup_cons.mp distinct
      rw [← List.singleton_append, precedes_append] at before after
      rcases before with impossible | ⟨atHead, _⟩ | before
      · exact not_precedes_singleton impossible
      · rw [List.mem_singleton] at atHead
        subst atHead
        rcases after with impossible | ⟨_, inTail⟩ | after
        · exact not_precedes_singleton impossible
        · exact absent inTail
        · exact absent after.mem_right
      · rcases after with impossible | ⟨atHead, inTail⟩ | after
        · exact not_precedes_singleton impossible
        · rw [List.mem_singleton] at atHead
          subst atHead
          exact absent before.mem_right
        · exact ih distinctTail before after

theorem Precedes.trans {nodes : List α} (distinct : nodes.Nodup) {first second third : α}
    (before : Precedes nodes first second) (after : Precedes nodes second third) :
    Precedes nodes first third := by
  obtain ⟨front, back, split, inFront, inBack⟩ := List.cons_sublist_iff.mp before
  rw [List.singleton_sublist] at inBack
  subst split
  have apart := (List.nodup_append.mp distinct).2.2
  rw [precedes_append] at after ⊢
  rcases after with early | ⟨inFront', _⟩ | late
  · exact absurd rfl (apart second early.mem_left second inBack)
  · exact absurd rfl (apart second inFront' second inBack)
  · exact .inr (.inl ⟨inFront, late.mem_right⟩)

theorem precedes_or_precedes {nodes : List α} {first second : α} (different : first ≠ second)
    (left : first ∈ nodes) (right : second ∈ nodes) :
    Precedes nodes first second ∨ Precedes nodes second first := by
  obtain ⟨front, back, rfl⟩ := List.append_of_mem left
  rcases List.mem_append.mp right with early | late
  · exact .inr (precedes_append.mpr (.inr (.inl ⟨early, by simp⟩)))
  · rcases List.mem_cons.mp late with same | inBack
    · exact absurd same.symm different
    · refine .inl (precedes_append.mpr (.inr (.inr ?_)))
      exact List.Sublist.cons_cons first (List.singleton_sublist.mpr inBack)

/-- Keeping first occurrences changes nothing where no entry repeats. -/
theorem eraseDups_of_nodup [BEq α] [LawfulBEq α] {nodes : List α} (distinct : nodes.Nodup) :
    nodes.eraseDups = nodes := by
  induction nodes with
  | nil => rfl
  | cons head tail ih =>
      obtain ⟨absent, distinctTail⟩ := List.nodup_cons.mp distinct
      have kept : tail.filter (fun other => !other == head) = tail := by
        rw [List.filter_eq_self]
        intro other member
        have different : other ≠ head := fun same => absent (same ▸ member)
        simp [different]
      rw [List.eraseDups_cons, kept, ih distinctTail]

/-- Along a path of at least one edge the target stands before the start. -/
theorem Ordered.precedes_of_path {nodes : List α} (ordered : Ordered deps nodes) {node next : α}
    (member : node ∈ nodes) (path : Relation.TransGen (Needs deps) node next) :
    Precedes nodes next node := by
  have direct : ∀ front last back, nodes = front ++ last :: back →
      ∀ target, Relation.TransGen (Needs deps) last target → target ∈ front := by
    intro front last back split target way
    induction way with
    | single edge => exact ordered front last back split _ edge
    | tail _ edge ih =>
        obtain ⟨start, rest, inner⟩ := List.append_of_mem ih
        have deeper := ordered start _ (rest ++ last :: back) (by rw [split, inner]; simp) _ edge
        rw [inner]
        exact List.mem_append_left _ deeper
  obtain ⟨front, back, split⟩ := List.append_of_mem member
  have inFront := direct front node back split next path
  rw [split]
  exact List.Sublist.append (List.singleton_sublist.mpr inFront)
    (List.singleton_sublist.mpr (List.mem_cons_self))

variable [DecidableEq α]

theorem Ordered.idxOf_lt {nodes : List α} (ordered : Ordered deps nodes) {node next : α}
    (member : node ∈ nodes) (edge : next ∈ deps node) :
    nodes.idxOf next < nodes.idxOf node := by
  obtain ⟨front, back, split, absent⟩ := List.eq_append_cons_of_mem member
  have inFront := ordered front node back split next edge
  rw [split, List.idxOf_append_of_mem inFront, List.idxOf_append_of_notMem absent]
  have bound := List.idxOf_lt_length_of_mem inFront
  omega

/-- Along a path of at least one edge the position strictly decreases. -/
theorem Ordered.idxOf_lt_of_path {nodes : List α} (ordered : Ordered deps nodes)
    {node next : α} (member : node ∈ nodes)
    (path : Relation.TransGen (Needs deps) node next) :
    next ∈ nodes ∧ nodes.idxOf next < nodes.idxOf node := by
  induction path with
  | single edge => exact ⟨ordered.mem_of_edge member edge, ordered.idxOf_lt member edge⟩
  | tail _ edge ih =>
      obtain ⟨inside, before⟩ := ih
      exact ⟨ordered.mem_of_edge inside edge, (ordered.idxOf_lt inside edge).trans before⟩

theorem Ordered.not_onCycle {nodes : List α} (ordered : Ordered deps nodes) {node : α}
    (member : node ∈ nodes) : ¬ OnCycle deps node := by
  intro cycle
  exact lt_irrefl _ (ordered.idxOf_lt_of_path member cycle).2

end FortifyLab.DependencyGraph
