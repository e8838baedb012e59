import FortifyLab.Library.DependencyGraph

/-! Kahn's algorithm with a first-in first-out queue, over sets instead of
counters: a node enters the queue when the last node it needs leaves it. -/

namespace FortifyLab.KahnQueue

open DependencyGraph

variable {α : Type*} [DecidableEq α] (deps : α → List α) (nodes : List α)

/-- The nodes that wait for `next` and for nothing else, in the order of `nodes`. -/
def released (emitted : List α) (next : α) : List α :=
  nodes.filter (fun node =>
    decide (next ∈ deps node ∧ ∀ need ∈ deps node, need ∈ emitted ++ [next]))

/-- `fuel` bounds the number of nodes taken from the queue. -/
def drain : Nat → List α → List α → List α
  | 0, emitted, _ => emitted
  | _ + 1, emitted, [] => emitted
  | fuel + 1, emitted, next :: waiting =>
      drain fuel (emitted ++ [next]) (waiting ++ released deps nodes emitted next)

/-- What holds whenever the loop looks at its queue. -/
structure Sound (emitted waiting : List α) : Prop where
  nodup : (emitted ++ waiting).Nodup
  inside : ∀ node ∈ emitted ++ waiting, node ∈ nodes
  settled : ∀ node ∈ emitted ++ waiting, ∀ need ∈ deps node, need ∈ emitted
  complete : ∀ node ∈ nodes, (∀ need ∈ deps node, need ∈ emitted) → node ∈ emitted ++ waiting
  ordered : Ordered deps emitted

variable {deps nodes}

theorem mem_released {emitted : List α} {next node : α} :
    node ∈ released deps nodes emitted next ↔
      node ∈ nodes ∧ next ∈ deps node ∧ ∀ need ∈ deps node, need ∈ emitted ++ [next] := by
  simp only [released, List.mem_filter, decide_eq_true_eq]

omit [DecidableEq α] in
theorem sound_initial {sources : List α} (nodup : sources.Nodup)
    (exact : ∀ node, node ∈ sources ↔ node ∈ nodes ∧ deps node = []) :
    Sound deps nodes [] sources where
  nodup := by simpa using nodup
  inside node member := ((exact node).mp (by simpa using member)).1
  settled node member need edge := by
    rw [((exact node).mp (by simpa using member)).2] at edge
    exact edge
  complete node member free := by
    have none : deps node = [] := List.eq_nil_iff_forall_not_mem.mpr
      (fun need edge => by simpa using free need edge)
    simpa using (exact node).mpr ⟨member, none⟩
  ordered := ordered_nil

/-- A released node was not queued before: it still needed `next`. -/
theorem Sound.released_fresh {emitted waiting : List α} {next node : α}
    (sound : Sound deps nodes emitted (next :: waiting))
    (member : node ∈ released deps nodes emitted next) :
    node ∉ emitted ++ next :: waiting := by
  intro queued
  have needed : next ∈ emitted := sound.settled node queued next (mem_released.mp member).2.1
  have apart := List.nodup_append.mp sound.nodup
  exact apart.2.2 next needed next (by simp) rfl

theorem Sound.step {emitted waiting : List α} {next : α} (distinct : nodes.Nodup)
    (sound : Sound deps nodes emitted (next :: waiting)) :
    Sound deps nodes (emitted ++ [next]) (waiting ++ released deps nodes emitted next) where
  nodup := by
    have regroup : (emitted ++ [next]) ++ (waiting ++ released deps nodes emitted next) =
        (emitted ++ next :: waiting) ++ released deps nodes emitted next := by simp
    rw [regroup]
    refine List.nodup_append.mpr ⟨sound.nodup, distinct.filter _, ?_⟩
    rintro node queued other fresh rfl
    exact sound.released_fresh fresh queued
  inside node member := by
    have split : node ∈ emitted ++ next :: waiting ∨ node ∈ released deps nodes emitted next := by
      simpa [or_assoc] using member
    rcases split with queued | fresh
    · exact sound.inside node queued
    · exact (mem_released.mp fresh).1
  settled node member need edge := by
    have split : node ∈ emitted ++ next :: waiting ∨ node ∈ released deps nodes emitted next := by
      simpa [or_assoc] using member
    rcases split with queued | fresh
    · exact List.mem_append_left _ (sound.settled node queued need edge)
    · exact (mem_released.mp fresh).2.2 need edge
  complete node member free := by
    by_cases waits : next ∈ deps node
    · have fresh := mem_released.mpr ⟨member, waits, free⟩
      simp [fresh]
    · have before : ∀ need ∈ deps node, need ∈ emitted := by
        intro need edge
        rcases List.mem_append.mp (free need edge) with old | new
        · exact old
        · rw [List.mem_singleton.mp new] at edge
          exact absurd edge waits
      have queued := sound.complete node member before
      simp only [List.mem_append, List.mem_cons] at queued ⊢
      tauto
  ordered := ordered_concat sound.ordered (sound.settled next (by simp))

omit [DecidableEq α] in
theorem Sound.waiting_eq_nil {emitted waiting : List α} (sound : Sound deps nodes emitted waiting)
    (enough : nodes.length ≤ emitted.length) : waiting = [] := by
  have bound : (emitted ++ waiting).length ≤ nodes.length :=
    (List.subperm_of_subset sound.nodup sound.inside).length_le
  rw [List.length_append] at bound
  apply List.eq_nil_of_length_eq_zero
  omega

/-- With as much fuel as there are nodes left the queue runs empty. -/
theorem Sound.drain {emitted waiting : List α} (distinct : nodes.Nodup)
    (sound : Sound deps nodes emitted waiting) (fuel : Nat)
    (enough : nodes.length ≤ emitted.length + fuel) :
    Sound deps nodes (drain deps nodes fuel emitted waiting) [] := by
  induction fuel generalizing emitted waiting with
  | zero =>
      rw [sound.waiting_eq_nil enough] at sound
      exact sound
  | succ fuel ih =>
      cases waiting with
      | nil => exact sound
      | cons next waiting =>
          apply ih (sound.step distinct)
          rw [List.length_append, List.length_singleton]
          omega

omit [DecidableEq α] in
/-- Nothing but a cycle keeps a node out of the drained queue. -/
theorem Sound.all_emitted {emitted : List α} (sound : Sound deps nodes emitted [])
    (closed : ∀ node ∈ nodes, ∀ need ∈ deps node, need ∈ nodes)
    (acyclic : ∀ node ∈ nodes, ¬ OnCycle deps node) :
    ∀ node ∈ nodes, node ∈ emitted := by
  apply wellFounded_of_acyclic nodes closed acyclic (P := fun node => node ∈ emitted)
  intro node member ih
  simpa using sound.complete node member ih

omit [DecidableEq α] in
theorem Sound.perm {emitted : List α} (sound : Sound deps nodes emitted [])
    (distinct : nodes.Nodup) (all : ∀ node ∈ nodes, node ∈ emitted) : emitted.Perm nodes := by
  have nodup : emitted.Nodup := by simpa using sound.nodup
  refine (List.perm_ext_iff_of_nodup nodup distinct).mpr (fun node => ⟨fun member => ?_, all node⟩)
  exact sound.inside node (by simpa using member)

/-- The drained queue holds as many entries as there are nodes exactly when no
node lies on a cycle. -/
theorem Sound.length_eq_iff {emitted : List α} (sound : Sound deps nodes emitted [])
    (distinct : nodes.Nodup) (closed : ∀ node ∈ nodes, ∀ need ∈ deps node, need ∈ nodes) :
    emitted.length = nodes.length ↔ ∀ node ∈ nodes, ¬ OnCycle deps node := by
  constructor
  · intro same node member
    have nodup : emitted.Nodup := by simpa using sound.nodup
    have subperm : emitted.Subperm nodes :=
      List.subperm_of_subset nodup (fun entry inside => sound.inside entry (by simpa using inside))
    have perm : emitted.Perm nodes := subperm.perm_of_length_le same.ge
    exact sound.ordered.not_onCycle (perm.mem_iff.mpr member)
  · intro acyclic
    exact (sound.perm distinct (sound.all_emitted closed acyclic)).length_eq

end FortifyLab.KahnQueue
