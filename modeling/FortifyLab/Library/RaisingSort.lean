import Mathlib.Data.List.Sort

/-! Sorting with a comparison that may raise. -/

namespace FortifyLab

variable {α ε : Type} (compare : α → α → Except ε Bool)

/-- Insert an item before the first one that it comes before. -/
def insertChecked (item : α) : List α → Except ε (List α)
  | [] => .ok [item]
  | head :: tail =>
      match compare item head with
      | .error error => .error error
      | .ok true => .ok (item :: head :: tail)
      | .ok false => (insertChecked item tail).map (head :: ·)

def sortChecked : List α → Except ε (List α)
  | [] => .ok []
  | head :: tail =>
      match sortChecked tail with
      | .error error => .error error
      | .ok sorted => insertChecked compare head sorted

variable {compare} {before : α → α → Prop} [DecidableRel before]

theorem insertChecked_ok {item : α} {items : List α}
    (answers : ∀ other ∈ items, compare item other = .ok (decide (before item other))) :
    insertChecked compare item items = .ok (items.orderedInsert before item) := by
  induction items with
  | nil => rfl
  | cons head tail ih =>
      have first := answers head List.mem_cons_self
      have rest := ih (fun other member => answers other (List.mem_cons_of_mem _ member))
      by_cases comes : before item head
      · simp [insertChecked, first, comes]
      · simp [insertChecked, first, comes, rest, Except.map]

/-- Where every comparison answers, the list is sorted. -/
theorem sortChecked_ok {items : List α} (answers : ∀ left ∈ items, ∀ right ∈ items,
      compare left right = .ok (decide (before left right))) :
    sortChecked compare items = .ok (items.insertionSort before) := by
  induction items with
  | nil => rfl
  | cons head tail ih =>
      have rest := ih (fun left member right other =>
        answers left (List.mem_cons_of_mem _ member) right (List.mem_cons_of_mem _ other))
      simp only [sortChecked, rest, List.insertionSort_cons]
      refine insertChecked_ok (fun other member => ?_)
      exact answers head List.mem_cons_self other
        (List.mem_cons_of_mem _ ((List.mem_insertionSort before).mp member))

/-- A list of two kinds that do not compare is not sorted. -/
theorem sortChecked_mixed {kind : α → Bool} {error : ε}
    (agrees : ∀ left right, kind left = kind right →
      compare left right = .ok (decide (before left right)))
    (differs : ∀ left right, kind left ≠ kind right → compare left right = .error error)
    {items : List α} {one other : α} (first : one ∈ items) (second : other ∈ items)
    (mixed : kind one ≠ kind other) : sortChecked compare items = .error error := by
  induction items generalizing one other with
  | nil => cases first
  | cons head tail ih =>
      by_cases inside : ∃ left ∈ tail, ∃ right ∈ tail, kind left ≠ kind right
      · obtain ⟨left, known, right, member, apart⟩ := inside
        simp only [sortChecked, ih known member apart]
      · have uniform : ∀ left ∈ tail, ∀ right ∈ tail, kind left = kind right := by
          intro left known right member
          by_contra apart
          exact inside ⟨left, known, right, member, apart⟩
        have sorted := sortChecked_ok (fun left known right member =>
          agrees left right (uniform left known right member))
        -- the head is of the kind that the tail has not
        obtain ⟨foreign, known, apart⟩ : ∃ foreign ∈ tail, kind head ≠ kind foreign := by
          rcases List.mem_cons.mp first with rfl | early
          · rcases List.mem_cons.mp second with rfl | late
            · exact absurd rfl mixed
            · exact ⟨other, late, mixed⟩
          · rcases List.mem_cons.mp second with rfl | late
            · exact ⟨one, early, fun same => mixed same.symm⟩
            · exact absurd (uniform one early other late) mixed
        simp only [sortChecked, sorted]
        cases shape : tail.insertionSort before with
        | nil =>
            have length := List.length_insertionSort before tail
            rw [shape, List.length_nil] at length
            rw [List.eq_nil_of_length_eq_zero length.symm] at known
            cases known
        | cons next rest =>
            have there : next ∈ tail := by
              rw [← List.mem_insertionSort before, shape]
              exact List.mem_cons_self
            have refused : compare head next = .error error :=
              differs head next (fun same => apart (same.trans (uniform next there foreign known)))
            simp only [insertChecked, refused]

omit [DecidableRel before] in
/-- The items before a place of a sorted list come before the item there. -/
theorem index_le_filter [∀ item, DecidablePred (before · item)] {sorted : List α}
    (ordered : sorted.Pairwise before) {index : Nat} {item : α}
    (found : sorted[index]? = some item) :
    index ≤ (sorted.filter (fun other => before other item)).length := by
  obtain ⟨bound, there⟩ := List.getElem?_eq_some_iff.mp found
  have earlier : ∀ other ∈ sorted.take index, before other item := by
    intro other member
    have split := ordered
    rw [← List.take_append_drop index sorted, List.pairwise_append] at split
    refine split.2.2 other member item ?_
    rw [List.drop_eq_getElem_cons bound, there]
    exact List.mem_cons_self
  calc
    index = (sorted.take index).length := by rw [List.length_take]; omega
    _ = ((sorted.take index).filter (fun other => before other item)).length := by
      rw [List.filter_eq_self.mpr (fun other member => decide_eq_true (earlier other member))]
    _ ≤ (sorted.filter (fun other => before other item)).length :=
      ((List.take_sublist index sorted).filter _).length_le

end FortifyLab
