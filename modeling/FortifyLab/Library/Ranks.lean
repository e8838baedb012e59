import Mathlib.Data.List.Sort

/-! The place of an item in a sorted list: the number of items that come strictly before it. -/

namespace FortifyLab

variable {α : Type} (r : α → α → Prop) [DecidableRel r]

/-- How many items come strictly before one. -/
def rank (items : List α) (item : α) : Nat := items.countP (fun other => ¬ r item other)

variable {r}

theorem rank_perm {items others : List α} (same : items.Perm others) (item : α) :
    rank r items item = rank r others item :=
  same.countP_eq _

/-- In a sorted list without ties the place of an item is its rank. -/
theorem rank_of_split {earlier later : List α} {item : α}
    (sorted : (earlier ++ item :: later).Pairwise r)
    (strict : ∀ other ∈ earlier, r item other → r other item → other = item)
    (nodup : (earlier ++ item :: later).Nodup) (own : r item item) :
    rank r (earlier ++ item :: later) item = earlier.length := by
  have before : ∀ other ∈ earlier, ¬ r item other := by
    intro other member back
    have forth := (List.pairwise_append.mp sorted).2.2 other member item List.mem_cons_self
    have same := strict other member back forth
    exact (List.nodup_append.mp nodup).2.2 other member item List.mem_cons_self same
  have after : ∀ other ∈ later, r item other :=
    (List.pairwise_cons.mp (List.pairwise_append.mp sorted).2.1).1
  have all : rank r earlier item = earlier.length := by
    simpa [rank, List.countP_eq_length] using before
  have none : rank r later item = 0 := by
    simpa [rank, List.countP_eq_zero] using after
  calc
    rank r (earlier ++ item :: later) item
      = rank r earlier item + rank r later item := by
        simp [rank, List.countP_append, own]
    _ = earlier.length := by rw [all, none, Nat.add_zero]

variable [Std.Total r] [IsTrans α r]

theorem getElem?_insertionSort {items : List α} {item : α} (member : item ∈ items)
    (strict : ∀ other ∈ items, r item other → r other item → other = item)
    (nodup : items.Nodup) (index : Nat) :
    (items.insertionSort r)[index]? = some item ↔ index = rank r items item := by
  have perm := List.perm_insertionSort r items
  have sorted := List.pairwise_insertionSort r items
  have distinct := perm.nodup_iff.mpr nodup
  have own : r item item := (Std.Total.total (r := r) item item).elim id id
  rw [← rank_perm perm]
  constructor
  · intro found
    rcases List.getElem?_eq_some_iff.mp found with ⟨bound, at_index⟩
    have split : items.insertionSort r =
        (items.insertionSort r).take index ++ item :: (items.insertionSort r).drop (index + 1) := by
      rw [← at_index, List.getElem_cons_drop, List.take_append_drop]
    have placed := @rank_of_split _ r _ ((items.insertionSort r).take index)
      ((items.insertionSort r).drop (index + 1)) item (split ▸ sorted)
      (fun other taken => strict other (perm.mem_iff.mp (List.mem_of_mem_take taken)))
      (split ▸ distinct) own
    rw [← split, List.length_take] at placed
    omega
  · intro place
    rcases List.append_of_mem (perm.mem_iff.mpr member) with ⟨earlier, later, split⟩
    have placed := @rank_of_split _ r _ earlier later item (split ▸ sorted)
      (fun other taken => strict other
        (perm.mem_iff.mp (split ▸ List.mem_append_left _ taken))) (split ▸ distinct) own
    rw [place, split, placed, List.getElem?_append_right le_rfl]
    simp

/-- What is left after the first items of the sorted list. -/
theorem mem_drop_insertionSort {items : List α} {item : α} (member : item ∈ items)
    (strict : ∀ other ∈ items, r item other → r other item → other = item)
    (nodup : items.Nodup) (limit : Nat) :
    item ∈ (items.insertionSort r).drop limit ↔ limit ≤ rank r items item := by
  have place := getElem?_insertionSort member strict nodup
  rw [List.mem_iff_getElem?]
  constructor
  · intro ⟨index, found⟩
    rw [List.getElem?_drop, place] at found
    omega
  · intro beyond
    refine ⟨rank r items item - limit, ?_⟩
    rw [List.getElem?_drop, place]
    omega

/-- An item of the sorted list with its place. -/
theorem mem_zipIdx_insertionSort {items : List α} {item : α} (member : item ∈ items)
    (strict : ∀ other ∈ items, r item other → r other item → other = item)
    (nodup : items.Nodup) (index : Nat) :
    (item, index) ∈ (items.insertionSort r).zipIdx ↔ index = rank r items item := by
  rw [List.mem_zipIdx_iff_getElem?]
  exact getElem?_insertionSort member strict nodup index

end FortifyLab
