import Mathlib.Algebra.Order.Group.Defs
import Mathlib.Algebra.Order.Sub.Basic
import Mathlib.Data.List.Basic

/-! Windows that slide over stamps: what is still recent at a time, and what lies in an interval. -/

namespace FortifyLab.SlidingWindow

variable {τ : Type} [AddCommGroup τ] [LinearOrder τ]

/-- The stamps that are less than a window old. -/
def recent (window now : τ) (stamps : List τ) : List τ :=
  stamps.filter (fun stamp => now - stamp < window)

/-- The stamps in the interval of one window from `start` on. -/
def within (window start : τ) (stamps : List τ) : List τ :=
  stamps.filter (fun stamp => start ≤ stamp ∧ stamp < start + window)

@[simp] theorem recent_append (window now : τ) (old new : List τ) :
    recent window now (old ++ new) = recent window now old ++ recent window now new :=
  List.filter_append ..

@[simp] theorem within_append (window start : τ) (old new : List τ) :
    within window start (old ++ new) = within window start old ++ within window start new :=
  List.filter_append ..

theorem length_recent_le (window now : τ) (stamps : List τ) :
    (recent window now stamps).length ≤ stamps.length :=
  List.length_filter_le ..

variable [IsOrderedAddMonoid τ]

/-- What was pruned is not recent later on either. -/
theorem recent_recent {now later : τ} (order : now ≤ later) (window : τ) (stamps : List τ) :
    recent window later (recent window now stamps) = recent window later stamps := by
  rw [recent, recent, List.filter_filter]
  refine List.filter_congr (fun stamp _ => ?_)
  have pruned : later - stamp < window → now - stamp < window :=
    fun young => lt_of_le_of_lt (sub_le_sub_right order stamp) young
  simpa using pruned

/-- The stamps of an interval are recent at each time in it. -/
theorem length_within_le {start now : τ} (window : τ) (inside : now < start + window)
    (stamps : List τ) :
    (within window start stamps).length ≤ (recent window now stamps).length := by
  refine List.Sublist.length_le (List.monotone_filter_right stamps (fun stamp there => ?_))
  have bounds : start ≤ stamp ∧ stamp < start + window := by simpa using there
  have young : now - stamp < window := by
    calc now - stamp ≤ now - start := sub_le_sub_left bounds.1 now
      _ < window := sub_lt_iff_lt_add'.mpr inside
  simpa using young

end FortifyLab.SlidingWindow
