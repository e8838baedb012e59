import Mathlib.Logic.Function.Basic

/-! Items that threads own: every item has one owner at most. -/

namespace FortifyLab

variable {Role Item : Type} {owns : Role → Option Item} {roles : Nat → Role} {role rest : Role}
  {index : Nat}

/-- At most one thread has the item. -/
def Apart (owns : Role → Option Item) (roles : Nat → Role) : Prop :=
  ∀ left right id, owns (roles left) = some id → owns (roles right) = some id → left = right

theorem Apart.update (apart : Apart owns roles)
    (mine : ∀ id, owns role = some id → ∀ thread, owns (roles thread) = some id →
      thread = index) : Apart owns (Function.update roles index role) := by
  intro left right id
  by_cases first : left = index
  · subst first
    rw [Function.update_self]
    by_cases second : right = left
    · exact fun _ _ => second.symm
    · rw [Function.update_of_ne second]
      exact fun owned also => (mine id owned right also).symm
  · rw [Function.update_of_ne first]
    by_cases second : right = index
    · subst second
      rw [Function.update_self]
      exact fun owned also => mine id also left owned
    · rw [Function.update_of_ne second]
      exact apart left right id

/-- A role that owns no more than before stays apart from the others. -/
theorem Apart.less (apart : Apart owns roles)
    (less : ∀ id, owns role = some id → owns (roles index) = some id) :
    Apart owns (Function.update roles index role) :=
  apart.update (fun id owned thread also => apart thread index id also (less id owned))

/-- A thread hands what it owns to a new one. -/
theorem Apart.handed (apart : Apart owns roles) (released : owns rest = none)
    (less : ∀ id, owns role = some id → owns (roles index) = some id) (thread : Nat) :
    Apart owns (Function.update (Function.update roles index rest) thread role) := by
  have empty : ∀ id, owns rest = some id → owns (roles index) = some id := by
    intro id owned
    rw [released] at owned
    cases owned
  refine (apart.less empty).update ?_
  intro id owned other also
  by_cases same : other = index
  · rw [same, Function.update_self, released] at also
    cases also
  · rw [Function.update_of_ne same] at also
    exact absurd (apart other index id also (less id owned)) same

/-- Nobody owns anything. -/
theorem apart_none (none : ∀ thread, owns (roles thread) = none) : Apart owns roles := by
  intro left right id owned
  rw [none left] at owned
  cases owned

end FortifyLab
