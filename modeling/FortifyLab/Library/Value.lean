import Mathlib.Data.List.Nodup
import Mathlib.Data.Rat.Defs

/-! Parsed JSON values, read and compared the way Python does. -/

namespace FortifyLab

inductive Value where
  | null
  | bool (value : Bool)
  | int (value : Int)
  | float (value : Rat)
  | str (text : String)
  | arr (items : List Value)
  | obj (fields : List (String × Value))

namespace Value

/-- The number a value is in arithmetic and comparisons; `True` is one. -/
def number : Value → Option Rat
  | .bool value => some (if value then 1 else 0)
  | .int value => some value
  | .float value => some value
  | _ => none

/-- `bool(value)`. -/
def truthy : Value → Bool
  | .null => false
  | .bool value => value
  | .int value => value != 0
  | .float value => value != 0
  | .str text => text != ""
  | .arr items => !items.isEmpty
  | .obj fields => !fields.isEmpty

/-- `dict.get`; anything else than an object has no keys. -/
def get (value : Value) (key : String) : Option Value :=
  match value with
  | .obj fields => fields.lookup key
  | _ => none

def isObject : Value → Bool
  | .obj _ => true
  | _ => false

/-- Equality with a string. -/
def isText (value : Value) (text : String) : Bool :=
  match value with
  | .str other => other == text
  | _ => false

mutual

/-- `==`; the order of an object's fields does not matter. -/
def same : Value → Value → Bool
  | .null, .null => true
  | .str left, .str right => left == right
  | .arr left, .arr right => sameItems left right
  | .obj left, .obj right => left.length == right.length && sameFields left right
  | left, right =>
      match left.number, right.number with
      | some first, some second => first == second
      | _, _ => false

def sameItems : List Value → List Value → Bool
  | [], [] => true
  | left :: lefts, right :: rights => same left right && sameItems lefts rights
  | _, _ => false

def sameFields : List (String × Value) → List (String × Value) → Bool
  | [], _ => true
  | (key, value) :: rest, right =>
      (match right.lookup key with
        | some other => same value other
        | none => false) && sameFields rest right

end

theorem isText_iff {value : Value} {text : String} :
    value.isText text = true ↔ value = .str text := by
  cases value <;> simp [isText]

end Value

/-! ## Fields of an object -/

variable {κ β : Type} [BEq κ] [LawfulBEq κ]

theorem lookup_iff_mem {fields : List (κ × β)} (distinct : (fields.map Prod.fst).Nodup)
    {key : κ} {value : β} : fields.lookup key = some value ↔ (key, value) ∈ fields := by
  induction fields with
  | nil => simp
  | cons head tail ih =>
      rw [List.map_cons, List.nodup_cons] at distinct
      rw [List.lookup_cons, List.mem_cons]
      by_cases found : key = head.1
      · subst found
        have absent : (head.1, value) ∉ tail := fun member =>
          distinct.1 (List.mem_map.mpr ⟨_, member, rfl⟩)
        simp [absent, Prod.ext_iff, eq_comm]
      · have other : (key, value) ≠ head := fun same => found (congrArg Prod.fst same)
        rw [beq_false_of_ne found]
        simp [other, ih distinct.2]

/-- The order of distinct fields does not matter to a lookup. -/
theorem lookup_perm {left right : List (κ × β)} (distinct : (left.map Prod.fst).Nodup)
    (perm : left.Perm right) (key : κ) : left.lookup key = right.lookup key := by
  have both : ∀ value, left.lookup key = some value ↔ right.lookup key = some value := by
    intro value
    rw [lookup_iff_mem distinct, lookup_iff_mem ((perm.map Prod.fst).nodup_iff.mp distinct),
      perm.mem_iff]
  exact Option.ext both

end FortifyLab
