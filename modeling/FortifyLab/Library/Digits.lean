import Mathlib.Data.List.Basic
import Mathlib.Tactic.IntervalCases
import Mathlib.Tactic.Ring

/-! Numbers written with a fixed number of decimal digits, and the order of such texts. -/

namespace FortifyLab

/-- The character of a digit. -/
def digitChar (digit : Nat) : Char := Char.ofNat ('0'.toNat + digit)

/-- The last digits of a number, as many as the width says. -/
def fixedWidth : Nat → Nat → List Char
  | 0, _ => []
  | width + 1, number => digitChar (number / 10 ^ width % 10) :: fixedWidth width number

theorem digitChar_lt {left right : Nat} (leftDigit : left < 10) (rightDigit : right < 10) :
    digitChar left < digitChar right ↔ left < right := by
  interval_cases left <;> interval_cases right <;> decide

theorem digitChar_injective {left right : Nat} (leftDigit : left < 10) (rightDigit : right < 10)
    (same : digitChar left = digitChar right) : left = right := by
  have notLess : ¬ left < right := fun less =>
    absurd ((digitChar_lt leftDigit rightDigit).mpr less) (same ▸ Char.lt_irrefl _)
  have notMore : ¬ right < left := fun more =>
    absurd ((digitChar_lt rightDigit leftDigit).mpr more) (same ▸ Char.lt_irrefl _)
  omega

@[simp] theorem fixedWidth_length (width number : Nat) :
    (fixedWidth width number).length = width := by
  induction width with
  | zero => rfl
  | succ width ih => simp [fixedWidth, ih]

/-- Only the written digits count. -/
theorem fixedWidth_mod (width number : Nat) :
    fixedWidth width (number % 10 ^ width) = fixedWidth width number := by
  suffices more : ∀ above, fixedWidth width (number % 10 ^ (width + above)) =
      fixedWidth width number from more 0
  induction width with
  | zero => intro above; rfl
  | succ width ih =>
      intro above
      have digit : number % 10 ^ (width + 1 + above) / 10 ^ width % 10 =
          number / 10 ^ width % 10 := by
        rw [show width + 1 + above = width + (above + 1) by omega, pow_add, Nat.mod_mul_right_div_self,
          Nat.mod_mod_of_dvd _ (Dvd.intro_left _ (pow_succ 10 above).symm)]
      have rest := ih (above + 1)
      rw [show width + (above + 1) = width + 1 + above by omega] at rest
      rw [fixedWidth, fixedWidth, digit, rest]

/-- Numbers with a high and a low part compare part by part. -/
theorem parts_lt {unit high low high' low' : Nat} (fits : low < unit) (fits' : low' < unit) :
    unit * high + low < unit * high' + low' ↔ high < high' ∨ high = high' ∧ low < low' := by
  rcases Nat.lt_trichotomy high high' with less | rfl | more
  · have step : unit * (high + 1) ≤ unit * high' := Nat.mul_le_mul_left unit less
    rw [Nat.mul_add, Nat.mul_one] at step
    omega
  · omega
  · have step : unit * (high' + 1) ≤ unit * high := Nat.mul_le_mul_left unit more
    rw [Nat.mul_add, Nat.mul_one] at step
    omega

theorem parts_eq {unit high low high' low' : Nat} (fits : low < unit) (fits' : low' < unit) :
    unit * high + low = unit * high' + low' ↔ high = high' ∧ low = low' := by
  have less := @parts_lt unit high low high' low' fits fits'
  have more := @parts_lt unit high' low' high low fits' fits
  constructor
  · intro same
    omega
  · rintro ⟨rfl, rfl⟩
    rfl

/-- Texts of one width compare like the numbers, and what follows decides between equals. -/
theorem fixedWidth_append_lt {width left right : Nat} (leftFits : left < 10 ^ width)
    (rightFits : right < 10 ^ width) (front back : List Char) :
    fixedWidth width left ++ front < fixedWidth width right ++ back ↔
      left < right ∨ left = right ∧ front < back := by
  induction width generalizing left right with
  | zero =>
      have leftZero : left = 0 := by omega
      have rightZero : right = 0 := by omega
      subst leftZero
      subst rightZero
      simp [fixedWidth]
  | succ width ih =>
      have positive : 0 < 10 ^ width := Nat.pow_pos (by decide)
      have leftDigit : left / 10 ^ width < 10 := by
        rw [Nat.div_lt_iff_lt_mul positive, ← pow_succ']
        exact leftFits
      have rightDigit : right / 10 ^ width < 10 := by
        rw [Nat.div_lt_iff_lt_mul positive, ← pow_succ']
        exact rightFits
      have smaller := @ih (left % 10 ^ width) (right % 10 ^ width)
        (Nat.mod_lt _ positive) (Nat.mod_lt _ positive)
      rw [fixedWidth_mod, fixedWidth_mod] at smaller
      rw [fixedWidth, fixedWidth, List.cons_append, List.cons_append, List.cons_lt_cons_iff,
        Nat.mod_eq_of_lt leftDigit, Nat.mod_eq_of_lt rightDigit, smaller,
        digitChar_lt leftDigit rightDigit]
      have whole := @parts_lt (10 ^ width) (left / 10 ^ width) (left % 10 ^ width)
        (right / 10 ^ width) (right % 10 ^ width) (Nat.mod_lt _ positive) (Nat.mod_lt _ positive)
      have equal := @parts_eq (10 ^ width) (left / 10 ^ width) (left % 10 ^ width)
        (right / 10 ^ width) (right % 10 ^ width) (Nat.mod_lt _ positive) (Nat.mod_lt _ positive)
      rw [Nat.div_add_mod, Nat.div_add_mod] at whole equal
      rw [whole, equal]
      constructor
      · rintro (less | ⟨same, less | ⟨rest, tail⟩⟩)
        · exact .inl (.inl less)
        · exact .inl (.inr ⟨digitChar_injective leftDigit rightDigit same, less⟩)
        · exact .inr ⟨⟨digitChar_injective leftDigit rightDigit same, rest⟩, tail⟩
      · rintro ((less | ⟨same, less⟩) | ⟨⟨same, rest⟩, tail⟩)
        · exact .inl less
        · exact .inr ⟨congrArg digitChar same, .inl less⟩
        · exact .inr ⟨congrArg digitChar same, .inr ⟨rest, tail⟩⟩

/-! ## Numbers as the language prints them -/

theorem natRepr_injective {left right : Nat} (same : left.repr = right.repr) : left = right := by
  have digits : Nat.toDigits 10 left = Nat.toDigits 10 right := by
    rw [← Nat.toList_repr, same, Nat.toList_repr]
  calc
    left = Nat.ofDigitChars 10 (Nat.toDigits 10 left) 0 := Nat.ofDigitChars_ten_toDigits.symm
    _ = Nat.ofDigitChars 10 (Nat.toDigits 10 right) 0 := by rw [digits]
    _ = right := Nat.ofDigitChars_ten_toDigits

theorem isDigit_of_mem_natRepr {number : Nat} {character : Char}
    (member : character ∈ number.repr.toList) : character.isDigit = true := by
  rw [Nat.toList_repr] at member
  exact Nat.isDigit_of_mem_toDigits (by omega) (by omega) member

theorem natRepr_ne_minus (number : Nat) (text : List Char) :
    number.repr.toList ≠ '-' :: text := by
  intro same
  have digit : '-'.isDigit = true := by
    apply @isDigit_of_mem_natRepr number
    rw [same]
    exact List.mem_cons_self
  cases digit

theorem intRepr_injective {left right : Int} (same : left.repr = right.repr) : left = right := by
  cases left with
  | ofNat left =>
      cases right with
      | ofNat right => rw [natRepr_injective same]
      | negSucc right =>
          have minus : left.repr.toList = '-' :: right.succ.repr.toList := by
            simpa [Int.repr] using congrArg String.toList same
          exact absurd minus (natRepr_ne_minus left _)
  | negSucc left =>
      cases right with
      | ofNat right =>
          have minus : right.repr.toList = '-' :: left.succ.repr.toList := by
            simpa [Int.repr] using (congrArg String.toList same).symm
          exact absurd minus (natRepr_ne_minus right _)
      | negSucc right =>
          have digits : left.succ.repr.toList = right.succ.repr.toList := by
            simpa [Int.repr] using congrArg String.toList same
          have succs := natRepr_injective (String.toList_inj.mp digits)
          rw [Nat.succ_inj.mp succs]

theorem colon_not_mem_intRepr (number : Int) : ':' ∉ number.repr.toList := by
  have plain : ∀ magnitude : Nat, ':' ∉ magnitude.repr.toList := fun magnitude member =>
    absurd (isDigit_of_mem_natRepr member) (by decide)
  cases number with
  | ofNat magnitude => exact plain magnitude
  | negSucc magnitude => simpa [Int.repr] using plain magnitude.succ

end FortifyLab
