import Mathlib.Data.List.Basic

/-! Texts as lines: the newline translation of text files, and `splitlines`. -/

namespace FortifyLab.TextLines

/-- What reading a text file makes of its line ends: each becomes a line feed. -/
def translate : List Char → List Char
  | [] => []
  | '\r' :: '\n' :: rest => '\n' :: translate rest
  | head :: rest => (if head = '\r' then '\n' else head) :: translate rest

theorem translate_cons {head : Char} {rest : List Char} (plain : head ≠ '\r') :
    translate (head :: rest) = head :: translate rest := by
  rw [translate]
  · rw [if_neg plain]
  · intro tail same
    exact absurd same plain

theorem cr_not_mem_translate (text : List Char) : '\r' ∉ translate text := by
  induction text using translate.induct with
  | case1 => simp [translate]
  | case2 rest ih => simp [translate, ih]
  | case3 head rest next ih =>
      rw [translate]
      · simp only [List.mem_cons, not_or]
        refine ⟨?_, ih⟩
        split
        · decide
        · next plain => exact fun same => plain same.symm
      · exact next

theorem translate_of_plain {text : List Char} (plain : '\r' ∉ text) : translate text = text := by
  induction text with
  | nil => rfl
  | cons head rest ih =>
      simp only [List.mem_cons, not_or] at plain
      rw [translate_cons (fun same => plain.1 same.symm), ih plain.2]

theorem translate_eq_iff (text : List Char) : translate text = text ↔ '\r' ∉ text := by
  constructor
  · intro same
    rw [← same]
    exact cr_not_mem_translate text
  · exact translate_of_plain

/-! ## Lines -/

/-- Where `splitlines` ends a line, besides the carriage return. -/
def isBoundary (character : Char) : Bool :=
  character == '\n' || character == '\x0b' || character == '\x0c' || character == '\x1c' ||
    character == '\x1d' || character == '\x1e' || character == '\u0085' ||
    character == '\u2028' || character == '\u2029'

/-- `splitlines(keepends=True)`. -/
def splitLines : List Char → List (List Char)
  | [] => []
  | '\r' :: '\n' :: rest => ['\r', '\n'] :: splitLines rest
  | head :: rest =>
      if head = '\r' || isBoundary head then [head] :: splitLines rest
      else match splitLines rest with
        | [] => [[head]]
        | line :: lines => (head :: line) :: lines

theorem splitLines_flatten (text : List Char) : (splitLines text).flatten = text := by
  induction text using splitLines.induct with
  | case1 => rfl
  | case2 rest ih => simp [splitLines, ih]
  | case3 head rest next ends ih =>
      rw [splitLines]
      · simp only [ends, if_true, List.flatten_cons, ih]
        rfl
      · exact next
  | case4 head rest next goes empty ih =>
      rw [splitLines]
      · simp only [goes, empty] at ih ⊢
        simpa using ih
      · exact next
  | case5 head rest next goes line lines split ih =>
      rw [splitLines]
      · simp only [goes, split] at ih ⊢
        simpa using ih
      · exact next

end FortifyLab.TextLines
