import Mathlib.Data.List.Basic
import Mathlib.Tactic.IntervalCases

/-! Compact ASCII JSON text of strings, arrays and string maps. Every encoder is
prefix-free: what follows an encoded value cannot change how it is read. -/

namespace FortifyLab.Json

def hexDigit (value : Nat) : Char :=
  if value < 10 then Char.ofNat (48 + value) else Char.ofNat (87 + value)

def unicodeEscape (code : Nat) : List Char :=
  ['\\', 'u', hexDigit (code / 4096 % 16), hexDigit (code / 256 % 16), hexDigit (code / 16 % 16),
    hexDigit (code % 16)]

/-- The two-character escapes, by their second character. -/
def shortEscape (character : Char) : Option Char :=
  if character = '"' then some '"'
  else if character = '\\' then some '\\'
  else if character = '\n' then some 'n'
  else if character = '\r' then some 'r'
  else if character = '\t' then some 't'
  else if character = '\x08' then some 'b'
  else if character = '\x0c' then some 'f'
  else none

/-- Characters outside ASCII become `\u` escapes, above the basic plane as a
surrogate pair. -/
def escape (character : Char) : List Char :=
  match shortEscape character with
  | some short => ['\\', short]
  | none =>
      if 32 ≤ character.toNat ∧ character.toNat ≤ 126 then [character]
      else if character.toNat < 65536 then unicodeEscape character.toNat
      else unicodeEscape (55296 + (character.toNat - 65536) / 1024) ++
        unicodeEscape (56320 + (character.toNat - 65536) % 1024)

def encodeString (text : String) : List Char :=
  '"' :: text.toList.flatMap escape ++ ['"']

def encodePair {α β : Type} (left : α → List Char) (right : β → List Char) (pair : α × β) :
    List Char :=
  left pair.1 ++ ':' :: right pair.2

/-- The rest of an array or object after one of its items. -/
def encodeTail {α : Type} (item : α → List Char) (close : Char) : List α → List Char
  | [] => [close]
  | head :: tail => ',' :: item head ++ encodeTail item close tail

def encodeItems {α : Type} (item : α → List Char) (open_ close : Char) : List α → List Char
  | [] => [open_, close]
  | head :: tail => open_ :: item head ++ encodeTail item close tail

/-- Equal texts that start with encoded values start with the same value. -/
def PrefixFree {α : Type} (encode : α → List Char) : Prop :=
  ∀ first second left right, encode first ++ left = encode second ++ right →
    first = second ∧ left = right

theorem PrefixFree.injective {α : Type} {encode : α → List Char} (free : PrefixFree encode) :
    Function.Injective encode := by
  intro first second same
  exact (free first second [] [] (by rw [same])).1

/-! ## Characters -/

def hexValue (digit : Char) : Nat :=
  if digit.toNat < 58 then digit.toNat - 48 else digit.toNat - 87

theorem hexValue_hexDigit {value : Nat} (bound : value < 16) :
    hexValue (hexDigit value) = value := by
  interval_cases value <;> rfl

/-- The code that four hexadecimal digits spell. -/
def readCode (first second third fourth : Char) : Nat :=
  ((hexValue first * 16 + hexValue second) * 16 + hexValue third) * 16 + hexValue fourth

theorem readCode_digits {code : Nat} (bound : code < 65536) :
    readCode (hexDigit (code / 4096 % 16)) (hexDigit (code / 256 % 16))
      (hexDigit (code / 16 % 16)) (hexDigit (code % 16)) = code := by
  unfold readCode
  rw [hexValue_hexDigit (by omega), hexValue_hexDigit (by omega), hexValue_hexDigit (by omega),
    hexValue_hexDigit (by omega)]
  omega

def longForm (short : Char) : Char :=
  if short = 'n' then '\n'
  else if short = 'r' then '\r'
  else if short = 't' then '\t'
  else if short = 'b' then '\x08'
  else if short = 'f' then '\x0c'
  else short

/-- Reads one escaped character off a text. -/
def unescape : List Char → Option (Char × List Char)
  | '\\' :: 'u' :: a :: b :: c :: d :: rest =>
      if 55296 ≤ readCode a b c d ∧ readCode a b c d < 56320 then
        match rest with
        | '\\' :: 'u' :: e :: f :: g :: h :: rest =>
            some (Char.ofNat (65536 + (readCode a b c d - 55296) * 1024 +
              (readCode e f g h - 56320)), rest)
        | _ => none
      else some (Char.ofNat (readCode a b c d), rest)
  | '\\' :: short :: rest => some (longForm short, rest)
  | character :: rest => some (character, rest)
  | [] => none

theorem shortEscape_some {character short : Char} (found : shortEscape character = some short) :
    short ≠ 'u' ∧ longForm short = character := by
  unfold shortEscape at found
  split_ifs at found <;> cases found <;> subst_vars <;> decide

theorem shortEscape_none {character : Char} (absent : shortEscape character = none) :
    character ≠ '\\' ∧ character ≠ '"' := by
  unfold shortEscape at absent
  split_ifs at absent with quote backslash
  exact ⟨backslash, quote⟩

theorem toNat_bounds (character : Char) :
    character.toNat < 55296 ∨ 57343 < character.toNat ∧ character.toNat < 1114112 :=
  character.valid

theorem unescape_escape (character : Char) (rest : List Char) :
    unescape (escape character ++ rest) = some (character, rest) := by
  unfold escape
  cases form : shortEscape character with
  | some short =>
      obtain ⟨notUnicode, long⟩ := shortEscape_some form
      rw [← long]
      simp [unescape, notUnicode]
  | none =>
      obtain ⟨notBackslash, _⟩ := shortEscape_none form
      have valid := toNat_bounds character
      by_cases printable : 32 ≤ character.toNat ∧ character.toNat ≤ 126
      · simp [printable, unescape, notBackslash]
      · simp only [if_neg printable]
        by_cases basic : character.toNat < 65536
        · have single : ¬ (55296 ≤ character.toNat ∧ character.toNat < 56320) := by omega
          simp only [if_pos basic, unicodeEscape, List.cons_append, List.nil_append, unescape,
            readCode_digits basic, if_neg single, Char.ofNat_toNat]
        · have high : 55296 + (character.toNat - 65536) / 1024 < 56320 := by omega
          have low : 56320 + (character.toNat - 65536) % 1024 < 65536 := by omega
          have code : 65536 + (55296 + (character.toNat - 65536) / 1024 - 55296) * 1024 +
              (56320 + (character.toNat - 65536) % 1024 - 56320) = character.toNat := by omega
          have surrogate : 55296 ≤ 55296 + (character.toNat - 65536) / 1024 ∧
              55296 + (character.toNat - 65536) / 1024 < 56320 := ⟨by omega, high⟩
          simp only [if_neg basic, unicodeEscape, List.cons_append, List.nil_append, unescape,
            readCode_digits (high.trans (by decide)), readCode_digits low, if_pos surrogate, code,
            Char.ofNat_toNat]

theorem escape_prefixFree : PrefixFree escape := by
  intro first second left right same
  have read := congrArg unescape same
  rw [unescape_escape, unescape_escape] at read
  exact Prod.mk.inj (Option.some.inj read)

/-- No escaped character starts with the quote that ends a string. -/
theorem escape_head (character : Char) :
    ∃ head tail, escape character = head :: tail ∧ head ≠ '"' := by
  unfold escape
  cases form : shortEscape character with
  | some short => exact ⟨'\\', [short], rfl, by decide⟩
  | none =>
      obtain ⟨_, notQuote⟩ := shortEscape_none form
      dsimp only
      split
      · exact ⟨character, [], rfl, notQuote⟩
      · split
        · exact ⟨'\\', _, rfl, by decide⟩
        · exact ⟨'\\', _, rfl, by decide⟩

/-! ## Strings, pairs and lists -/

theorem flatMap_escape_inj (first second left right : List Char)
    (same : first.flatMap escape ++ '"' :: left = second.flatMap escape ++ '"' :: right) :
    first = second ∧ left = right := by
  induction first generalizing second with
  | nil =>
      cases second with
      | nil => exact ⟨rfl, (List.cons.inj same).2⟩
      | cons head tail =>
          obtain ⟨start, rest, form, notQuote⟩ := escape_head head
          rw [List.flatMap_cons, form] at same
          exact absurd (List.cons.inj same).1.symm notQuote
  | cons character characters ih =>
      cases second with
      | nil =>
          obtain ⟨start, rest, form, notQuote⟩ := escape_head character
          rw [List.flatMap_cons, form] at same
          exact absurd (List.cons.inj same).1 notQuote
      | cons head tail =>
          rw [List.flatMap_cons, List.flatMap_cons, List.append_assoc, List.append_assoc] at same
          obtain ⟨heads, tails⟩ := escape_prefixFree _ _ _ _ same
          obtain ⟨rests, ends⟩ := ih tail tails
          exact ⟨by rw [heads, rests], ends⟩

theorem encodeString_prefixFree : PrefixFree encodeString := by
  intro first second left right same
  simp only [encodeString, List.cons_append, List.append_assoc, List.nil_append,
    List.cons.injEq, true_and] at same
  obtain ⟨texts, rests⟩ := flatMap_escape_inj _ _ _ _ same
  exact ⟨String.toList_inj.mp texts, rests⟩

theorem encodePair_prefixFree {α β : Type} {left : α → List Char} {right : β → List Char}
    (leftFree : PrefixFree left) (rightFree : PrefixFree right) :
    PrefixFree (encodePair left right) := by
  intro first second before after same
  simp only [encodePair, List.append_assoc] at same
  obtain ⟨keys, rest⟩ := leftFree _ _ _ _ same
  obtain ⟨values, ends⟩ := rightFree _ _ _ _ (List.cons.inj rest).2
  exact ⟨Prod.ext keys values, ends⟩

theorem encodeTail_prefixFree {α : Type} {item : α → List Char} {close : Char}
    (free : PrefixFree item) (apart : close ≠ ',') : PrefixFree (encodeTail item close) := by
  intro first second left right same
  induction first generalizing second with
  | nil =>
      cases second with
      | nil => exact ⟨rfl, (List.cons.inj same).2⟩
      | cons head tail => exact absurd (List.cons.inj same).1 apart
  | cons value values ih =>
      cases second with
      | nil => exact absurd (List.cons.inj same).1.symm apart
      | cons head tail =>
          simp only [encodeTail, List.cons_append, List.append_assoc] at same
          obtain ⟨heads, rest⟩ := free _ _ _ _ (List.cons.inj same).2
          obtain ⟨tails, ends⟩ := ih tail rest
          exact ⟨by rw [heads, tails], ends⟩

theorem encodeItems_prefixFree {α : Type} {item : α → List Char} {open_ close : Char}
    (free : PrefixFree item) (apart : close ≠ ',')
    (starts : ∀ value, ∃ head tail, item value = head :: tail ∧ head ≠ close) :
    PrefixFree (encodeItems item open_ close) := by
  intro first second left right same
  cases first with
  | nil =>
      cases second with
      | nil => exact ⟨rfl, (List.cons.inj (List.cons.inj same).2).2⟩
      | cons head tail =>
          obtain ⟨start, rest, form, different⟩ := starts head
          simp only [encodeItems, form, List.cons_append, List.cons.injEq] at same
          exact absurd same.2.1.symm different
  | cons value values =>
      cases second with
      | nil =>
          obtain ⟨start, rest, form, different⟩ := starts value
          simp only [encodeItems, form, List.cons_append, List.cons.injEq] at same
          exact absurd same.2.1 different
      | cons head tail =>
          simp only [encodeItems, List.cons_append, List.append_assoc, List.cons.injEq] at same
          obtain ⟨heads, rest⟩ := free _ _ _ _ same.2
          obtain ⟨tails, ends⟩ := encodeTail_prefixFree free apart _ _ _ _ rest
          exact ⟨by rw [heads, tails], ends⟩

/-- An array of strings. -/
def encodeStrings : List String → List Char := encodeItems encodeString '[' ']'

/-- An object whose values are strings. -/
def encodeStringMap : List (String × String) → List Char :=
  encodeItems (encodePair encodeString encodeString) '{' '}'

theorem encodeStrings_prefixFree : PrefixFree encodeStrings :=
  encodeItems_prefixFree encodeString_prefixFree (by decide)
    (fun _ => ⟨'"', _, rfl, by decide⟩)

theorem encodeStringMap_prefixFree : PrefixFree encodeStringMap :=
  encodeItems_prefixFree (encodePair_prefixFree encodeString_prefixFree encodeString_prefixFree)
    (by decide) (fun _ => ⟨'"', _, rfl, by decide⟩)

end FortifyLab.Json
