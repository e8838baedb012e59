import Mathlib.Data.List.TakeWhile

/-! Regular expressions with the priorities of a backtracking matcher, and the
left-to-right substitution of their matches. -/

namespace FortifyLab

inductive Regex where
  | empty
  | one (test : Char → Bool)
  | seq (first second : Regex)
  | alt (first second : Regex)
  | many (body : Regex) (greedy : Bool)
  | group (body : Regex)
  | notAfter (test : Char → Bool)

namespace Regex

/-- The characters of a match, each with whether the group holds it. -/
abbrev Taken := List (Char × Bool)

/-- A way to match: what was taken and what is left. -/
abbrev Success := Taken × List Char

/-- The character before the rest, once some characters were taken. -/
def lastOf (previous : Option Char) (taken : Taken) : Option Char :=
  (taken.getLast?.map Prod.fst).or previous

def prepend (taken : Taken) (success : Success) : Success := (taken ++ success.1, success.2)

def andThen (previous : Option Char) (ways : List Success)
    (next : Option Char → List Char → List Success) : List Success :=
  ways.flatMap (fun way => (next (lastOf previous way.1) way.2).map (prepend way.1))

/-- Repetition; a round that takes nothing ends it. -/
def repeated (step : Option Char → List Char → List Success) (greedy : Bool) :
    Nat → Option Char → List Char → List Success
  | 0, _, text => [([], text)]
  | fuel + 1, previous, text =>
      let longer := andThen previous ((step previous text).filter (fun way => !way.1.isEmpty))
        (repeated step greedy fuel)
      if greedy then longer ++ [([], text)] else ([], text) :: longer

/-- All ways to match at a place of the text, in the order a backtracking matcher
tries them. -/
@[grind =] def successes : Regex → Option Char → List Char → List Success
  | .empty, _, text => [([], text)]
  | .one _, _, [] => []
  | .one test, _, head :: rest => if test head then [([(head, false)], rest)] else []
  | .seq first second, previous, text =>
      andThen previous (first.successes previous text) second.successes
  | .alt first second, previous, text =>
      first.successes previous text ++ second.successes previous text
  | .many body greedy, previous, text =>
      repeated body.successes greedy text.length previous text
  | .group body, previous, text =>
      (body.successes previous text).map
        (fun way => (way.1.map (fun entry => (entry.1, true)), way.2))
  | .notAfter test, previous, text => if previous.any test then [] else [([], text)]

/-- `pattern.match` at a place: the way tried first. -/
def matchAt (regex : Regex) (previous : Option Char) (text : List Char) : Option Taken :=
  (regex.successes previous text).head?.map Prod.fst

/-- `search`. -/
def search (regex : Regex) : Option Char → List Char → Bool
  | previous, [] => (regex.matchAt previous []).isSome
  | previous, head :: tail =>
      (regex.matchAt previous (head :: tail)).isSome || regex.search (some head) tail

/-! ## Shorthands -/

/-- The given characters, up to `fold`. -/
def word (fold : Char → Char) : List Char → Regex
  | [] => .empty
  | head :: tail => .seq (.one (fun character => fold character == head)) (word fold tail)

/-- One of several words, the first one first. -/
def words (fold : Char → Char) : List (List Char) → Regex
  | [] => .one (fun _ => false)
  | [only] => word fold only
  | head :: tail => .alt (word fold head) (words fold tail)

def run (test : Char → Bool) : Regex := .many (.one test) true

def plus (test : Char → Bool) : Regex := .seq (.one test) (run test)

def optional (body : Regex) : Regex := .alt body .empty

/-! ## Substitution -/

/-- What becomes of the text: a character stays, goes, or a replacement is put in. -/
inductive Piece where
  | kept (character : Char)
  | removed (character : Char)
  | inserted
  deriving DecidableEq, Repr

/-- One character of a match, and the replacement after its last one. -/
def mark (character : Char) (flag : Bool) (rest : Taken) : List Piece :=
  (if flag then .kept character else .removed character) ::
    (if rest.isEmpty then [.inserted] else [])

/-- `sub` with the replacement `group(1) + …`, from a place inside what is left of a
match or outside any. The expression must not match the empty text. -/
def pieces (regex : Regex) : Option Char → Taken → List Char → List Piece
  | _, _, [] => []
  | previous, inside, head :: tail =>
      match (if inside.isEmpty then (regex.matchAt previous (head :: tail)).getD [] else inside) with
      | [] => .kept head :: regex.pieces (some head) [] tail
      | entry :: rest => mark head entry.2 rest ++ regex.pieces (some head) rest tail

def Piece.text (replacement : List Char) : Piece → List Char
  | .kept character => [character]
  | .removed _ => []
  | .inserted => replacement

def sub (regex : Regex) (replacement text : List Char) : List Char :=
  (regex.pieces none [] text).flatMap (Piece.text replacement)

/-- Whether each character of the text stays. -/
def Piece.fate : Piece → Option Bool
  | .kept _ => some true
  | .removed _ => some false
  | .inserted => none

def fates (regex : Regex) (previous : Option Char) (inside : Taken) (text : List Char) : List Bool :=
  (regex.pieces previous inside text).filterMap Piece.fate

theorem fates_cons (regex : Regex) (previous : Option Char) (inside : Taken) (head : Char)
    (tail : List Char) :
    regex.fates previous inside (head :: tail) =
      match (if inside.isEmpty then (regex.matchAt previous (head :: tail)).getD [] else inside) with
      | [] => true :: regex.fates (some head) [] tail
      | entry :: rest => entry.2 :: regex.fates (some head) rest tail := by
  unfold fates
  rw [pieces]
  split
  · rfl
  · rename_i entry rest _
    rw [List.filterMap_append]
    cases flag : entry.2 <;> cases rest <;> rfl

theorem fates_length (regex : Regex) (previous : Option Char) (inside : Taken) (text : List Char) :
    (regex.fates previous inside text).length = text.length := by
  induction text generalizing previous inside with
  | nil => rfl
  | cons head tail ih =>
      rw [fates_cons]
      split <;> simp [ih]

/-! ## What is tried first -/

variable {fold : Char → Char} {test : Char → Bool} {previous : Option Char} {text rest : List Char}

/-- Characters outside the group. -/
def plain (characters : List Char) : Taken := characters.map (fun character => (character, false))

@[simp] theorem plain_nil : plain [] = [] := rfl

@[simp] theorem plain_cons (head : Char) (tail : List Char) :
    plain (head :: tail) = (head, false) :: plain tail := rfl

theorem plain_append (left right : List Char) : plain (left ++ right) = plain left ++ plain right :=
  List.map_append

theorem head_andThen {ways : List Success} {next : Option Char → List Char → List Success}
    {taken : Taken} {second : Success} (first : ways.head? = some (taken, rest))
    (then_ : (next (lastOf previous taken) rest).head? = some second) :
    (andThen previous ways next).head? = some (prepend taken second) := by
  cases ways with
  | nil => cases first
  | cons head tail =>
      cases first
      simp [andThen, List.head?_append, then_]

theorem head_seq {first second : Regex} {taken more : Taken} {last : List Char}
    (start : (first.successes previous text).head? = some (taken, rest))
    (then_ : (second.successes (lastOf previous taken) rest).head? = some (more, last)) :
    ((seq first second).successes previous text).head? = some (taken ++ more, last) :=
  head_andThen start then_

theorem seq_nil {first second : Regex}
    (fails : ∀ way ∈ first.successes previous text,
      second.successes (lastOf previous way.1) way.2 = []) :
    (seq first second).successes previous text = [] := by
  unfold successes andThen
  apply List.flatMap_eq_nil_iff.mpr
  intro way member
  rw [fails way member, List.map_nil]

theorem seq_nil_left {first second : Regex} (fails : first.successes previous text = []) :
    (seq first second).successes previous text = [] := by
  simp [successes, andThen, fails]

theorem optional_nil {body : Regex} (fails : body.successes previous text = []) :
    (optional body).successes previous text = [([], text)] := by
  simp [optional, successes, fails]

theorem matchAt_head {regex : Regex} {taken : Taken}
    (found : (regex.successes previous text).head? = some (taken, rest)) :
    regex.matchAt previous text = some taken := by
  simp [matchAt, found]

theorem head_alt_left {first second : Regex} {success : Success}
    (found : (first.successes previous text).head? = some success) :
    ((alt first second).successes previous text).head? = some success := by
  simp [successes, List.head?_append, found]

theorem alt_right {first second : Regex} (fails : first.successes previous text = []) :
    (alt first second).successes previous text = second.successes previous text := by
  simp [successes, fails]

theorem head_group {body : Regex} {taken : Taken}
    (found : (body.successes previous text).head? = some (taken, rest)) :
    ((group body).successes previous text).head? =
      some (taken.map (fun entry => (entry.1, true)), rest) := by
  simp [successes, found]

/-- A word matches exactly the texts that start with it, up to `fold`. -/
theorem successes_word (characters : List Char) :
    (word fold characters).successes previous text =
      if (text.take characters.length).map fold = characters then
        [(plain (text.take characters.length), text.drop characters.length)]
      else [] := by
  induction characters generalizing previous text with
  | nil => simp [word, successes]
  | cons head tail ih =>
      cases text with
      | nil => simp [word, successes, andThen]
      | cons first others =>
          by_cases same : fold first = head
          · subst same
            simp only [word, successes, andThen, beq_self_eq_true, if_true, List.flatMap_singleton,
              ih, List.length_cons, List.take_succ_cons, List.drop_succ_cons, List.map_cons,
              List.cons.injEq, true_and]
            split <;> simp [prepend]
          · simp [word, successes, andThen, same]

theorem head_word {characters : List Char} (same : characters.map fold = text) :
    ((word fold text).successes previous (characters ++ rest)).head? =
      some (plain characters, rest) := by
  have size : text.length = characters.length := by rw [← same, List.length_map]
  rw [successes_word, size, List.take_left, List.drop_left, if_pos same]
  rfl

theorem word_nil {characters : List Char}
    (other : (text.take characters.length).map fold ≠ characters) :
    (word fold characters).successes previous text = [] := by
  rw [successes_word, if_neg other]

/-- A word does not match where the first character is another one. -/
theorem word_nil_of_head {first : Char} {others : List Char}
    (other : text.head?.map fold ≠ some first) :
    (word fold (first :: others)).successes previous text = [] := by
  apply word_nil
  intro same
  apply other
  cases text with
  | nil => simp at same
  | cons head tail =>
      simp only [List.length_cons, List.take_succ_cons, List.map_cons, List.cons.injEq] at same
      simp [same.1]

theorem word_prefix {characters : List Char}
    (same : (text.take characters.length).map fold = characters) :
    characters <+: text.map fold := by
  rw [List.map_take] at same
  rw [← same]
  exact List.take_prefix _ _

/-- Among words none of which begins another, the one the text starts with matches. -/
theorem head_words {list : List (List Char)} {key characters : List Char} (member : key ∈ list)
    (apart : ∀ other ∈ list, other <+: key ∨ key <+: other → other = key)
    (same : characters.map fold = key) :
    ((words fold list).successes previous (characters ++ rest)).head? =
      some (plain characters, rest) := by
  induction list with
  | nil => cases member
  | cons head tail ih =>
      by_cases this : head = key
      · subst this
        cases tail with
        | nil => exact head_word same
        | cons second others => exact head_alt_left (head_word same)
      · have later : key ∈ tail := by
          rcases List.mem_cons.mp member with rfl | inside
          · exact absurd rfl this
          · exact inside
        have mismatch : ((characters ++ rest).take head.length).map fold ≠ head := by
          intro found
          have first := word_prefix found
          have second : key <+: (characters ++ rest).map fold := by
            rw [List.map_append, same]
            exact List.prefix_append _ _
          exact this (apart head List.mem_cons_self (List.prefix_or_prefix_of_prefix first second))
        have next := ih later (fun other inside => apart other (List.mem_cons_of_mem _ inside))
        cases tail with
        | nil => cases later
        | cons second others =>
            rw [words, alt_right (word_nil mismatch)]
            exact next
            exact nofun

theorem head_repeated_one (fuel : Nat) (enough : text.length ≤ fuel) :
    (repeated (one test).successes true fuel previous text).head? =
      some (plain (text.takeWhile test), text.dropWhile test) := by
  induction fuel generalizing previous text with
  | zero =>
      cases text with
      | nil => rfl
      | cons head tail => simp at enough
  | succ fuel ih =>
      cases text with
      | nil => simp [repeated, successes, andThen]
      | cons head tail =>
          have shorter : tail.length ≤ fuel := by simpa using enough
          by_cases found : test head
          · have longer : (repeated (one test).successes true fuel
                (lastOf previous [(head, false)]) tail).head? =
                some (plain (tail.takeWhile test), tail.dropWhile test) := ih shorter
            simp [repeated, successes, andThen, found, List.head?_append, longer, prepend]
          · simp [repeated, successes, andThen, found]

theorem head_run : ((run test).successes previous text).head? =
    some (plain (text.takeWhile test), text.dropWhile test) :=
  head_repeated_one text.length (le_refl _)

theorem head_plus (found : text.takeWhile test ≠ []) :
    ((plus test).successes previous text).head? =
      some (plain (text.takeWhile test), text.dropWhile test) := by
  cases text with
  | nil => exact absurd rfl found
  | cons head tail =>
      by_cases first : test head
      · have start : ((one test).successes previous (head :: tail)).head? =
            some ([(head, false)], tail) := by simp [successes, first]
        rw [List.takeWhile_cons_of_pos first, List.dropWhile_cons_of_pos first]
        exact head_seq start head_run
      · exact absurd (List.takeWhile_cons_of_neg first) found

/-- A run that stops before the rest. -/
theorem takeWhile_stop {run rest : List Char} (all : ∀ character ∈ run, test character)
    (stops : rest.head?.all (fun character => !test character) = true) :
    (run ++ rest).takeWhile test = run ∧ (run ++ rest).dropWhile test = rest := by
  rw [List.takeWhile_append_of_pos all, List.dropWhile_append_of_pos all]
  cases rest with
  | nil => simp
  | cons head tail =>
      have failed : test head = false := by simpa using stops
      simp [failed]

theorem plus_nil (missing : text.head?.all (fun character => !test character) = true) :
    (plus test).successes previous text = [] := by
  cases text with
  | nil => rfl
  | cons head tail =>
      have failed : test head = false := by simpa using missing
      simp [plus, successes, andThen, failed]

theorem mem_seq {first second : Regex} {way : Success}
    (member : way ∈ (seq first second).successes previous text) :
    ∃ early ∈ first.successes previous text,
      ∃ late ∈ second.successes (lastOf previous early.1) early.2, way = prepend early.1 late := by
  rcases List.mem_flatMap.mp member with ⟨early, found, later⟩
  rcases List.mem_map.mp later with ⟨late, reached, same⟩
  exact ⟨early, found, late, reached, same.symm⟩

theorem mem_word {characters : List Char} {way : Success}
    (member : way ∈ (word fold characters).successes previous text) :
    ∃ taken, way.1 = plain taken ∧ text = taken ++ way.2 ∧ taken.map fold = characters := by
  rw [successes_word] at member
  split at member
  · rename_i same
    cases List.mem_singleton.mp member
    exact ⟨_, rfl, (List.take_append_drop _ _).symm, same⟩
  · cases member

theorem mem_one {way : Success} (member : way ∈ (one test).successes previous text) :
    ∃ head, way.1 = [(head, false)] ∧ text = head :: way.2 ∧ test head := by
  cases text with
  | nil => cases member
  | cons head tail =>
      unfold successes at member
      split at member
      · rename_i passes
        cases List.mem_singleton.mp member
        exact ⟨head, rfl, rfl, passes⟩
      · cases member

/-- What a run takes is a prefix of characters that pass the test. -/
theorem mem_run {way : Success} (member : way ∈ (run test).successes previous text) :
    ∃ taken, way.1 = plain taken ∧ text = taken ++ way.2 ∧ ∀ character ∈ taken, test character := by
  have general : ∀ fuel (way : Success) previous text,
      way ∈ repeated (one test).successes true fuel previous text →
      ∃ taken, way.1 = plain taken ∧ text = taken ++ way.2 ∧
        ∀ character ∈ taken, test character := by
    intro fuel
    induction fuel with
    | zero =>
        intro way previous text found
        cases List.mem_singleton.mp found
        exact ⟨[], rfl, rfl, by simp⟩
    | succ fuel ih =>
        intro way previous text found
        rcases List.mem_append.mp found with longer | last
        · cases text with
          | nil => simp [successes, andThen] at longer
          | cons head tail =>
              by_cases passes : test head
              · simp only [successes, passes, andThen, if_true, List.filter_cons, List.isEmpty_cons,
                  Bool.not_false, List.filter_nil, List.flatMap_singleton, List.mem_map] at longer
                rcases longer with ⟨success, later, rfl⟩
                rcases ih _ _ _ later with ⟨taken, same, split, all⟩
                refine ⟨head :: taken, ?_, ?_, ?_⟩
                · simp [prepend, same]
                · simp [prepend, split]
                · simpa [passes] using all
              · simp [successes, andThen, passes] at longer
        · cases List.mem_singleton.mp last
          exact ⟨[], rfl, rfl, by simp⟩
  exact general text.length way previous text member

end Regex

end FortifyLab
