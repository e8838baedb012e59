import Mathlib.Data.List.Induction
import FortifyLab.Library.Regex

/-! Where the left-to-right search looks for a match, and what it removes. -/

namespace FortifyLab.Regex

variable {regex : Regex} {previous : Option Char} {inside taken : Taken} {text rest : List Char}

/-- The characters of a match. -/
def characters (taken : Taken) : List Char := taken.map Prod.fst

/-- The flags of the part of a match that covers `size` characters from `start` on. -/
def flags (taken : Taken) (start size : Nat) : List Bool :=
  ((taken.map Prod.snd).drop start).take size

theorem fates_start (found : regex.matchAt previous text = some taken) :
    regex.fates previous [] text = regex.fates previous taken text := by
  cases text with
  | nil => rfl
  | cons head tail =>
      rw [fates_cons, fates_cons]
      cases taken with
      | nil => simp [found]
      | cons entry more => simp [found]

/-- Inside a match the flags decide. -/
theorem fates_inside (regex : Regex) (previous : Option Char) (inside : Taken) (text : List Char) :
    (regex.fates previous inside text).take inside.length =
      (inside.map Prod.snd).take text.length := by
  induction text generalizing previous inside with
  | nil => simp [fates, pieces]
  | cons head tail ih =>
      cases inside with
      | nil => simp
      | cons entry more =>
          rw [fates_cons]
          simpa using ih (some head) more

/-- What is left of a match after one more character, starting a new one if the
search is outside any. -/
def advance (regex : Regex) (inside : Taken) (previous : Option Char) (text : List Char) : Taken :=
  (if inside.isEmpty then (regex.matchAt previous text).getD [] else inside).tail

/-- Where the search stands after some text: inside which rest of a match. -/
def state (regex : Regex) : Taken → Option Char → List Char → List Char → Taken
  | inside, _, [], _ => inside
  | inside, previous, head :: tail, rest =>
      regex.state (regex.advance inside previous (head :: (tail ++ rest))) (some head) tail rest

theorem getLast_cons (head : Char) (tail : List Char) (previous : Option Char) :
    (head :: tail).getLast?.or previous = tail.getLast?.or (some head) := by
  cases tail with
  | nil => rfl
  | cons second others =>
      rw [List.getLast?_cons_cons]
      cases found : (second :: others).getLast? with
      | none => simp at found
      | some last => rfl

theorem fates_append (before : List Char) :
    (regex.fates previous inside (before ++ rest)).drop before.length =
      regex.fates (before.getLast?.or previous) (regex.state inside previous before rest) rest := by
  induction before generalizing previous inside with
  | nil => simp [state]
  | cons head tail ih =>
      rw [List.cons_append, fates_cons, state, getLast_cons, advance]
      generalize (if inside.isEmpty = true then
        (regex.matchAt previous (head :: (tail ++ rest))).getD [] else inside) = marks
      cases marks with
      | nil =>
          rw [List.length_cons, List.drop_succ_cons]
          exact ih
      | cons entry more =>
          rw [List.length_cons, List.drop_succ_cons]
          exact ih

theorem state_snoc (before : List Char) (last : Char) :
    regex.state inside previous (before ++ [last]) rest =
      regex.advance (regex.state inside previous before (last :: rest))
        (before.getLast?.or previous) (last :: rest) := by
  induction before generalizing inside previous with
  | nil => rfl
  | cons head tail ih =>
      rw [List.cons_append, state, ih, state, getLast_cons, List.append_assoc, List.singleton_append]

theorem characters_append (left right : Taken) :
    characters (left ++ right) = characters left ++ characters right := List.map_append

theorem andThen_sound {ways : List Success} {next : Option Char → List Char → List Success}
    (first : ∀ way ∈ ways, text = characters way.1 ++ way.2)
    (second : ∀ previous text, ∀ way ∈ next previous text, text = characters way.1 ++ way.2) :
    ∀ way ∈ andThen previous ways next, text = characters way.1 ++ way.2 := by
  intro way member
  rcases List.mem_flatMap.mp member with ⟨early, found, later⟩
  rcases List.mem_map.mp later with ⟨last, reached, rfl⟩
  have split := second _ _ last reached
  rw [first early found, prepend, characters_append, List.append_assoc, ← split]

theorem repeated_sound {step : Option Char → List Char → List Success} (greedy : Bool)
    (sound : ∀ previous text, ∀ way ∈ step previous text, text = characters way.1 ++ way.2)
    (fuel : Nat) (previous : Option Char) (text : List Char) :
    ∀ way ∈ repeated step greedy fuel previous text, text = characters way.1 ++ way.2 := by
  induction fuel generalizing previous text with
  | zero =>
      intro way member
      cases List.mem_singleton.mp member
      rfl
  | succ fuel ih =>
      have longer : ∀ way ∈ andThen previous
          ((step previous text).filter (fun way => !way.1.isEmpty)) (repeated step greedy fuel),
          text = characters way.1 ++ way.2 :=
        andThen_sound (fun way member => sound _ _ way (List.mem_filter.mp member).1) ih
      intro way member
      have cases_ : way ∈ andThen previous
          ((step previous text).filter (fun way => !way.1.isEmpty)) (repeated step greedy fuel) ∨
          way = ([], text) := by
        unfold repeated at member
        cases greedy with
        | true => simpa using member
        | false => simpa [or_comm] using member
      rcases cases_ with inner | rfl
      · exact longer way inner
      · rfl

/-- A way to match takes a prefix of the text. -/
theorem successes_sound (regex : Regex) (previous : Option Char) (text : List Char) :
    ∀ way ∈ regex.successes previous text, text = characters way.1 ++ way.2 := by
  induction regex generalizing previous text with
  | empty =>
      intro way member
      cases List.mem_singleton.mp member
      rfl
  | one test =>
      intro way member
      cases text with
      | nil => cases member
      | cons head tail =>
          by_cases passes : test head
          · simp only [successes, passes, if_true, List.mem_singleton] at member
            rw [member]
            rfl
          · simp [successes, passes] at member
  | seq first second left right => exact andThen_sound (left previous text) right
  | alt first second left right =>
      intro way member
      rcases List.mem_append.mp member with early | late
      · exact left previous text way early
      · exact right previous text way late
  | many body greedy ih => exact repeated_sound greedy ih text.length previous text
  | group body ih =>
      intro way member
      rcases List.mem_map.mp member with ⟨inner, found, rfl⟩
      have split := ih previous text inner found
      simpa [characters, Function.comp_def] using split
  | notAfter test =>
      intro way member
      unfold successes at member
      split at member
      · cases member
      · cases List.mem_singleton.mp member
        rfl

theorem matchAt_sound (found : regex.matchAt previous text = some taken) :
    ∃ later, text = characters taken ++ later := by
  unfold matchAt at found
  cases tried : regex.successes previous text with
  | nil => simp [tried] at found
  | cons way others =>
      simp only [tried, List.head?_cons, Option.map_some, Option.some.injEq] at found
      have member : way ∈ regex.successes previous text := tried ▸ List.mem_cons_self
      exact ⟨way.2, found ▸ successes_sound _ _ _ way member⟩

/-- The places where the search looks for a match: at the start, after a character at
which there is none, and after a match. -/
inductive Visits (regex : Regex) (text : List Char) : List Char → List Char → Prop
  | start : Visits regex text [] text
  | skip {seen rest : List Char} {head : Char} (visited : Visits regex text seen (head :: rest))
      (missing : regex.matchAt seen.getLast? (head :: rest) = none) :
      Visits regex text (seen ++ [head]) rest
  | jump {seen rest : List Char} {taken : Taken}
      (visited : Visits regex text seen (characters taken ++ rest))
      (found : regex.matchAt seen.getLast? (characters taken ++ rest) = some taken) :
      Visits regex text (seen ++ characters taken) rest

/-- A match that begins before a place, and what of it is left there. -/
structure Open (regex : Regex) (text before : List Char) (inside : Taken) (seen rest : List Char)
    (taken : Taken) : Prop where
  visited : Visits regex text seen rest
  found : regex.matchAt seen.getLast? rest = some taken
  earlier : seen.length < before.length
  reaches : before.length < seen.length + taken.length
  left : inside = taken.drop (before.length - seen.length)

theorem Visits.split {seen : List Char} (visited : regex.Visits text seen rest) :
    text = seen ++ rest := by
  induction visited with
  | start => rfl
  | skip visited missing ih => rw [ih, List.append_assoc, List.singleton_append]
  | jump visited found ih => rw [ih, List.append_assoc]

theorem state_outside (nonempty : ∀ previous text, regex.matchAt previous text ≠ some [])
    {before : List Char} {last : Char} (visited : regex.Visits text before (last :: rest)) :
    (regex.advance [] before.getLast? (last :: rest) = [] ∧
        regex.Visits text (before ++ [last]) rest) ∨
      ∃ seen later taken, regex.Open text (before ++ [last])
        (regex.advance [] before.getLast? (last :: rest)) seen later taken := by
  cases found : regex.matchAt before.getLast? (last :: rest) with
  | none => exact .inl ⟨by simp [advance, found], visited.skip found⟩
  | some taken =>
      rcases matchAt_sound found with ⟨later, split⟩
      cases taken with
      | nil => exact absurd found (nonempty _ _)
      | cons entry more =>
          have same : regex.advance [] before.getLast? (last :: rest) = more := by
            simp [advance, found]
          rw [same]
          cases more with
          | nil =>
              simp only [characters, List.map_cons, List.map_nil, List.singleton_append,
                List.cons.injEq] at split
              rcases split with ⟨rfl, rfl⟩
              have jumped : regex.Visits text (before ++ characters [entry]) rest :=
                visited.jump found
              exact .inl ⟨rfl, jumped⟩
          | cons second others =>
              refine .inr ⟨before, last :: rest, entry :: second :: others, visited, found, ?_, ?_, ?_⟩
              · simp
              · simp
              · simp

theorem state_open {before seen later : List Char} {last : Char} {inside : Taken}
    (opened : regex.Open text before inside seen later taken)
    (split : text = before ++ last :: rest) :
    (regex.advance inside before.getLast? (last :: rest) = [] ∧
        regex.Visits text (before ++ [last]) rest) ∨
      ∃ seen later taken, regex.Open text (before ++ [last])
        (regex.advance inside before.getLast? (last :: rest)) seen later taken := by
  have earlier := opened.earlier
  have reaches := opened.reaches
  have size : before.length - seen.length < taken.length := by omega
  have next : regex.advance inside before.getLast? (last :: rest) =
      taken.drop (before.length + 1 - seen.length) := by
    have nonempty : inside.isEmpty = false := by simp [opened.left, size]
    rw [advance, nonempty, if_neg Bool.false_ne_true, opened.left, List.tail_drop]
    congr 1
    omega
  rw [next]
  by_cases more : before.length + 1 < seen.length + taken.length
  · refine .inr ⟨seen, later, taken, opened.visited, opened.found, ?_, ?_, ?_⟩
    · simp
      omega
    · simpa using more
    · simp
  · rcases matchAt_sound opened.found with ⟨after, whole⟩
    have visited := opened.visited
    rw [whole] at visited
    have found := opened.found
    rw [whole] at found
    have aligned : (before ++ [last]) ++ rest = (seen ++ characters taken) ++ after := by
      rw [List.append_assoc, List.append_assoc, ← whole, ← opened.visited.split, split]
      rfl
    have lengths : (before ++ [last]).length = (seen ++ characters taken).length := by
      simp [characters]
      omega
    rcases List.append_inj aligned lengths with ⟨same, rfl⟩
    refine .inl ⟨List.drop_eq_nil_of_le (by omega), ?_⟩
    rw [same]
    exact visited.jump found

/-- The search is outside any match at a place it visits, or inside an open one. -/
theorem state_spec (nonempty : ∀ previous text, regex.matchAt previous text ≠ some [])
    (before rest : List Char) :
    (regex.state [] none before rest = [] ∧ regex.Visits (before ++ rest) before rest) ∨
      ∃ seen later taken, regex.Open (before ++ rest) before
        (regex.state [] none before rest) seen later taken := by
  induction before using List.reverseRecOn generalizing rest with
  | nil => exact .inl ⟨rfl, .start⟩
  | append_singleton before last ih =>
      rw [state_snoc, List.append_assoc, List.singleton_append, Option.or_none]
      rcases ih (last :: rest) with ⟨outside, visited⟩ | ⟨seen, later, taken, opened⟩
      · rw [outside]
        exact state_outside nonempty visited
      · exact state_open opened rfl

/-! ## First characters -/

/-- Every match starts with a character of the class. -/
def Starts (test : Char → Bool) (regex : Regex) : Prop :=
  ∀ previous text, ∀ way ∈ regex.successes previous text,
    ∃ entry more, way.1 = entry :: more ∧ test entry.1

variable {test : Char → Bool} {first second : Regex}

theorem starts_one {own : Char → Bool} (implies : ∀ character, own character → test character) :
    Starts test (one own) := by
  intro previous text way member
  rcases mem_one member with ⟨head, taken, _, passes⟩
  exact ⟨(head, false), [], taken, implies head passes⟩

theorem Starts.seq (starts : Starts test first) : Starts test (seq first second) := by
  intro previous text way member
  rcases mem_seq member with ⟨early, found, late, _, rfl⟩
  rcases starts _ _ early found with ⟨entry, more, taken, passes⟩
  exact ⟨entry, more ++ late.1, by simp [prepend, taken], passes⟩

theorem Starts.alt (left : Starts test first) (right : Starts test second) :
    Starts test (alt first second) := by
  intro previous text way member
  rcases List.mem_append.mp member with early | late
  · exact left _ _ way early
  · exact right _ _ way late

/-- A part that may take nothing may stand first. -/
theorem starts_seq_of (before : ∀ previous text, ∀ way ∈ first.successes previous text,
      way.1 = [] ∨ ∃ entry more, way.1 = entry :: more ∧ test entry.1)
    (starts : Starts test second) : Starts test (.seq first second) := by
  intro previous text way member
  rcases mem_seq member with ⟨early, found, late, reached, rfl⟩
  rcases before _ _ early found with none | ⟨entry, more, taken, passes⟩
  · rcases starts _ _ late reached with ⟨entry, more, taken, passes⟩
    exact ⟨entry, more, by simp [prepend, none, taken], passes⟩
  · exact ⟨entry, more ++ late.1, by simp [prepend, taken], passes⟩

theorem starts_optional (starts : Starts test first) (previous : Option Char) (text : List Char) :
    ∀ way ∈ (optional first).successes previous text,
      way.1 = [] ∨ ∃ entry more, way.1 = entry :: more ∧ test entry.1 := by
  intro way member
  rcases List.mem_append.mp member with early | late
  · exact .inr (starts _ _ way early)
  · exact .inl (congrArg Prod.fst (List.mem_singleton.mp late))

theorem Starts.group (starts : Starts test first) : Starts test (group first) := by
  intro previous text way member
  rcases List.mem_map.mp member with ⟨inner, found, rfl⟩
  rcases starts _ _ inner found with ⟨entry, more, taken, passes⟩
  exact ⟨(entry.1, true), more.map (fun entry => (entry.1, true)), by simp [taken], passes⟩

theorem starts_words {fold : Char → Char} {list : List (List Char)}
    (heads : ∀ characters ∈ list, ∃ head tail, characters = head :: tail ∧
      ∀ character, fold character = head → test character) : Starts test (words fold list) := by
  induction list with
  | nil => exact starts_one nofun
  | cons characters others ih =>
      rcases heads characters List.mem_cons_self with ⟨head, tail, shape, implies⟩
      have now : Starts test (word fold characters) := by
        rw [shape]
        exact (starts_one (fun character same => implies character (by simpa using same))).seq
      cases others with
      | nil => exact now
      | cons next rest =>
          exact now.alt (ih (fun other inside => heads other (List.mem_cons_of_mem _ inside)))

/-- Where no character of the class stands first, there is no match. -/
theorem Starts.none (starts : Starts test regex)
    (stops : text.head?.all (fun head => !test head) = true) :
    regex.matchAt previous text = Option.none := by
  unfold matchAt
  cases tried : regex.successes previous text with
  | nil => rfl
  | cons way others =>
      have member : way ∈ regex.successes previous text := tried ▸ List.mem_cons_self
      rcases starts _ _ way member with ⟨entry, more, taken, passes⟩
      rw [successes_sound _ _ _ way member, taken] at stops
      simp [characters, passes] at stops

theorem Starts.nonempty (starts : Starts test regex) (previous : Option Char) (text : List Char) :
    regex.matchAt previous text ≠ some [] := by
  intro found
  unfold matchAt at found
  cases tried : regex.successes previous text with
  | nil => simp [tried] at found
  | cons way others =>
      have member : way ∈ regex.successes previous text := tried ▸ List.mem_cons_self
      rcases starts _ _ way member with ⟨entry, more, taken, _⟩
      simp [tried, taken] at found

/-! ## Gone -/

/-- None of the characters of `secret` stays when the whole text is searched. -/
def Gone (regex : Regex) (before secret after : List Char) : Prop :=
  ((regex.fates none [] (before ++ (secret ++ after))).drop before.length).take secret.length =
    List.replicate secret.length false

theorem fates_covered {marker secret after : List Char}
    (covers : flags inside marker.length secret.length = List.replicate secret.length false) :
    ((regex.fates previous inside (marker ++ (secret ++ after))).drop marker.length).take
      secret.length = List.replicate secret.length false := by
  by_cases empty : secret.length = 0
  · simp [empty]
  · have size : marker.length + secret.length ≤ inside.length := by
      have lengths := congrArg List.length covers
      simp only [flags, List.length_take, List.length_drop, List.length_map,
        List.length_replicate] at lengths
      omega
    have decided := congrArg (List.take (marker.length + secret.length))
      (fates_inside regex previous inside (marker ++ (secret ++ after)))
    rw [List.take_take, List.take_take, Nat.min_eq_left size, Nat.min_eq_left (by simp)]
      at decided
    rw [← covers, flags, List.take_drop, List.take_drop, decided]

/-- The flags of the match around a credential decide whether it is gone. -/
theorem gone_of_flags {before marker secret after : List Char}
    (covers : flags (regex.state [] none before (marker ++ (secret ++ after))) marker.length
      secret.length = List.replicate secret.length false) :
    regex.Gone (before ++ marker) secret after := by
  unfold Gone
  rw [List.length_append, List.append_assoc, ← List.drop_drop, fates_append]
  exact fates_covered covers

theorem flags_drop (taken : Taken) (skipped start size : Nat) :
    flags (taken.drop skipped) start size = flags taken (skipped + start) size := by
  rw [flags, flags, List.map_drop, List.drop_drop]

theorem gone_of_visited {before marker secret after : List Char}
    (outside : regex.state [] none before (marker ++ (secret ++ after)) = [])
    (found : regex.matchAt before.getLast? (marker ++ (secret ++ after)) = some taken)
    (covers : flags taken marker.length secret.length = List.replicate secret.length false) :
    regex.Gone (before ++ marker) secret after := by
  unfold Gone
  rw [List.length_append, List.append_assoc, ← List.drop_drop, fates_append, outside,
    Option.or_none, fates_start found]
  exact fates_covered covers

/-! ## Kept -/

theorem state_append (first second : List Char) :
    regex.state inside previous (first ++ second) rest =
      regex.state (regex.state inside previous first (second ++ rest))
        (first.getLast?.or previous) second rest := by
  induction first generalizing inside previous with
  | nil => simp [state]
  | cons head tail ih =>
      rw [List.cons_append, state, ih, state, getLast_cons, List.append_assoc]

/-- Inside a match the search goes through it. -/
theorem state_inside (passed : List Char) (enough : passed.length ≤ inside.length) :
    regex.state inside previous passed rest = inside.drop passed.length := by
  induction passed generalizing inside previous with
  | nil => rfl
  | cons head tail ih =>
      cases inside with
      | nil => simp at enough
      | cons entry more =>
          have shorter : tail.length ≤ more.length := by simpa using enough
          have next : regex.advance (entry :: more) previous (head :: (tail ++ rest)) = more := by
            simp [advance]
          rw [state, next, ih shorter, List.length_cons, List.drop_succ_cons]

theorem state_match (found : regex.matchAt previous (characters taken ++ rest) = some taken) :
    regex.state [] previous (characters taken) rest = [] := by
  cases taken with
  | nil => rfl
  | cons entry more =>
      have next : regex.advance [] previous (entry.1 :: (characters more ++ rest)) = more := by
        unfold advance
        rw [List.isEmpty_nil, if_pos rfl]
        rw [show entry.1 :: (characters more ++ rest) = characters (entry :: more) ++ rest from rfl,
          found]
        rfl
      have size : (characters more).length = more.length := List.length_map _
      calc regex.state [] previous (characters (entry :: more)) rest
          = regex.state (regex.advance [] previous (entry.1 :: (characters more ++ rest)))
              (some entry.1) (characters more) rest := rfl
        _ = regex.state more (some entry.1) (characters more) rest := by rw [next]
        _ = more.drop (characters more).length := state_inside _ (le_of_eq size)
        _ = [] := by rw [size, List.drop_length]

/-- At the places it visits the search is outside any match. -/
theorem state_of_visits {seen : List Char} (visited : regex.Visits text seen rest) :
    regex.state [] none seen rest = [] := by
  induction visited with
  | start => rfl
  | skip visited missing ih =>
      rw [state_snoc, ih, Option.or_none, advance, List.isEmpty_nil, if_pos rfl, missing]
      rfl
  | jump visited found ih =>
      rw [state_append, ih, Option.or_none]
      exact state_match found

/-- The search finds nothing at a character, or the match around it has it in its group. -/
inductive Stays (regex : Regex) (text before : List Char) : Prop
  | missing {rest : List Char} (visited : regex.Visits text before rest)
      (found : regex.matchAt before.getLast? rest = none)
  | grouped {seen rest : List Char} {taken : Taken} (visited : regex.Visits text seen rest)
      (found : regex.matchAt seen.getLast? rest = some taken) (earlier : seen.length ≤ before.length)
      (marked : (taken.map Prod.snd)[before.length - seen.length]? = some true)

/-- What is left of the match around a place, one that starts there included. -/
def around (regex : Regex) (before rest : List Char) : Taken :=
  if (regex.state [] none before rest).isEmpty then
    (regex.matchAt before.getLast? rest).getD []
  else regex.state [] none before rest

/-- The fate of the character at a place. -/
theorem fates_at (before : List Char) (head : Char) (tail : List Char) :
    (regex.fates none [] (before ++ head :: tail))[before.length]? =
      some (((regex.around before (head :: tail)).head?.map Prod.snd).getD true) := by
  have place : (regex.fates none [] (before ++ head :: tail)).drop before.length =
      regex.fates (before.getLast?.or none) (regex.state [] none before (head :: tail))
        (head :: tail) := fates_append before
  rw [Option.or_none] at place
  rw [← List.head?_drop, place, fates_cons]
  unfold around
  split
  · rename_i none
    rw [none]
    rfl
  · rename_i entry rest some
    rw [some]
    rfl

theorem around_match {before seen rest later : List Char} (visited : regex.Visits text seen rest)
    (found : regex.matchAt seen.getLast? rest = some taken) (split : text = before ++ later)
    (earlier : seen.length ≤ before.length) (reaches : before.length < seen.length + taken.length) :
    regex.around before later = taken.drop (before.length - seen.length) := by
  rcases matchAt_sound found with ⟨after, whole⟩
  have texts : seen ++ rest = before ++ later := by rw [← visited.split, split]
  have outside := state_of_visits visited
  rcases List.append_eq_append_iff.mp texts with ⟨passed, begins, remains⟩ | ⟨passed, begins, remains⟩
  · subst begins
    cases passed with
    | nil =>
        rw [List.nil_append] at remains
        subst remains
        rw [List.append_nil, Nat.sub_self, List.drop_zero]
        unfold around
        rw [outside, List.isEmpty_nil, if_pos rfl, found]
        rfl
    | cons first others =>
        cases taken with
        | nil =>
            simp only [List.length_append, List.length_cons, List.length_nil] at reaches
            omega
        | cons entry more =>
            have within : others.length < more.length := by
              simp only [List.length_append, List.length_cons] at reaches
              omega
            have next : regex.advance [] seen.getLast? (first :: (others ++ later)) = more := by
              have start := found
              rw [remains] at start
              simp only [List.cons_append] at start
              simp [advance, start]
            have inside : regex.state [] none (seen ++ first :: others) later =
                more.drop others.length := by
              calc regex.state [] none (seen ++ first :: others) later
                  = regex.state [] seen.getLast? (first :: others) later := by
                    rw [state_append, ← remains, outside, Option.or_none]
                _ = regex.state (regex.advance [] seen.getLast? (first :: (others ++ later)))
                      (some first) others later := rfl
                _ = more.drop others.length := by
                    rw [next]
                    exact state_inside others (le_of_lt within)
            have open_ : (more.drop others.length).isEmpty = false := by
              simp [within]
            unfold around
            rw [inside, open_, if_neg Bool.false_ne_true, List.length_append, List.length_cons]
            simp
  · have none : passed = [] := by
      have sizes := congrArg List.length begins
      rw [List.length_append] at sizes
      exact List.eq_nil_of_length_eq_zero (by omega)
    subst none
    rw [List.append_nil] at begins
    rw [List.nil_append] at remains
    subst begins
    subst remains
    rw [Nat.sub_self, List.drop_zero]
    unfold around
    rw [outside, List.isEmpty_nil, if_pos rfl, found]
    rfl

/-- A character stays exactly when no match takes it out. -/
theorem fate_iff (nonempty : ∀ previous text, regex.matchAt previous text ≠ some [])
    (before : List Char) (head : Char) (tail : List Char) :
    (regex.fates none [] (before ++ head :: tail))[before.length]? = some true ↔
      regex.Stays (before ++ head :: tail) before := by
  rw [fates_at]
  constructor
  · intro kept
    rcases state_spec nonempty before (head :: tail) with ⟨outside, visited⟩ |
      ⟨seen, later, taken, opened⟩
    · cases found : regex.matchAt before.getLast? (head :: tail) with
      | none => exact .missing visited found
      | some taken =>
          refine .grouped visited found (le_refl _) ?_
          rw [around_match visited found rfl (le_refl _) (by
            have some_ : taken ≠ [] := fun none => nonempty _ _ (by rw [found, none])
            have size := List.length_pos_iff.mpr some_
            omega), Nat.sub_self] at kept
          rw [Nat.sub_self]
          cases taken with
          | nil => exact absurd found (nonempty _ _)
          | cons entry more => exact kept
    · refine .grouped opened.visited opened.found (le_of_lt opened.earlier) ?_
      rw [around_match opened.visited opened.found rfl (le_of_lt opened.earlier) opened.reaches,
        List.head?_drop] at kept
      have size : before.length - seen.length < taken.length := by
        have earlier := opened.earlier
        have reaches := opened.reaches
        omega
      rw [List.getElem?_map]
      rw [List.getElem?_eq_getElem size] at kept ⊢
      exact kept
  · intro stays
    cases stays with
    | missing visited found =>
        have remains := visited.split
        rw [List.append_cancel_left_eq] at remains
        subst remains
        unfold around
        rw [state_of_visits visited, List.isEmpty_nil, if_pos rfl, found]
        rfl
    | grouped visited found earlier marked =>
        rw [List.getElem?_map] at marked
        rename_i seen rest taken
        cases entry : taken[before.length - seen.length]? with
        | none =>
            rw [entry] at marked
            cases marked
        | some pair =>
            have size := (List.getElem?_eq_some_iff.mp entry).1
            rw [around_match visited found rfl earlier (by omega), List.head?_drop, entry]
            rw [entry] at marked
            exact marked

/-- The secret is gone exactly when none of its characters stays. -/
theorem gone_iff (nonempty : ∀ previous text, regex.matchAt previous text ≠ some [])
    (before secret after : List Char) :
    regex.Gone before secret after ↔
      ∀ early head later, secret = early ++ head :: later →
        ¬ regex.Stays (before ++ (secret ++ after)) (before ++ early) := by
  have place : ∀ early head later, secret = early ++ head :: later →
      ((((regex.fates none [] (before ++ (secret ++ after))).drop before.length).take
        secret.length)[early.length]? = some true ↔
      regex.Stays (before ++ (secret ++ after)) (before ++ early)) := by
    intro early head later split
    have index : early.length < secret.length := by simp [split]
    have shape : before ++ (secret ++ after) =
        (before ++ early) ++ head :: (later ++ after) := by simp [split]
    rw [List.getElem?_take, if_pos index, List.getElem?_drop, ← List.length_append, shape]
    exact fate_iff nonempty _ _ _
  constructor
  · intro gone early head later split stays
    have kept := (place early head later split).mpr stays
    unfold Gone at gone
    rw [gone, List.getElem?_replicate] at kept
    split at kept
    · cases kept
    · cases kept
  · intro removed
    unfold Gone
    apply List.ext_getElem?
    intro index
    by_cases inside : index < secret.length
    · have split : secret = secret.take index ++ secret[index] :: secret.drop (index + 1) := by
        rw [← List.drop_eq_getElem_cons inside, List.take_append_drop]
      have lost := mt (place _ _ _ split).mp (removed _ _ _ split)
      have size : (secret.take index).length = index := by
        rw [List.length_take, Nat.min_eq_left (le_of_lt inside)]
      rw [size] at lost
      rw [List.getElem?_replicate, if_pos inside]
      cases flag : (((regex.fates none [] (before ++ (secret ++ after))).drop before.length).take
          secret.length)[index]? with
      | none =>
          rw [List.getElem?_eq_none_iff, List.length_take, List.length_drop, fates_length] at flag
          simp only [List.length_append] at flag
          omega
      | some kept =>
          cases kept with
          | false => rfl
          | true => exact absurd flag lost
    · have long : secret.length ≤ index := Nat.le_of_not_lt inside
      rw [List.getElem?_take, if_neg inside, List.getElem?_replicate, if_neg inside]

end FortifyLab.Regex
