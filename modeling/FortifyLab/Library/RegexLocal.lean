import Mathlib.Data.List.Basic
import FortifyLab.Library.RegexScan

/-! What is matched within a prefix of the text does not depend on the text after it. -/

namespace FortifyLab.Regex

variable {regex : Regex} {previous : Option Char} {inside taken : Taken} {first second : List Char}

/-- The ways that take at most `size` characters. -/
def within (size : Nat) (ways : List Success) : List Taken :=
  (ways.filter (fun way => way.1.length ≤ size)).map Prod.fst

theorem within_append (size : Nat) (left right : List Success) :
    within size (left ++ right) = within size left ++ within size right := by
  simp [within]

theorem within_empty (size : Nat) (text : List Char) : within size [([], text)] = [[]] := by
  simp [within]

theorem within_filter (size : Nat) (ways : List Success) :
    within size (ways.filter (fun way => !way.1.isEmpty)) =
      (within size ways).filter (fun taken => !taken.isEmpty) := by
  unfold within
  rw [List.filter_map, List.filter_filter, List.filter_filter]
  congr 2
  funext way
  exact Bool.and_comm _ _

theorem within_prepend (size : Nat) (taken : Taken) (ways : List Success) :
    within size (ways.map (prepend taken)) =
      if taken.length ≤ size then (within (size - taken.length) ways).map (taken ++ ·) else [] := by
  induction ways with
  | nil => simp [within]
  | cons way others ih =>
      have split : within size ((way :: others).map (prepend taken)) =
          within size [prepend taken way] ++ within size (others.map (prepend taken)) :=
        within_append size [prepend taken way] _
      have own : within (size - taken.length) (way :: others) =
          within (size - taken.length) [way] ++ within (size - taken.length) others :=
        within_append _ [way] _
      rw [split, ih, own]
      by_cases fits : taken.length ≤ size
      · rw [if_pos fits, if_pos fits, List.map_append]
        congr 1
        by_cases short : way.1.length ≤ size - taken.length
        · have whole : taken.length + way.1.length ≤ size := by omega
          simp [within, prepend, short, whole]
        · have long : ¬ taken.length + way.1.length ≤ size := by omega
          simp [within, prepend, short, long]
      · have long : ¬ taken.length + way.1.length ≤ size := by omega
        rw [if_neg fits, if_neg fits]
        simp [within, prepend, long]

theorem within_andThen {text : List Char} {ways : List Success}
    {next : Option Char → List Char → List Success} (size : Nat)
    (sound : ∀ way ∈ ways, text = characters way.1 ++ way.2) :
    within size (andThen previous ways next) =
      (within size ways).flatMap (fun taken =>
        (within (size - taken.length) (next (lastOf previous taken) (text.drop taken.length))).map
          (taken ++ ·)) := by
  induction ways with
  | nil => rfl
  | cons way others ih =>
      have rest : way.2 = text.drop way.1.length := by
        have split := sound way List.mem_cons_self
        rw [split, List.drop_left' (by simp [characters])]
      have later := ih (fun way member => sound way (List.mem_cons_of_mem _ member))
      have unfolded : andThen previous (way :: others) next =
          (next (lastOf previous way.1) way.2).map (prepend way.1) ++
            andThen previous others next := List.flatMap_cons ..
      have own : within size (way :: others) = within size [way] ++ within size others :=
        within_append size [way] others
      rw [unfolded, within_append, later, own, List.flatMap_append, within_prepend, rest]
      congr 1
      by_cases fits : way.1.length ≤ size
      · simp [within, fits]
      · simp [within, fits]

/-- Ways within a prefix, whatever follows it. -/
def Local (matcher : Option Char → List Char → List Success) : Prop :=
  ∀ previous front first second,
    within front.length (matcher previous (front ++ first)) =
      within front.length (matcher previous (front ++ second))

theorem mem_within {size : Nat} {ways : List Success} (member : taken ∈ within size ways) :
    taken.length ≤ size := by
  rcases List.mem_map.mp member with ⟨way, found, rfl⟩
  simpa using (List.mem_filter.mp found).2

theorem andThen_local {ways ways' : List Success} {front : List Char}
    {next next' : Option Char → List Char → List Success}
    (sound : ∀ way ∈ ways, front ++ first = characters way.1 ++ way.2)
    (sound' : ∀ way ∈ ways', front ++ second = characters way.1 ++ way.2)
    (same : within front.length ways = within front.length ways')
    (later : ∀ taken ∈ within front.length ways, ∀ previous,
      within (front.drop taken.length).length (next previous (front.drop taken.length ++ first)) =
        within (front.drop taken.length).length
          (next' previous (front.drop taken.length ++ second))) :
    within front.length (andThen previous ways next) =
      within front.length (andThen previous ways' next') := by
  rw [within_andThen _ sound, within_andThen _ sound', ← same]
  apply List.flatMap_congr
  intro taken member
  have size := mem_within member
  rw [List.drop_append_of_le_length size, List.drop_append_of_le_length size, ← List.length_drop,
    later taken member]

theorem within_repeated_zero {step : Option Char → List Char → List Success} (greedy : Bool)
    (fuel : Nat) (previous : Option Char) (text : List Char)
    (sound : ∀ previous text, ∀ way ∈ step previous text, text = characters way.1 ++ way.2) :
    within 0 (repeated step greedy fuel previous text) = [[]] := by
  cases fuel with
  | zero => exact within_empty 0 text
  | succ fuel =>
      have none : within 0 (andThen previous
          ((step previous text).filter (fun way => !way.1.isEmpty))
          (repeated step greedy fuel)) = [] := by
        have split : ∀ way ∈ (step previous text).filter (fun way => !way.1.isEmpty),
            text = characters way.1 ++ way.2 :=
          fun way member => sound _ _ way (List.mem_filter.mp member).1
        rw [within_andThen 0 split, within_filter]
        apply List.flatMap_eq_nil_iff.mpr
        intro taken member
        rcases List.mem_filter.mp member with ⟨short, some⟩
        have size := mem_within short
        cases taken with
        | nil => cases some
        | cons entry more => simp at size
      unfold repeated
      cases greedy with
      | true => simp [within_append, none, within_empty]
      | false =>
          have split : within 0 (([], text) :: andThen previous
              ((step previous text).filter (fun way => !way.1.isEmpty))
              (repeated step false fuel)) = within 0 [([], text)] ++ within 0 (andThen previous
              ((step previous text).filter (fun way => !way.1.isEmpty))
              (repeated step false fuel)) := within_append 0 [([], text)] _
          simp [split, none, within_empty]

/-- One more round of a repetition, within a prefix. -/
theorem within_repeated_succ {step : Option Char → List Char → List Success} (greedy : Bool)
    (fuel size : Nat) (previous : Option Char) (text : List Char) :
    within size (repeated step greedy (fuel + 1) previous text) =
      let longer := within size (andThen previous
        ((step previous text).filter (fun way => !way.1.isEmpty)) (repeated step greedy fuel))
      if greedy then longer ++ [[]] else [] :: longer := by
  unfold repeated
  cases greedy with
  | true => simp [within_append, within_empty]
  | false =>
      have split := within_append size [(([], text) : Success)] (andThen previous
        ((step previous text).filter (fun way => !way.1.isEmpty)) (repeated step false fuel))
      rw [within_empty] at split
      simpa using split

theorem repeated_local {step : Option Char → List Char → List Success} (greedy : Bool)
    (sound : ∀ previous text, ∀ way ∈ step previous text, text = characters way.1 ++ way.2)
    (same : Local step) (front : List Char) :
    ∀ fuel fuel' previous, front.length ≤ fuel → front.length ≤ fuel' →
      within front.length (repeated step greedy fuel previous (front ++ first)) =
        within front.length (repeated step greedy fuel' previous (front ++ second)) := by
  induction size : front.length using Nat.strong_induction_on generalizing front with
  | _ size ih =>
      subst size
      intro fuel fuel' previous enough enough'
      by_cases empty : front.length = 0
      · rw [empty, within_repeated_zero _ _ _ _ sound, within_repeated_zero _ _ _ _ sound]
      · rcases Nat.exists_eq_succ_of_ne_zero (by omega : fuel ≠ 0) with ⟨rounds, rfl⟩
        rcases Nat.exists_eq_succ_of_ne_zero (by omega : fuel' ≠ 0) with ⟨rounds', rfl⟩
        have longer : within front.length (andThen previous
            ((step previous (front ++ first)).filter (fun way => !way.1.isEmpty))
            (repeated step greedy rounds)) =
            within front.length (andThen previous
              ((step previous (front ++ second)).filter (fun way => !way.1.isEmpty))
              (repeated step greedy rounds')) := by
          apply andThen_local
          · exact fun way member => sound _ _ way (List.mem_filter.mp member).1
          · exact fun way member => sound _ _ way (List.mem_filter.mp member).1
          · rw [within_filter, within_filter, same]
          · intro taken member last
            rw [within_filter] at member
            rcases List.mem_filter.mp member with ⟨short, some⟩
            have some : taken ≠ [] := by simpa using some
            have size := List.length_pos_iff.mpr some
            have shorter : (front.drop taken.length).length < front.length := by
              rw [List.length_drop]
              omega
            exact ih _ shorter _ rfl rounds rounds' last (by omega) (by omega)
        rw [within_repeated_succ, within_repeated_succ, longer]

theorem successes_local (regex : Regex) : Local regex.successes := by
  induction regex with
  | empty =>
      intro previous front first second
      unfold successes
      rw [within_empty, within_empty]
  | one test =>
      intro previous front first second
      cases front with
      | nil =>
          have none : ∀ text, within 0 ((one test).successes previous text) = [] := by
            intro text
            unfold within
            rw [List.map_eq_nil_iff, List.filter_eq_nil_iff]
            intro way member
            rcases mem_one member with ⟨head, taken, _, _⟩
            simp [taken]
          rw [List.length_nil, none, none]
      | cons head tail =>
          by_cases passes : test head
          · simp [successes, passes, within]
          · simp [successes, passes, within]
  | seq left right ih ih' =>
      intro previous front first second
      apply andThen_local
      · exact fun way member => successes_sound _ _ _ way member
      · exact fun way member => successes_sound _ _ _ way member
      · exact ih previous front first second
      · exact fun taken member last => ih' last _ first second
  | alt left right ih ih' =>
      intro previous front first second
      unfold successes
      rw [within_append, within_append, ih, ih']
  | many body greedy ih =>
      intro previous front first second
      exact repeated_local greedy (successes_sound body) ih front _ _ previous
        (by simp) (by simp)
  | group body ih =>
      intro previous front first second
      have grouped : ∀ ways : List Success, within front.length (ways.map
          (fun way => (way.1.map (fun entry => (entry.1, true)), way.2))) =
          (within front.length ways).map (fun taken => taken.map (fun entry => (entry.1, true))) := by
        intro ways
        unfold within
        simp [List.filter_map, Function.comp_def]
      unfold successes
      rw [grouped, grouped, ih]
  | notAfter test =>
      intro previous front first second
      unfold successes
      split
      · rfl
      · rw [within_empty, within_empty]

/-! ## The search within a prefix -/

theorem within_head {size : Nat} {ways : List Success}
    (short : ∀ taken, ways.head?.map Prod.fst = some taken → taken.length ≤ size) :
    (within size ways).head? = ways.head?.map Prod.fst := by
  cases ways with
  | nil => rfl
  | cons way others =>
      have fits : way.1.length ≤ size := short way.1 rfl
      simp [within, fits]

/-- Matches that end within a prefix are the same whatever follows it. -/
theorem matchAt_local {front : List Char}
    (short : ∀ taken, regex.matchAt previous (front ++ first) = some taken →
      taken.length ≤ front.length)
    (short' : ∀ taken, regex.matchAt previous (front ++ second) = some taken →
      taken.length ≤ front.length) :
    regex.matchAt previous (front ++ first) = regex.matchAt previous (front ++ second) := by
  calc regex.matchAt previous (front ++ first)
      = (within front.length (regex.successes previous (front ++ first))).head? :=
        (within_head short).symm
    _ = (within front.length (regex.successes previous (front ++ second))).head? := by
        rw [successes_local regex]
    _ = regex.matchAt previous (front ++ second) := within_head short'

/-- A match the search has left ended within the text passed. -/
theorem short_of_outside {passed rest : List Char}
    (outside : regex.state inside previous passed rest = []) : inside.length ≤ passed.length := by
  by_contra long
  have enough : passed.length ≤ inside.length := by omega
  have open_ : regex.state inside previous passed rest = inside.drop passed.length :=
    state_inside passed enough
  rw [open_, List.drop_eq_nil_iff] at outside
  exact long outside

theorem short_of_advance {head : Char} {tail rest : List Char}
    (outside : regex.state [] previous (head :: tail) rest = []) :
    ∀ taken, regex.matchAt previous ((head :: tail) ++ rest) = some taken →
      taken.length ≤ (head :: tail).length := by
  intro taken found
  have left : regex.state taken.tail (some head) tail rest = [] := by
    rw [state] at outside
    rw [List.cons_append] at found
    simpa [advance, found] using outside
  have size := short_of_outside left
  rw [List.length_tail] at size
  rw [List.length_cons]
  omega

/-- Texts with a common prefix after which the search is outside any match are treated
alike up to there. -/
theorem pieces_prefix (front : List Char) (first second : List Char) :
    ∀ previous inside, regex.state inside previous front first = [] →
      regex.state inside previous front second = [] →
      ∃ done, regex.pieces previous inside (front ++ first) =
          done ++ regex.pieces (front.getLast?.or previous) [] first ∧
        regex.pieces previous inside (front ++ second) =
          done ++ regex.pieces (front.getLast?.or previous) [] second := by
  induction front with
  | nil =>
      intro previous inside outside _
      cases outside
      exact ⟨[], rfl, rfl⟩
  | cons head tail ih =>
      intro previous inside outside outside'
      have marks : (if inside.isEmpty then (regex.matchAt previous (head :: (tail ++ first))).getD []
            else inside) =
          (if inside.isEmpty then (regex.matchAt previous (head :: (tail ++ second))).getD []
            else inside) := by
        cases inside with
        | nil =>
            have same := matchAt_local (short_of_advance outside) (short_of_advance outside')
            rw [List.cons_append, List.cons_append] at same
            rw [same]
        | cons entry more => rfl
      rw [state, advance] at outside
      rw [state, advance, ← marks] at outside'
      rw [List.cons_append, List.cons_append, pieces, pieces, ← marks, getLast_cons]
      cases found : (if inside.isEmpty then
          (regex.matchAt previous (head :: (tail ++ first))).getD [] else inside) with
      | nil =>
          rw [found] at outside outside'
          rcases ih (some head) [] outside outside' with ⟨done, left, right⟩
          exact ⟨.kept head :: done, by simp [left], by simp [right]⟩
      | cons entry more =>
          rw [found] at outside outside'
          rcases ih (some head) more outside outside' with ⟨done, left, right⟩
          exact ⟨mark head entry.2 more ++ done, by simp [left], by simp [right]⟩

/-! ## The text of a match -/

/-- The characters a match leaves in place. -/
def kept (taken : Taken) : List Char := characters (taken.filter Prod.snd)

variable {replacement rest : List Char}

theorem text_inside (entry : Char × Bool) (more : Taken) :
    (regex.pieces previous (entry :: more) (characters (entry :: more) ++ rest)).flatMap
        (Piece.text replacement) =
      kept (entry :: more) ++ (replacement ++
        (regex.pieces (lastOf previous (entry :: more)) [] rest).flatMap
          (Piece.text replacement)) := by
  induction more generalizing previous entry with
  | nil =>
      rcases entry with ⟨head, flag⟩
      cases flag with
      | true => simp [pieces, characters, kept, mark, Piece.text, lastOf]
      | false => simp [pieces, characters, kept, mark, Piece.text, lastOf]
  | cons second others ih =>
      have last : lastOf previous (entry :: second :: others) =
          lastOf (some entry.1) (second :: others) := by
        simp [lastOf, List.getLast?_eq_some_getLast]
      have unfolded : regex.pieces previous (entry :: second :: others)
          (characters (entry :: second :: others) ++ rest) =
          mark entry.1 entry.2 (second :: others) ++ regex.pieces (some entry.1) (second :: others)
            (characters (second :: others) ++ rest) := by
        rfl
      rw [unfolded, List.flatMap_append, ih, last]
      rcases entry with ⟨head, flag⟩
      cases flag with
      | true => simp [mark, Piece.text, kept, characters]
      | false => simp [mark, Piece.text, kept, characters]

theorem pieces_start (found : regex.matchAt previous (characters taken ++ rest) = some taken) :
    regex.pieces previous [] (characters taken ++ rest) =
      regex.pieces previous taken (characters taken ++ rest) := by
  cases taken with
  | nil => rfl
  | cons entry more =>
      have start : regex.matchAt previous (entry.1 :: (characters more ++ rest)) =
        some (entry :: more) := found
      change regex.pieces previous [] (entry.1 :: (characters more ++ rest)) =
        regex.pieces previous (entry :: more) (entry.1 :: (characters more ++ rest))
      rw [pieces, pieces, start]
      rfl

/-- The rest of the text is treated alike whatever stands before, if no match can start
right there. -/
theorem pieces_stop {test : Char → Bool} (starts : Starts test regex)
    (stops : rest.head?.all (fun head => !test head) = true) (first second : Option Char) :
    regex.pieces first [] rest = regex.pieces second [] rest := by
  cases rest with
  | nil => rfl
  | cons head tail =>
      rw [pieces, pieces, starts.none stops, starts.none stops]

/-- Two texts that differ in one match only, of which the same characters stay, have the
same substitution. -/
theorem sub_same {test : Char → Bool} {before : List Char} {taken taken' : Taken}
    (starts : Starts test regex) (stops : rest.head?.all (fun head => !test head) = true)
    (visited : regex.Visits (before ++ (characters taken ++ rest)) before (characters taken ++ rest))
    (found : regex.matchAt before.getLast? (characters taken ++ rest) = some taken)
    (visited' : regex.Visits (before ++ (characters taken' ++ rest)) before
      (characters taken' ++ rest))
    (found' : regex.matchAt before.getLast? (characters taken' ++ rest) = some taken')
    (same : kept taken = kept taken') :
    regex.sub replacement (before ++ (characters taken ++ rest)) =
      regex.sub replacement (before ++ (characters taken' ++ rest)) := by
  rcases pieces_prefix before _ _ none [] (state_of_visits visited) (state_of_visits visited') with
    ⟨done, left, right⟩
  unfold sub
  rw [left, right, Option.or_none, List.flatMap_append, List.flatMap_append, pieces_start found,
    pieces_start found']
  congr 1
  cases taken with
  | nil => exact absurd found (starts.nonempty _ _)
  | cons entry more =>
      cases taken' with
      | nil => exact absurd found' (starts.nonempty _ _)
      | cons entry' more' =>
          rw [text_inside, text_inside, same, pieces_stop starts stops _ none,
            pieces_stop starts stops (lastOf _ _) none]

/-! ## Whether anything is found -/

/-- Up to a visited place nothing was found, or there is a first match before it. -/
theorem first_match {text seen rest : List Char} (visited : regex.Visits text seen rest) :
    regex.pieces none [] text = seen.map Piece.kept ++ regex.pieces seen.getLast? [] rest ∨
      ∃ front taken after, text = front ++ (characters taken ++ after) ∧
        regex.matchAt front.getLast? (characters taken ++ after) = some taken ∧
        regex.pieces none [] text = front.map Piece.kept ++
          regex.pieces front.getLast? [] (characters taken ++ after) := by
  induction visited with
  | start => exact .inl rfl
  | skip visited missing ih =>
      rename_i seen rest head
      rcases ih with quiet | earlier
      · left
        rw [quiet, pieces, missing]
        simp
      · exact .inr earlier
  | jump visited found ih =>
      rcases ih with quiet | earlier
      · exact .inr ⟨_, _, _, visited.split, found, quiet⟩
      · exact .inr earlier

theorem inserted_inside (entry : Char × Bool) (more : Taken) (previous : Option Char) :
    Piece.inserted ∈ regex.pieces previous (entry :: more) (characters (entry :: more) ++ rest) := by
  induction more generalizing previous entry with
  | nil => simp [pieces, characters, mark]
  | cons second others ih =>
      have unfolded : regex.pieces previous (entry :: second :: others)
          (characters (entry :: second :: others) ++ rest) =
          mark entry.1 entry.2 (second :: others) ++ regex.pieces (some entry.1) (second :: others)
            (characters (second :: others) ++ rest) := rfl
      rw [unfolded]
      exact List.mem_append_right _ (ih second _)

/-- Nothing is found, or a replacement is put in. -/
theorem quiet_or_inserted (nonempty : ∀ previous text, regex.matchAt previous text ≠ some [])
    (text : List Char) (previous : Option Char) :
    regex.pieces previous [] text = text.map Piece.kept ∨
      Piece.inserted ∈ regex.pieces previous [] text := by
  induction text generalizing previous with
  | nil => exact .inl rfl
  | cons head tail ih =>
      cases found : regex.matchAt previous (head :: tail) with
      | none =>
          have unfolded : regex.pieces previous [] (head :: tail) =
              .kept head :: regex.pieces (some head) [] tail := by
            rw [pieces, found]
            rfl
          rw [unfolded, List.map_cons]
          rcases ih (some head) with quiet | inserted
          · exact .inl (by rw [quiet])
          · exact .inr (List.mem_cons_of_mem _ inserted)
      | some taken =>
          rcases matchAt_sound found with ⟨after, split⟩
          rw [split] at found ⊢
          rw [pieces_start found]
          cases taken with
          | nil => exact absurd found (nonempty _ _)
          | cons entry more => exact .inr (inserted_inside entry more previous)

/-- Has no group. -/
def groupless : Regex → Bool
  | .seq first second => first.groupless && second.groupless
  | .alt first second => first.groupless && second.groupless
  | .many body _ => body.groupless
  | .group _ => false
  | _ => true

theorem kept_append (left right : Taken) : kept (left ++ right) = kept left ++ kept right := by
  simp [kept, characters]

theorem kept_repeated {step : Option Char → List Char → List Success} (greedy : Bool)
    (none : ∀ previous text, ∀ way ∈ step previous text, kept way.1 = []) (fuel : Nat)
    (previous : Option Char) (text : List Char) :
    ∀ way ∈ repeated step greedy fuel previous text, kept way.1 = [] := by
  induction fuel generalizing previous text with
  | zero =>
      intro way member
      cases List.mem_singleton.mp member
      rfl
  | succ fuel ih =>
      intro way member
      have cases_ : way ∈ andThen previous
          ((step previous text).filter (fun way => !way.1.isEmpty)) (repeated step greedy fuel) ∨
          way = ([], text) := by
        unfold repeated at member
        cases greedy with
        | true => simpa using member
        | false => simpa [or_comm] using member
      rcases cases_ with longer | rfl
      · rcases List.mem_flatMap.mp longer with ⟨early, found, later⟩
        rcases List.mem_map.mp later with ⟨late, reached, rfl⟩
        have first := none _ _ early (List.mem_filter.mp found).1
        have second := ih _ _ late reached
        rw [prepend, kept_append, first, second]
        rfl
      · rfl

theorem kept_groupless (regex : Regex) (groupless : regex.groupless) (previous : Option Char)
    (text : List Char) : ∀ way ∈ regex.successes previous text, kept way.1 = [] := by
  induction regex generalizing previous text with
  | empty =>
      intro way member
      cases List.mem_singleton.mp member
      rfl
  | one test =>
      intro way member
      rcases mem_one member with ⟨head, taken, _, _⟩
      rw [taken]
      rfl
  | seq first second ih ih' =>
      intro way member
      have both : first.groupless = true ∧ second.groupless = true := by
        simpa [Regex.groupless] using groupless
      rcases mem_seq member with ⟨early, found, late, reached, rfl⟩
      rw [prepend, kept_append, ih both.1 _ _ early found, ih' both.2 _ _ late reached]
      rfl
  | alt first second ih ih' =>
      intro way member
      have both : first.groupless = true ∧ second.groupless = true := by
        simpa [Regex.groupless] using groupless
      rcases List.mem_append.mp member with early | late
      · exact ih both.1 _ _ way early
      · exact ih' both.2 _ _ way late
  | many body greedy ih => exact kept_repeated greedy (ih groupless) _ _ _
  | group body => cases groupless
  | notAfter test =>
      intro way member
      unfold successes at member
      split at member
      · cases member
      · cases List.mem_singleton.mp member
        rfl

end FortifyLab.Regex
