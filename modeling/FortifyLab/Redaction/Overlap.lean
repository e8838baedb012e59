import FortifyLab.Library.RegexLocal
import FortifyLab.Redaction.Credentials

/-! When a credential survives: an earlier match that ends inside it. -/

namespace FortifyLab.Redaction

open Regex

/-- A bearer token or a keyed value. -/
def Credential (marker secret after : List Char) : Prop :=
  BearerCredential marker secret after ∨ KeyedCredential marker secret after

/-- A match of the search begins before the marker, reaches into it, and does not take
out the whole secret. -/
def Swallowed (before marker secret after : List Char) : Prop :=
  ∃ seen rest taken, sensitiveText.Visits (before ++ (marker ++ (secret ++ after))) seen rest ∧
    sensitiveText.matchAt seen.getLast? rest = some taken ∧ seen.length < before.length ∧
    before.length < seen.length + taken.length ∧
    flags taken (before.length - seen.length + marker.length) secret.length ≠
      List.replicate secret.length false

/-! ## Where a match starts -/

theorem isToken_of_fold {character letter : Char} (same : fold character = letter)
    (small : 97 ≤ letter.toNat ∧ letter.toNat ≤ 122) : isToken character := by
  simp [isToken, isLetterOrDigit, same, small]

theorem isToken_of_isSpace {character : Char} (space : isSpace character) :
    isToken character = false := by
  have folded := fold_of_isSpace space
  have blank := space
  have listed : "._~+/=-".toList.all (fun other => !isSpace other) = true := by decide +kernel
  unfold isSpace at space
  simp only [Bool.or_eq_true, Bool.and_eq_true, decide_eq_true_eq, beq_iff_eq] at space
  unfold isToken isLetterOrDigit
  rw [folded]
  simp only [Bool.or_eq_false_iff, Bool.and_eq_false_iff, decide_eq_false_iff_not]
  refine ⟨⟨by omega, by omega⟩, ?_⟩
  by_contra marked
  have member := List.contains_iff_mem.mp (Bool.eq_true_of_not_eq_false marked)
  have visible := List.all_eq_true.mp listed character member
  rw [blank] at visible
  cases visible

theorem eq_of_fold {character mark : Char} (same : fold character = mark)
    (low : mark.toNat < 65) : character = mark := by
  unfold fold at same
  split at same
  · rename_i upper
    rw [← same, toNat_lower upper] at low
    omega
  · split at same
    · rw [← same] at low
      exact absurd low (by decide)
    · split at same
      · rw [← same] at low
        exact absurd low (by decide)
      · split at same
        · rw [← same] at low
          exact absurd low (by decide)
        · exact same

theorem starts_letter {letter : Char} {others : List Char}
    (small : 97 ≤ letter.toNat ∧ letter.toNat ≤ 122) :
    Starts isToken (word fold (letter :: others)) :=
  (starts_one (fun _ same => isToken_of_fold (beq_iff_eq.mp same) small)).seq

theorem keywords_start : ∀ key ∈ keywords, ∃ head tail, key = head :: tail ∧
    97 ≤ head.toNat ∧ head.toNat ≤ 122 := by
  intro key member
  cases key with
  | nil => exact absurd rfl (keyword_head [] member).2
  | cons head tail =>
      have letters : ∀ key ∈ keywords, key.head?.all
          (fun head => decide (97 ≤ head.toNat ∧ head.toNat ≤ 122)) = true := by decide
      have letter := letters _ member
      exact ⟨head, tail, rfl, by simpa using letter⟩

/-- Every match of the pattern starts with a token character. -/
theorem sensitiveText_starts : Starts isToken sensitiveText := by
  have marked : Starts isToken markedToken := (Starts.group (starts_letter (by decide)).seq).seq
  have header : Starts isToken authorizationHeader := (starts_letter (by decide)).seq
  have keyed : Starts isToken keyedValue := by
    apply Starts.seq
    apply starts_words
    intro key member
    rcases keywords_start key member with ⟨head, tail, shape, small⟩
    exact ⟨head, tail, shape, fun _ same => isToken_of_fold same small⟩
  have dash : Starts isToken privateKey := by
    have first : Starts isToken (word fold "-----begin ".toList) := by
      apply Starts.seq
      apply starts_one
      intro character same
      rw [eq_of_fold (beq_iff_eq.mp same) (by decide)]
      rfl
    exact first.seq.seq
  have slash : Starts isToken protectedPath := by
    apply starts_seq_of
    · intro previous text way member
      unfold successes at member
      split at member
      · cases member
      · exact .inl (congrArg Prod.fst (List.mem_singleton.mp member))
    · apply Starts.seq
      apply starts_one
      intro character same
      rw [beq_iff_eq.mp same]
      rfl
  exact (starts_seq_of (starts_optional header) marked).alt (keyed.alt (dash.alt slash))

/-! ## Gone unless swallowed -/

theorem flags_plain (front : Taken) (secret : List Char) (later : List Char) :
    flags (front ++ plain (secret ++ later)) front.length secret.length =
      List.replicate secret.length false := by
  unfold flags
  rw [List.map_append, List.drop_append_of_le_length (by simp), List.drop_of_length_le (by simp)]
  simp [plain, Function.comp_def, List.map_const']

/-- What stays of a marker: a bearer token's, and nothing of a keyed value's. -/
def shown (marker : List Char) : List Char :=
  if marker.head?.map fold = some 'b' then marker else []

/-- The match at a credential's marker: it takes out the secret and stops before a
character that is not a token's. -/
structure Taking (marker secret after : List Char) (previous : Option Char) (taken : Taken) :
    Prop where
  found : sensitiveText.matchAt previous (marker ++ (secret ++ after)) = some taken
  covers : flags taken marker.length secret.length = List.replicate secret.length false
  split : marker ++ (secret ++ after) = characters taken ++ after.dropWhile isToken
  shows : kept taken = shown marker

theorem characters_plain (text : List Char) : characters (plain text) = text := by
  simp [characters, plain, Function.comp_def]

theorem kept_plain (text : List Char) : kept (plain text) = [] := by
  simp [kept, characters, plain, List.filter_map, Function.comp_def]

theorem BearerCredential.taking {marker secret after : List Char}
    (credential : BearerCredential marker secret after) (previous : Option Char) :
    ∃ taken, Taking marker secret after previous taken := by
  rcases credential.marked with ⟨name, gap, rfl, spells, spaced, spaces⟩
  have tokens : ∀ character ∈ secret, isToken character :=
    fun character member => isToken_of_isTokenCharacter (credential.token character member)
  have run : (secret ++ after).takeWhile isToken = secret ++ after.takeWhile isToken :=
    List.takeWhile_append_of_pos tokens
  have found : sensitiveText.matchAt previous (name ++ (gap ++ (secret ++ after))) = _ :=
    matchAt_bearer spells spaced spaces credential.nonempty credential.token previous
  rw [run] at found
  have group : (plain name ++ plain gap).map (fun entry => (entry.1, true)) =
      (name ++ gap).map (fun character => (character, true)) := by simp [plain, Function.comp_def]
  rw [group] at found
  refine ⟨(name ++ gap).map (fun character => (character, true)) ++
    plain (secret ++ after.takeWhile isToken), ?_, ?_, ?_, ?_⟩
  · rw [List.append_assoc]
    exact found
  · have size : (name ++ gap).length =
        ((name ++ gap).map (fun character => (character, true))).length := by simp
    rw [size]
    exact flags_plain _ secret _
  · rw [characters_append, characters_plain]
    simp [characters, Function.comp_def]
  · have first : (name ++ gap).head?.map fold = some 'b' := spells_head spells rfl
    rw [shown, if_pos first]
    simp [kept, characters, plain, List.filter_map, Function.comp_def]

theorem KeyedCredential.taking {marker secret after : List Char}
    (credential : KeyedCredential marker secret after) (previous : Option Char) :
    ∃ taken, Taking marker secret after previous taken := by
  rcases credential.marked with ⟨key, name, gap, separator, space, rfl, member, spells, spaces,
    separates, spaces', other⟩
  have found : sensitiveText.matchAt previous
      (name ++ (gap ++ separator :: (space ++ (secret ++ after)))) = _ :=
    matchAt_keyed member spells spaces separates spaces' credential.nonempty credential.visible
      other credential.maximal previous
  have whole : plain name ++ (plain gap ++ ([(separator, false)] ++
      (plain space ++ plain secret))) =
      plain ((name ++ (gap ++ separator :: space)) ++ secret) := by simp [plain]
  have shape : (name ++ (gap ++ separator :: space)) ++ (secret ++ after) =
      name ++ (gap ++ separator :: (space ++ (secret ++ after))) := by simp
  have blank : after.dropWhile isToken = after := by
    cases after with
    | nil => rfl
    | cons head tail =>
        have space : isSpace head := by simpa using credential.maximal
        have other := isToken_of_isSpace space
        simp [other]
  rw [whole] at found
  refine ⟨plain ((name ++ (gap ++ separator :: space)) ++ secret), ?_, ?_, ?_, ?_⟩
  · rw [shape]
    exact found
  · have size : (name ++ (gap ++ separator :: space)).length =
        (plain (name ++ (gap ++ separator :: space))).length := by simp [plain]
    have parts : plain ((name ++ (gap ++ separator :: space)) ++ secret) =
        plain (name ++ (gap ++ separator :: space)) ++ plain (secret ++ []) := by
      rw [plain_append, List.append_nil]
    rw [parts, size]
    exact flags_plain _ secret _
  · rw [characters_plain, blank, ← List.append_assoc]
  · rw [kept_plain, shown, if_neg (spells_keyword_head member spells)]

theorem Credential.taking {marker secret after : List Char}
    (credential : Credential marker secret after) (previous : Option Char) :
    ∃ taken, Taking marker secret after previous taken := by
  rcases credential with bearer | keyed
  · exact bearer.taking previous
  · exact keyed.taking previous

/-- A credential that no earlier match swallows is gone. -/
theorem gone_unless_swallowed {before marker secret after : List Char}
    (credential : Credential marker secret after)
    (reached : ¬ Swallowed before marker secret after) :
    sensitiveText.Gone (before ++ marker) secret after := by
  rcases state_spec sensitiveText_starts.nonempty before (marker ++ (secret ++ after)) with
    ⟨outside, _⟩ | ⟨seen, rest, taken, opened⟩
  · rcases credential.taking before.getLast? with ⟨taken, taking⟩
    exact gone_of_visited outside taking.found taking.covers
  · apply gone_of_flags
    rw [opened.left, flags_drop]
    by_contra stays
    exact reached ⟨seen, rest, taken, opened.visited, opened.found, opened.earlier,
      opened.reaches, stays⟩

/-- The search goes through a character of the secret without taking it out. -/
def Exposed (before secret after : List Char) : Prop :=
  ∃ early head later, secret = early ++ head :: later ∧
    sensitiveText.Stays (before ++ (secret ++ after)) (before ++ early)

theorem gone_iff_not_exposed (before secret after : List Char) :
    sensitiveText.Gone before secret after ↔ ¬ Exposed before secret after := by
  rw [gone_iff sensitiveText_starts.nonempty]
  constructor
  · rintro removed ⟨early, head, later, split, stays⟩
    exact removed early head later split stays
  · intro hidden early head later split stays
    exact hidden ⟨early, head, later, split, stays⟩

/-- A credential is gone unless an earlier match swallows it and what is left of it is
not taken out by other matches. -/
theorem gone_iff_not_swallowed {before marker secret after : List Char}
    (credential : Credential marker secret after) :
    sensitiveText.Gone (before ++ marker) secret after ↔
      ¬ (Swallowed before marker secret after ∧ Exposed (before ++ marker) secret after) := by
  rw [gone_iff_not_exposed]
  constructor
  · exact fun hidden both => hidden both.2
  · intro apart exposed
    by_cases swallowed : Swallowed before marker secret after
    · exact apart ⟨swallowed, exposed⟩
    · exact (gone_iff_not_exposed _ _ _).mp (gone_unless_swallowed credential swallowed) exposed

/-- The search looks for a match where the marker begins. -/
def Reached (before marker secret after : List Char) : Prop :=
  sensitiveText.Visits (before ++ (marker ++ (secret ++ after))) before
    (marker ++ (secret ++ after))

/-- The redacted text does not depend on a credential at whose marker the search looks. -/
theorem redactText_same {before marker secret secret' after : List Char}
    (credential : Credential marker secret after) (credential' : Credential marker secret' after)
    (reached : Reached before marker secret after)
    (reached' : Reached before marker secret' after) :
    redactText (String.ofList (before ++ (marker ++ (secret ++ after)))) =
      redactText (String.ofList (before ++ (marker ++ (secret' ++ after)))) := by
  rcases credential.taking before.getLast? with ⟨taken, taking⟩
  rcases credential'.taking before.getLast? with ⟨taken', taking'⟩
  have stops : (after.dropWhile isToken).head?.all (fun head => !isToken head) = true := by
    have stop := List.head?_dropWhile_not isToken after
    cases rest : (after.dropWhile isToken).head? with
    | none => rfl
    | some head =>
        rw [rest] at stop
        simpa using stop
  have found := taking.found
  have found' := taking'.found
  unfold Reached at reached reached'
  rw [taking.split] at reached found
  rw [taking'.split] at reached' found'
  unfold redactText
  rw [String.toList_ofList, String.toList_ofList, taking.split, taking'.split]
  congr 1
  exact sub_same sensitiveText_starts stops reached found reached' found'
    (taking.shows.trans taking'.shows.symm)

/-! ## A match changes the text -/

theorem head_plus_token {previous : Option Char} {text : List Char} {way : Success}
    (member : way ∈ (plus isToken).successes previous text) :
    ∃ entry more, way.1 = entry :: more ∧ isToken entry.1 :=
  (starts_one (fun _ passes => passes)).seq previous text way member

theorem starts_fold {letter : Char} {others : List Char} (rest : Regex) :
    Starts (fun character => fold character == letter)
      (.seq (word fold (letter :: others)) rest) :=
  ((starts_one (fun _ same => same)).seq).seq

/-- What replaces a match differs from it. -/
theorem match_changes {previous : Option Char} {text more after : List Char} {taken : Taken}
    (found : sensitiveText.matchAt previous text = some taken)
    (same : kept taken ++ '[' :: more = characters taken ++ after) : False := by
  have member : ∃ way ∈ sensitiveText.successes previous text, way.1 = taken := by
    unfold matchAt at found
    cases tried : sensitiveText.successes previous text with
    | nil => simp [tried] at found
    | cons way others =>
        simp only [tried, List.head?_cons, Option.map_some, Option.some.injEq] at found
        exact ⟨way, List.mem_cons_self, found⟩
  rcases member with ⟨way, member, rfl⟩
  have bracket : isToken '[' = false := by decide
  have plainly : kept way.1 = [] → False := by
    intro none
    rcases sensitiveText_starts _ _ way member with ⟨entry, others, shape, token⟩
    rw [none, shape] at same
    simp only [List.nil_append, characters, List.map_cons, List.cons_append, List.cons.injEq]
      at same
    rw [← same.1, bracket] at token
    cases token
  rcases List.mem_append.mp member with bearer | others
  · rcases mem_seq bearer with ⟨early, header, late, marked, rfl⟩
    rcases mem_seq marked with ⟨grouped, inGroup, token, run, rfl⟩
    rcases List.mem_map.mp inGroup with ⟨marker, spelled, rfl⟩
    have headerless : kept early.1 = [] :=
      kept_groupless (optional authorizationHeader) rfl _ _ early header
    have tokens : kept token.1 = [] := kept_groupless (plus isToken) rfl _ _ token run
    have group : kept (marker.1.map (fun entry => (entry.1, true))) =
        characters (marker.1.map (fun entry => (entry.1, true))) := by
      simp [kept, List.filter_map, Function.comp_def]
    rw [prepend, prepend, kept_append, kept_append, headerless, tokens, group, List.nil_append,
      List.append_nil, characters_append, characters_append] at same
    rcases starts_fold (plus isSpace) _ _ marker spelled with ⟨first, rest, shape, letter⟩
    rcases starts_optional (starts_fold _) _ _ early header with none | ⟨head, tail, begins, other⟩
    · rcases head_plus_token run with ⟨entry, others, shape, token⟩
      have empty : characters [] = [] := rfl
      rw [none, shape, empty, List.nil_append, List.append_assoc, List.append_cancel_left_eq]
        at same
      simp only [characters, List.map_cons, List.cons_append, List.cons.injEq] at same
      rw [← same.1, bracket] at token
      cases token
    · rw [begins, shape] at same
      simp only [characters, List.map_cons, List.cons_append, List.cons.injEq] at same
      rw [beq_iff_eq, same.1, beq_iff_eq.mp other] at letter
      exact absurd letter (by decide)
  · apply plainly
    exact kept_groupless (.alt keyedValue (.alt privateKey protectedPath)) rfl _ _ way others

/-- A text in which the search finds something is changed. -/
theorem redactText_ne {text seen rest : List Char} {taken : Taken}
    (visited : sensitiveText.Visits text seen rest)
    (found : sensitiveText.matchAt seen.getLast? rest = some taken) :
    redactText (String.ofList text) ≠ String.ofList text := by
  have first : ∃ front taken after, text = front ++ (characters taken ++ after) ∧
      sensitiveText.matchAt front.getLast? (characters taken ++ after) = some taken ∧
      sensitiveText.pieces none [] text = front.map Piece.kept ++
        sensitiveText.pieces front.getLast? [] (characters taken ++ after) := by
    rcases first_match visited with quiet | earlier
    · rcases matchAt_sound found with ⟨after, split⟩
      rw [split] at visited found quiet
      exact ⟨seen, taken, after, visited.split, found, quiet⟩
    · exact earlier
  rcases first with ⟨front, taken, after, split, found, pieces⟩
  intro same
  have texts : sensitiveText.sub redacted text = text := by
    have lists := congrArg String.toList same
    simpa [redactText] using lists
  have stays : (front.map Piece.kept).flatMap (Piece.text redacted) = front := by
    simp [List.flatMap_map, Piece.text]
  cases taken with
  | nil => exact sensitiveText_starts.nonempty _ _ found
  | cons entry more =>
      unfold sub at texts
      rw [pieces, List.flatMap_append, stays, pieces_start found, text_inside, split,
        List.append_cancel_left_eq] at texts
      exact match_changes found texts

theorem Credential.changes {before marker secret after : List Char}
    (credential : Credential marker secret after) (reached : Reached before marker secret after) :
    redactText (String.ofList (before ++ (marker ++ (secret ++ after)))) ≠
      String.ofList (before ++ (marker ++ (secret ++ after))) := by
  rcases credential.taking before.getLast? with ⟨taken, taking⟩
  exact redactText_ne reached taking.found

end FortifyLab.Redaction
