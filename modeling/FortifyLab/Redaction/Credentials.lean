import Mathlib.Tactic.IntervalCases
import FortifyLab.Library.RegexScan
import FortifyLab.Redaction.SensitiveText

/-! What the pattern matches where a credential's marker begins. -/

namespace FortifyLab.Redaction

open Regex

/-- The characters spell the word, in any case. -/
def Spells (characters word : List Char) : Prop := characters.map fold = word

instance (characters word : List Char) : Decidable (Spells characters word) :=
  inferInstanceAs (Decidable (_ = _))

def Spaces (characters : List Char) : Prop := ∀ character ∈ characters, isSpace character

instance (characters : List Char) : Decidable (Spaces characters) :=
  List.decidableBAll _ characters

/-- `[A-Za-z0-9._~+/=-]`, without regard to case folding. -/
def isTokenCharacter (character : Char) : Bool :=
  let code := character.toNat
  (48 ≤ code && code ≤ 57) || (65 ≤ code && code ≤ 90) || (97 ≤ code && code ≤ 122) ||
    "._~+/=-".toList.contains character

/-- A bearer token: the word, whitespace and a maximal run that is not the word itself. -/
structure BearerCredential (marker secret after : List Char) : Prop where
  marked : ∃ name gap, marker = name ++ gap ∧ Spells name "bearer".toList ∧ gap ≠ [] ∧ Spaces gap
  nonempty : secret ≠ []
  token : ∀ character ∈ secret, isTokenCharacter character
  other : ¬ Spells secret "bearer".toList
  maximal : after.head?.all (fun character => !isTokenCharacter character) = true

/-- A keyed value: a keyword, a separator and a maximal run without whitespace, which is
not the word `bearer` of an authorization header. -/
structure KeyedCredential (marker secret after : List Char) : Prop where
  marked : ∃ key name gap separator space, marker = name ++ (gap ++ separator :: space) ∧
    key ∈ keywords ∧ Spells name key ∧ Spaces gap ∧ isSeparator separator ∧ Spaces space ∧
    (key = "authorization".toList → separator = ':' → ¬ Spells secret "bearer".toList)
  nonempty : secret ≠ []
  visible : ∀ character ∈ secret, isSpace character = false
  maximal : after.head?.all isSpace = true

/-! ## Classes of characters -/

theorem fold_of_isSpace {character : Char} (space : isSpace character) :
    fold character = character := by
  unfold isSpace at space
  unfold fold
  simp only [Bool.or_eq_true, Bool.and_eq_true, decide_eq_true_eq, beq_iff_eq] at space
  rw [if_neg (by omega), if_neg (by omega), if_neg (by omega), if_neg (by omega)]

theorem toNat_lower {code : Nat} (upper : 65 ≤ code ∧ code ≤ 90) :
    (Char.ofNat (code + 32)).toNat = code + 32 := by
  rcases upper with ⟨low, high⟩
  interval_cases code <;> rfl

theorem isToken_of_isTokenCharacter {character : Char} (token : isTokenCharacter character) :
    isToken character := by
  unfold isTokenCharacter at token
  unfold isToken isLetterOrDigit fold
  simp only [Bool.or_eq_true, Bool.and_eq_true, decide_eq_true_eq] at token ⊢
  rcases token with ((digit | upper) | lower) | mark
  · left
    rw [if_neg (by omega), if_neg (by omega), if_neg (by omega), if_neg (by omega)]
    exact .inr digit
  · left
    rw [if_pos upper, toNat_lower upper]
    omega
  · left
    rw [if_neg (by omega), if_neg (by omega), if_neg (by omega), if_neg (by omega)]
    exact .inl lower
  · exact .inr mark

theorem not_isSpace_of_isTokenCharacter {character : Char} (token : isTokenCharacter character) :
    isSpace character = false := by
  by_contra spaced
  have space : isSpace character := by simpa using spaced
  unfold isTokenCharacter at token
  unfold isSpace at space
  simp only [Bool.or_eq_true, Bool.and_eq_true, decide_eq_true_eq, beq_iff_eq] at token space
  rcases token with ((digit | upper) | lower) | mark
  · omega
  · omega
  · omega
  · have listed : character ∈ "._~+/=-".toList := by simpa using mark
    have codes : "._~+/=-".toList.all (fun other => !isSpace other) = true := by decide +kernel
    have visible := List.all_eq_true.mp codes character listed
    rw [Bool.not_eq_true'] at visible
    exact spaced visible

/-! ## Bearer tokens -/

theorem spells_head {name word : List Char} {first : Char} {others rest : List Char}
    (spells : Spells name word) (start : word = first :: others) :
    (name ++ rest).head?.map fold = some first := by
  subst start
  cases name with
  | nil => cases spells
  | cons head tail =>
      unfold Spells at spells
      simp only [List.map_cons, List.cons.injEq] at spells
      simp [spells.1]

theorem Spaces.stop {gap rest : List Char} (spaces : Spaces gap)
    (stops : rest.head?.all (fun character => !isSpace character) = true) :
    (gap ++ rest).takeWhile isSpace = gap ∧ (gap ++ rest).dropWhile isSpace = rest :=
  takeWhile_stop spaces stops

/-- The pattern at the start of a bearer token: the marker is the group, and the run of
token characters is taken. -/
theorem matchAt_bearer {name gap secret after : List Char} (spells : Spells name "bearer".toList)
    (spaced : gap ≠ []) (spaces : Spaces gap) (nonempty : secret ≠ [])
    (token : ∀ character ∈ secret, isTokenCharacter character) (previous : Option Char) :
    sensitiveText.matchAt previous (name ++ (gap ++ (secret ++ after))) =
      some ((plain name ++ plain gap).map (fun entry => (entry.1, true)) ++
        plain ((secret ++ after).takeWhile isToken)) := by
  have visible : (secret ++ after).head?.all (fun character => !isSpace character) = true := by
    cases secret with
    | nil => exact absurd rfl nonempty
    | cons head tail =>
        simpa using not_isSpace_of_isTokenCharacter (token head List.mem_cons_self)
  have gapRun := spaces.stop visible
  have tokenRun : (secret ++ after).takeWhile isToken ≠ [] := by
    rw [List.takeWhile_append_of_pos (fun character member =>
      isToken_of_isTokenCharacter (token character member))]
    simp [nonempty]
  have first : (name ++ (gap ++ (secret ++ after))).head?.map fold = some 'b' :=
    spells_head spells rfl
  have marker : ((group (.seq (word fold "bearer".toList) (plus isSpace))).successes previous
      (name ++ (gap ++ (secret ++ after)))).head? =
      some ((plain name ++ plain gap).map (fun entry => (entry.1, true)), secret ++ after) := by
    apply head_group
    apply head_seq (head_word spells)
    rw [head_plus (by rw [gapRun.1]; exact spaced), gapRun.1, gapRun.2]
  have markedFirst : (markedToken.successes previous
      (name ++ (gap ++ (secret ++ after)))).head? =
      some ((plain name ++ plain gap).map (fun entry => (entry.1, true)) ++
        plain ((secret ++ after).takeWhile isToken), (secret ++ after).dropWhile isToken) :=
    head_seq marker (head_plus tokenRun)
  have headerless : (optional authorizationHeader).successes previous
      (name ++ (gap ++ (secret ++ after))) = [([], name ++ (gap ++ (secret ++ after)))] := by
    apply optional_nil
    apply seq_nil_left
    apply word_nil_of_head
    rw [first]
    decide
  have start : ((optional authorizationHeader).successes previous
      (name ++ (gap ++ (secret ++ after)))).head? =
      some ([], name ++ (gap ++ (secret ++ after))) := by rw [headerless]; rfl
  have whole : (bearerToken.successes previous (name ++ (gap ++ (secret ++ after)))).head? =
      some ([] ++ ((plain name ++ plain gap).map (fun entry => (entry.1, true)) ++
        plain ((secret ++ after).takeWhile isToken)), (secret ++ after).dropWhile isToken) :=
    head_seq start markedFirst
  exact matchAt_head (head_alt_left whole)

/-! ## Keyed values -/

theorem keywords_apart : ∀ key ∈ keywords, ∀ other ∈ keywords,
    other <+: key ∨ key <+: other → other = key := by decide

/-- No keyword starts like `bearer`. -/
theorem keyword_head : ∀ key ∈ keywords, key.head? ≠ some 'b' ∧ key ≠ [] := by decide

theorem spells_keyword_head {key name rest : List Char} (member : key ∈ keywords)
    (spells : Spells name key) : (name ++ rest).head?.map fold ≠ some 'b' := by
  cases shape : key with
  | nil => exact absurd shape (keyword_head key member).2
  | cons first others =>
      rw [spells_head spells shape]
      have head := (keyword_head key member).1
      rwa [shape] at head

/-- A value that starts with the word `bearer` but is not the word is longer. -/
theorem bearer_longer {secret after : List Char} (other : ¬ Spells secret "bearer".toList)
    (maximal : after.head?.all isSpace = true)
    (same : ((secret ++ after).take "bearer".toList.length).map fold = "bearer".toList) :
    "bearer".toList.length < secret.length := by
  by_contra short
  have size : secret.length ≤ "bearer".toList.length := Nat.le_of_not_lt short
  rw [List.take_append, List.take_of_length_le size] at same
  cases after with
  | nil =>
      apply other
      simpa [Spells] using same
  | cons head tail =>
      by_cases whole : secret.length = "bearer".toList.length
      · apply other
        rw [whole, Nat.sub_self, List.take_zero, List.append_nil] at same
        exact same
      · have more : ∃ count, "bearer".toList.length - secret.length = count + 1 :=
          ⟨"bearer".toList.length - secret.length - 1, by omega⟩
        rcases more with ⟨count, rest⟩
        have space : isSpace head := by simpa using maximal
        rw [rest, List.take_succ_cons, List.map_append, List.map_cons, fold_of_isSpace space] at same
        have member : head ∈ "bearer".toList := by
          rw [← same]
          simp
        have letters : "bearer".toList.all (fun character => !isSpace character) = true := by
          decide +kernel
        have visible := List.all_eq_true.mp letters head member
        rw [space] at visible
        cases visible

/-- A bearer token does not begin at a value that is not the word itself. -/
theorem markedToken_nil {secret after : List Char} {previous : Option Char}
    (visible : ∀ character ∈ secret, isSpace character = false)
    (other : ¬ Spells secret "bearer".toList) (maximal : after.head?.all isSpace = true) :
    markedToken.successes previous (secret ++ after) = [] := by
  apply seq_nil_left
  unfold successes
  rw [List.map_eq_nil_iff]
  apply seq_nil
  intro way member
  rw [successes_word] at member
  split at member
  · rename_i same
    cases List.mem_singleton.mp member
    have size := bearer_longer other maximal same
    apply plus_nil
    rw [List.drop_append_of_le_length (le_of_lt size)]
    cases rest : secret.drop "bearer".toList.length with
    | nil =>
        have short := List.drop_eq_nil_iff.mp rest
        omega
    | cons head tail =>
        have inside : head ∈ secret := List.mem_of_mem_drop (rest ▸ List.mem_cons_self)
        simp [visible head inside]
  · cases member

theorem markedToken_nil_of_head {text : List Char} {previous : Option Char}
    (start : text.head?.map fold ≠ some 'b') : markedToken.successes previous text = [] := by
  apply seq_nil_left
  unfold successes
  rw [List.map_eq_nil_iff]
  exact seq_nil_left (word_nil_of_head start)

theorem mem_authorizationHeader {text : List Char} {previous : Option Char} {way : Success}
    (member : way ∈ authorizationHeader.successes previous text) :
    ∃ name gap space, text = name ++ (gap ++ ':' :: (space ++ way.2)) ∧
      Spells name "authorization".toList ∧ Spaces gap ∧ Spaces space := by
  rcases mem_seq member with ⟨first, named, rest, others, rfl⟩
  rcases mem_seq others with ⟨second, spaced, last, colons, rfl⟩
  rcases mem_seq colons with ⟨third, colon, fourth, final, rfl⟩
  rcases mem_word named with ⟨name, _, named, spells⟩
  rcases mem_run spaced with ⟨gap, _, gapped, spaces⟩
  rcases mem_one colon with ⟨separator, _, separated, same⟩
  rcases mem_run final with ⟨space, _, ended, spaces'⟩
  refine ⟨name, gap, space, ?_, spells, spaces, spaces'⟩
  have separatorIs : separator = ':' := by simpa using same
  rw [named, gapped, separated, ended, separatorIs]
  rfl

/-- Two runs of whitespace that lead to the same separator are one. -/
theorem spaces_aligned {gap gap' rest rest' : List Char} {first second : Char} (spaces : Spaces gap)
    (spaces' : Spaces gap') (visible : isSpace first = false) (visible' : isSpace second = false)
    (same : gap ++ first :: rest = gap' ++ second :: rest') : first = second ∧ rest = rest' := by
  have left : (gap ++ first :: rest).takeWhile isSpace = gap :=
    (spaces.stop (by simp [visible])).1
  have right : (gap' ++ second :: rest').takeWhile isSpace = gap' :=
    (spaces'.stop (by simp [visible'])).1
  have equal : gap = gap' := by rw [← left, same, right]
  subst equal
  exact List.cons.inj (List.append_cancel_left same)

theorem not_isSpace_of_isSeparator {character : Char} (separator : isSeparator character) :
    isSpace character = false := by
  unfold isSeparator at separator
  rcases (Bool.or_eq_true _ _).mp separator with equals | colon
  · rw [beq_iff_eq.mp equals]
    rfl
  · rw [beq_iff_eq.mp colon]
    rfl

/-- Two names that spell keywords at the beginning of one text are one. -/
theorem names_aligned {key key' name name' rest rest' : List Char} (member : key ∈ keywords)
    (member' : key' ∈ keywords) (spells : Spells name key) (spells' : Spells name' key')
    (same : name ++ rest = name' ++ rest') : key = key' ∧ rest = rest' := by
  have folded : key ++ rest.map fold = key' ++ rest'.map fold := by
    have mapped := congrArg (List.map fold) same
    rw [List.map_append, List.map_append] at mapped
    unfold Spells at spells spells'
    rwa [spells, spells'] at mapped
  have begins : key' <+: key ++ rest.map fold := by
    rw [folded]
    exact List.prefix_append _ _
  have nested : key <+: key' ∨ key' <+: key :=
    List.prefix_or_prefix_of_prefix (List.prefix_append _ _) begins
  have equal : key = key' := keywords_apart key' member' key member nested
  have lengths : name.length = name'.length := by
    have first := congrArg List.length spells
    have second := congrArg List.length spells'
    simp only [List.length_map] at first second
    rw [first, second, equal]
  exact ⟨equal, (List.append_inj same lengths).2⟩

/-- Whitespace before the rest of a text that starts with a visible character. -/
theorem spaces_suffix {space space' visible rest : List Char} (spaces : Spaces space)
    (spaces' : Spaces space') (starts : visible.head?.all (fun head => !isSpace head) = true)
    (same : space ++ visible = space' ++ rest) :
    ∃ more, Spaces more ∧ rest = more ++ visible := by
  rcases List.append_eq_append_iff.mp same with ⟨between, first, second⟩ | ⟨more, first, second⟩
  · cases between with
    | nil => exact ⟨[], nofun, by simpa using second.symm⟩
    | cons head tail =>
        have spaced : isSpace head := spaces' head (by simp [first])
        rw [second] at starts
        simp [spaced] at starts
  · refine ⟨more, ?_, second⟩
    intro character inside
    exact spaces character (by simp [first, inside])

/-- No bearer token begins at the marker of a keyed value. -/
theorem bearerToken_nil {key name gap space secret after : List Char} {separator : Char}
    {previous : Option Char} (member : key ∈ keywords) (spells : Spells name key)
    (spaces : Spaces gap) (separates : isSeparator separator) (spaces' : Spaces space)
    (nonempty : secret ≠ []) (visible : ∀ character ∈ secret, isSpace character = false)
    (other : key = "authorization".toList → separator = ':' → ¬ Spells secret "bearer".toList)
    (maximal : after.head?.all isSpace = true) :
    bearerToken.successes previous
      (name ++ (gap ++ separator :: (space ++ (secret ++ after)))) = [] := by
  apply seq_nil
  intro way found
  rcases List.mem_append.mp found with header | plainly
  · rcases mem_authorizationHeader header with ⟨name', gap', more, split, spells', spaced, spaced'⟩
    have listed : "authorization".toList ∈ keywords := by decide
    rcases names_aligned member listed spells spells' split with ⟨named, gaps⟩
    rcases spaces_aligned spaces spaced (not_isSpace_of_isSeparator separates) (by decide) gaps
      with ⟨colon, rests⟩
    have starts : (secret ++ after).head?.all (fun head => !isSpace head) = true := by
      cases secret with
      | nil => exact absurd rfl nonempty
      | cons head tail => simp [visible head List.mem_cons_self]
    rcases spaces_suffix spaces' spaced' starts rests with ⟨left, blank, remaining⟩
    rw [remaining]
    cases left with
    | nil =>
        rw [List.nil_append]
        exact markedToken_nil visible (other named colon) maximal
    | cons head tail =>
        apply markedToken_nil_of_head
        have space : isSpace head := blank head List.mem_cons_self
        have letter : isSpace 'b' = false := by decide
        intro starting
        simp only [List.cons_append, List.head?_cons, Option.map_some, Option.some.injEq] at starting
        rw [fold_of_isSpace space] at starting
        rw [starting, letter] at space
        cases space
  · cases List.mem_singleton.mp plainly
    exact markedToken_nil_of_head (spells_keyword_head member spells)

/-- The pattern at the start of a keyed value: all of it is taken, outside the first
group. -/
theorem matchAt_keyed {key name gap space secret after : List Char} {separator : Char}
    (member : key ∈ keywords) (spells : Spells name key) (spaces : Spaces gap)
    (separates : isSeparator separator) (spaces' : Spaces space) (nonempty : secret ≠ [])
    (visible : ∀ character ∈ secret, isSpace character = false)
    (other : key = "authorization".toList → separator = ':' → ¬ Spells secret "bearer".toList)
    (maximal : after.head?.all isSpace = true) (previous : Option Char) :
    sensitiveText.matchAt previous
        (name ++ (gap ++ separator :: (space ++ (secret ++ after)))) =
      some (plain name ++ (plain gap ++ ([(separator, false)] ++ (plain space ++ plain secret)))) := by
  have starts : (secret ++ after).head?.all (fun head => !isSpace head) = true := by
    cases secret with
    | nil => exact absurd rfl nonempty
    | cons head tail => simp [visible head List.mem_cons_self]
  have separatorStops : (separator :: (space ++ (secret ++ after))).head?.all
      (fun head => !isSpace head) = true := by simp [not_isSpace_of_isSeparator separates]
  have gapRun := spaces.stop separatorStops
  have spaceRun := spaces'.stop starts
  have stops : after.head?.all (fun character => !!isSpace character) = true := by
    simpa using maximal
  have shown : ∀ character ∈ secret, !isSpace character :=
    fun character inside => by simp [visible character inside]
  have valueRun := takeWhile_stop shown stops
  have value : ∀ previous, ((plus (fun character => !isSpace character)).successes previous
      (secret ++ after)).head? = some (plain secret, after) := by
    intro previous
    rw [head_plus (by rw [valueRun.1]; exact nonempty), valueRun.1, valueRun.2]
  have separated : ∀ previous, ((one isSeparator).successes previous
      (separator :: (space ++ (secret ++ after)))).head? =
      some ([(separator, false)], space ++ (secret ++ after)) := by
    intro previous
    simp [successes, separates]
  have runs : ∀ previous, ((run isSpace).successes previous (space ++ (secret ++ after))).head? =
      some (plain space, secret ++ after) := by
    intro previous
    rw [head_run, spaceRun.1, spaceRun.2]
  have gaps : ∀ previous, ((run isSpace).successes previous
      (gap ++ separator :: (space ++ (secret ++ after)))).head? =
      some (plain gap, separator :: (space ++ (secret ++ after))) := by
    intro previous
    rw [head_run, gapRun.1, gapRun.2]
  have keyed : (keyedValue.successes previous
      (name ++ (gap ++ separator :: (space ++ (secret ++ after))))).head? =
      some (plain name ++ (plain gap ++ ([(separator, false)] ++ (plain space ++ plain secret))),
        after) :=
    head_seq (head_words member (keywords_apart key member) spells)
      (head_seq (gaps _) (head_seq (separated _) (head_seq (runs _) (value _))))
  have whole : (sensitiveText.successes previous
      (name ++ (gap ++ separator :: (space ++ (secret ++ after))))).head? =
      some (plain name ++ (plain gap ++ ([(separator, false)] ++ (plain space ++ plain secret))),
        after) := by
    rw [sensitiveText, alt_right (bearerToken_nil member spells spaces separates spaces' nonempty
      visible other maximal)]
    exact head_alt_left keyed
  exact matchAt_head whole

end FortifyLab.Redaction
