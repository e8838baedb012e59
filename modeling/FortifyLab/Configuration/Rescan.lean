import FortifyLab.Configuration.Places

/-! What a scan finds when lines are inserted into the text it reads. -/

namespace FortifyLab.Configuration

/-! ## Lines that are inserted -/

/-- The line leaves the tracker where it is, unless that is inside a string of one line. -/
def Neutral (line : List Char) : Prop :=
  ∀ mode : Mode, mode ≠ .basic → mode ≠ .literal → multilineStringState line mode = mode

/-- A complete line of one key. -/
structure KeyLine (key : String) (line : List Char) : Prop where
  noHeader : sectionHeader line = none
  key : lineKey line = some key
  neutral : Neutral line

structure HeaderLine (name : String) (line : List Char) : Prop where
  header : sectionHeader line = some name
  neutral : Neutral line

/-- A place between two lines. -/
def Place.Between (place : Place) : Prop := place.mode ≠ .basic ∧ place.mode ≠ .literal

theorem between_next (place : Place) (line : List Char) : (place.next line).Between := by
  simp only [Place.Between, Place.next, multilineStringState]
  cases track place.mode line <;> simp

theorem between_after {place : Place} (between : place.Between) (lines : List (List Char)) :
    (place.after lines).Between := by
  induction lines generalizing place with
  | nil => exact between
  | cons line lines ih => exact ih (between_next place line)

theorem between_start : Place.start.Between := by
  constructor <;> decide

theorem next_keyLine {place : Place} (between : place.Between) {key : String} {line : List Char}
    (good : KeyLine key line) : place.next line = place := by
  rcases place with ⟨current, mode⟩
  have stays : multilineStringState line mode = mode := good.neutral mode between.1 between.2
  simp [Place.next, good.noHeader, stays]

theorem after_keyLines {place : Place} (between : place.Between) {keys : List String}
    {lines : List (List Char)} (good : List.Forall₂ KeyLine keys lines) :
    place.after lines = place := by
  induction good with
  | nil => rfl
  | cons first _ ih =>
      rw [Place.after, next_keyLine between first]
      exact ih

theorem gathers_keyLines {place : Place} (between : place.Between) {keys : List String}
    {lines : List (List Char)} (good : List.Forall₂ KeyLine keys lines) :
    place.gathers lines =
      if place.mode = .plain then keys.map (fun key => (place.current, key)) else [] := by
  induction good with
  | nil => simp [Place.gathers]
  | cons first _ ih =>
      rw [Place.gathers, next_keyLine between first, ih]
      by_cases plain : place.mode = .plain
      · simp [Place.finds, plain, first.noHeader, first.key]
      · simp [Place.finds, plain]

/-- Lines of one section, to be inserted where it ends. -/
structure Insertion where
  name : String
  index : Nat
  keys : List String
  lines : List (List Char)

structure Insertion.Fits (insertion : Insertion) (lines : List (List Char)) : Prop where
  ends : EndsAt lines insertion.name insertion.index
  good : List.Forall₂ KeyLine insertion.keys insertion.lines

def Insertion.into (lines : List (List Char)) (insertion : Insertion) : List (List Char) :=
  insertAt lines (insertion.index, insertion.lines)

/-- The scan sees lines that were inserted before a header, and at the end if it stands outside of
multi-line strings there. -/
def Insertion.Seen (insertion : Insertion) (lines : List (List Char)) : Prop :=
  insertion.index < lines.length ∨ (Place.start.after lines).mode = .plain

theorem into_spec {lines : List (List Char)} {insertion : Insertion}
    (fits : insertion.Fits lines) :
    Place.start.after (insertion.into lines) = Place.start.after lines ∧
      ∀ pair, pair ∈ Place.start.gathers (insertion.into lines) ↔
        pair ∈ Place.start.gathers lines ∨
          insertion.Seen lines ∧ ∃ key ∈ insertion.keys, pair = (insertion.name, key) := by
  rcases fits.ends with ⟨front, back, rfl, length, current, place⟩
  have shape : insertion.into (front ++ back) = front ++ (insertion.lines ++ back) := by
    simp [Insertion.into, insertAt, ← length]
  have between := between_after between_start front
  have stays := after_keyLines between fits.good
  have gathered := gathers_keyLines between fits.good
  rw [shape]
  constructor
  · simp only [after_append, stays]
  · intro pair
    simp only [gathers_append, stays, gathered, List.mem_append, current]
    by_cases plain : (Place.start.after front).mode = .plain
    · have seen : insertion.Seen (front ++ back) := by
        rcases place with rfl | ⟨_, header, rest, rfl, _⟩
        · exact .inr (by simpa using plain)
        · exact .inl (by simp [← length])
      simp only [plain, if_true, List.mem_map, seen, true_and]
      constructor
      · intro parts
        rcases parts with before | ⟨key, member, rfl⟩ | later
        · exact .inl (.inl before)
        · exact .inr ⟨key, member, rfl⟩
        · exact .inl (.inr later)
      · intro parts
        rcases parts with (before | later) | ⟨key, member, rfl⟩
        · exact .inl before
        · exact .inr (.inr later)
        · exact .inr (.inl ⟨key, member, rfl⟩)
    · have last : back = [] := place.resolve_right (fun more => plain more.1)
      have unseen : ¬ insertion.Seen (front ++ back) := by
        intro seen
        rcases seen with early | outside
        · simp [last, ← length] at early
        · exact plain (by simpa [last] using outside)
      simp only [plain, if_false, unseen, false_and, or_false, List.not_mem_nil, false_or]

/-- An insertion before which something is inserted stays where it is. -/
theorem fits_into {lines : List (List Char)} {later earlier : Insertion}
    (first : later.Fits lines) (second : earlier.Fits lines) (before : earlier.index < later.index) :
    earlier.Fits (later.into lines) := by
  obtain ⟨front, back, rfl, length, current, place⟩ := second.ends
  refine ⟨?_, second.good⟩
  have inside := first.ends.le
  rcases place with rfl | ⟨plain, header, rest, rfl, found⟩
  · simp at inside
    omega
  · obtain ⟨offset, split⟩ : ∃ offset, later.index = front.length + (offset + 1) :=
      ⟨later.index - front.length - 1, by omega⟩
    have shape : later.into (front ++ header :: rest) =
        front ++ header :: (rest.take offset ++ later.lines ++ rest.drop offset) := by
      have taken : front.take (front.length + (offset + 1)) = front :=
        List.take_of_length_le (by omega)
      have dropped : front.drop (front.length + (offset + 1)) = [] :=
        List.drop_eq_nil_of_le (by omega)
      simp [Insertion.into, insertAt, split, List.take_append, List.drop_append, taken, dropped]
    exact ⟨front, _, shape, length, current, .inr ⟨plain, header, _, rfl, found⟩⟩

/-- The scan of the text with all insertions, from the last place to the first. -/
theorem fold_into_spec {insertions : List Insertion} {lines : List (List Char)}
    (fits : ∀ insertion ∈ insertions, insertion.Fits lines)
    (descending : insertions.Pairwise (fun left right => right.index < left.index)) :
    Place.start.after (insertions.foldl Insertion.into lines) = Place.start.after lines ∧
      ∀ pair, pair ∈ Place.start.gathers (insertions.foldl Insertion.into lines) ↔
        pair ∈ Place.start.gathers lines ∨
          ∃ insertion ∈ insertions, insertion.Seen lines ∧
            ∃ key ∈ insertion.keys, pair = (insertion.name, key) := by
  induction insertions generalizing lines with
  | nil => simp
  | cons later earlier ih =>
      have first := fits later (by simp)
      have spec := into_spec first
      rw [List.pairwise_cons] at descending
      have rest := @ih (later.into lines)
        (fun other member => fits_into first (fits other (by simp [member]))
          (descending.1 other member)) descending.2
      have longer : lines.length ≤ (later.into lines).length := by
        simp [Insertion.into, insertAt]
        omega
      have seen : ∀ other ∈ earlier, other.Seen (later.into lines) ↔ other.Seen lines := by
        intro other member
        have inside : other.index < lines.length :=
          Nat.lt_of_lt_of_le (descending.1 other member) first.ends.le
        constructor
        · exact fun _ => .inl inside
        · exact fun _ => .inl (Nat.lt_of_lt_of_le inside longer)
      constructor
      · exact rest.1.trans spec.1
      · intro pair
        rw [List.foldl_cons, rest.2 pair, spec.2 pair, or_assoc]
        refine or_congr Iff.rfl ?_
        constructor
        · intro parts
          rcases parts with ⟨there, key, member, rfl⟩ | ⟨other, member, there, key, known, rfl⟩
          · exact ⟨later, by simp, there, key, member, rfl⟩
          · exact ⟨other, by simp [member], (seen other member).mp there, key, known, rfl⟩
        · intro parts
          rcases parts with ⟨other, member, there, key, known, rfl⟩
          rcases List.mem_cons.mp member with rfl | after
          · exact .inl ⟨there, key, known, rfl⟩
          · exact .inr ⟨other, after, (seen other after).mpr there, key, known, rfl⟩

/-! ## The defaults that are inserted -/

/-- The defaults of a section that it does not have. -/
def absent (scan : Scan) (name : String) (values : List String) : List String :=
  values.filter (fun value => !scan.keys.contains (name, defaultKey value))

theorem missing_eq (scan : Scan) (name : String) (values : List String) :
    missing scan name values =
      (absent scan name values).map (fun value => value.toList ++ ['\n']) := rfl

/-- Each default is a complete line of its key. -/
def GoodDefaults (additions : List (String × List String)) : Prop :=
  ∀ addition ∈ additions, ∀ value ∈ addition.2,
    KeyLine (defaultKey value) (value.toList ++ ['\n'])

theorem missing_good {additions : List (String × List String)} (good : GoodDefaults additions)
    {addition : String × List String} (member : addition ∈ additions) (scan : Scan) :
    List.Forall₂ KeyLine ((absent scan addition.1 addition.2).map defaultKey)
      (missing scan addition.1 addition.2) := by
  rw [missing_eq, List.forall₂_map_left_iff, List.forall₂_map_right_iff, List.forall₂_same]
  intro value known
  exact good addition member value (List.mem_filter.mp known).1

/-- The insertion of a section's defaults, if they are inserted before an end of it. -/
def plan (scan : Scan) (addition : String × List String) : Option Insertion :=
  let rendered := missing scan addition.1 addition.2
  if rendered.isEmpty then none
  else (scan.endings.lookup addition.1).map (fun index =>
    ⟨addition.1, index, (absent scan addition.1 addition.2).map defaultKey, rendered⟩)

theorem pending_eq (scan : Scan) (additions : List (String × List String)) :
    pending scan additions = (additions.filterMap (plan scan)).map
      (fun insertion => (insertion.index, insertion.lines)) := by
  rw [List.map_filterMap, pending]
  congr 1
  funext addition
  simp only [plan]
  split
  · rfl
  · rw [Option.map_map]
    rfl

theorem plan_eq_some {scan : Scan} {addition : String × List String} {insertion : Insertion} :
    plan scan addition = some insertion ↔
      absent scan addition.1 addition.2 ≠ [] ∧
        ∃ index, scan.endings.lookup addition.1 = some index ∧
          insertion = ⟨addition.1, index, (absent scan addition.1 addition.2).map defaultKey,
            missing scan addition.1 addition.2⟩ := by
  simp only [plan, missing_eq, List.isEmpty_map, List.isEmpty_iff]
  split
  · next none => simp [none]
  · next some =>
      simp only [Option.map_eq_some_iff, ne_eq, some, not_false_eq_true, true_and]
      constructor
      · intro parts
        rcases parts with ⟨index, found, rfl⟩
        exact ⟨index, found, rfl⟩
      · intro parts
        rcases parts with ⟨index, found, rfl⟩
        exact ⟨index, found, rfl⟩

/-- The insertions in the order they are made. -/
def ordered (scan : Scan) (additions : List (String × List String)) : List Insertion :=
  (additions.filterMap (plan scan)).insertionSort (fun left right => right.index ≤ left.index)

theorem mem_ordered {scan : Scan} {additions : List (String × List String)}
    {insertion : Insertion} :
    insertion ∈ ordered scan additions ↔
      ∃ addition ∈ additions, plan scan addition = some insertion := by
  rw [ordered, List.mem_insertionSort, List.mem_filterMap]

theorem foldl_ordered (scan : Scan) (additions : List (String × List String))
    (lines : List (List Char)) :
    ((pending scan additions).insertionSort (fun left right => right.1 ≤ left.1)).foldl
        insertAt lines =
      (ordered scan additions).foldl Insertion.into lines := by
  rw [pending_eq, ordered, ← List.map_insertionSort (fun left right : Insertion =>
    right.index ≤ left.index) _ _ _ (fun _ _ _ _ => Iff.rfl), List.foldl_map]
  rfl

theorem ordered_fits {additions : List (String × List String)} (good : GoodDefaults additions)
    {lines : List (List Char)} {insertion : Insertion}
    (member : insertion ∈ ordered (sectionKeys lines) additions) : insertion.Fits lines := by
  obtain ⟨addition, known, planned⟩ := mem_ordered.mp member
  obtain ⟨_, index, found, rfl⟩ := plan_eq_some.mp planned
  exact ⟨sectionKeys_endings found, missing_good good known _⟩

theorem ordered_descending {additions : List (String × List String)}
    (good : GoodDefaults additions) (distinct : (additions.map Prod.fst).Nodup)
    (lines : List (List Char)) :
    (ordered (sectionKeys lines) additions).Pairwise
      (fun left right => right.index < left.index) := by
  have names : ((additions.filterMap (plan (sectionKeys lines))).map Insertion.name).Nodup := by
    refine distinct.sublist ?_
    clear distinct good
    induction additions with
    | nil => simp
    | cons addition additions ih =>
        rw [List.filterMap_cons]
        split
        · exact ih.cons _
        · next insertion planned =>
            obtain ⟨_, index, _, rfl⟩ := plan_eq_some.mp planned
            exact ih.cons_cons _
  have sorted : (ordered (sectionKeys lines) additions).Pairwise
      (fun left right => right.index ≤ left.index) := by
    have : Std.Total (fun left right : Insertion => right.index ≤ left.index) :=
      ⟨fun left right => Nat.le_total right.index left.index⟩
    have : IsTrans Insertion (fun left right => right.index ≤ left.index) :=
      ⟨fun _ _ _ before after => Nat.le_trans after before⟩
    exact List.pairwise_insertionSort _ _
  have different : (ordered (sectionKeys lines) additions).Pairwise
      (fun left right => left.name ≠ right.name) := by
    rw [← List.pairwise_map]
    exact (List.Perm.nodup_iff ((List.perm_insertionSort _ _).map _)).mpr names
  refine (sorted.and different).imp_of_mem ?_
  intro left right known other both
  refine Nat.lt_of_le_of_ne both.1 (fun same => both.2 ?_)
  exact (ordered_fits good known).ends.unique (same ▸ (ordered_fits good other).ends)

/-! ## The whole candidate -/

/-- Nothing is inserted at the end of the text, or the tracker is outside of strings there. -/
def Settled (additions : List (String × List String)) (lines : List (List Char)) : Prop :=
  (sectionKeys lines).state = .plain ∨
    ∀ addition ∈ additions, missing (sectionKeys lines) addition.1 addition.2 = [] ∨
      ∃ index, (sectionKeys lines).endings.lookup addition.1 = some index ∧ index < lines.length

/-- The lines of the candidate. -/
def mergedLines (additions : List (String × List String)) (lines : List (List Char)) :
    List (List Char) :=
  (ordered (sectionKeys lines) additions).foldl Insertion.into lines ++
    appended (sectionKeys lines) lines.isEmpty additions

theorem next_blank {place : Place} (between : place.Between) : place.next ['\n'] = place := by
  rcases place with ⟨current, mode⟩
  have noHeader : sectionHeader ['\n'] = none := by decide
  cases mode <;> simp_all [Place.Between, Place.next, multilineStringState, track]

theorem finds_blank (place : Place) : place.finds ['\n'] = [] := by
  have noHeader : sectionHeader ['\n'] = none := by decide
  have noKey : lineKey ['\n'] = none := by decide
  simp [Place.finds, noHeader, noKey]

theorem next_header {place : Place} (between : place.Between) {name : String} {line : List Char}
    (header : HeaderLine name line) :
    place.next line = ⟨if place.mode = .plain then name else place.current, place.mode⟩ := by
  simp [Place.next, header.header, header.neutral place.mode between.1 between.2]

theorem finds_header (place : Place) {name : String} {line : List Char}
    (header : HeaderLine name line) : place.finds line = [] := by
  simp [Place.finds, header.header]

/-- Each section's name makes a header line. -/
def GoodNames (additions : List (String × List String)) : Prop :=
  ∀ addition ∈ additions, HeaderLine addition.1 ("[" ++ addition.1 ++ "]\n").toList

/-- The scan of one section that is appended. -/
theorem section_spec {place : Place} (between : place.Between) {name : String}
    {line : List Char} (header : HeaderLine name line) {keys : List String}
    {lines : List (List Char)} (good : List.Forall₂ KeyLine keys lines) (empty : Bool) :
    place.after ((if empty then [] else [['\n']]) ++ line :: lines) =
        ⟨if place.mode = .plain then name else place.current, place.mode⟩ ∧
      place.gathers ((if empty then [] else [['\n']]) ++ line :: lines) =
        if place.mode = .plain then keys.map (fun key => (name, key)) else [] := by
  have inside : (place.next line).Between := between_next place line
  have blank : place.after (if empty then [] else [['\n']]) = place := by
    cases empty
    · exact next_blank between
    · rfl
  have nothing : place.gathers (if empty then [] else [['\n']]) = [] := by
    cases empty
    · simp [Place.gathers, finds_blank]
    · rfl
  constructor
  · rw [after_append, blank, Place.after, after_keyLines inside good, next_header between header]
  · rw [gathers_append, blank, nothing, Place.gathers, finds_header place header,
      gathers_keyLines inside good, next_header between header]
    by_cases plain : place.mode = .plain <;> simp [plain]

/-- The scan of the sections that are appended: all of their keys are found, or none. -/
theorem appended_spec {additions : List (String × List String)} (good : GoodDefaults additions)
    (names : GoodNames additions) (scan : Scan) (empty : Bool) {place : Place}
    (between : place.Between) :
    (place.after (appended scan empty additions)).mode = place.mode ∧
      ∀ pair, pair ∈ place.gathers (appended scan empty additions) ↔
        place.mode = .plain ∧ ∃ addition ∈ additions,
          scan.endings.lookup addition.1 = none ∧
            ∃ value ∈ absent scan addition.1 addition.2,
              pair = (addition.1, defaultKey value) := by
  induction additions generalizing empty place with
  | nil => simp [appended, Place.after, Place.gathers]
  | cons addition rest ih =>
      obtain ⟨name, values⟩ := addition
      have later := @ih (fun other member => good other (by simp [member]))
        (fun other member => names other (by simp [member]))
      by_cases skipped : missing scan name values = [] ∨ (scan.endings.lookup name).isSome
      · have same : appended scan empty ((name, values) :: rest) = appended scan empty rest := by
          simp only [appended, List.isEmpty_iff, Bool.or_eq_true, skipped, if_true]
        have nothing : ¬ (scan.endings.lookup name = none ∧
            ∃ value ∈ absent scan name values, True) := by
          intro parts
          obtain ⟨unended, value, member, _⟩ := parts
          rcases skipped with none | ended
          · rw [missing_eq, List.map_eq_nil_iff] at none
            simp [none] at member
          · simp [unended] at ended
        rw [same]
        refine ⟨(later empty between).1, fun pair => ?_⟩
        rw [(later empty between).2 pair]
        refine and_congr_right (fun _ => ?_)
        constructor
        · intro parts
          obtain ⟨other, member, found⟩ := parts
          exact ⟨other, by simp [member], found⟩
        · intro parts
          obtain ⟨other, member, unended, value, known, equal⟩ := parts
          rcases List.mem_cons.mp member with rfl | after
          · exact absurd ⟨unended, value, known, trivial⟩ nothing
          · exact ⟨other, after, unended, value, known, equal⟩
      · rw [not_or, Option.not_isSome_iff_eq_none] at skipped
        have header := names (name, values) (by simp)
        have lines := @missing_good _ good (name, values) (by simp) scan
        have shape : appended scan empty ((name, values) :: rest) =
            ((if empty then [] else [['\n']]) ++
              ("[" ++ name ++ "]\n").toList :: missing scan name values) ++
              appended scan false rest := by
          simp [appended, skipped]
        have one := section_spec between header lines empty
        have stands : Place.Between
            ⟨if place.mode = .plain then name else place.current, place.mode⟩ := between
        rw [shape, after_append, one.1]
        refine ⟨(later false stands).1, fun pair => ?_⟩
        rw [gathers_append, one.1, one.2, List.mem_append, (later false stands).2 pair]
        by_cases plain : place.mode = .plain
        · simp only [plain, if_true, true_and, List.mem_map, List.mem_cons, exists_eq_or_imp,
            skipped.2]
          refine or_congr ?_ Iff.rfl
          constructor
          · intro parts
            obtain ⟨key, ⟨value, member, rfl⟩, rfl⟩ := parts
            exact ⟨value, member, rfl⟩
          · intro parts
            obtain ⟨value, member, rfl⟩ := parts
            exact ⟨_, ⟨value, member, rfl⟩, rfl⟩
        · simp [plain]

theorem absent_iff {lines : List (List Char)} {name value : String} {values : List String} :
    value ∈ absent (sectionKeys lines) name values ↔
      value ∈ values ∧ (name, defaultKey value) ∉ Place.start.gathers lines := by
  rw [absent, List.mem_filter, Bool.not_eq_true', ← mem_sectionKeys]
  simp

/-- The scan of the candidate finds every default exactly when the text is settled. -/
theorem defaults_found_iff {additions : List (String × List String)}
    (good : GoodDefaults additions) (names : GoodNames additions)
    (distinct : (additions.map Prod.fst).Nodup) (lines : List (List Char)) :
    (∀ addition ∈ additions, ∀ value ∈ addition.2,
        (addition.1, defaultKey value) ∈
          Place.start.gathers (mergedLines additions lines)) ↔
      Settled additions lines := by
  have inserted := fold_into_spec (fun _ member => @ordered_fits _ good lines _ member)
    (ordered_descending good distinct lines)
  have added := appended_spec good names (sectionKeys lines) lines.isEmpty
    (between_after between_start ((ordered (sectionKeys lines) additions).foldl
      Insertion.into lines))
  have found : ∀ pair, pair ∈ Place.start.gathers (mergedLines additions lines) ↔
      (pair ∈ Place.start.gathers lines ∨
        ∃ insertion ∈ ordered (sectionKeys lines) additions, insertion.Seen lines ∧
          ∃ key ∈ insertion.keys, pair = (insertion.name, key)) ∨
      (Place.start.after lines).mode = .plain ∧ ∃ addition ∈ additions,
        (sectionKeys lines).endings.lookup addition.1 = none ∧
          ∃ value ∈ absent (sectionKeys lines) addition.1 addition.2,
            pair = (addition.1, defaultKey value) := by
    intro pair
    rw [mergedLines, gathers_append, List.mem_append, inserted.2 pair, added.2 pair, inserted.1]
  constructor
  · intro all
    refine or_iff_not_imp_left.mpr (fun inside addition member => ?_)
    rw [sectionKeys_state] at inside
    refine or_iff_not_imp_left.mpr (fun some => ?_)
    rw [missing_eq, List.map_eq_nil_iff] at some
    obtain ⟨value, lacking⟩ := List.exists_mem_of_ne_nil _ some
    have split := absent_iff.mp lacking
    rcases (found _).mp (all addition member value split.1) with (old | new) | ⟨outside, _⟩
    · exact absurd old split.2
    · obtain ⟨insertion, known, seen, key, _, equal⟩ := new
      obtain ⟨other, _, planned⟩ := mem_ordered.mp known
      obtain ⟨_, index, ends, rfl⟩ := plan_eq_some.mp planned
      have same : addition.1 = other.1 := (Prod.mk.inj equal).1
      exact ⟨index, same ▸ ends, seen.resolve_right inside⟩
    · exact absurd outside inside
  · intro settled addition member value known
    by_cases old : (addition.1, defaultKey value) ∈ Place.start.gathers lines
    · exact (found _).mpr (.inl (.inl old))
    · have lacking := absent_iff.mpr ⟨known, old⟩
      have some : missing (sectionKeys lines) addition.1 addition.2 ≠ [] := by
        rw [missing_eq, ne_eq, List.map_eq_nil_iff]
        exact List.ne_nil_of_mem lacking
      cases ends : (sectionKeys lines).endings.lookup addition.1 with
      | none =>
          have plain : (Place.start.after lines).mode = .plain := by
            rcases settled with plain | early
            · rwa [sectionKeys_state] at plain
            · rcases early addition member with none | ⟨index, same, _⟩
              · exact absurd none some
              · simp [ends] at same
          exact (found _).mpr (.inr ⟨plain, addition, member, ends, value, lacking, rfl⟩)
      | some index =>
          refine (found _).mpr (.inl (.inr ⟨⟨addition.1, index,
            (absent (sectionKeys lines) addition.1 addition.2).map defaultKey,
            missing (sectionKeys lines) addition.1 addition.2⟩, ?_, ?_, _,
            List.mem_map_of_mem lacking, rfl⟩))
          · exact mem_ordered.mpr ⟨addition, member,
              plan_eq_some.mpr ⟨List.ne_nil_of_mem lacking, index, ends, rfl⟩⟩
          · rcases settled with plain | early
            · rw [sectionKeys_state] at plain
              exact .inr plain
            · rcases early addition member with none | ⟨other, same, inside⟩
              · exact absurd none some
              · rw [ends, Option.some.injEq] at same
                exact .inl (same ▸ inside)

end FortifyLab.Configuration
