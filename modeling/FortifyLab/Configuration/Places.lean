import FortifyLab.Configuration.Scanner

/-! The scan of a text as a walk through places, and where its sections end. -/

namespace FortifyLab.Configuration

/-- Where a scan stands: the section it is in, and what the tracker is inside of. -/
structure Place where
  current : String
  mode : Mode

def Place.start : Place := ⟨"", .plain⟩

def Place.next (place : Place) (line : List Char) : Place where
  current := if place.mode = .plain then (sectionHeader line).getD place.current
    else place.current
  mode := multilineStringState line place.mode

/-- The key that a line adds at a place. -/
def Place.finds (place : Place) (line : List Char) : List (String × String) :=
  if place.mode = .plain then
    match sectionHeader line, lineKey line with
    | none, some key => [(place.current, key)]
    | _, _ => []
  else []

def Place.after (place : Place) : List (List Char) → Place
  | [] => place
  | line :: rest => (place.next line).after rest

/-- The keys that a scan finds from a place on. -/
def Place.gathers (place : Place) : List (List Char) → List (String × String)
  | [] => []
  | line :: rest => place.finds line ++ (place.next line).gathers rest

theorem after_append (place : Place) (front back : List (List Char)) :
    place.after (front ++ back) = (place.after front).after back := by
  induction front generalizing place with
  | nil => rfl
  | cons line front ih => exact ih (place.next line)

theorem gathers_append (place : Place) (front back : List (List Char)) :
    place.gathers (front ++ back) = place.gathers front ++ (place.after front).gathers back := by
  induction front generalizing place with
  | nil => rfl
  | cons line front ih =>
      simp only [List.cons_append, Place.gathers, Place.after, ih, List.append_assoc]

/-! ## The scan and the places -/

def Scan.place (scan : Scan) : Place := ⟨scan.current, scan.state⟩

theorem line_place (scan : Scan) (index : Nat) (line : List Char) :
    (scan.line index line).place = scan.place.next line := by
  unfold Scan.line Scan.place Place.next
  by_cases plain : scan.state = .plain
  · simp only [plain, if_true]
    cases sectionHeader line with
    | some name => rfl
    | none => cases lineKey line <;> rfl
  · simp only [plain, if_false]

theorem line_keys (scan : Scan) (index : Nat) (line : List Char) :
    (scan.line index line).keys = scan.place.finds line ++ scan.keys := by
  unfold Scan.line Scan.place Place.finds
  by_cases plain : scan.state = .plain
  · simp only [plain, if_true]
    cases sectionHeader line with
    | some name => cases lineKey line <;> rfl
    | none => cases lineKey line <;> rfl
  · simp only [plain, if_false, List.nil_append]

theorem lines_place (scan : Scan) (index : Nat) (lines : List (List Char)) :
    (scan.lines index lines).place = scan.place.after lines := by
  induction lines generalizing scan index with
  | nil => rfl
  | cons line lines ih => rw [Scan.lines, ih, line_place]; rfl

theorem mem_lines_keys (scan : Scan) (index : Nat) (lines : List (List Char))
    (key : String × String) :
    key ∈ (scan.lines index lines).keys ↔
      key ∈ scan.place.gathers lines ∨ key ∈ scan.keys := by
  induction lines generalizing scan index with
  | nil => simp [Scan.lines, Place.gathers]
  | cons line lines ih =>
      rw [Scan.lines, ih, line_place, line_keys, Place.gathers]
      simp only [List.mem_append]
      tauto

theorem mem_sectionKeys (lines : List (List Char)) (key : String × String) :
    key ∈ (sectionKeys lines).keys ↔ key ∈ Place.start.gathers lines := by
  have found := mem_lines_keys Scan.start 0 lines key
  have nothing : Scan.start.keys = [] := rfl
  rw [nothing] at found
  exact found.trans (by simp only [List.not_mem_nil, or_false]; exact Iff.rfl)

theorem sectionKeys_state (lines : List (List Char)) :
    (sectionKeys lines).state = (Place.start.after lines).mode :=
  congrArg Place.mode (lines_place Scan.start 0 lines)

/-! ## Where sections end -/

/-- A place where the lines of a section end: before a header, or at the end of the text. -/
def EndsAt (lines : List (List Char)) (name : String) (index : Nat) : Prop :=
  ∃ front back, lines = front ++ back ∧ front.length = index ∧
    (Place.start.after front).current = name ∧
    (back = [] ∨ (Place.start.after front).mode = .plain ∧
      ∃ header rest, back = header :: rest ∧ (sectionHeader header).isSome = true)

theorem line_endings (scan : Scan) (index : Nat) (line : List Char) {entry : String × Nat}
    (member : entry ∈ (scan.line index line).endings) :
    entry ∈ scan.endings ∨ entry = (scan.current, index) ∧ scan.state = .plain ∧
      (sectionHeader line).isSome = true := by
  unfold Scan.line at member
  by_cases plain : scan.state = .plain
  · simp only [plain, if_true] at member
    cases header : sectionHeader line with
    | some name =>
        simp only [header] at member
        split at member
        · exact .inl member
        · rcases List.mem_cons.mp member with rfl | before
          · exact .inr ⟨rfl, plain, rfl⟩
          · exact .inl before
    | none =>
        simp only [header] at member
        cases key : lineKey line with
        | some found =>
            simp only [key] at member
            exact .inl member
        | none =>
            simp only [key] at member
            exact .inl member
  · simp only [plain, if_false] at member
    exact .inl member

theorem lines_endings {before after : List (List Char)} {scan : Scan}
    (here : scan.place = Place.start.after before)
    (ends : ∀ entry ∈ scan.endings, EndsAt (before ++ after) entry.1 entry.2)
    {entry : String × Nat}
    (member : entry ∈ (scan.lines before.length after).endings) :
    EndsAt (before ++ after) entry.1 entry.2 := by
  induction after generalizing before scan with
  | nil => exact ends entry member
  | cons line after ih =>
      have regroup : before ++ line :: after = (before ++ [line]) ++ after := by simp
      rw [regroup]
      refine @ih (before ++ [line]) (scan.line before.length line) ?_ ?_ ?_
      · rw [line_place, here, after_append]
        rfl
      · intro other known
        rw [← regroup]
        rcases line_endings scan before.length line known with old | ⟨rfl, plain, header⟩
        · exact ends other old
        · refine ⟨before, line :: after, rfl, rfl, ?_, .inr ⟨?_, line, after, rfl, header⟩⟩
          · exact congrArg Place.current here.symm
          · rw [← here]
            exact plain
      · rw [List.length_append]
        exact member

theorem mem_of_lookup {α : Type} {table : List (String × α)} {key : String} {value : α}
    (found : table.lookup key = some value) : (key, value) ∈ table := by
  induction table with
  | nil => cases found
  | cons entry table ih =>
      rcases entry with ⟨name, other⟩
      by_cases same : key = name
      · subst same
        simp only [List.lookup_cons, beq_self_eq_true, Option.some.injEq] at found
        simp [found]
      · have unequal : (key == name) = false := by simpa using same
        simp only [List.lookup_cons, unequal] at found
        exact List.mem_cons_of_mem _ (ih found)

/-- The place where the scan says that a section ends. -/
theorem sectionKeys_endings {lines : List (List Char)} {name : String} {index : Nat}
    (found : (sectionKeys lines).endings.lookup name = some index) : EndsAt lines name index := by
  have member := mem_of_lookup found
  have scanned : ∀ entry ∈ (Scan.start.lines 0 lines).endings, EndsAt lines entry.1 entry.2 :=
    fun entry known => @lines_endings [] lines Scan.start rfl (by simp [Scan.start]) entry known
  simp only [sectionKeys] at member
  split at member
  · exact scanned _ member
  · rcases List.mem_cons.mp member with same | known
    · cases same
      refine ⟨lines, [], by simp, rfl, ?_, .inl rfl⟩
      exact congrArg Place.current (lines_place Scan.start 0 lines).symm
    · exact scanned _ known

/-- A text has one section at each place. -/
theorem EndsAt.unique {lines : List (List Char)} {name other : String} {index : Nat}
    (one : EndsAt lines name index) (two : EndsAt lines other index) : name = other := by
  rcases one with ⟨front, back, split, length, current, _⟩
  rcases two with ⟨front', back', split', length', current', _⟩
  have same : front = front' :=
    (List.append_inj (split.symm.trans split') (length.trans length'.symm)).1
  rw [← current, ← current', same]

theorem EndsAt.le {lines : List (List Char)} {name : String} {index : Nat}
    (ends : EndsAt lines name index) : index ≤ lines.length := by
  rcases ends with ⟨front, back, rfl, rfl, _⟩
  simp

end FortifyLab.Configuration
