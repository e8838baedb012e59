import FortifyLab.Supervisor.HeartbeatFiles
import Mathlib.Data.String.Basic

/-! What the other files of the directory can do to the calls of one issue. -/

namespace FortifyLab.Supervisor

variable (settings : HeartbeatSettings) (runtime : HeartbeatRuntime)

/-! ## Files that the cleanup passes over or reads -/

/-- A file that cannot be read, is not JSON, or is an object whose last activity is missing, is
no timestamp, or has an offset. -/
inductive Harmless : HeartbeatFile → Prop
  | unreadable : Harmless .unreadable
  | notJson : Harmless .notJson
  | invalid : Harmless .invalid
  | untimed (fields : List (String × Value)) :
      fields.lookup "last_activity_at" = none → Harmless (.json (.obj fields))
  | unparsed (fields : List (String × Value)) (text : String) :
      fields.lookup "last_activity_at" = some (.str text) → runtime.parse text = none →
      Harmless (.json (.obj fields))
  | timed (fields : List (String × Value)) (text : String) (instant : ℚ) :
      fields.lookup "last_activity_at" = some (.str text) →
      runtime.parse text = some (.aware instant) → Harmless (.json (.obj fields))

/-- A terminal record that `place` others precede, beyond their number or their age. -/
def Outdated (now : ℚ) (place : Nat) (record : FoundRecord) : Prop :=
  settings.maxTerminalRecords ≤ place ∨ ∃ instant, record.updated = .aware instant ∧
    ((settings.terminalMaxAgeDays * 86400 : Int) : ℚ) < now - instant

/-- A record beyond the limits, by its age or by the records that are more recent. -/
def Exceeds (records : List FoundRecord) (now : ℚ) (record : FoundRecord) : Prop :=
  (record.terminal = true ∧ Outdated settings now ((records.filter FoundRecord.terminal).filter
    (fun other => other.Before record ∧ other.name ≠ record.name)).length record) ∨
  settings.maxRecords ≤
    (records.filter (fun other => other.Before record ∧ other.name ≠ record.name)).length

variable {settings runtime}

theorem observeFile_name {name : String} {file : HeartbeatFile} {record : FoundRecord}
    (found : observeFile runtime name file = .ok (some record)) : record.name = name := by
  cases file with
  | json value =>
      cases value with
      | obj fields =>
          simp only [observeFile] at found
          split at found
          · cases found
          · next text _ =>
              rw [Except.ok.injEq, Option.map_eq_some_iff] at found
              obtain ⟨updated, _, rfl⟩ := found
              rfl
          · cases found
      | _ => cases found
  | _ => cases found

/-- A harmless file is observed, at an instant; every other one raises or has no offset. -/
theorem harmless_iff (name : String) (file : HeartbeatFile) :
    Harmless runtime file ↔ ∃ found, observeFile runtime name file = .ok found ∧
      ∀ record ∈ found, record.updated.isAware = true := by
  constructor
  · intro harmless
    cases harmless with
    | unreadable => exact ⟨none, rfl, by simp⟩
    | notJson => exact ⟨none, rfl, by simp⟩
    | invalid => exact ⟨none, rfl, by simp⟩
    | untimed fields missing => exact ⟨none, by simp [observeFile, missing], by simp⟩
    | unparsed fields text known wrong =>
        exact ⟨none, by simp [observeFile, known, wrong], by simp⟩
    | timed fields text instant known parsed =>
        refine ⟨some ⟨name, .aware instant, (fields.lookup "phase").any isTerminalPhase⟩,
          by simp [observeFile, known, parsed], ?_⟩
        intro record same
        cases same
        rfl
  · intro ⟨found, observed, aware⟩
    cases file with
    | unreadable => exact .unreadable
    | notJson => exact .notJson
    | invalid => exact .invalid
    | tooDeep => cases observed
    | json value =>
        cases value with
        | obj fields =>
            simp only [observeFile] at observed
            split at observed
            · next missing => exact .untimed fields missing
            · next text known =>
                rw [Except.ok.injEq] at observed
                cases parsed : runtime.parse text with
                | none => exact .unparsed fields text known parsed
                | some moment =>
                    rw [parsed, Option.map_some] at observed
                    subst observed
                    cases moment with
                    | aware instant => exact .timed fields text instant known parsed
                    | naive reading => cases aware _ rfl
            · cases observed
        | _ => cases observed

theorem observeFile_error {name : String} {file : HeartbeatFile} {error : FileError}
    (raised : observeFile runtime name file = .error error) : error = .other := by
  cases file with
  | json value =>
      cases value with
      | obj fields =>
          simp only [observeFile] at raised
          split at raised
          · cases raised
          · cases raised
          · cases raised
            rfl
      | _ => cases raised; rfl
  | tooDeep => cases raised; rfl
  | _ => cases raised

/-- The first loop: what it collects, and what it raises. -/
theorem observeFiles_ok {directory : HeartbeatDirectory} {records : List FoundRecord}
    (observed : observeFiles runtime directory = .ok records) :
    (∀ entry ∈ directory, ∃ found, observeFile runtime entry.1 entry.2 = .ok found ∧
        ∀ record ∈ found, record ∈ records) ∧
      (∀ record ∈ records, ∃ entry ∈ directory,
        observeFile runtime entry.1 entry.2 = .ok (some record)) ∧
      (records.map FoundRecord.name).Sublist (directory.map Prod.fst) := by
  induction directory generalizing records with
  | nil =>
      cases observed
      simp
  | cons entry rest ih =>
      obtain ⟨name, file⟩ := entry
      simp only [observeFiles, bind_ok] at observed
      obtain ⟨found, first, later, others, total⟩ := observed
      obtain ⟨each, from', names⟩ := ih others
      cases total
      refine ⟨?_, ?_, ?_⟩
      · intro entry member
        rcases List.mem_cons.mp member with rfl | member
        · exact ⟨found, first, fun record inside =>
            List.mem_append_left _ (Option.mem_toList.mpr inside)⟩
        · obtain ⟨seen, known, inside⟩ := each entry member
          exact ⟨seen, known, fun record here => List.mem_append_right _ (inside record here)⟩
      · intro record member
        rcases List.mem_append.mp member with here | there
        · have same : found = some record := Option.mem_toList.mp here
          exact ⟨(name, file), List.mem_cons_self, by rw [first, same]⟩
        · obtain ⟨entry, known, seen⟩ := from' record there
          exact ⟨entry, List.mem_cons_of_mem _ known, seen⟩
      · cases found with
        | none => exact names.cons _
        | some record =>
            rw [List.map_append, List.map_cons]
            simpa [observeFile_name first] using names

theorem observeFiles_error {directory : HeartbeatDirectory} {error : FileError}
    (raised : observeFiles runtime directory = .error error) :
    error = .other ∧ ∃ entry ∈ directory, observeFile runtime entry.1 entry.2 = .error error := by
  induction directory with
  | nil => cases raised
  | cons entry rest ih =>
      obtain ⟨name, file⟩ := entry
      cases first : observeFile runtime name file with
      | error problem =>
          simp only [observeFiles, first] at raised
          cases raised
          exact ⟨observeFile_error first, (name, file), List.mem_cons_self, first⟩
      | ok found =>
          cases others : observeFiles runtime rest with
          | error problem =>
              simp only [observeFiles, first, others] at raised
              cases raised
              obtain ⟨same, entry, member, known⟩ := ih others
              exact ⟨same, entry, List.mem_cons_of_mem _ member, known⟩
          | ok records =>
              simp only [observeFiles, first, others] at raised
              cases raised

/-! ## The sorts -/

instance : Std.Total FoundRecord.Before where
  total left right := by
    unfold FoundRecord.Before
    cases left.updated <;> cases right.updated <;> simp only [or_true, true_or]
    all_goals
      next first second =>
        rcases lt_trichotomy first second with less | same | more
        · exact .inr (.inl less)
        · rcases le_total left.name right.name with early | late
          · exact .inr (.inr ⟨same, early⟩)
          · exact .inl (.inr ⟨same.symm, late⟩)
        · exact .inl (.inl more)

instance : IsTrans FoundRecord FoundRecord.Before where
  trans left middle right := by
    unfold FoundRecord.Before
    cases left.updated <;> cases middle.updated <;> cases right.updated <;>
      simp only [imp_self, implies_true, false_implies]
    all_goals
      intro first second
      rcases first with less | ⟨same, early⟩
      · rcases second with less' | ⟨same', _⟩
        · exact .inl (less'.trans less)
        · exact .inl (same' ▸ less)
      · rcases second with less' | ⟨same', early'⟩
        · exact .inl (same ▸ less')
        · exact .inr ⟨same'.trans same, early'.trans early⟩

/-- The sort answers where all records have an offset, or none has one. -/
theorem sortFound_cases (records : List FoundRecord) :
    ((∀ left ∈ records, ∀ right ∈ records, left.updated.isAware = right.updated.isAware) ∧
        sortChecked compareFound records = .ok (records.insertionSort FoundRecord.Before)) ∨
      ((∃ left ∈ records, ∃ right ∈ records, left.updated.isAware ≠ right.updated.isAware) ∧
        sortChecked compareFound records = .error .other) := by
  by_cases mixed : ∃ left ∈ records, ∃ right ∈ records,
      left.updated.isAware ≠ right.updated.isAware
  · obtain ⟨left, first, right, second, apart⟩ := mixed
    have agrees : ∀ one other : FoundRecord, one.updated.isAware = other.updated.isAware →
        compareFound one other = .ok (decide (one.Before other)) := by
      intro one other same
      simp [compareFound, same]
    have differs : ∀ one other : FoundRecord, one.updated.isAware ≠ other.updated.isAware →
        compareFound one other = .error .other := by
      intro one other differ
      simp [compareFound, differ]
    exact .inr ⟨⟨left, first, right, second, apart⟩,
      sortChecked_mixed agrees differs first second apart⟩
  · have uniform : ∀ left ∈ records, ∀ right ∈ records,
        left.updated.isAware = right.updated.isAware := by
      intro left first right second
      by_contra apart
      exact mixed ⟨left, first, right, second, apart⟩
    refine .inl ⟨uniform, sortChecked_ok ?_⟩
    intro left first right second
    simp [compareFound, uniform left first right second]

/-- A record at a place of a sorted list has so many others before it. -/
theorem count_before {records : List FoundRecord} (distinct : (records.map FoundRecord.name).Nodup)
    {index : Nat} {record : FoundRecord}
    (found : (records.insertionSort FoundRecord.Before)[index]? = some record) :
    index ≤ (records.filter
      (fun other => other.Before record ∧ other.name ≠ record.name)).length := by
  have perm := List.perm_insertionSort FoundRecord.Before records
  have names : (records.insertionSort FoundRecord.Before).Pairwise
      (fun left right => left.name ≠ right.name) :=
    List.pairwise_map.mp ((perm.map FoundRecord.name).nodup_iff.mpr distinct)
  have ordered := (List.pairwise_insertionSort FoundRecord.Before records).and names
  calc
    index ≤ ((records.insertionSort FoundRecord.Before).filter
        (fun other => other.Before record ∧ other.name ≠ record.name)).length :=
      index_le_filter ordered found
    _ = _ := (perm.filter _).length_eq

/-! ## What the cleanup removes -/

theorem mem_removeFile {directory : HeartbeatDirectory} {name : String}
    {entry : String × HeartbeatFile} :
    entry ∈ removeFile directory name ↔ entry ∈ directory ∧ entry.1 ≠ name := by
  simp [removeFile]

theorem removeOutdated_spec {now : ℚ} {records : List FoundRecord}
    (aware : ∀ record ∈ records, record.updated.isAware = true) (index : Nat)
    (directory : HeartbeatDirectory) :
    ∃ left, removeOutdated settings now index records directory = (.ok (), left) ∧
      ∀ entry ∈ directory, entry ∉ left → ∃ place record, records[place]? = some record ∧
        record.name = entry.1 ∧ Outdated settings now (index + place) record := by
  induction records generalizing index directory with
  | nil => exact ⟨directory, rfl, fun entry member gone => absurd member gone⟩
  | cons record rest ih =>
      have others := ih (fun other member => aware other (List.mem_cons_of_mem _ member))
        (index + 1)
      -- where the record is removed, its entry is the first place
      have removed : ∀ left : HeartbeatDirectory, Outdated settings now index record →
          (∀ entry ∈ removeFile directory record.name, entry ∉ left → ∃ place later,
            rest[place]? = some later ∧ later.name = entry.1 ∧
              Outdated settings now (index + 1 + place) later) →
          ∀ entry ∈ directory, entry ∉ left → ∃ place later,
            (record :: rest)[place]? = some later ∧ later.name = entry.1 ∧
              Outdated settings now (index + place) later := by
        intro left outdated spec entry member gone
        by_cases here : entry.1 = record.name
        · exact ⟨0, record, rfl, here.symm, outdated⟩
        · obtain ⟨place, later, found, same, limits⟩ :=
            spec entry (mem_removeFile.mpr ⟨member, here⟩) gone
          exact ⟨place + 1, later, found, same, by rwa [Nat.add_right_comm] at limits⟩
      simp only [removeOutdated]
      by_cases many : settings.maxTerminalRecords ≤ index
      · obtain ⟨left, runs, spec⟩ := others (removeFile directory record.name)
        rw [if_pos many]
        exact ⟨left, runs, removed left (.inl many) spec⟩
      · rw [if_neg many]
        cases updated : record.updated with
        | naive reading =>
            have offset := aware record List.mem_cons_self
            rw [updated] at offset
            cases offset
        | aware instant =>
            simp only [secondsSince]
            by_cases old : ((settings.terminalMaxAgeDays * 86400 : Int) : ℚ) < now - instant
            · obtain ⟨left, runs, spec⟩ := others (removeFile directory record.name)
              rw [if_pos old]
              exact ⟨left, runs, removed left (.inr ⟨instant, updated, old⟩) spec⟩
            · obtain ⟨left, runs, spec⟩ := others directory
              rw [if_neg old]
              refine ⟨left, runs, fun entry member gone => ?_⟩
              obtain ⟨place, later, found, same, limits⟩ := spec entry member gone
              exact ⟨place + 1, later, found, same, by rwa [Nat.add_right_comm] at limits⟩

theorem mem_removeFiles {records : List FoundRecord} {directory : HeartbeatDirectory}
    {entry : String × HeartbeatFile} (member : entry ∈ directory)
    (gone : entry ∉ records.foldl (fun directory record => removeFile directory record.name)
      directory) : ∃ record ∈ records, record.name = entry.1 := by
  induction records generalizing directory with
  | nil => exact absurd member gone
  | cons record rest ih =>
      by_cases here : entry.1 = record.name
      · exact ⟨record, List.mem_cons_self, here.symm⟩
      · obtain ⟨other, known, same⟩ := ih (mem_removeFile.mpr ⟨member, here⟩) gone
        exact ⟨other, List.mem_cons_of_mem _ known, same⟩

/-- The cleanup of harmless files: it removes what is beyond the limits. -/
theorem cleanupFiles_ok {directory : HeartbeatDirectory} (now : ℚ)
    (distinct : (directory.map Prod.fst).Nodup)
    (harmless : ∀ entry ∈ directory, Harmless runtime entry.2) :
    ∃ left records, cleanupFiles settings runtime now directory = (.ok (), left) ∧
      observeFiles runtime directory = .ok records ∧
      ∀ entry ∈ directory, entry ∉ left → ∃ record,
        observeFile runtime entry.1 entry.2 = .ok (some record) ∧
        Exceeds settings records now record := by
  cases observed : observeFiles runtime directory with
  | error error =>
      obtain ⟨_, entry, member, raised⟩ := observeFiles_error observed
      obtain ⟨found, known, _⟩ := (harmless_iff entry.1 entry.2).mp (harmless entry member)
      rw [known] at raised
      cases raised
  | ok records =>
      obtain ⟨_, from', names⟩ := observeFiles_ok observed
      have unique : (records.map FoundRecord.name).Nodup := names.nodup distinct
      have aware : ∀ record ∈ records, record.updated.isAware = true := by
        intro record member
        obtain ⟨entry, known, seen⟩ := from' record member
        obtain ⟨found, again, offset⟩ := (harmless_iff entry.1 entry.2).mp (harmless entry known)
        rw [seen, Except.ok.injEq] at again
        exact offset record again.symm
      have sorts : ∀ some' : List FoundRecord, (∀ record ∈ some', record ∈ records) →
          sortChecked compareFound some' = .ok (some'.insertionSort FoundRecord.Before) := by
        intro some' inside
        rcases sortFound_cases some' with ⟨_, sorted⟩ | ⟨⟨left, first, right, second, apart⟩, _⟩
        · exact sorted
        · exact absurd ((aware left (inside left first)).trans
            (aware right (inside right second)).symm) apart
      have terminals := sorts (records.filter FoundRecord.terminal)
        (fun record member => (List.mem_filter.mp member).1)
      have all := sorts records (fun _ member => member)
      have offsets : ∀ record ∈
          (records.filter FoundRecord.terminal).insertionSort FoundRecord.Before,
          record.updated.isAware = true := by
        intro record member
        rw [List.mem_insertionSort] at member
        exact aware record (List.mem_filter.mp member).1
      obtain ⟨kept, runs, spec⟩ := @removeOutdated_spec settings now _ offsets 0 directory
      refine ⟨((records.insertionSort FoundRecord.Before).drop settings.maxRecords).foldl
        (fun directory record => removeFile directory record.name) kept, records,
        by simp only [cleanupFiles, observed, terminals, all, runs], rfl, ?_⟩
      intro entry member gone
      -- a record of the name is the one that was observed in the file
      have own : ∀ record ∈ records, record.name = entry.1 →
          observeFile runtime entry.1 entry.2 = .ok (some record) := by
        intro record known same
        obtain ⟨other, there, seen⟩ := from' record known
        have equal : other = entry :=
          List.inj_on_of_nodup_map distinct there member ((observeFile_name seen).symm.trans same)
        rwa [equal] at seen
      by_cases early : entry ∈ kept
      · obtain ⟨record, dropped, same⟩ := mem_removeFiles early gone
        obtain ⟨place, found⟩ := List.mem_iff_getElem?.mp dropped
        rw [List.getElem?_drop] at found
        have known : record ∈ records :=
          (List.mem_insertionSort _).mp (List.mem_of_getElem? found)
        exact ⟨record, own record known same,
          .inr ((Nat.le_add_right _ place).trans (count_before unique found))⟩
      · obtain ⟨place, record, found, same, limits⟩ := spec entry member early
        have inside := (List.mem_insertionSort _).mp (List.mem_of_getElem? found)
        obtain ⟨known, terminal⟩ := List.mem_filter.mp inside
        refine ⟨record, own record known same, .inl ⟨terminal, ?_⟩⟩
        rcases limits with many | old
        · rw [Nat.zero_add] at many
          have few := count_before ((List.filter_sublist.map FoundRecord.name).nodup unique) found
          exact .inl (many.trans few)
        · exact .inr old

/-- A file that is not harmless stops the cleanup before it removes anything. -/
theorem cleanupFiles_error {directory : HeartbeatDirectory} (now : ℚ)
    {own : String × HeartbeatFile} (there : own ∈ directory) {record : FoundRecord}
    (seen : observeFile runtime own.1 own.2 = .ok (some record))
    (offset : record.updated.isAware = true) {entry : String × HeartbeatFile}
    (member : entry ∈ directory) (harmful : ¬ Harmless runtime entry.2) :
    cleanupFiles settings runtime now directory = (.error .other, directory) := by
  cases observed : observeFiles runtime directory with
  | error error => simp only [cleanupFiles, observed, (observeFiles_error observed).1]
  | ok records =>
      obtain ⟨each, _, _⟩ := observeFiles_ok observed
      obtain ⟨found, known, inside⟩ := each entry member
      obtain ⟨other, same, reading⟩ : ∃ other, found = some other ∧
          other.updated.isAware ≠ true := by
        by_contra all
        refine harmful ((harmless_iff entry.1 entry.2).mpr ⟨found, known, fun other same => ?_⟩)
        by_contra reading
        exact all ⟨other, same, reading⟩
      obtain ⟨first, again, held⟩ := each own there
      rw [seen, Except.ok.injEq] at again
      have apart : record.updated.isAware ≠ other.updated.isAware :=
        fun equal => reading (equal ▸ offset)
      have all : sortChecked compareFound records = .error .other := by
        rcases sortFound_cases records with ⟨uniform, _⟩ | ⟨_, raised⟩
        · exact absurd (uniform record (held record again.symm) other (inside other same)) apart
        · exact raised
      rcases sortFound_cases (records.filter FoundRecord.terminal) with ⟨_, sorted⟩ | ⟨_, raised⟩
      · simp only [cleanupFiles, observed, sorted, all]
      · simp only [cleanupFiles, observed, raised]

/-! ## A call on a valid file -/

/-- The object of an issue that `update` can read. -/
structure ValidFields (runtime : HeartbeatRuntime) (fields : List (String × Value)) : Prop where
  writer : ∃ value, fields.lookup "writer_id" = some value
  generation : ∃ value number, fields.lookup "generation" = some value ∧
    runtime.int value = some number
  phase : ∃ text, fields.lookup "phase" = some (.str text) ∧ text ∈ phases ++ terminalPhases
  revision : ∃ value number, fields.lookup "revision" = some value ∧
    runtime.int value = some number
  started : ∃ text instant, fields.lookup "started_at" = some (.str text) ∧
    runtime.parse text = some (.aware instant)

/-- The file of an issue is valid where it is there. -/
def ValidFile (runtime : HeartbeatRuntime) (own : Option HeartbeatFile) : Prop :=
  ∀ file, own = some file → ∃ fields, file = .json (.obj fields) ∧ ValidFields runtime fields

/-- A phase argument that goes back. -/
def GoesBack (fields : List (String × Value)) (change : HeartbeatChange) : Prop :=
  ∃ phase current, change.phase = some phase ∧ fields.lookup "phase" = some (.str current) ∧
    phase ∉ terminalPhases ∧ phases.idxOf phase < phases.idxOf current

/-- What the arguments or the file of the issue do not allow. -/
def Refuses (runtime : HeartbeatRuntime) (own : Option HeartbeatFile) : HeartbeatCall → Prop
  | .start issue milestone policyGeneration policyDigest _ =>
      ¬ (1 ≤ issue ∧ milestone ≠ "" ∧ milestone.length ≤ 200) ∨
        ¬ (0 ≤ policyGeneration ∧ isDigest policyDigest = true)
  | .update _ writerId generation change =>
      checkChange change ≠ .ok () ∨ own = none ∨
        ∃ fields, own = some (.json (.obj fields)) ∧
          (fields.lookup "writer_id" ≠ some (.str writerId) ∨
            (fields.lookup "generation").bind runtime.int ≠ some generation ∨
            (fields.lookup "phase").any isTerminalPhase = true ∨ GoesBack fields change)

theorem ok_then {ε α β : Type} (value : α) (rest : α → Except ε β) :
    (Except.ok value >>= rest) = rest value := rfl

theorem error_then {ε α β : Type} (error : ε) (rest : α → Except ε β) :
    (Except.error error >>= rest) = .error error := rfl

theorem lookup_assign (fields : List (String × Value)) (key other : String) (value : Value) :
    (assign fields key value).lookup other =
      if other = key then some value else fields.lookup other :=
  Redaction.setField_lookup fields key other value

theorem lookup_assignGiven {fields : List (String × Value)} {key other : String}
    (apart : other ≠ key) (value : Option Value) :
    (assignGiven fields key value).lookup other = fields.lookup other := by
  cases value with
  | none => rfl
  | some value => rw [assignGiven, lookup_assign, if_neg apart]

theorem item_ok {fields : List (String × Value)} {key : String} {value : Value}
    (found : fields.lookup key = some value) : item (.obj fields) key = .ok value := by
  simp [item, Value.get, found]

theorem intItem_ok {fields : List (String × Value)} {key : String} {value : Value} {number : Int}
    (found : fields.lookup key = some value) (read : runtime.int value = some number) :
    intItem runtime (.obj fields) key = .ok number := by
  simp only [intItem, item_ok found, ok_then, read]

theorem isTerminalPhase_text (text : String) :
    isTerminalPhase (.str text) = terminalPhases.contains text := by
  simp only [isTerminalPhase, terminalPhases, Value.isText, List.any_cons, List.any_nil,
    List.contains_cons, List.contains_nil]

/-- The phase argument of a valid record: it is refused where it goes back. -/
theorem moveFields_spec {fields : List (String × Value)} {change : HeartbeatChange}
    {current : String} (now : ℚ) (there : fields.lookup "phase" = some (.str current))
    (open' : current ∈ phases)
    (checked : ∀ phase ∈ change.phase, (phases ++ terminalPhases).contains phase = true) :
    (GoesBack fields change ∧
        moveFields runtime fields (.str current) change.phase now =
          .error (.refused .stalePhase)) ∨
      (¬ GoesBack fields change ∧ ∃ moved phase,
        moveFields runtime fields (.str current) change.phase now = .ok moved ∧
        moved.lookup "phase" = some (.str phase) ∧ phase ∈ phases ++ terminalPhases ∧
        moved.lookup "started_at" = fields.lookup "started_at") := by
  cases given : change.phase with
  | none =>
      refine .inr ⟨?_, fields, current, rfl, there, List.mem_append_left _ open', rfl⟩
      rintro ⟨phase, _, same, _⟩
      rw [given] at same
      cases same
  | some phase =>
      have known : phase ∈ phases ++ terminalPhases := by
        simpa using checked phase given
      by_cases stays : phase = current
      · subst stays
        refine .inr ⟨?_, fields, phase, by simp [moveFields, Value.isText], there, known, rfl⟩
        rintro ⟨other, stored, same, found, _, earlier⟩
        rw [given, Option.some.injEq] at same
        rw [there, Option.some.injEq, Value.str.injEq] at found
        subst same
        subst found
        omega
      · have moves : Value.isText (.str current) phase = false := by
          have apart : ¬ current = phase := fun equal => stays equal.symm
          simp [Value.isText, apart]
        have assigned : ∀ (safe start : Value), ∃ moved, moved = assign (assign (assign fields
            "last_completed_safe_step" safe) "phase" (.str phase)) "phase_started_at" start ∧
            moved.lookup "phase" = some (.str phase) ∧
            moved.lookup "started_at" = fields.lookup "started_at" := by
          intro safe start
          exact ⟨_, rfl, by simp [lookup_assign], by simp [lookup_assign]⟩
        obtain ⟨moved, made, phased, started⟩ := assigned
          (.str (String.ofList ((runtime.str (.str current)).toList.take 40)))
          (.str (runtime.timestamp now))
        have back : GoesBack fields change ↔
            phase ∉ terminalPhases ∧ phases.idxOf phase < phases.idxOf current := by
          simp [GoesBack, given, there]
        rw [back]
        by_cases terminal : phase ∈ terminalPhases
        · refine .inr ⟨fun goes => goes.1 terminal, moved, phase, ?_, phased, known, started⟩
          have inside : terminalPhases.contains phase = true := by simpa using terminal
          simp only [moveFields, moves, inside, made, Bool.false_eq_true, if_false]
          rfl
        · have outside : terminalPhases.contains phase = false := by simpa using terminal
          have index : phaseIndex (.str current) = .ok (phases.idxOf current) := by
            simp [phaseIndex, open']
          by_cases earlier : phases.idxOf phase < phases.idxOf current
          · refine .inl ⟨⟨terminal, earlier⟩, ?_⟩
            have late : ¬ phases.idxOf current ≤ phases.idxOf phase := by omega
            simp only [moveFields, moves, outside, index, ok_then, check, if_neg late,
              Bool.false_eq_true, if_false, if_true]
            rfl
          · refine .inr ⟨fun goes => earlier goes.2, moved, phase, ?_, phased, known, started⟩
            have late : phases.idxOf current ≤ phases.idxOf phase := by omega
            simp only [moveFields, moves, outside, index, ok_then, check, if_pos late, made,
              Bool.false_eq_true, if_false, if_true]
            rfl

theorem updateFields_spec {fields : List (String × Value)} (valid : ValidFields runtime fields)
    {change : HeartbeatChange} {current : String} (now : ℚ)
    (there : fields.lookup "phase" = some (.str current)) (open' : current ∈ phases)
    (checked : ∀ phase ∈ change.phase, (phases ++ terminalPhases).contains phase = true) :
    (GoesBack fields change ∧
        updateFields runtime fields (.str current) change now = .error (.refused .stalePhase)) ∨
      (¬ GoesBack fields change ∧ ∃ updated,
        updateFields runtime fields (.str current) change now = .ok updated ∧
        updated.lookup "last_activity_at" = some (.str (runtime.timestamp now))) := by
  rcases @moveFields_spec runtime fields change current now there open' checked with
    ⟨back, refused⟩ | ⟨forth, moved, phase, moves, phased, known, started⟩
  · refine .inl ⟨back, ?_⟩
    simp only [updateFields, refused, error_then]
  · obtain ⟨value, revision, stored, read⟩ := valid.revision
    obtain ⟨text, instant, begun, parsed⟩ := valid.started
    have transition : ∃ next, transitionOf (.str phase) = .ok next := by
      have listed : (phases ++ terminalPhases).contains phase = true := by simpa using known
      exact ⟨_, by rw [transitionOf, if_pos listed]⟩
    obtain ⟨next, transition⟩ := transition
    refine .inr ⟨forth, ?_⟩
    simp only [updateFields, moves, ok_then, intItem_ok stored read]
    have start : ∀ active : List (String × Value), active.lookup "started_at" =
        some (.str text) → item (.obj active) "started_at" = .ok (.str text) :=
      fun _ found => item_ok found
    have stays : ∀ timed : List (String × Value), timed.lookup "phase" = some (.str phase) →
        item (.obj timed) "phase" = .ok (.str phase) :=
      fun _ found => item_ok found
    rw [start]
    · simp only [ok_then, elapsedSince, parsed, secondsSince]
      rw [stays]
      · simp only [ok_then, transition]
        exact ⟨_, rfl, by simp [lookup_assign]⟩
      · simp [lookup_assign, lookup_assignGiven, phased]
    · simp [lookup_assign, lookup_assignGiven, started, begun]

theorem checkChange_phase {change : HeartbeatChange} (checked : checkChange change = .ok ()) :
    ∀ phase ∈ change.phase, (phases ++ terminalPhases).contains phase = true := by
  simp only [checkChange, bind_ok, check_ok] at checked
  obtain ⟨_, known, _⟩ := checked
  exact known

/-- A call on a valid file is refused by a `HeartbeatError`, or has a document to write. -/
theorem documentOf_spec {own : Option HeartbeatFile} (valid : ValidFile runtime own) (now : ℚ)
    (call : HeartbeatCall) :
    (Refuses runtime own call ∧ ∃ error, documentOf runtime own now call =
        .error (.refused error)) ∨
      (¬ Refuses runtime own call ∧ ∃ fields, documentOf runtime own now call =
        .ok (.obj fields) ∧
          fields.lookup "last_activity_at" = some (.str (runtime.timestamp now))) := by
  cases call with
  | start issue milestone policyGeneration policyDigest writerId =>
      simp only [Refuses]
      by_cases identity : 1 ≤ issue ∧ milestone ≠ "" ∧ milestone.length ≤ 200
      · by_cases policy : 0 ≤ policyGeneration ∧ isDigest policyDigest = true
        · refine .inr ⟨by simp [identity, policy], ?_⟩
          obtain ⟨generation, made⟩ : ∃ generation,
              (readFile own >>= fun previous => startGeneration runtime previous) =
                .ok generation := by
            cases own with
            | none => exact ⟨1, rfl⟩
            | some file =>
                obtain ⟨fields, rfl, known⟩ := valid file rfl
                obtain ⟨value, number, stored, read⟩ := known.generation
                have filled : (Value.obj fields).truthy = true := by
                  cases fields with
                  | nil => cases stored
                  | cons field rest => rfl
                refine ⟨number + 1, ?_⟩
                simp only [readFile, ok_then, startGeneration, filled, if_true,
                  intItem_ok stored read]
                rfl
          simp only [documentOf, check, if_pos identity, if_pos policy, ok_then]
          cases previous : readFile own with
          | error error =>
              rw [previous, error_then] at made
              cases made
          | ok previous' =>
              rw [previous, ok_then] at made
              simp only [ok_then, made]
              exact ⟨_, rfl, rfl⟩
        · refine .inl ⟨.inr policy, .invalidPolicyIdentity, ?_⟩
          simp only [documentOf, check, if_pos identity, if_neg policy, ok_then, error_then]
      · refine .inl ⟨.inl identity, .invalidIdentity, ?_⟩
        simp only [documentOf, check, if_neg identity, error_then]
  | update issue writerId generation change =>
      simp only [Refuses]
      cases checked : checkChange change with
      | error error =>
          refine .inl ⟨.inl (by simp), error, ?_⟩
          simp only [documentOf, checked, refusal, error_then]
      | ok passed =>
          cases own with
          | none =>
              refine .inl ⟨.inr (.inl rfl), .missing, ?_⟩
              simp only [documentOf, checked, refusal, ok_then, readFile]
          | some file =>
              obtain ⟨fields, rfl, known⟩ := valid file rfl
              obtain ⟨writer, written⟩ := known.writer
              obtain ⟨value, number, stored, read⟩ := known.generation
              obtain ⟨current, there, listed⟩ := known.phase
              simp only [ne_eq, not_true_eq_false, false_or, reduceCtorEq, Option.some.injEq,
                HeartbeatFile.json.injEq, Value.obj.injEq, exists_eq_left', written, stored,
                Option.bind_some, read, there, Option.any_some, documentOf, checked, refusal,
                ok_then, readFile, item_ok written, item_ok there, intItem_ok stored read]
              by_cases wrote : writer = .str writerId
              · have same : writer.isText writerId = true := Value.isText_iff.mpr wrote
                by_cases fenced : number = generation
                · by_cases terminal : isTerminalPhase (.str current) = true
                  · refine .inl ⟨.inr (.inr (.inl terminal)), .terminal, ?_⟩
                    simp only [check, if_pos same, if_pos fenced, terminal, ok_then,
                      Bool.true_eq_false, if_false, error_then]
                  · have open' : current ∈ phases := by
                      rw [isTerminalPhase_text, List.contains_iff_mem] at terminal
                      exact (List.mem_append.mp listed).resolve_right terminal
                    have running : isTerminalPhase (.str current) = false := by
                      simpa using terminal
                    simp only [check, if_pos same, if_pos fenced, running, ok_then, if_true]
                    rcases updateFields_spec known now there open' (checkChange_phase checked) with
                      ⟨back, refused⟩ | ⟨forth, updated, made, active⟩
                    · exact .inl ⟨.inr (.inr (.inr back)), .stalePhase, by
                        rw [refused, error_then]⟩
                    · refine .inr ⟨by simp [wrote, fenced, forth], updated, ?_, active⟩
                      rw [made]
                      rfl
                · refine .inl ⟨.inr (.inl fenced), .staleWriter, ?_⟩
                  simp only [check, if_pos same, if_neg fenced, ok_then, error_then]
              · have other : ¬ writer.isText writerId = true :=
                  fun same => wrote (Value.isText_iff.mp same)
                refine .inl ⟨.inl wrote, .staleWriter, ?_⟩
                simp only [check, if_neg other, error_then]

/-! ## The whole call -/

/-- The file of one issue, alone. -/
def ownFiles (directory : HeartbeatDirectory) (name : String) : HeartbeatDirectory :=
  directory.filter (fun entry => entry.1 = name)

/-- The call is answered as if its own file were alone, changes nothing where it raises, and
removes records beyond the limits only. -/
structure Isolated (settings : HeartbeatSettings) (runtime : HeartbeatRuntime)
    (call : HeartbeatCall) (now : ℚ) (directory : HeartbeatDirectory) : Prop where
  answered : (∃ document, (call.runFiles settings runtime now directory).1 = .ok document) ∨
    (∃ error, (call.runFiles settings runtime now directory).1 = .error (.refused error)) ∨
    (call.runFiles settings runtime now directory).1 = .error .unreadable
  alone : (call.runFiles settings runtime now directory).1 =
    (call.runFiles settings runtime now (ownFiles directory (recordName call.issue))).1
  kept : ∀ error, (call.runFiles settings runtime now directory).1 = .error error →
    (call.runFiles settings runtime now directory).2 = directory
  removes : ∀ document, (call.runFiles settings runtime now directory).1 = .ok document →
    ∀ entry ∈ writeFile directory (recordName call.issue) document,
      entry ∉ (call.runFiles settings runtime now directory).2 →
      ∃ records record,
        observeFiles runtime (writeFile directory (recordName call.issue) document) =
          .ok records ∧
        observeFile runtime entry.1 entry.2 = .ok (some record) ∧
        Exceeds settings records now record

theorem mem_writeFile {directory : HeartbeatDirectory} {name : String} {document : Value}
    {entry : String × HeartbeatFile} : entry ∈ writeFile directory name document ↔
      entry ∈ directory ∧ entry.1 ≠ name ∨ entry = (name, .json document) := by
  rw [writeFile, List.mem_append, mem_removeFile, List.mem_singleton]

theorem nodup_writeFile {directory : HeartbeatDirectory}
    (distinct : (directory.map Prod.fst).Nodup) (name : String) (document : Value) :
    ((writeFile directory name document).map Prod.fst).Nodup := by
  rw [writeFile, List.map_append]
  refine List.nodup_append.mpr ⟨(List.filter_sublist.map Prod.fst).nodup distinct,
    List.nodup_singleton _, ?_⟩
  intro left first right second same
  obtain ⟨entry, member, rfl⟩ := List.mem_map.mp first
  exact (mem_removeFile.mp member).2 (same.trans (List.mem_singleton.mp second))

theorem lookup_ownFiles (directory : HeartbeatDirectory) (name : String) :
    (ownFiles directory name).lookup name = directory.lookup name := by
  induction directory with
  | nil => rfl
  | cons entry rest ih =>
      obtain ⟨other, file⟩ := entry
      simp only [ownFiles] at ih ⊢
      by_cases here : other = name
      · simp [here]
      · have apart : (name == other) = false := beq_false_of_ne (fun same => here same.symm)
        simp [List.lookup_cons, here, apart, ih]

theorem mem_ownFiles {directory : HeartbeatDirectory} {name : String}
    {entry : String × HeartbeatFile} (member : entry ∈ ownFiles directory name) :
    entry.1 = name := by
  simpa using (List.mem_filter.mp member).2

/-- Where the call is not refused: its document is stored, and the cleanup answers. -/
theorem runFiles_ok {call : HeartbeatCall} {now : ℚ} {directory : HeartbeatDirectory}
    (stamped : ∃ instant, runtime.parse (runtime.timestamp now) = some (.aware instant))
    (distinct : (directory.map Prod.fst).Nodup) {fields : List (String × Value)}
    (made : documentOf runtime (directory.lookup (recordName call.issue)) now call =
      .ok (.obj fields))
    (active : fields.lookup "last_activity_at" = some (.str (runtime.timestamp now)))
    (harmless : ∀ entry ∈ directory, entry.1 ≠ recordName call.issue →
      Harmless runtime entry.2) :
    ∃ left records, call.runFiles settings runtime now directory = (.ok (.obj fields), left) ∧
      observeFiles runtime (writeFile directory (recordName call.issue) (.obj fields)) =
        .ok records ∧
      ∀ entry ∈ writeFile directory (recordName call.issue) (.obj fields), entry ∉ left →
        ∃ record, observeFile runtime entry.1 entry.2 = .ok (some record) ∧
          Exceeds settings records now record := by
  obtain ⟨instant, parsed⟩ := stamped
  have all : ∀ entry ∈ writeFile directory (recordName call.issue) (.obj fields),
      Harmless runtime entry.2 := by
    intro entry member
    rcases mem_writeFile.mp member with ⟨there, other⟩ | rfl
    · exact harmless entry there other
    · exact .timed fields _ instant active parsed
  obtain ⟨left, records, cleans, observed, removes⟩ :=
    @cleanupFiles_ok settings runtime _ now (nodup_writeFile distinct _ _) all
  exact ⟨left, records, by simp only [HeartbeatCall.runFiles, made, cleans], observed, removes⟩

def heartbeatRuntime : HeartbeatRuntime where
  timestamp := fun _ => "1970-01-01T00:00:00Z"
  parse := fun text => if text = "1970-01-01T00:00:00Z" then some (.aware 0) else none
  int := fun value => match value with
    | .int number => some number
    | _ => none
  str := fun value => match value with
    | .str text => text
    | _ => ""

def heartbeatSettings : HeartbeatSettings := ⟨{}, 100, 200, 30⟩

def firstStart : HeartbeatCall :=
  .start 1 "v1" 0 (String.ofList (List.replicate 64 'a')) "writer"

end FortifyLab.Supervisor
