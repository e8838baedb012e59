import FortifyLab.Library.Listing
import FortifyLab.Packaging.Runtime

/-! `content_digest`: the bytes that are fed to the hash of a runtime tree, and which trees they
tell apart. -/

namespace FortifyLab.Packaging

open Framing

/-! ## The digest -/

/-- `text.encode("utf-8")`. -/
def encode (text : String) : Bytes := text.toUTF8.data.toList

def blockSize : Nat := 1024 * 1024

/-- The blocks in which a file is read. -/
def blocks (content : Bytes) : List Bytes :=
  if content = [] then [] else content.take blockSize :: blocks (content.drop blockSize)
termination_by content.length
decreasing_by
  have some : 0 < content.length := List.length_pos_iff.mpr (by assumption)
  simp [blockSize]
  omega

def octalDigit (value : Nat) : Char := Nat.digitChar (value % 8)

/-- `f"{mode:04o}"`. -/
def modeText (mode : Fin 4096) : String :=
  String.ofList [octalDigit (mode / 512), octalDigit (mode / 64), octalDigit (mode / 8),
    octalDigit mode]

def Node.kind : Node → String
  | .directory => "directory"
  | .file _ => "file"

/-- The calls of `digest.update` for one path. -/
def updates (entry : Entry) : List Bytes :=
  (encode entry.node.kind ++ [0] ++ encode (pathText entry.parts) ++ [0] ++
    encode (modeText entry.mode) ++ [0]) ::
  match entry.node with
  | .directory => []
  | .file content => blocks content ++ [[0]]

/-- What the hash was fed, after one more call of `digest.update`. -/
def update (fed block : Bytes) : Bytes := fed ++ block

/-- The bytes that the hash is fed. -/
def fed (tree : Tree) : Bytes := (tree.entries.flatMap updates).foldl update []

/-- `content_digest`. -/
def contentDigest (packager : Packager) (sha256 : Bytes → String) (rootMode : Fin 4096)
    (tree : Tree) : Except Refusal String := do
  validate packager rootMode tree
  return sha256 (fed tree)

/-! ## Headers -/

theorem encode_injective : Function.Injective encode := by
  intro first second same
  have arrays : first.toUTF8.data = second.toUTF8.data := Array.toList_inj.mp same
  exact String.toByteArray_inj.mp (ByteArray.ext arrays)

/-- A byte with a marker in it is no NUL byte. -/
theorem zero_ne_ofNat_add {value base : Nat} (some : 0 < base) (small : value + base < 256) :
    (0 : UInt8) ≠ UInt8.ofNat (value + base) := by
  intro same
  have zero := congrArg UInt8.toNat same
  simp at zero
  omega

theorem zero_notMem_utf8EncodeChar {character : Char} (named : character.toNat ≠ 0) :
    (0 : UInt8) ∉ String.utf8EncodeChar character := by
  have some : 0 < character.val.toNat := Nat.pos_of_ne_zero named
  unfold String.utf8EncodeChar
  dsimp only
  split
  · next ascii =>
    have differs := @zero_ne_ofNat_add 0 character.val.toNat some (by omega)
    simpa using differs
  · split
    · simp only [List.mem_cons, List.not_mem_nil, or_false, not_or]
      exact ⟨zero_ne_ofNat_add (by decide) (by omega), zero_ne_ofNat_add (by decide) (by omega)⟩
    · split
      · simp only [List.mem_cons, List.not_mem_nil, or_false, not_or]
        exact ⟨zero_ne_ofNat_add (by decide) (by omega), zero_ne_ofNat_add (by decide) (by omega),
          zero_ne_ofNat_add (by decide) (by omega)⟩
      · simp only [List.mem_cons, List.not_mem_nil, or_false, not_or]
        exact ⟨zero_ne_ofNat_add (by decide) (by omega), zero_ne_ofNat_add (by decide) (by omega),
          zero_ne_ofNat_add (by decide) (by omega), zero_ne_ofNat_add (by decide) (by omega)⟩

theorem encode_eq_flatMap (text : String) :
    encode text = text.toList.flatMap String.utf8EncodeChar := by
  have same : text.toByteArray = text.toList.utf8Encode := by
    rw [← String.toByteArray_ofList, String.ofList_toList]
  change text.toByteArray.data.toList = _
  rw [same, List.utf8Encode]
  simp

/-- Only a NUL character is encoded with a NUL byte. -/
theorem zero_notMem_encode {text : String}
    (named : ∀ character ∈ text.toList, character.toNat ≠ 0) :
    (0 : UInt8) ∉ encode text := by
  rw [encode_eq_flatMap, List.mem_flatMap]
  rintro ⟨character, member, zero⟩
  exact zero_notMem_utf8EncodeChar (named character member) zero

/-- The parts of a path are names. -/
def Named (entry : Entry) : Prop :=
  entry.parts ≠ [] ∧ ∀ part ∈ entry.parts, isName part = true

theorem isName_character {part : String} (name : isName part = true) :
    ∀ character ∈ part.toList, character ≠ '/' ∧ character.toNat ≠ 0 := by
  simp only [isName, Bool.and_eq_true, List.all_eq_true, decide_eq_true_eq] at name
  exact name.2

/-- The text of a path is split at its slashes into the parts again. -/
theorem pathChars_splitOn {entry : Entry} (named : Named entry) :
    (pathChars entry.parts).splitOn '/' = entry.parts.map String.toList := by
  apply List.splitOn_intercalate
  · intro part member slash
    obtain ⟨name, known, rfl⟩ := List.mem_map.mp member
    exact (isName_character (named.2 name known) _ slash).1 rfl
  · simpa using named.1

theorem parts_of_pathText {entry other : Entry} (named : Named entry) (also : Named other)
    (same : pathText entry.parts = pathText other.parts) : entry.parts = other.parts := by
  have chars : pathChars entry.parts = pathChars other.parts := String.ofList_injective same
  have split := pathChars_splitOn named
  rw [chars, pathChars_splitOn also] at split
  have texts : Function.Injective String.toList := fun _ _ => String.toList_injective
  exact (List.map_injective_iff.mpr texts split).symm

theorem pathChars_character (parts : List String)
    (named : ∀ part ∈ parts, ∀ character ∈ part.toList, character.toNat ≠ 0) :
    ∀ character ∈ pathChars parts, character.toNat ≠ 0 := by
  induction parts with
  | nil => simp [pathChars]
  | cons part rest ih =>
      rw [List.forall_mem_cons] at named
      have later := ih named.2
      cases rest with
      | nil => simpa [pathChars] using named.1
      | cons next rest =>
          have joined : pathChars (part :: next :: rest) =
              part.toList ++ '/' :: pathChars (next :: rest) := by
            simp [pathChars, List.intercalate]
          rw [joined, List.forall_mem_append, List.forall_mem_cons]
          exact ⟨named.1, by decide, later⟩

theorem pathText_character {entry : Entry} (named : Named entry) :
    ∀ character ∈ (pathText entry.parts).toList, character.toNat ≠ 0 := by
  rw [pathText, String.toList_ofList]
  apply pathChars_character
  intro part member character inside
  exact (isName_character (named.2 part member) character inside).2

theorem octalDigit_injective {first second : Nat} (same : octalDigit first = octalDigit second) :
    first % 8 = second % 8 := by
  have small : ∀ left < 8, ∀ right < 8, Nat.digitChar left = Nat.digitChar right →
      left = right := by
    decide
  exact small _ (Nat.mod_lt _ (by decide)) _ (Nat.mod_lt _ (by decide)) same

theorem modeText_injective {first second : Fin 4096} (same : modeText first = modeText second) :
    first = second := by
  have digits := String.ofList_injective same
  simp only [List.cons.injEq, and_true] at digits
  have high := octalDigit_injective digits.1
  have upper := octalDigit_injective digits.2.1
  have lower := octalDigit_injective digits.2.2.1
  have low := octalDigit_injective digits.2.2.2
  omega

theorem modeText_character (mode : Fin 4096) :
    ∀ character ∈ (modeText mode).toList, character.toNat ≠ 0 := by
  have digits : ∀ value, (octalDigit value).toNat ≠ 0 := by
    intro value
    have small : ∀ digit < 8, (Nat.digitChar digit).toNat ≠ 0 := by decide
    exact small _ (Nat.mod_lt _ (by decide))
  simp [modeText, digits]

/-! ## The framing of the bytes -/

def contentOf (entry : Entry) : Option Bytes :=
  match entry.node with
  | .directory => none
  | .file content => some content

/-- How a path is written: its kind, its text and its mode, each ended by a NUL byte, and the
content of a file, ended by a NUL byte. -/
def listing : Framing Entry UInt8 where
  header entry := encode entry.node.kind ++ 0 :: (encode (pathText entry.parts) ++
    0 :: (encode (modeText entry.mode) ++ [0]))
  content := contentOf
  stop := 0

theorem blocks_flatten (content : Bytes) : (blocks content).flatten = content := by
  induction content using blocks.induct with
  | case1 => simp [blocks]
  | case2 content some ih =>
      unfold blocks
      rw [if_neg some, List.flatten_cons, ih, List.take_append_drop]

theorem updates_flatten (entry : Entry) : (updates entry).flatten = listing.record entry := by
  cases node : entry.node with
  | directory => simp [updates, record, listing, contentOf, ended, node]
  | file content => simp [updates, record, listing, contentOf, ended, node, blocks_flatten]

theorem foldl_update (fed : Bytes) (blocks : List Bytes) :
    blocks.foldl update fed = fed ++ blocks.flatten := by
  induction blocks generalizing fed with
  | nil => simp
  | cons block rest ih => rw [List.foldl_cons, ih, update, List.append_assoc, List.flatten_cons]

/-- The hash is fed the paths of the tree as they are written one after the other. -/
theorem fed_eq_written (tree : Tree) : fed tree = listing.written tree.entries := by
  rw [fed, foldl_update, List.nil_append, written]
  induction tree.entries with
  | nil => rfl
  | cons entry rest ih =>
      rw [List.flatMap_cons, List.flatten_append, updates_flatten, ih, List.flatMap_cons]

theorem zero_notMem_kind (node : Node) : (0 : UInt8) ∉ encode node.kind := by
  apply zero_notMem_encode
  cases node with
  | directory => simp [Node.kind]
  | file content => simp [Node.kind]

/-- A header can be read off what is written, field by field. -/
theorem header_split {entry other : Entry} {rest rest' : Bytes} (named : Named entry)
    (also : Named other) (same : listing.header entry ++ rest = listing.header other ++ rest') :
    entry.node.kind = other.node.kind ∧ entry.parts = other.parts ∧ entry.mode = other.mode ∧
      rest = rest' := by
  simp only [listing, List.append_assoc, List.cons_append, List.nil_append] at same
  obtain ⟨kinds, texts⟩ := field_split (zero_notMem_kind _) (zero_notMem_kind _) same
  obtain ⟨paths, modes⟩ := field_split (zero_notMem_encode (pathText_character named))
    (zero_notMem_encode (pathText_character also)) texts
  obtain ⟨digits, tails⟩ := field_split (zero_notMem_encode (modeText_character _))
    (zero_notMem_encode (modeText_character _)) modes
  exact ⟨encode_injective kinds, parts_of_pathText named also (encode_injective paths),
    modeText_injective (encode_injective digits), tails⟩

theorem contentOf_isSome {entry other : Entry} (same : entry.node.kind = other.node.kind) :
    (contentOf entry).isSome = (contentOf other).isSome := by
  cases first : entry.node with
  | directory =>
      cases second : other.node with
      | directory => simp [contentOf, first, second]
      | file content => simp [first, second, Node.kind] at same
  | file content =>
      cases second : other.node with
      | directory => simp [first, second, Node.kind] at same
      | file content => simp [contentOf, first, second]

theorem contentOf_injective {entry other : Entry} (same : contentOf entry = contentOf other) :
    entry.node = other.node := by
  cases first : entry.node with
  | directory =>
      cases second : other.node with
      | directory => rfl
      | file content => simp [contentOf, first, second] at same
  | file content =>
      cases second : other.node with
      | directory => simp [contentOf, first, second] at same
      | file content => simpa [contentOf, first, second] using same

theorem listing_legible : listing.Legible Named where
  headed entry := by simp [listing]
  reads entry other rest rest' named also same := by
    obtain ⟨kinds, parts, modes, tails⟩ := header_split named also same
    simp [listing, kinds, parts, modes, tails]
  kinds entry other named also same := by
    obtain ⟨kinds, _⟩ := header_split named also (congrArg (· ++ []) same)
    exact contentOf_isSome kinds
  entries entry other named also same contents := by
    obtain ⟨_, parts, modes, _⟩ := header_split named also (congrArg (· ++ []) same)
    have nodes := contentOf_injective contents
    cases entry
    cases other
    simp_all

/-! ## Trees that are told apart -/

theorem Tree.ext_entries {tree other : Tree} (same : tree.entries = other.entries) :
    tree = other := by
  cases tree
  cases other
  cases same
  rfl

/-- A file of the first tree holds what the same file of the second tree holds, a NUL byte, and
what is written of the paths that follow there. -/
def Swallows (tree other : Tree) : Prop := listing.Swallows tree.entries other.entries

/-- Two trees are told apart by what the hash is fed exactly where neither of them swallows paths
of the other. -/
theorem fed_tells_apart_iff (tree other : Tree) :
    (fed tree = fed other → tree = other) ↔ ¬ Swallows tree other ∧ ¬ Swallows other tree := by
  rw [fed_eq_written, fed_eq_written, Swallows, Swallows,
    ← told_apart_iff listing_legible tree.named other.named]
  constructor
  · exact fun apart alike => congrArg Tree.entries (apart alike)
  · exact fun apart alike => Tree.ext_entries (apart alike)

/-- Trees whose files hold no NUL byte are told apart. -/
theorem fed_tells_texts_apart {tree other : Tree}
    (plain : ∀ entry ∈ tree.entries ++ other.entries, ∀ content, entry.node = .file content →
      (0 : UInt8) ∉ content) (alike : fed tree = fed other) : tree = other := by
  have sealed : ∀ entry ∈ tree.entries ++ other.entries, ∀ content,
      listing.content entry = some content → listing.stop ∉ content := by
    intro entry member content holds
    apply plain entry member content
    cases node : entry.node with
    | directory => simp [listing, contentOf, node] at holds
    | file held =>
        have same : held = content := by simpa [listing, contentOf, node] using holds
        rw [same]
  rw [List.forall_mem_append] at sealed
  exact (fed_tells_apart_iff tree other).mpr
    ⟨not_swallows sealed.1, not_swallows sealed.2⟩ alike

/-! ## Two runtimes -/

def sampleManifest : String :=
  "\x7b\"version\": 1, \"directories\": [\"manager\"], " ++
  "\"files\": [\"packaging/manager-runtime.json\"], " ++
  "\"launchers\": \x7b\"bin/run\": \"manager.run\"\x7d, " ++
  "\"modes\": \x7b\"directory\": \"0755\", \"file\": \"0644\", \"executable\": \"0755\"\x7d\x7d"

def sampleFiles : List String :=
  ["bin/run", "manager/a", "manager/b", "manager/component_registry.py",
    "packaging/manager-runtime.json", "packaging/runtime-files.json"]

def sampleInventory : String :=
  "\x7b\"files\": [\"bin/run\", \"manager/a\", \"manager/b\", " ++
  "\"manager/component_registry.py\", \"packaging/manager-runtime.json\", \"packaging/runtime-files.json\"], \"version\": 1\x7d"

/-- The two documents of the sample are known by how they begin. -/
def samplePackager : Packager where
  loads content :=
    if content.take 3 = encode "\x7b\"v" then
      .ok (.obj [("version", .int 1), ("directories", .arr [.str "manager"]),
        ("files", .arr [.str "packaging/manager-runtime.json"]),
        ("launchers", .obj [("bin/run", .str "manager.run")]), ("modes", policyModes)])
    else if content.take 3 = encode "\x7b\"f" then
      .ok (.obj [("files", .arr (sampleFiles.map .str)), ("version", .int 1)])
    else .error .malformed
  registryLoads _ := true

/-- What is written before the content of the second file. -/
def sampleHeader : Bytes := listing.header ⟨["manager", "b"], 0o644, .file []⟩

/-- The header is in the first file or in the second. -/
def sampleEntries (moved : Bool) : List Entry :=
  [⟨["bin"], 0o755, .directory⟩, ⟨["bin", "run"], 0o755, .file (encode "#!/bin/sh\n")⟩,
    ⟨["manager"], 0o755, .directory⟩,
    ⟨["manager", "a"], 0o644, .file (if moved then 0 :: sampleHeader else [])⟩,
    ⟨["manager", "b"], 0o644, .file (if moved then [] else 0 :: sampleHeader)⟩,
    ⟨["manager", "component_registry.py"], 0o644,
      .file (encode "class ComponentRegistry:\n    load = dict\n")⟩,
    ⟨["packaging"], 0o755, .directory⟩,
    ⟨["packaging", "manager-runtime.json"], 0o644, .file (encode sampleManifest)⟩,
    ⟨["packaging", "runtime-files.json"], 0o644, .file (encode sampleInventory)⟩]

def sampleTree (moved : Bool) : Tree where
  entries := sampleEntries moved
  named := by cases moved <;> decide +kernel
  sorted := by cases moved <;> decide +kernel
  nested := by cases moved <;> decide +kernel

/-- Two runtimes with different files pass the validation and feed the hash the same bytes. -/
theorem moved_header_same :
    validate samplePackager 0o755 (sampleTree false) = .ok () ∧
      validate samplePackager 0o755 (sampleTree true) = .ok () ∧
      fed (sampleTree false) = fed (sampleTree true) ∧ sampleTree false ≠ sampleTree true := by
  have differ : sampleEntries false ≠ sampleEntries true := by simp [sampleEntries]
  refine ⟨by decide +kernel, by decide +kernel, ?_, ?_⟩
  · rw [fed_eq_written, fed_eq_written]
    simp [sampleTree, sampleEntries, sampleHeader, listing, contentOf, ended, Node.kind]
  · exact fun same => differ (congrArg Tree.entries same)

end FortifyLab.Packaging
