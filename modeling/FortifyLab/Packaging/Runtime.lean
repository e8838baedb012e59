import FortifyLab.Library.Checks
import FortifyLab.Library.Value
import Mathlib.Algebra.GroupWithZero.Nat
import Mathlib.Data.List.Sort

/-! `package-manager-runtime.py`: a staged runtime tree, its packaging manifest and its
validation. -/

namespace FortifyLab.Packaging

abbrev Bytes := List UInt8

/-! ## Trees -/

/-- A name in a directory. -/
def isName (part : String) : Bool :=
  !(["", ".", ".."].contains part) && part.toList.all (fun character =>
    decide (character ≠ '/') && decide (character.toNat ≠ 0))

inductive Node where
  | directory
  | file (content : Bytes)
  deriving DecidableEq

theorem modes_ne_zero : 4096 ≠ 0 := by decide

instance neZero_modes : NeZero 4096 := ⟨modes_ne_zero⟩

/-- A path below the root, its permission bits and what lies there. -/
structure Entry where
  parts : List String
  mode : Fin 4096
  node : Node
  deriving DecidableEq

def pathChars (parts : List String) : List Char := List.intercalate ['/'] (parts.map String.toList)

/-- `str(path)`. -/
def pathText (parts : List String) : String := String.ofList (pathChars parts)

/-- What lies below a root without symbolic links, whose names can all be encoded: every path
once, in a directory of the tree, and in the order of the path texts. -/
structure Tree where
  entries : List Entry
  named : ∀ entry ∈ entries, entry.parts ≠ [] ∧ ∀ part ∈ entry.parts, isName part = true
  sorted : entries.Pairwise (fun first second => pathText first.parts < pathText second.parts)
  nested : ∀ entry ∈ entries, 1 < entry.parts.length →
    ∃ parent ∈ entries, parent.parts = entry.parts.dropLast ∧ parent.node = .directory

namespace Tree

def find (tree : Tree) (parts : List String) : Option Entry :=
  tree.entries.find? (fun entry => entry.parts = parts)

/-- `is_dir`. -/
def isDirectory (tree : Tree) (parts : List String) : Bool :=
  match tree.find parts with
  | some entry => decide (entry.node = .directory)
  | none => false

/-- `is_file`. -/
def isFile (tree : Tree) (parts : List String) : Bool :=
  match tree.find parts with
  | some entry => decide (entry.node ≠ .directory)
  | none => false

/-- The paths of the files, sorted. -/
def files (tree : Tree) : List String :=
  (tree.entries.filter (fun entry => entry.node ≠ .directory)).map
    (fun entry => pathText entry.parts)

end Tree

/-! ## The manifest -/

/-- A `PackagingError`, or any other exception. -/
inductive Refusal where
  | packaging (message : String)
  | other
  deriving DecidableEq

/-- What `json.loads` of a text raises that is read: a `JSONDecodeError`, or another exception, as
where the bytes are no UTF-8. -/
inductive JsonError where
  | malformed
  | other

/-- `json.loads` of the text of a file, and whether the registry of a tree can be loaded in a
process of its own. -/
structure Packager where
  loads : Bytes → Except JsonError Value
  registryLoads : Tree → Bool

structure Manifest where
  directories : List String
  files : List String
  launchers : List String

def refuse {α : Type} (message : String) : Except Refusal α := .error (.packaging message)

/-- `json.loads(path.read_text())` in its `try`. -/
def readJson (packager : Packager) (tree : Tree) (parts : List String) (message : String) :
    Except Refusal Value :=
  match tree.find parts with
  | some ⟨_, _, .file content⟩ =>
      match packager.loads content with
      | .ok document => .ok document
      | .error .malformed => refuse message
      | .error .other => .error .other
  | _ => refuse message

/-- The two lists are the same set. -/
def sameNames (names others : List String) : Bool :=
  names.all others.contains && others.all names.contains

/-- The texts of a list; `none` where something else is in it. -/
def textsOf : List Value → Option (List String)
  | [] => some []
  | .str text :: rest => (textsOf rest).map (text :: ·)
  | _ :: _ => none

def manifestFields : List String := ["version", "directories", "files", "launchers", "modes"]

/-- `set(document)` is compared with the names of the fields. -/
def checkFields : Value → Except Refusal (List (String × Value))
  | .obj fields =>
      if sameNames (fields.map Prod.fst) manifestFields then .ok fields
      else refuse "runtime packaging manifest fields are invalid"
  | .str _ => refuse "runtime packaging manifest fields are invalid"
  | .arr items =>
      match textsOf items with
      | some texts =>
          if sameNames texts manifestFields then .error .other
          else refuse "runtime packaging manifest fields are invalid"
      | none =>
          if items.any (fun item => match item with
            | .arr _ => true
            | .obj _ => true
            | _ => false) then .error .other
          else refuse "runtime packaging manifest fields are invalid"
  | _ => .error .other

/-- The names of a list of texts that are not empty; `none` where the list is empty or holds
anything else. -/
def filledTexts : Value → Option (List String)
  | .arr items =>
      match textsOf items with
      | some texts => if texts ≠ [] ∧ "" ∉ texts then some texts else none
      | none => none
  | _ => none

/-- The launchers, each with a module of the manager. -/
def launcherPaths : Value → Option (List String)
  | .obj launchers =>
      if launchers ≠ [] ∧ launchers.all (fun launcher => decide (launcher.1 ≠ "") &&
          (match launcher.2 with
            | .str name => "manager.".toList.isPrefixOf name.toList
            | _ => false)) then
        some (launchers.map Prod.fst)
      else none
  | _ => none

def policyModes : Value :=
  .obj [("directory", .str "0755"), ("file", .str "0644"), ("executable", .str "0755")]

/-- The policy of a manifest whose fields are known. -/
def manifestPolicy (fields : List (String × Value)) : Option Manifest := do
  let directories ← filledTexts (← fields.lookup "directories")
  let files ← filledTexts (← fields.lookup "files")
  let launchers ← launcherPaths (← fields.lookup "launchers")
  let modes ← fields.lookup "modes"
  if modes.same policyModes then some ⟨directories, files, launchers⟩ else none

/-- `_load_manifest`. -/
def loadManifest (packager : Packager) (tree : Tree) : Except Refusal Manifest := do
  let document ← readJson packager tree ["packaging", "manager-runtime.json"]
    "runtime packaging manifest is unavailable or malformed"
  let fields ← checkFields document
  check (((fields.lookup "version").getD .null).same (.int 1) = true)
    (.packaging "runtime packaging manifest version is unsupported")
  match manifestPolicy fields with
  | some manifest => return manifest
  | none => refuse "runtime packaging manifest policy is invalid"

/-- `_relative_path`: a path is split at its slashes, without empty parts and dots. -/
def relativePath (value : String) : Except Refusal (List String) :=
  let parts := ((value.toList.splitOn '/').map String.ofList).filter
    (fun part => !(["", "."].contains part))
  if ['/'].isPrefixOf value.toList ∨ ".." ∈ parts ∨ parts = [] then
    refuse "runtime packaging manifest contains an unsafe path"
  else .ok parts

/-! ## Validation -/

/-- The files that the inventory lists. -/
def inventoryFiles : Value → Option (List String)
  | .obj fields =>
      if sameNames (fields.map Prod.fst) ["version", "files"] ∧
          ((fields.lookup "version").getD .null).same (.int 1) then
        match fields.lookup "files" with
        | some (.arr items) => textsOf items
        | _ => none
      else none
  | _ => none

def loadInventory (packager : Packager) (tree : Tree) : Except Refusal (List String) := do
  let document ← readJson packager tree ["packaging", "runtime-files.json"]
    "staged runtime inventory is unavailable or malformed"
  match inventoryFiles document with
  | some files => return files
  | none => refuse "staged runtime inventory is invalid"

def checkDirectory (tree : Tree) (value : String) : Except Refusal Unit := do
  let parts ← relativePath value
  check (tree.isDirectory parts = true)
    (.packaging s!"staged runtime directory is invalid: {value}")

def checkFile (tree : Tree) (value : String) : Except Refusal Unit := do
  let parts ← relativePath value
  check (tree.isFile parts = true) (.packaging s!"staged runtime file is invalid: {value}")

def checkLauncher (tree : Tree) (parts : List String) : Except Refusal Unit :=
  check (tree.isFile parts = true)
    (.packaging s!"staged runtime launcher is invalid: {pathText parts}")

/-- `path.suffix == ".sh"`. -/
def isShell (parts : List String) : Bool :=
  match parts.getLast? with
  | some name => ".sh".toList.isSuffixOf name.toList && decide (3 < name.toList.length)
  | none => false

/-- The mode that the policy gives a path. -/
def expectedMode (launchers : List (List String)) (entry : Entry) : Fin 4096 :=
  if entry.node = .directory then 0o755
  else if entry.parts.head? = some "apps" ∧ isShell entry.parts ∨ entry.parts ∈ launchers then 0o755
  else 0o644

def checkMode (launchers : List (List String)) (entry : Entry) : Except Refusal Unit :=
  check (entry.mode = expectedMode launchers entry)
    (.packaging s!"staged runtime mode is invalid: {pathText entry.parts}")

/-- `validate`; the launchers and the paths are taken in order. -/
def validate (packager : Packager) (rootMode : Fin 4096) (tree : Tree) : Except Refusal Unit := do
  check (rootMode = 0o755) (.packaging "staged runtime root mode is invalid")
  let manifest ← loadManifest packager tree
  let inventory ← loadInventory packager tree
  check (tree.files = inventory.insertionSort (· ≤ ·))
    (.packaging "staged runtime files differ from the packaging inventory")
  manifest.directories.forM (checkDirectory tree)
  manifest.files.forM (checkFile tree)
  let launchers ← manifest.launchers.mapM relativePath
  launchers.forM (checkLauncher tree)
  tree.entries.forM (checkMode launchers)
  check (packager.registryLoads tree = true)
    (.packaging "staged runtime registry validation failed")

end FortifyLab.Packaging
