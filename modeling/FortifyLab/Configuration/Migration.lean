import FortifyLab.Configuration.Scanner

/-! `migrate` and `rollback` on the configuration file and its protected backups. -/

namespace FortifyLab.Configuration

open TextLines

/-- What lies under a path. -/
inductive FileKind where
  | regular
  | symlink
  | other
  deriving DecidableEq

structure FileEntry where
  kind : FileKind
  content : ByteArray
  uid : Nat
  gid : Nat
  mode : Nat

/-- The configuration's path, and the names in the backup root. -/
structure Disk where
  config : Option FileEntry
  backups : List (String × FileEntry)

/-- What a migration is run with: `tomllib.loads`, `ipaddress.ip_address`, the observer's files and
the owner of the files written. -/
structure Migrator where
  loads : List Char → Option Document
  ipAddress : String → Option IpAddress
  observer : Observer
  uid : Nat
  gid : Nat

/-- `path.read_text(encoding="utf-8")`. -/
def readText (content : ByteArray) : Option (List Char) :=
  (String.fromUTF8? content).map (fun text => translate text.toList)

/-- What a text file holds; on the manager's host a line feed is written as it is. -/
def encodeText (text : List Char) : ByteArray := (String.ofList text).toUTF8

def Disk.putBackup (disk : Disk) (name : String) (entry : FileEntry) : Disk :=
  { disk with backups := (name, entry) :: disk.backups.filter (fun other => other.1 ≠ name) }

namespace Migrator

variable (migrator : Migrator)

/-- `_read_document`. -/
def readDocument (entry : Option FileEntry) : Except MigrationError (List Char × Document) :=
  match entry with
  | some ⟨.regular, content, _, _, _⟩ =>
      match readText content with
      | none => fail "manager configuration is missing or malformed"
      | some text =>
          match migrator.loads text with
          | none => fail "manager configuration is missing or malformed"
          | some document => .ok (text, document)
  | _ => fail "manager configuration is not a protected regular file"

/-- `_atomic_write`: the new file, under its owner and mode, takes the place of the old one. -/
def written (text : List Char) (mode : Nat) : FileEntry :=
  ⟨.regular, encodeText text, migrator.uid, migrator.gid, mode⟩

/-- `migrate`: the name of the backup, if the file was rewritten. -/
def migrate (stamp : String) (disk : Disk) :
    Except MigrationError (Option String × Disk) := do
  let (text, document) ← migrator.readDocument disk.config
  let _ ← validateDocument migrator.ipAddress document
  let candidate ← candidateText text document migrator.observer
  match migrator.loads candidate with
  | none => fail "generated manager configuration candidate is invalid"
  | some candidateDocument => do
      let _ ← validateDocument migrator.ipAddress candidateDocument
      if candidate = text then return (none, disk)
      else do
        let version ← schemaVersion document
        let backup := "manager.toml.schema-" ++ toString version ++ "." ++ stamp ++ ".bak"
        let saved := disk.putBackup backup (migrator.written text 0o600)
        return (some backup, { saved with config := some (migrator.written candidate 0o640) })

/-- `rollback`. -/
def rollback (backup : String) (disk : Disk) : Except MigrationError Disk := do
  match disk.backups.lookup backup with
  | none => fail "configuration backup is outside the protected backup root"
  | some entry => do
      demand (decide (entry.kind = .regular ∧ entry.uid = migrator.uid ∧
          entry.gid = migrator.gid ∧ entry.mode = 0o600))
        "configuration backup ownership or permissions are invalid"
      let (text, document) ← migrator.readDocument (some entry)
      let _ ← validateDocument migrator.ipAddress document
      return { disk with config := some (migrator.written text 0o640) }

end Migrator

end FortifyLab.Configuration
