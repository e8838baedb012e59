import FortifyLab.Configuration.Migration
import FortifyLab.Library.Checks

/-! What a rollback gives back of the file that was migrated. -/

namespace FortifyLab.Configuration

open TextLines

/-! ## Bytes and texts -/

theorem fromUTF8_toUTF8 (text : String) : String.fromUTF8? text.toUTF8 = some text :=
  dif_pos text.isValidUTF8

theorem toUTF8_of_fromUTF8 {content : ByteArray} {text : String}
    (decoded : String.fromUTF8? content = some text) : text.toUTF8 = content := by
  unfold String.fromUTF8? at decoded
  split at decoded
  · cases decoded
    rfl
  · cases decoded

theorem readText_encodeText {text : List Char} (plain : '\r' ∉ text) :
    readText (encodeText text) = some text := by
  rw [readText, encodeText, fromUTF8_toUTF8, Option.map_some, String.toList_ofList,
    translate_of_plain plain]

theorem readText_plain {content : ByteArray} {text : List Char}
    (read : readText content = some text) : '\r' ∉ text := by
  rcases Option.map_eq_some_iff.mp read with ⟨decoded, _, rfl⟩
  exact cr_not_mem_translate _

/-- The bytes are a text with a carriage return somewhere. -/
def HasCarriageReturn (content : ByteArray) : Prop :=
  ∃ text, String.fromUTF8? content = some text ∧ '\r' ∈ text.toList

/-- What was read is written as the bytes that were there exactly when they have no carriage
return. -/
theorem encodeText_readText_iff {content : ByteArray} {text : List Char}
    (read : readText content = some text) :
    encodeText text = content ↔ ¬ HasCarriageReturn content := by
  rcases Option.map_eq_some_iff.mp read with ⟨decoded, known, rfl⟩
  have bytes := toUTF8_of_fromUTF8 known
  have same : encodeText (translate decoded.toList) = content ↔
      translate decoded.toList = decoded.toList := by
    rw [← bytes]
    constructor
    · intro equal
      have texts := String.toByteArray_inj.mp equal
      simpa using congrArg String.toList texts
    · intro equal
      rw [equal, encodeText, String.ofList_toList]
  rw [same, translate_eq_iff]
  constructor
  · intro plain returned
    rcases returned with ⟨other, alsoKnown, inside⟩
    rw [known, Option.some.injEq] at alsoKnown
    exact plain (alsoKnown ▸ inside)
  · intro none inside
    exact none ⟨decoded, known, inside⟩

/-! ## A migration and its rollback -/

section

variable {migrator : Migrator} {stamp backup : String} {disk migrated : Disk}

theorem readDocument_ok {entry : Option FileEntry} {text : List Char} {document : Document} :
    migrator.readDocument entry = .ok (text, document) ↔
      ∃ file, entry = some file ∧ file.kind = .regular ∧ readText file.content = some text ∧
        migrator.loads text = some document := by
  constructor
  · intro run
    unfold Migrator.readDocument at run
    split at run
    · split at run
      · cases run
      · next found read =>
          split at run
          · cases run
          · next known loaded =>
              cases run
              exact ⟨_, rfl, rfl, read, loaded⟩
    · cases run
  · intro parts
    rcases parts with ⟨⟨kind, content, uid, gid, mode⟩, rfl, rfl, read, loaded⟩
    simp only [Migrator.readDocument, read, loaded]

/-- What a migration that rewrites has read, checked and written. -/
structure Rewrites (migrator : Migrator) (disk : Disk) (backup : String) (migrated : Disk)
    (text candidate : List Char) (document candidateDocument : Document) : Prop where
  read : migrator.readDocument disk.config = .ok (text, document)
  accepted : ∃ version, validateDocument migrator.ipAddress document = .ok version
  rendered : candidateText text document migrator.observer = .ok candidate
  loaded : migrator.loads candidate = some candidateDocument
  valid : ∃ version, validateDocument migrator.ipAddress candidateDocument = .ok version
  changed : candidate ≠ text
  left : migrated = { disk.putBackup backup (migrator.written text 0o600) with
    config := some (migrator.written candidate 0o640) }

theorem migrate_rewrites
    (run : migrator.migrate stamp disk = .ok (some backup, migrated)) :
    ∃ text candidate document candidateDocument,
      Rewrites migrator disk backup migrated text candidate document candidateDocument := by
  simp only [Migrator.migrate, bind_ok] at run
  rcases run with ⟨⟨text, document⟩, read, version, accepted, candidate, rendered, later⟩
  split at later
  · cases later
  · next candidateDocument loaded =>
      simp only [bind_ok] at later
      rcases later with ⟨candidateVersion, valid, last⟩
      split at last
      · cases last
      · next changed =>
          simp only [bind_ok, pure_ok, Prod.mk.injEq, Option.some.injEq] at last
          rcases last with ⟨_, _, named, left⟩
          exact ⟨text, candidate, document, candidateDocument, read, ⟨version, accepted⟩, rendered,
            loaded, ⟨candidateVersion, valid⟩, changed, by rw [← left, ← named]⟩

theorem lookup_putBackup (disk : Disk) (name : String) (entry : FileEntry) :
    (disk.putBackup name entry).backups.lookup name = some entry := by
  simp [Disk.putBackup]

/-- The rollback reads the backup as it was written, and puts that text in place. -/
theorem rollback_rewrites {text candidate : List Char} {document candidateDocument : Document}
    (rewrites : Rewrites migrator disk backup migrated text candidate document
      candidateDocument) :
    migrator.rollback backup migrated =
      .ok { migrated with config := some (migrator.written text 0o640) } := by
  rcases readDocument_ok.mp rewrites.read with ⟨file, _, _, read, loaded⟩
  have again : migrator.readDocument (some (migrator.written text 0o600)) = .ok (text, document) :=
    readDocument_ok.mpr ⟨_, rfl, rfl, readText_encodeText (readText_plain read), loaded⟩
  rcases rewrites.accepted with ⟨version, accepted⟩
  have found : migrated.backups.lookup backup = some (migrator.written text 0o600) := by
    rw [rewrites.left]
    exact lookup_putBackup disk backup _
  have guarded : demand (decide ((migrator.written text 0o600).kind = .regular ∧
      (migrator.written text 0o600).uid = migrator.uid ∧
      (migrator.written text 0o600).gid = migrator.gid ∧
      (migrator.written text 0o600).mode = 0o600))
      "configuration backup ownership or permissions are invalid" = .ok () := by
    simp [demand, Migrator.written]
  simp only [Migrator.rollback, found, bind_ok]
  exact ⟨(), guarded, (text, document), again, version, accepted, rfl⟩

end

/-- For every content of the configuration file that `migrate` rewrites, the rollback to the backup
it named succeeds, and gives the file its bytes back exactly when they had no carriage return. -/
theorem rollback_restores_iff (migrator : Migrator) (stamp : String) (disk migrated : Disk)
    (backup : String) (run : migrator.migrate stamp disk = .ok (some backup, migrated)) :
    ∃ restored, migrator.rollback backup migrated = .ok restored ∧
      (restored.config.map FileEntry.content = disk.config.map FileEntry.content ↔
        ∀ entry, disk.config = some entry → ¬ HasCarriageReturn entry.content) := by
  rcases migrate_rewrites run with ⟨text, candidate, document, candidateDocument, rewrites⟩
  refine ⟨_, rollback_rewrites rewrites, ?_⟩
  rcases readDocument_ok.mp rewrites.read with ⟨file, there, _, read, _⟩
  have content : (migrator.written text 0o640).content = encodeText text := rfl
  simp only [there, Option.map_some, content, Option.some.injEq, encodeText_readText_iff read,
    forall_eq']

/-! ## One configuration -/

def sampleText : List Char :=
  "[server]\nport = 9443\n[storage]\nkeep = 1\n[authentication]\nkeep = 1\n".toList

def sampleCandidate : List Char :=
  "schema_version = 1\n\n".toList ++ sampleText ++ "\n[lifecycle]\nenabled = false\n".toList

def sampleDocument : Document :=
  [("server", .table [("port", .int 9443)]), ("storage", .table [("keep", .int 1)]),
    ("authentication", .table [("keep", .int 1)])]

def sampleMigrated : Document :=
  [("schema_version", .int 1)] ++ sampleDocument ++
    [("lifecycle", .table [("enabled", .bool false)])]

/-- The migration on a host where only the two texts are ever read. -/
def sampleMigrator : Migrator where
  loads text :=
    if text = sampleText then some sampleDocument
    else if text = sampleCandidate then some sampleMigrated
    else none
  ipAddress _ := none
  observer := ⟨"/var/lib/fortify-manager/cluster-access", false⟩
  uid := 0
  gid := 0

def sampleDisk (content : ByteArray) : Disk := ⟨some ⟨.regular, content, 0, 0, 0o640⟩, []⟩

def sampleBackup : String := "manager.toml.schema-0.20260101T000000.000000Z.bak"

/-- The migration rewrites every file that is read as the sample. -/
theorem sample_migrates {content : ByteArray} (read : readText content = some sampleText) :
    ∃ migrated, sampleMigrator.migrate "20260101T000000.000000Z" (sampleDisk content) =
      .ok (some sampleBackup, migrated) := by
  have document : sampleMigrator.readDocument (sampleDisk content).config =
      .ok (sampleText, sampleDocument) :=
    readDocument_ok.mpr ⟨_, rfl, rfl, read, rfl⟩
  have accepted : validateDocument sampleMigrator.ipAddress sampleDocument = .ok 0 := by
    decide +kernel
  have rendered : candidateText sampleText sampleDocument sampleMigrator.observer =
      .ok sampleCandidate := by
    decide +kernel
  have changed : sampleCandidate ≠ sampleText := by decide +kernel
  have loaded : sampleMigrator.loads sampleCandidate = some sampleMigrated := by
    simp [sampleMigrator, changed]
  have valid : validateDocument sampleMigrator.ipAddress sampleMigrated = .ok 1 := by
    decide +kernel
  refine ⟨{ (sampleDisk content).putBackup sampleBackup (sampleMigrator.written sampleText 0o600)
    with config := some (sampleMigrator.written sampleCandidate 0o640) }, ?_⟩
  simp only [Migrator.migrate, bind_ok]
  refine ⟨_, document, 0, accepted, sampleCandidate, rendered, ?_⟩
  simp only [loaded, changed, if_false, bind_ok]
  exact ⟨1, valid, 0, by decide, rfl⟩

/-- A file with line feeds is given back. -/
theorem rollback_restores_iff_sample : ∃ migrated restored,
    sampleMigrator.migrate "20260101T000000.000000Z" (sampleDisk (encodeText sampleText)) =
      .ok (some sampleBackup, migrated) ∧
    sampleMigrator.rollback sampleBackup migrated = .ok restored ∧
    restored.config.map FileEntry.content = some (encodeText sampleText) := by
  have plain : '\r' ∉ sampleText := by decide +kernel
  rcases sample_migrates (readText_encodeText plain) with ⟨migrated, run⟩
  rcases rollback_restores_iff sampleMigrator _ _ migrated sampleBackup run with
    ⟨restored, back, same⟩
  refine ⟨migrated, restored, run, back, same.mpr ?_⟩
  intro entry there
  cases there
  exact (encodeText_readText_iff (readText_encodeText plain)).mp rfl

def sampleCrlf : List Char :=
  "[server]\r\nport = 9443\r\n[storage]\r\nkeep = 1\r\n[authentication]\r\nkeep = 1\r\n".toList

/-- The same file with carriage returns comes back without them. -/
theorem crlf_not_restored : ∃ migrated restored,
    sampleMigrator.migrate "20260101T000000.000000Z" (sampleDisk (encodeText sampleCrlf)) =
      .ok (some sampleBackup, migrated) ∧
    sampleMigrator.rollback sampleBackup migrated = .ok restored ∧
    restored.config.map FileEntry.content ≠ some (encodeText sampleCrlf) := by
  have read : readText (encodeText sampleCrlf) = some sampleText := by
    rw [readText, encodeText, fromUTF8_toUTF8, Option.map_some, String.toList_ofList]
    decide +kernel
  rcases sample_migrates read with ⟨migrated, run⟩
  rcases migrate_rewrites run with ⟨text, candidate, document, candidateDocument, rewrites⟩
  refine ⟨migrated, _, run, rollback_rewrites rewrites, ?_⟩
  rcases readDocument_ok.mp rewrites.read with ⟨file, there, _, alsoRead, _⟩
  cases there
  intro same
  have bytes : encodeText text = encodeText sampleCrlf := Option.some.inj same
  refine (encodeText_readText_iff alsoRead).mp bytes ⟨String.ofList sampleCrlf, ?_, by decide +kernel⟩
  exact fromUTF8_toUTF8 _

end FortifyLab.Configuration
