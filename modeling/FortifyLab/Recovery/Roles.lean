import FortifyLab.Recovery.Service

/-! What every thread of the service may ask, and when: the role of a thread says which
rows it owns and how far it has come. -/

namespace FortifyLab.Recovery

open Program

def Worker.operationId : Worker → String
  | .backup operationId _ => operationId
  | .restore operationId _ => operationId

/-- A complete artifact: a checksum for every scope, and the digest of everything else. -/
structure Artifact.Whole (sha256 : String → String) (artifact : Artifact) : Prop where
  checksums : ∀ scope ∈ backupScopes, ∃ checksum,
    artifact.checksums.lookup scope = some checksum ∧ checksum.startsWith "sha256:" = true
  digest : artifact.manifestDigest =
    some ("sha256:" ++ sha256 { artifact with manifestDigest := none }.encode)

/-- How far a worker has come with the artifact. -/
inductive Stage where
  | entered | making | published | cleared
  deriving DecidableEq

inductive Task where
  | idle
  | opening
  | drew (suffix : String)
  | placing (document : RecoveryOperation) (worker : Worker)
  | starting (worker : Worker)
  | marking (document : RecoveryOperation)
  | awaiting
  | working (held : RecoveryOperation) (stage : Stage)

structure Role where
  call : Option Call
  task : Task

def Role.does (role : Role) (task : Task) : Role := { role with task := task }

@[simp] theorem does_call (role : Role) (task : Task) : (role.does task).call = role.call := rfl

@[simp] theorem does_task (role : Role) (task : Task) : (role.does task).task = task := rfl

def nobody : Role := ⟨none, .idle⟩

/-- A document that a worker goes on from the one it read. -/
structure Continues (held document : RecoveryOperation) : Prop where
  id : document.id = held.id
  requested : document.cancellationRequested = held.cancellationRequested

structure Fresh (uuid : String) (document : RecoveryOperation) : Prop where
  id : document.id = "recovery-" ++ uuid
  queued : document.state = .queued
  unrequested : document.cancellationRequested = false

/-- The moves of the protocol. A statement that fails may be the end of a thread. -/
inductive Moves (settings : Settings) :
    Role → (request : RecoveryRequest) → RecoveryAnswer request → Role → Prop
  | now (role : Role) (now : String) : Moves settings role .now now role
  | statement (role : Role) (answer : Except Raised Unit) :
      Moves settings role .statement answer role
  | dropped (role : Role) (raised : Raised) :
      Moves settings role .statement (.error raised : Except Raised Unit) (role.does .idle)
  | checked (role : Role) (operationId : String) (cancelled : Bool) :
      Moves settings role (.isCancelled operationId) cancelled role
  | noted (role : Role) (operationId : String) :
      Moves settings role (.addCancelled operationId) () role
  | looked (role : Role) (backupId : String) (row : Option (Bool × Artifact)) :
      Moves settings role (.readArtifact backupId) row role
  | interrupted {role : Role} (now : String) (task : role.task = .opening) :
      Moves settings role (.interruptActive now) () role
  | served {role : Role} (task : role.task = .opening) :
      Moves settings role .serve () (role.does .idle)
  | drew {role : Role} {call : Call} (uuid : String) (called : role.call = some call)
      (outside : call.outside = true) (task : role.task = .idle) :
      Moves settings role .newUuid uuid (role.does (.drew ("backup-" ++ uuid)))
  | namedBackup {role : Role} {backupId uuid : String} {document : RecoveryOperation}
      (task : role.task = .drew backupId) (fresh : Fresh uuid document) :
      Moves settings role .newUuid uuid
        (role.does (.placing document (.backup document.id backupId)))
  | namedRestore {role : Role} {call : Call} {backupId uuid : String}
      {document : RecoveryOperation} (called : role.call = some call)
      (outside : call.outside = true) (task : role.task = .idle) (fresh : Fresh uuid document) :
      Moves settings role .newUuid uuid
        (role.does (.placing document (.restore document.id backupId)))
  | placed {role : Role} {call : Call} {document : RecoveryOperation} {worker : Worker}
      (called : role.call = some call) (outside : call.outside = true)
      (task : role.task = .placing document worker) :
      Moves settings role (.putOperation document) () (role.does (.starting worker))
  | started {role : Role} {worker : Worker} (task : role.task = .starting worker) :
      Moves settings role (.startWorker worker) () (role.does .idle)
  | read {role : Role} (operationId : String) (row : Option RecoveryOperation)
      (task : role.task = .idle) : Moves settings role (.readOperation operationId) row role
  | considered {role : Role} {operationId : String} {document : RecoveryOperation}
      (call : role.call = some (.cancel operationId)) (task : role.task = .idle)
      (active : document.state.terminal = false) :
      Moves settings role (.readOperation operationId)
        (some document : Option RecoveryOperation) (role.does (.marking document))
  | marked {role : Role} {operationId : String} {document : RecoveryOperation} (now : String)
      (call : role.call = some (.cancel operationId)) (task : role.task = .marking document) :
      Moves settings role
        (.putOperation { document with cancellationRequested := true, updatedAt := now }) ()
        (role.does .idle)
  | missed {role : Role} (operationId : String) (task : role.task = .awaiting) :
      Moves settings role (.readOperation operationId) (none : Option RecoveryOperation)
        (role.does .idle)
  | took {role : Role} {worker : Worker} {document : RecoveryOperation}
      (call : role.call = some (.worker worker)) (task : role.task = .awaiting) :
      Moves settings role (.readOperation worker.operationId)
        (some document : Option RecoveryOperation) (role.does (.working document .entered))
  | began {role : Role} {held : RecoveryOperation} {operationId : String} {artifact : Artifact}
      (call : role.call = some (.worker (.backup operationId artifact.id)))
      (task : role.task = .working held .entered) :
      Moves settings role (.putArtifact artifact false) () (role.does (.working held .making))
  | captured {role : Role} {held : RecoveryOperation} {operationId backupId : String}
      (call : role.call = some (.worker (.backup operationId backupId)))
      (task : role.task = .working held .making) (scope : Scope)
      (answer : Except Raised Value) :
      Moves settings role (.adapterBackup backupId scope) answer role
  | published {role : Role} {held : RecoveryOperation} {operationId : String}
      {artifact : Artifact}
      (call : role.call = some (.worker (.backup operationId artifact.id)))
      (task : role.task = .working held .making) (whole : artifact.Whole settings.sha256) :
      Moves settings role (.putArtifact artifact true) () (role.does (.working held .published))
  | cleared {role : Role} {held : RecoveryOperation} {operationId backupId : String}
      {artifact : Artifact} (call : role.call = some (.worker (.restore operationId backupId)))
      (task : role.task = .working held .entered)
      (profile : artifact.profileId = settings.profileId) :
      Moves settings role (.readArtifact backupId)
        (some (true, artifact) : Option (Bool × Artifact)) (role.does (.working held .cleared))
  | restored {role : Role} {held : RecoveryOperation} {operationId backupId : String}
      (call : role.call = some (.worker (.restore operationId backupId)))
      (task : role.task = .working held .cleared) (scope : Scope)
      (answer : Except Raised Unit) :
      Moves settings role (.adapterRestore backupId scope) answer role
  | verified {role : Role} {held : RecoveryOperation} {operationId backupId : String}
      (call : role.call = some (.worker (.restore operationId backupId)))
      (task : role.task = .working held .cleared) (checks : List String)
      (answer : Except Raised (List Value)) :
      Moves settings role (.adapterVerify backupId checks) answer role
  | saved {role : Role} {held document : RecoveryOperation} {stage : Stage}
      (task : role.task = .working held stage) (continues : Continues held document)
      (active : document.state.terminal = false) :
      Moves settings role (.putOperation document) () role
  | ended {role : Role} {held document : RecoveryOperation} {stage : Stage}
      (task : role.task = .working held stage) (continues : Continues held document)
      (terminal : document.state.terminal = true) :
      Moves settings role (.putOperation document) () (role.does .idle)

def finalRole (role : Role) (_ : Outcome) : Prop := role.task = .idle

/-- The role a thread starts in. -/
def startingTask : Call → Task
  | .openStore => .opening
  | .worker _ => .awaiting
  | _ => .idle

def enter (call : Call) : Role := ⟨some call, startingTask call⟩

def child (_ : Role) (request : RecoveryRequest) : Role :=
  match spawned request with
  | some call => enter call
  | none => nobody

/-- The role of the thread after some of its program, whatever the result. -/
abbrev Keeps (settings : Settings) {α : Type} (role : Role) (program : RecoveryProgram α) :
    Prop :=
  Follows (Moves settings) (fun after _ => after = role) role program

abbrev EndsIdle (settings : Settings) {α : Type} (role : Role) (program : RecoveryProgram α) :
    Prop :=
  Follows (Moves settings) (fun after _ => after.task = .idle) role program

variable {settings : Settings}

theorem moves_call {role after : Role} {request : RecoveryRequest}
    {answer : RecoveryAnswer request} (moved : Moves settings role request answer after) :
    after.call = role.call := by
  cases moved <;> rfl

/-! ## The calls -/

theorem openStore_follows {role : Role} (task : role.task = .opening) :
    EndsIdle settings role openStore := by
  intro now
  refine ⟨role, .now role now, ?_⟩
  intro answer
  cases (answer : Except Raised Unit) with
  | error raised => exact ⟨_, .dropped role raised, rfl⟩
  | ok _ =>
      refine ⟨role, .statement role _, ?_⟩
      intro _
      refine ⟨role, .interrupted now task, ?_⟩
      intro _
      exact ⟨_, .served task, rfl⟩

/-- The row, then the worker. -/
theorem launch_follows {role : Role} {call : Call} {document : RecoveryOperation}
    {worker : Worker} (called : role.call = some call) (outside : call.outside = true)
    (task : role.task = .placing document worker) :
    EndsIdle settings role (launch document worker) := by
  intro answer
  cases (answer : Except Raised Unit) with
  | error raised => exact ⟨_, .dropped role raised, rfl⟩
  | ok _ =>
      refine ⟨role, .statement role _, ?_⟩
      intro _
      refine ⟨_, .placed called outside task, ?_⟩
      intro _
      exact ⟨_, .started rfl, rfl⟩

theorem fresh_newOperation (settings : Settings) (action : RecoveryAction)
    (backupId actor now uuid : String) :
    Fresh uuid (newOperation settings action backupId actor now uuid) := ⟨rfl, rfl, rfl⟩

theorem submitBackup_follows {role : Role} {call : Call} (called : role.call = some call)
    (outside : call.outside = true) (task : role.task = .idle) (actor : String) :
    EndsIdle settings role (submitBackup settings actor) := by
  intro suffix
  refine ⟨_, .drew suffix called outside task, ?_⟩
  intro now
  refine ⟨_, .now _ now, ?_⟩
  intro uuid
  exact ⟨_, .namedBackup rfl (fresh_newOperation settings .backup _ actor now uuid),
    launch_follows ((does_call _ _).trans called) outside rfl⟩

theorem acceptRestore_follows {role : Role} {call : Call} (called : role.call = some call)
    (outside : call.outside = true) (task : role.task = .idle) (backupId actor : String) :
    EndsIdle settings role (acceptRestore settings backupId actor) := by
  intro now
  refine ⟨_, .now _ now, ?_⟩
  intro uuid
  exact ⟨_, .namedRestore called outside task
      (fresh_newOperation settings .restore backupId actor now uuid),
    launch_follows ((does_call _ _).trans called) outside rfl⟩

theorem completeArtifact_keeps (role : Role) (backupId : String) :
    Keeps settings role (completeArtifact backupId) := by
  intro answer
  refine ⟨role, .statement role answer, ?_⟩
  cases (answer : Except Raised Unit) with
  | error raised => exact rfl
  | ok _ =>
      intro row
      refine ⟨role, .looked role backupId row, ?_⟩
      rcases (row : Option (Bool × Artifact)) with _ | ⟨complete, artifact⟩
      · exact rfl
      · cases complete <;> exact rfl

theorem submitRestore_follows {role : Role} {call : Call} (called : role.call = some call)
    (outside : call.outside = true) (task : role.task = .idle) (backupId actor : String)
    (confirmation : Option String) :
    EndsIdle settings role
      (submitRestore settings backupId actor confirmation) := by
  unfold submitRestore
  split
  · refine follows_bind (completeArtifact_keeps role backupId) ?_
    intro after result same
    subst same
    cases result with
    | error raised => exact task
    | ok artifact =>
        dsimp only
        split
        · exact acceptRestore_follows called outside task backupId actor
        · exact task
  · exact task

theorem requestCancel_follows {role : Role} {operationId : String}
    {document : RecoveryOperation} (call : role.call = some (.cancel operationId))
    (task : role.task = .marking document) :
    EndsIdle settings role (requestCancel document) := by
  intro _
  refine ⟨role, .noted role _, ?_⟩
  intro now
  refine ⟨role, .now role now, ?_⟩
  intro answer
  cases (answer : Except Raised Unit) with
  | error raised => exact ⟨_, .dropped role raised, rfl⟩
  | ok _ =>
      refine ⟨role, .statement role _, ?_⟩
      intro _
      exact ⟨_, @Moves.marked settings role operationId document now call task, rfl⟩

theorem cancel_follows {role : Role} {operationId : String} (task : role.task = .idle)
    (call : role.call = some (.cancel operationId)) :
    EndsIdle settings role (cancel operationId) := by
  intro answer
  refine ⟨role, .statement role answer, ?_⟩
  cases (answer : Except Raised Unit) with
  | error raised => exact task
  | ok _ =>
      intro row
      cases (row : Option RecoveryOperation) with
      | none => exact ⟨role, .read operationId _ task, task⟩
      | some document =>
          cases terminal : document.state.terminal with
          | true =>
              refine ⟨role, .read operationId _ task, ?_⟩
              show Follows _ _ role (if document.state.terminal = true then _ else _)
              rw [if_pos terminal]
              exact task
          | false =>
              refine ⟨_, .considered call task terminal, ?_⟩
              show Follows _ _ _ (if document.state.terminal = true then _ else _)
              rw [if_neg (by rw [terminal]; exact Bool.false_ne_true)]
              have mine : (role.does (.marking document)).call = some (.cancel operationId) := call
              exact requestCancel_follows mine rfl

/-! ## The workers -/

variable {held : RecoveryOperation} {stage : Stage}

/-- The document of a worker before its last save. -/
structure Continuing (held document : RecoveryOperation) : Prop extends
    Continues held document where
  active : document.state.terminal = false

/-- A save leaves the role alone, whether the statement fails or not. -/
theorem save_follows {role : Role} (task : role.task = .working held stage)
    {document : RecoveryOperation} (continuing : Continuing held document) :
    Follows (Moves settings) (fun after result => after = role ∧ Continuing held result.2)
      role (save document) := by
  intro now
  refine ⟨role, .now role now, ?_⟩
  have dated : Continuing held { document with updatedAt := now } :=
    ⟨⟨continuing.id, continuing.requested⟩, continuing.active⟩
  intro answer
  refine ⟨role, .statement role answer, ?_⟩
  cases (answer : Except Raised Unit) with
  | error raised => exact ⟨rfl, dated⟩
  | ok _ =>
      intro _
      exact ⟨role, .saved task dated.toContinues dated.active, rfl, dated⟩

theorem enterScope_follows {role : Role} (task : role.task = .working held stage)
    (operationId : String) (scope : Scope) {operation : RecoveryOperation}
    (continuing : Continuing held operation) :
    Follows (Moves settings) (fun after result => after = role ∧ Continuing held result.2)
      role (enterScope operationId scope operation) := by
  intro cancelled
  refine ⟨role, .checked role operationId cancelled, ?_⟩
  cases (cancelled : Bool) with
  | true => exact ⟨rfl, continuing⟩
  | false =>
      exact save_follows task ⟨⟨continuing.id, continuing.requested⟩, continuing.active⟩

/-- A loop keeps what every round keeps; where no round raises it has done all scopes. -/
theorem eachScope_follows {P : Type} {role : Role} {holds : List Scope → P → Prop}
    {round : Scope → P → RecoveryProgram (Option Raised × P)}
    (rounds : ∀ scope before progress, holds before progress →
      Follows (Moves settings) (fun after result => after = role ∧
        (result.1 = none → holds (before ++ [scope]) result.2) ∧
        ∃ others, holds others result.2) role (round scope progress))
    (scopes before : List Scope) (progress : P) (start : holds before progress) :
    Follows (Moves settings) (fun after result => after = role ∧
      (result.1 = none → holds (before ++ scopes) result.2) ∧ ∃ others, holds others result.2)
      role (eachScope round scopes progress) := by
  induction scopes generalizing before progress with
  | nil => exact ⟨rfl, fun _ => by rwa [List.append_nil], before, start⟩
  | cons scope rest ih =>
      refine follows_bind (rounds scope before progress start) ?_
      rintro after ⟨raised, onward⟩ ⟨same, finished, kept⟩
      subst same
      cases raised with
      | some raised => exact ⟨rfl, nofun, kept⟩
      | none =>
          apply (ih (before ++ [scope]) onward (finished rfl)).mono
          rintro after result ⟨same, all, others⟩
          rw [List.append_assoc] at all
          exact ⟨same, all, others⟩

/-- The last save ends the work, whether its statement fails or not. -/
theorem finish_follows {role : Role} (task : role.task = .working held stage)
    {operation : RecoveryOperation} (continues : Continues held operation)
    (terminal : operation.state.terminal = true) :
    EndsIdle settings role (finish operation) := by
  intro now
  refine ⟨role, .now role now, ?_⟩
  intro answer
  cases (answer : Except Raised Unit) with
  | error raised => exact ⟨_, .dropped role raised, rfl⟩
  | ok _ =>
      refine ⟨role, .statement role _, ?_⟩
      intro _
      exact ⟨_, .ended task ⟨continues.id, continues.requested⟩ terminal, rfl⟩

theorem conclude_follows {role : Role} (operationId boundary fallback : String)
    (raised : Option Raised) {operation : RecoveryOperation}
    (continues : Continues held operation) :
    Follows (Moves settings) (fun after result => after = role ∧ Continues held result ∧
      result.state.terminal = true) role
      (conclude operationId boundary fallback raised operation) := by
  cases raised with
  | none => exact ⟨rfl, ⟨continues.id, continues.requested⟩, rfl⟩
  | some raised =>
      intro cancelled
      refine ⟨role, .checked role operationId cancelled, rfl, ?_⟩
      cases (cancelled : Bool) <;> exact ⟨⟨continues.id, continues.requested⟩, rfl⟩

theorem concluded_follows {role : Role} (task : role.task = .working held stage)
    (operationId boundary fallback : String) (raised : Option Raised)
    {operation : RecoveryOperation} (continues : Continues held operation) :
    EndsIdle settings role
      (conclude operationId boundary fallback raised operation >>= finish) := by
  refine follows_bind (conclude_follows operationId boundary fallback raised continues) ?_
  rintro after result ⟨same, continues, terminal⟩
  subst same
  exact finish_follows task continues terminal

/-! ### Backup -/

theorem checksumOf_prefix {value : Value} {checksum : String}
    (known : checksumOf value = .ok checksum) : checksum.startsWith "sha256:" = true := by
  unfold checksumOf at known
  split at known
  · split at known
    · split at known
      · next starts =>
        cases known
        exact starts
      · cases known
    · cases known
  · cases known

theorem lookup_map_same (entries : List (Scope × String)) (scope : Scope) (checksum : String)
    (known : (entries.lookup scope).isSome = true) :
    (entries.map (fun entry => if entry.1 = scope then (scope, checksum) else entry)).lookup scope
      = some checksum := by
  induction entries with
  | nil => cases known
  | cons entry rest ih =>
      by_cases same : entry.1 = scope
      · simp [same]
      · have other : (scope == entry.1) = false := by simpa using Ne.symm same
        rw [List.map_cons, if_neg same, List.lookup_cons, other]
        rw [List.lookup_cons, other] at known
        exact ih known

theorem lookup_map_other (entries : List (Scope × String)) {scope other : Scope}
    (different : other ≠ scope) (checksum : String) :
    (entries.map (fun entry => if entry.1 = scope then (scope, checksum) else entry)).lookup other
      = entries.lookup other := by
  induction entries with
  | nil => rfl
  | cons entry rest ih =>
      by_cases same : entry.1 = scope
      · have left : (other == scope) = false := by simpa using different
        have right : (other == entry.1) = false := by rw [same]; exact left
        rw [List.map_cons, if_pos same, List.lookup_cons, left, List.lookup_cons, right]
        exact ih
      · rw [List.map_cons, if_neg same, List.lookup_cons, List.lookup_cons, ih]

/-- The artifact has a checksum for the scope. -/
def Artifact.Covers (artifact : Artifact) (scope : Scope) : Prop :=
  ∃ checksum, artifact.checksums.lookup scope = some checksum ∧
    checksum.startsWith "sha256:" = true

theorem covers_withChecksum (artifact : Artifact) (scope : Scope) {checksum : String}
    (starts : checksum.startsWith "sha256:" = true) :
    (artifact.withChecksum scope checksum).Covers scope := by
  refine ⟨checksum, ?_, starts⟩
  unfold Artifact.withChecksum
  dsimp only
  split
  · next known => exact lookup_map_same artifact.checksums scope checksum known
  · next unknown =>
    have missing : artifact.checksums.lookup scope = none :=
      Option.not_isSome_iff_eq_none.mp unknown
    simp [List.lookup_append, missing]

theorem Artifact.Covers.withChecksum {artifact : Artifact} {other : Scope}
    (covers : artifact.Covers other) (scope : Scope) {checksum : String}
    (starts : checksum.startsWith "sha256:" = true) :
    (artifact.withChecksum scope checksum).Covers other := by
  by_cases same : other = scope
  · subst same
    exact covers_withChecksum artifact other starts
  · rcases covers with ⟨known, found, begins⟩
    refine ⟨known, ?_, begins⟩
    unfold Artifact.withChecksum
    dsimp only
    split
    · rw [lookup_map_other artifact.checksums same]
      exact found
    · rw [List.lookup_append, found]
      rfl

/-- A backup whose artifact covers the scopes so far. -/
structure Making (held : RecoveryOperation) (backupId : String) (scopes : List Scope)
    (progress : BackupProgress) : Prop where
  continuing : Continuing held progress.operation
  id : progress.artifact.id = backupId
  covers : ∀ scope ∈ scopes, progress.artifact.Covers scope

theorem Making.moves {backupId : String} {scopes : List Scope} {progress : BackupProgress}
    (making : Making held backupId scopes progress) {operation : RecoveryOperation}
    (continuing : Continuing held operation) :
    Making held backupId scopes { progress with operation } :=
  ⟨continuing, making.id, making.covers⟩

theorem recordChecksum_follows {role : Role} (task : role.task = .working held stage)
    {backupId : String} (scope : Scope) {before : List Scope} {progress : BackupProgress}
    (making : Making held backupId before progress) (answer : Except Raised Value) :
    Follows (Moves settings) (fun after result => after = role ∧
      (result.1 = none → Making held backupId (before ++ [scope]) result.2) ∧
      ∃ others, Making held backupId others result.2) role
      (recordChecksum scope progress answer) := by
  unfold recordChecksum
  split
  · exact ⟨rfl, nofun, before, making⟩
  · next checksum known =>
    have starts : checksum.startsWith "sha256:" = true := by
      rcases answer with raised | value
      · cases known
      · exact checksumOf_prefix known
    refine follows_bind (save_follows task ⟨⟨making.continuing.id,
      making.continuing.requested⟩, making.continuing.active⟩) ?_
    rintro after ⟨raised, saved⟩ ⟨same, continuing⟩
    subst same
    have made : Making held backupId (before ++ [scope])
        ⟨saved, progress.artifact.withChecksum scope checksum⟩ := by
      refine ⟨continuing, making.id, ?_⟩
      intro other member
      rcases List.mem_append.mp member with earlier | last
      · exact (making.covers other earlier).withChecksum scope starts
      · rw [List.mem_singleton.mp last]
        exact covers_withChecksum progress.artifact scope starts
    exact ⟨rfl, fun _ => made, _, made⟩

theorem backupScope_follows {role : Role} {operationId backupId : String}
    (call : role.call = some (.worker (.backup operationId backupId)))
    (task : role.task = .working held .making) (scope : Scope) (before : List Scope)
    (progress : BackupProgress) (making : Making held backupId before progress) :
    Follows (Moves settings) (fun after result => after = role ∧
      (result.1 = none → Making held backupId (before ++ [scope]) result.2) ∧
      ∃ others, Making held backupId others result.2) role
      (backupScope operationId scope progress) := by
  refine follows_bind (enterScope_follows task operationId scope making.continuing) ?_
  rintro after ⟨raised, entered⟩ ⟨same, continuing⟩
  subst same
  cases raised with
  | some raised => exact ⟨rfl, nofun, before, making.moves continuing⟩
  | none =>
      intro answer
      have moved : Moves settings after (.adapterBackup progress.artifact.id scope) answer
          after := by
        rw [making.id]
        exact .captured call task scope answer
      exact ⟨after, moved, recordChecksum_follows task scope (making.moves continuing) answer⟩

/-- The artifact is published with its digest, or not at all. -/
theorem publish_follows {role : Role} {operationId backupId : String}
    (call : role.call = some (.worker (.backup operationId backupId)))
    (task : role.task = .working held .making) {progress : BackupProgress}
    (making : Making held backupId backupScopes progress) :
    Follows (Moves settings) (fun after result => (∃ stage, after.task = .working held stage) ∧
      Continues held result.2.operation) role (publish settings progress) := by
  intro answer
  refine ⟨role, .statement role answer, ?_⟩
  cases (answer : Except Raised Unit) with
  | error raised => exact ⟨⟨_, task⟩, making.continuing.toContinues⟩
  | ok _ =>
      have whole : (progress.artifact.finish settings).Whole settings.sha256 :=
        ⟨making.covers, rfl⟩
      have mine : role.call = some (.worker (.backup operationId
          (progress.artifact.finish settings).id)) := by
        rw [call, ← making.id]
        rfl
      intro _
      exact ⟨_, .published mine task whole, ⟨_, rfl⟩, making.continuing.toContinues⟩

theorem tryBackup_follows {role : Role} {operationId backupId : String}
    (call : role.call = some (.worker (.backup operationId backupId)))
    (task : role.task = .working held .making) {progress : BackupProgress}
    (continues : Continues held progress.operation) (id : progress.artifact.id = backupId) :
    Follows (Moves settings) (fun after result => (∃ stage, after.task = .working held stage) ∧
      Continues held result.2.operation) role (tryBackup settings operationId progress) := by
  have running : Continuing held { progress.operation with state := .running } :=
    ⟨⟨continues.id, continues.requested⟩, rfl⟩
  refine follows_bind (save_follows task running) ?_
  rintro after ⟨raised, started⟩ ⟨same, continuing⟩
  subst same
  cases raised with
  | some raised => exact ⟨⟨_, task⟩, continuing.toContinues⟩
  | none =>
      refine follows_bind (eachScope_follows (backupScope_follows call task) backupScopes []
        _ ⟨continuing, id, nofun⟩) ?_
      rintro again ⟨raised, outcome⟩ ⟨same, finished, others, kept⟩
      subst same
      cases raised with
      | some raised => exact ⟨⟨_, task⟩, kept.continuing.toContinues⟩
      | none => exact publish_follows call task (finished rfl)

theorem workBackup_follows {role : Role} {operationId backupId : String}
    (call : role.call = some (.worker (.backup operationId backupId)))
    (task : role.task = .working held .entered) :
    EndsIdle settings role (workBackup settings operationId backupId held) := by
  intro answer
  cases (answer : Except Raised Unit) with
  | error raised => exact ⟨_, .dropped role raised, rfl⟩
  | ok _ =>
      refine ⟨role, .statement role _, ?_⟩
      intro _
      refine ⟨role.does (.working held .making), .began call task, ?_⟩
      have mine : (role.does (.working held .making)).call =
          some (.worker (.backup operationId backupId)) := call
      have tried : Follows (Moves settings) _ (role.does (.working held .making))
          (tryBackup settings operationId
            ⟨held, newArtifact settings backupId held.createdAt⟩) :=
        tryBackup_follows mine rfl ⟨rfl, rfl⟩ rfl
      show Follows _ _ _ (tryBackup settings operationId
        ⟨held, newArtifact settings backupId held.createdAt⟩ >>= fun outcome =>
          conclude operationId backupBoundary backupFallback outcome.1 outcome.2.operation >>=
            finish)
      refine follows_bind tried ?_
      rintro after ⟨raised, outcome⟩ ⟨⟨stage, working⟩, continues⟩
      exact concluded_follows working operationId _ _ raised continues

/-- What the row a worker reads first leaves it with. -/
def Taken (role : Role) (after : Role) : Except Raised (Option RecoveryOperation) → Prop
  | .ok (some held) => after = role.does (.working held .entered)
  | _ => after.task = .idle

theorem take_follows {role : Role} {worker : Worker}
    (call : role.call = some (.worker worker)) (task : role.task = .awaiting) :
    Follows (Moves settings) (Taken role) role
      (execute (.readOperation worker.operationId)) := by
  intro answer
  cases (answer : Except Raised Unit) with
  | error raised => exact ⟨_, .dropped role raised, rfl⟩
  | ok _ =>
      refine ⟨role, .statement role _, ?_⟩
      intro row
      cases (row : Option RecoveryOperation) with
      | none => exact ⟨_, .missed _ task, rfl⟩
      | some held => exact ⟨_, .took call task, rfl⟩

theorem runBackup_follows {role : Role} {operationId backupId : String}
    (call : role.call = some (.worker (.backup operationId backupId)))
    (task : role.task = .awaiting) :
    EndsIdle settings role (runBackup settings operationId backupId) := by
  refine follows_bind (take_follows call task) ?_
  rintro after (raised | _ | held) taken
  · exact taken
  · exact taken
  · subst taken
    exact workBackup_follows call rfl

/-! ### Restore -/

theorem restoreScope_follows {role : Role} {operationId backupId : String}
    (call : role.call = some (.worker (.restore operationId backupId)))
    (task : role.task = .working held .cleared) (scope : Scope) (before : List Scope)
    (operation : RecoveryOperation) (continuing : Continuing held operation) :
    Follows (Moves settings) (fun after result => after = role ∧
      (result.1 = none → Continuing held result.2) ∧
      ∃ _others : List Scope, Continuing held result.2) role
      (restoreScope operationId backupId scope operation) := by
  refine follows_bind (enterScope_follows task operationId scope continuing) ?_
  rintro after ⟨raised, entered⟩ ⟨same, onward⟩
  subst same
  have kept : Continuing held entered := onward
  cases raised with
  | some raised => exact ⟨rfl, nofun, before, kept⟩
  | none =>
      intro answer
      refine ⟨after, .restored call task scope answer, ?_⟩
      cases (answer : Except Raised Unit) with
      | error raised => exact ⟨rfl, nofun, before, kept⟩
      | ok _ =>
          have completed : Continuing held (entered.complete scope) :=
            ⟨⟨kept.id, kept.requested⟩, kept.active⟩
          refine (save_follows task completed).mono ?_
          rintro again result ⟨same, saved⟩
          exact ⟨same, fun _ => saved, before, saved⟩

theorem verifying_follows {role : Role} {operationId backupId : String}
    (call : role.call = some (.worker (.restore operationId backupId)))
    (task : role.task = .working held .cleared) {operation : RecoveryOperation}
    (continuing : Continuing held operation) :
    Follows (Moves settings) (fun after result => (∃ stage, after.task = .working held stage) ∧
      Continues held result.2) role (verifying settings backupId operation) := by
  refine follows_bind (save_follows task ⟨⟨continuing.id, continuing.requested⟩, rfl⟩) ?_
  rintro after ⟨raised, saved⟩ ⟨same, onward⟩
  subst same
  have kept : Continues held saved := onward.toContinues
  cases raised with
  | some raised => exact ⟨⟨_, task⟩, kept⟩
  | none =>
      intro answer
      refine ⟨after, .verified call task _ answer, ?_⟩
      cases (answer : Except Raised (List Value)) with
      | error raised => exact ⟨⟨_, task⟩, kept⟩
      | ok evidence =>
          dsimp only [Program.bind]
          cases judge evidence with
          | error raised => exact ⟨⟨_, task⟩, kept⟩
          | ok _ => exact ⟨⟨_, task⟩, kept.id, kept.requested⟩

theorem restoreScopes_follows {role : Role} {operationId backupId : String}
    (call : role.call = some (.worker (.restore operationId backupId)))
    (task : role.task = .working held .cleared) {operation : RecoveryOperation}
    (continues : Continues held operation) :
    Follows (Moves settings) (fun after result => (∃ stage, after.task = .working held stage) ∧
      Continues held result.2) role
      (restoreScopes settings operationId backupId operation) := by
  refine follows_bind (save_follows task ⟨⟨continues.id, continues.requested⟩, rfl⟩) ?_
  rintro after ⟨raised, started⟩ ⟨same, continuing⟩
  subst same
  have kept : Continuing held started := continuing
  cases raised with
  | some raised => exact ⟨⟨_, task⟩, kept.toContinues⟩
  | none =>
      refine follows_bind (eachScope_follows (restoreScope_follows call task)
        backupScopes.reverse [] _ kept) ?_
      rintro again ⟨raised, outcome⟩ ⟨same, finished, _, ended⟩
      subst same
      cases raised with
      | some raised => exact ⟨⟨_, task⟩, ended.toContinues⟩
      | none => exact verifying_follows call task ended

/-- A restore goes on only once it has read a complete artifact of the profile. -/
theorem tryRestore_follows {role : Role} {operationId backupId : String}
    (call : role.call = some (.worker (.restore operationId backupId)))
    (task : role.task = .working held .entered) :
    Follows (Moves settings) (fun after result => (∃ stage, after.task = .working held stage) ∧
      Continues held result.2) role (tryRestore settings operationId backupId held) := by
  intro answer
  refine ⟨role, .statement role answer, ?_⟩
  cases (answer : Except Raised Unit) with
  | error raised => exact ⟨⟨_, task⟩, rfl, rfl⟩
  | ok _ =>
      intro row
      have unchanged : Moves settings role (.readArtifact backupId) row role :=
        .looked role backupId row
      rcases (row : Option (Bool × Artifact)) with _ | ⟨complete, artifact⟩
      · exact ⟨role, unchanged, ⟨_, task⟩, rfl, rfl⟩
      · cases complete with
        | false => exact ⟨role, unchanged, ⟨_, task⟩, rfl, rfl⟩
        | true =>
            by_cases profile : artifact.profileId = settings.profileId
            · refine ⟨_, .cleared call task profile, ?_⟩
              have mine : (role.does (.working held .cleared)).call =
                  some (.worker (.restore operationId backupId)) := call
              show Follows _ _ _ (if artifact.profileId = settings.profileId then _ else _)
              rw [if_pos profile]
              exact restoreScopes_follows mine rfl ⟨rfl, rfl⟩
            · refine ⟨role, unchanged, ?_⟩
              show Follows _ _ _ (if artifact.profileId = settings.profileId then _ else _)
              rw [if_neg profile]
              exact ⟨⟨_, task⟩, rfl, rfl⟩

theorem runRestore_follows {role : Role} {operationId backupId : String}
    (call : role.call = some (.worker (.restore operationId backupId)))
    (task : role.task = .awaiting) :
    EndsIdle settings role (runRestore settings operationId backupId) := by
  refine follows_bind (take_follows call task) ?_
  rintro after (raised | _ | held) taken
  · exact taken
  · exact taken
  · subst taken
    have mine : (role.does (.working held .entered)).call =
        some (.worker (.restore operationId backupId)) := call
    refine follows_bind (tryRestore_follows mine rfl) ?_
    rintro after ⟨raised, outcome⟩ ⟨⟨stage, working⟩, continues⟩
    exact concluded_follows working operationId _ _ raised continues

/-! ## The protocol -/

theorem body_follows (call : Call) :
    Follows (Moves settings) finalRole (enter call) (body settings call) := by
  cases call with
  | openStore => exact follows_bind (openStore_follows rfl) (fun _ _ idle => idle)
  | submitBackup actor =>
      exact follows_bind (submitBackup_follows rfl rfl rfl actor) (fun _ _ idle => idle)
  | submitRestore backupId actor confirmation =>
      exact follows_bind (submitRestore_follows rfl rfl rfl backupId actor confirmation)
        (fun _ _ idle => idle)
  | cancel operationId => exact follows_bind (cancel_follows rfl rfl) (fun _ _ idle => idle)
  | worker worker =>
      cases worker with
      | backup operationId backupId =>
          exact follows_bind (runBackup_follows rfl rfl) (fun _ _ idle => idle)
      | restore operationId backupId =>
          exact follows_bind (runRestore_follows rfl rfl) (fun _ _ idle => idle)

theorem child_spawned (role : Role) {request : RecoveryRequest} {call : Call}
    (spawns : spawned request = some call) : child role request = enter call := by
  unfold child
  rw [spawns]

def recoveryProtocol (platform : Platform) (service : Service) :
    Protocol (machine platform service) Role where
  move := Moves (platform.settings service)
  final := finalRole
  nobody := nobody
  enter := enter
  child := child
  call := Role.call
  nobody_final := rfl
  nobody_call := rfl
  boot_follows := body_follows _
  enter_follows _ label _ := body_follows label
  child_follows role _ _ _ label _ spawns := child_spawned role spawns ▸ body_follows label
  enter_call _ := rfl
  move_call _ _ _ _ moved := moves_call moved
  child_call role _ _ _ _ _ spawns := child_spawned role spawns ▸ rfl

end FortifyLab.Recovery
