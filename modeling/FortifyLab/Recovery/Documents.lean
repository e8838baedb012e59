import FortifyLab.Library.Json
import FortifyLab.Library.Value

/-! The documents of backup and restore. -/

namespace FortifyLab.Recovery

open Json

inductive Scope where
  | managerState | configurationMetadata | mysqlSsc | sscSecretKey | postgresqlDast
  deriving DecidableEq, Repr

def Scope.name : Scope → String
  | .managerState => "manager-state"
  | .configurationMetadata => "configuration-metadata"
  | .mysqlSsc => "mysql-ssc"
  | .sscSecretKey => "ssc-secret-key"
  | .postgresqlDast => "postgresql-dast"

/-- `BACKUP_SCOPES`. -/
def backupScopes : List Scope :=
  [.managerState, .configurationMetadata, .mysqlSsc, .sscSecretKey, .postgresqlDast]

def restoreConfirmation : String := "RESTORE VERIFIED PLATFORM BACKUP"

/-- The checks a restore asks the helper for. -/
def requestedChecks : List String :=
  ["manager-readiness", "mysql-query", "ssc-readiness", "postgresql-query", "dast-readiness",
    "ssc-secret-key-match"]

inductive RecoveryState where
  | queued | running | verifying | succeeded | failed | interrupted | cancelled
  deriving DecidableEq, Repr

/-- `TERMINAL_STATES`. -/
def RecoveryState.terminal : RecoveryState → Bool
  | .succeeded | .failed | .interrupted | .cancelled => true
  | _ => false

inductive RecoveryAction where
  | backup | restore
  deriving DecidableEq, Repr

structure Destination where
  id : String
  storageClass : String
  retentionDays : Nat
  deriving DecidableEq, Repr

/-- The kept fields of an item of evidence, as texts. -/
abbrev EvidenceItem := List (String × String)

structure RecoveryOperation where
  id : String
  action : RecoveryAction
  backupId : String
  profileId : String
  actor : String
  state : RecoveryState
  currentScope : Option Scope
  completedScopes : List Scope
  cancellationRequested : Bool
  createdAt : String
  updatedAt : String
  evidence : List EvidenceItem
  error : Option String
  deriving DecidableEq, Repr

structure Artifact where
  id : String
  profileId : String
  scope : List Scope
  destination : Destination
  createdAt : String
  checksums : List (Scope × String)
  manifestDigest : Option String
  deriving DecidableEq, Repr

/-- An error of the service with its message, or any other exception. -/
inductive Raised where
  | recovery (message : String)
  | other
  deriving DecidableEq, Repr

/-- `_safe_error`. -/
def Raised.safeText (raised : Raised) (fallback : String) : String :=
  match raised with
  | .recovery message => message
  | .other => fallback

/-! ## The canonical text of an artifact -/

def encodeField (field : String × List Char) : List Char :=
  encodeString field.1 ++ ':' :: field.2

def encodeObject (fields : List (String × List Char)) : List Char :=
  encodeItems encodeField '{' '}' fields

def Destination.encode (destination : Destination) : List Char :=
  encodeObject [("class", encodeString destination.storageClass),
    ("id", encodeString destination.id),
    ("retentionDays", (toString destination.retentionDays).toList)]

/-- `_encode` of an artifact that has no digest yet. -/
def Artifact.encode (artifact : Artifact) : String :=
  String.ofList (encodeObject [("apiVersion", encodeString "fortifylab.io/v1alpha1"),
    ("checksums", encodeStringMap ((artifact.checksums.map (fun entry =>
      (entry.1.name, entry.2))).mergeSort (fun left right => decide (¬ right.1 < left.1)))),
    ("createdAt", encodeString artifact.createdAt),
    ("destination", artifact.destination.encode),
    ("id", encodeString artifact.id),
    ("kind", encodeString "PlatformBackup"),
    ("profileId", encodeString artifact.profileId),
    ("scope", encodeStrings (artifact.scope.map Scope.name))])

/-- The digest recorded in a finished artifact. -/
def Artifact.digest (sha256 : String → String) (artifact : Artifact) : String :=
  "sha256:" ++ sha256 { artifact with manifestDigest := none }.encode

/-- `artifact["checksums"][scope] = digest`. -/
def Artifact.withChecksum (artifact : Artifact) (scope : Scope) (checksum : String) : Artifact :=
  { artifact with
    checksums := if (artifact.checksums.lookup scope).isSome then
        artifact.checksums.map (fun entry => if entry.1 = scope then (scope, checksum) else entry)
      else artifact.checksums ++ [(scope, checksum)] }

/-! ## What the helper answers -/

/-- `result.get("checksum")` where it is a checksum; an answer that is no object has no
`get`. -/
def checksumOf : Value → Except Raised String
  | .obj fields =>
      match fields.lookup "checksum" with
      | some (.str text) =>
          if text.startsWith "sha256:" then .ok text
          else .error (.recovery "backup scope did not produce a checksum")
      | _ => .error (.recovery "backup scope did not produce a checksum")
  | _ => .error .other

/-- `item.get("state") != "passed"` of every item up to the first that is true. -/
def anyNotPassed : List Value → Except Raised Bool
  | [] => .ok false
  | .obj fields :: rest =>
      if (fields.lookup "state").any (·.isText "passed") then anyNotPassed rest else .ok true
  | _ :: _ => .error .other

/-- `_sanitize_evidence`; `render` is `str`. -/
def sanitizeEvidence (render : Value → String) (items : List Value) : List EvidenceItem :=
  items.map (fun item =>
    match item with
    | .obj fields => (fields.filter (fun field => ["check", "state", "code"].contains field.1)).map
        (fun field => (field.1, String.ofList ((render field.2).toList.take 128)))
    | _ => [])

end FortifyLab.Recovery
