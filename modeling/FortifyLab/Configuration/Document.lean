import Mathlib.Data.Rat.Defs
import Mathlib.Algebra.Order.Field.Rat
import Mathlib.Data.List.Basic

/-! The manager's configuration as a TOML document, and what `validate_document` accepts. -/

namespace FortifyLab.Configuration

/-- A TOML value. A float that is no finite number has no value; dates and times are not told
apart. -/
inductive Toml where
  | text (text : String)
  | int (number : Int)
  | float (number : Option ℚ)
  | bool (flag : Bool)
  | time
  | array (items : List Toml)
  | table (fields : List (String × Toml))

abbrev Document := List (String × Toml)

structure MigrationError where
  message : String
  deriving DecidableEq

/-- An address as `ipaddress` reads it. -/
structure IpAddress where
  version : Nat
  number : Nat
  isPrivate : Bool
  isGlobal : Bool
  deriving DecidableEq

def fail {α : Type} (message : String) : Except MigrationError α := .error ⟨message⟩

def demand (holds : Bool) (message : String) : Except MigrationError Unit :=
  if holds then .ok () else fail message

/-- `schema_version`. -/
def schemaVersion (document : Document) : Except MigrationError Int :=
  match (document.lookup "schema_version").getD (.int 0) with
  | .int version =>
      if version < 0 then fail "manager configuration schema version is invalid"
      else if 1 < version then fail "manager configuration uses a newer unsupported schema"
      else .ok version
  | _ => fail "manager configuration schema version is invalid"

/-- `_section`. -/
def sectionOf (document : Document) (name : String) : Except MigrationError Document :=
  match (document.lookup name).getD (.table []) with
  | .table fields => .ok fields
  | _ => fail ("manager configuration section [" ++ name ++ "] is invalid")

/-! ## Tests of single fields -/

def Toml.isText : Toml → Bool
  | .text _ => true
  | _ => false

def Toml.isBool : Toml → Bool
  | .bool _ => true
  | _ => false

/-- A number, a boolean not being one, between the bounds. -/
def Toml.isNumberIn (low high : ℚ) : Toml → Bool
  | .int number => decide (low ≤ number ∧ (number : ℚ) ≤ high)
  | .float (some number) => decide (low ≤ number ∧ number ≤ high)
  | _ => false

def Toml.isPort : Toml → Bool
  | .int number => decide (1 ≤ number ∧ number ≤ 65535)
  | _ => false

/-- The field is absent, or passes the test. -/
def optional (fields : Document) (key : String) (test : Toml → Bool) : Bool :=
  (fields.lookup key).all test

/-- Each of the fields that is there is a text. -/
def textFields (fields : Document) (place : String) : List String → Except MigrationError Unit
  | [] => .ok ()
  | key :: rest => do
      demand (optional fields key Toml.isText)
        ("manager configuration " ++ place ++ key ++ " is invalid")
      textFields fields place rest

def isEnabled (fields : Document) : Bool :=
  match fields.lookup "enabled" with
  | some (.bool flag) => flag
  | _ => false

/-! ## Addresses -/

def isAlphanumeric (character : Char) : Bool :=
  'a' ≤ character && character ≤ 'z' || 'A' ≤ character && character ≤ 'Z' ||
    '0' ≤ character && character ≤ '9'

/-- `re.fullmatch` with the pattern of a domain. -/
def isDomain (text : List Char) : Bool :=
  text.all (fun character => isAlphanumeric character || character == '.' || character == '-') &&
    text.head?.any isAlphanumeric && text.getLast?.any isAlphanumeric

def textOf (fields : Document) (key : String) : String :=
  match fields.lookup key with
  | some (.text text) => text
  | _ => ""

def networkKeys : List String := ["domain", "private_backend_address", "public_address"]

/-- The network section, where there is one. Without the three keys the domain is empty, and
refused. -/
def validateNetwork (ipAddress : String → Option IpAddress) (network : Document) :
    Except MigrationError Unit := do
  demand (!networkKeys.any (fun key => (network.lookup key).isSome) ||
      networkKeys.all (fun key => (network.lookup key).isSome))
    "manager configuration network address model is incomplete"
  demand (isDomain (textOf network "domain").toList)
    "manager configuration network.domain is invalid"
  match ipAddress (textOf network "private_backend_address"),
      ipAddress (textOf network "public_address") with
  | some privateAddress, some publicAddress => do
      demand privateAddress.isPrivate
        "manager configuration network.private_backend_address must be private"
      demand (publicAddress.version == privateAddress.version &&
          publicAddress.number == privateAddress.number && privateAddress.isPrivate ||
          publicAddress.version == 4 && publicAddress.isGlobal)
        "manager configuration network.public_address must be a public IPv4 address"
  | _, _ => fail "manager configuration network address is invalid"

/-- The three files that the preflight may name. -/
def preflightFiles (preflight : Document) : List String → Except MigrationError Unit
  | [] => .ok ()
  | key :: rest => do
      demand (optional preflight key (fun value => match value with
          | .text text => text.startsWith "/"
          | _ => false))
        ("manager configuration preflight." ++ key ++ " must be an absolute path")
      preflightFiles preflight rest

/-- `validate_document`. -/
def validateDocument (ipAddress : String → Option IpAddress) (document : Document) :
    Except MigrationError Int := do
  let version ← schemaVersion document
  let server ← sectionOf document "server"
  let storage ← sectionOf document "storage"
  let authentication ← sectionOf document "authentication"
  let cluster ← sectionOf document "cluster"
  let network ← sectionOf document "network"
  let lifecycle ← sectionOf document "lifecycle"
  let recovery ← sectionOf document "recovery"
  let preflight ← sectionOf document "preflight"
  demand (!server.isEmpty && !storage.isEmpty && !authentication.isEmpty)
    "manager configuration requires server, storage, and authentication sections"
  textFields server "server." ["host"]
  demand (optional server "host" (fun value => match value with
      | .text text => text == "0.0.0.0"
      | _ => false)) "manager configuration server.host must be 0.0.0.0"
  demand (optional server "port" Toml.isPort) "manager configuration server.port is invalid"
  textFields storage "storage." ["database"]
  textFields authentication "authentication." ["accounts"]
  textFields network "network." networkKeys
  if !network.isEmpty then validateNetwork ipAddress network
  textFields cluster "cluster." ["server", "namespace", "token_file", "ca_file",
    "health_probe_socket"]
  demand (optional cluster "timeout_seconds" (Toml.isNumberIn 1 60))
    "manager configuration cluster.timeout_seconds is invalid"
  demand (optional lifecycle "enabled" Toml.isBool)
    "manager configuration lifecycle.enabled is invalid"
  demand (optional recovery "enabled" Toml.isBool)
    "manager configuration recovery.enabled is invalid"
  demand (!isEnabled recovery || isEnabled lifecycle)
    "manager configuration recovery.enabled requires lifecycle.enabled"
  demand (optional recovery "timeout_seconds" (Toml.isNumberIn 1 7200))
    "manager configuration recovery.timeout_seconds is invalid"
  preflightFiles preflight ["license_file", "registry_auth_file", "tls_certificate_file"]
  return version

end FortifyLab.Configuration
