import FortifyLab.Redaction.SensitiveText
import FortifyLab.Library.Value
import Mathlib.Data.List.Infix

/-! `sanitize_diagnostics`: bounded diagnostics without secrets or protected paths. -/

namespace FortifyLab.Supervisor

open Redaction (fold isSpace)

def forbiddenKeys : List String :=
  ["log", "logs", "raw", "path", "token", "secret", "credential", "authorization"]

/-- `forbidden in normalized`. -/
def mentions (needle : String) (text : List Char) : Bool := decide (needle.toList <:+: text)

/-- `str(key).lower().replace("_", "-")`. -/
def normalizedKey (key : String) : List Char :=
  key.toList.map (fun character => if character = '_' then '-' else character.toLower)

def isForbiddenKey (key : String) : Bool :=
  forbiddenKeys.any (fun forbidden => mentions forbidden (normalizedKey key))

open Regex in
/-- `(?i)(bearer|token|password|secret)\s*[:= ]\s*\S+`. -/
def namedSecret : Regex :=
  .seq (.group (words fold ["bearer".toList, "token".toList, "password".toList, "secret".toList]))
    (.seq (run isSpace) (.seq (.one (fun character => ":= ".toList.contains character))
      (.seq (run isSpace) (plus (fun character => !isSpace character)))))

open Regex in
/-- `(?:/home|/etc|/var|/run|~)/\S+`. -/
def protectedLocation : Regex :=
  .seq (words id ["/home".toList, "/etc".toList, "/var".toList, "/run".toList, "~".toList])
    (.seq (.one (fun character => character == '/'))
      (plus (fun character => !isSpace character)))

/-- The text branch. -/
def sanitizeText (limit : Nat) (text : String) : String :=
  let oneLine := text.toList.map (fun character =>
    if character = '\r' ∨ character = '\n' then ' ' else character)
  String.ofList ((protectedLocation.sub "[protected-path]".toList
    (namedSecret.sub "=[redacted]".toList oneLine)).take limit)

def clip (size : Nat) (text : String) : String := String.ofList (text.toList.take size)

/-- A key that is set again keeps its place. -/
def setField (fields : List (String × Value)) (field : String × Value) : List (String × Value) :=
  if (fields.lookup field.1).isSome then
    fields.map (fun other => if other.1 = field.1 then field else other)
  else fields ++ [field]

mutual

/-- `sanitize_diagnostics`. Every container keeps its first items only. -/
def sanitizeDiagnostics (limit : Nat) : Value → Value
  | .obj fields => .obj ((sanitizeFields limit 12 fields).foldl setField [])
  | .arr items => .arr (sanitizeItems limit 8 items)
  | .str text => .str (sanitizeText limit text)
  | scalar => scalar

def sanitizeFields (limit : Nat) : Nat → List (String × Value) → List (String × Value)
  | 0, _ => []
  | _, [] => []
  | count + 1, (key, item) :: rest =>
      if isForbiddenKey key then sanitizeFields limit count rest
      else (clip 40 key, sanitizeDiagnostics limit item) :: sanitizeFields limit count rest

def sanitizeItems (limit : Nat) : Nat → List Value → List Value
  | 0, _ => []
  | _, [] => []
  | count + 1, item :: rest => sanitizeDiagnostics limit item :: sanitizeItems limit count rest

end

end FortifyLab.Supervisor
