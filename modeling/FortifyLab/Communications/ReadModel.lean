import FortifyLab.Communications.Commands
import FortifyLab.Redaction.SensitiveText

/-! `ReadModelService`: the manager's read models as bounded messages. -/

namespace FortifyLab.Communications

open Redaction (fold isSpace)

/-- `str` of a value that is not a text, `\w`, and the address of the Web UI. -/
structure ReadModelService where
  render : Value → String
  isWord : Char → Bool
  webBase : String

/-- What the manager answers to a read. -/
inductive ManagerAnswer where
  | document (fields : List (String × Value))
  | unauthorized
  | rateLimited (retryAfter : Option Nat)
  | unavailable

/-! ## Texts -/

open Regex in
/-- `(?i)\b(password|…|credential)\b\s*[:=]\s*\S+`; what follows a keyword is no letter anyway. -/
def keyedSecret (isWord : Char → Bool) : Regex :=
  .seq (.notAfter isWord)
    (.seq (.group (words fold ["password".toList, "token".toList, "secret".toList,
        "authorization".toList, "credential".toList]))
      (.seq (run isSpace) (.seq (.one (fun character => character == ':' || character == '='))
        (.seq (run isSpace) (plus (fun character => !isSpace character))))))

open Regex in
/-- `(?<!\w)(?:/home|/etc|/var|/run|/root|~)/\S+`. -/
def hostPath (isWord : Char → Bool) : Regex :=
  .seq (.notAfter isWord)
    (.seq (words id ["/home".toList, "/etc".toList, "/var".toList, "/run".toList,
        "/root".toList, "~".toList])
      (.seq (.one (fun character => character == '/')) (plus (fun character => !isSpace character))))

namespace ReadModelService

variable (service : ReadModelService)

/-- `str`. -/
def str : Value → String
  | .str text => text
  | other => service.render other

/-- `_safe_text`. -/
def safeText (value : Value) (limit : Nat := 240) : String :=
  let text := match value with
    | .null => "unknown"
    | other => service.str other
  let flat := text.toList.map (fun character =>
    if character = '\r' ∨ character = '\n' then ' ' else character)
  let plain := (keyedSecret service.isWord).sub "=[redacted]".toList flat
  String.ofList (((hostPath service.isWord).sub "[protected-path]".toList plain).take limit)

/-! ## Parts of documents -/

/-- `document.get(key, default)`. -/
def field (document : Value) (key : String) (default : Value) : Value :=
  (document.get key).getD default

/-- `_items`. -/
def items (document : Value) : Except Raised (List Value) :=
  match field document "items" (.arr []) with
  | .arr values => .ok ((values.take 10).filter Value.isObject)
  | _ => .error .responseInvalid

/-- `_freshness`. -/
def freshness (document : Value) : String :=
  let state := match document.get "freshness" with
    | some (.obj fields) => service.safeText (field (.obj fields) "state" (.str "unknown")) 32
    | _ => "unknown"
  let observed := service.safeText (field document "observedAt" (.str "unknown")) 40
  s!"Freshness: {state} (observed {observed})"

/-- An action for another page, when the manager has one. -/
def turn (label : String) (kind : CommandKind) (offered : Bool) (page : Nat) :
    Except Raised (List Action) := do
  if offered then
    let command ← readCommand kind page none
    return [⟨label, command⟩]
  else return []

def hasPrevious (document : Value) (page : Nat) : Bool :=
  match document.get "pagination" with
  | some (.obj fields) => (field (.obj fields) "hasPrevious" .null).truthy && decide (1 < page)
  | _ => false

def hasNext (document : Value) : Bool :=
  match document.get "pagination" with
  | some (.obj fields) => (field (.obj fields) "hasNext" .null).truthy
  | _ => false

/-- `_pagination`. -/
def pagination (kind : CommandKind) (document : Value) (page : Nat) :
    Except Raised (List Action) := do
  let previous ← turn "← Previous" kind (hasPrevious document page) (page - 1)
  let next ← turn "Next →" kind (hasNext document) (page + 1)
  return previous ++ next

def webPath : CommandKind → String
  | .summary => "/"
  | .health => "/health"
  | .preflight => "/preflight"
  | .incidents => "/incidents"
  | .history => "/history"
  | .help => ""

/-- `_link`. -/
def link (kind : CommandKind) : String := s!"Open Web UI: {service.webBase}{webPath kind}"

/-- `"\n".join(lines)[:MAX_MESSAGE]`. -/
def joined (lines : List String) : String :=
  String.ofList ((List.intercalate ['\n'] (lines.map String.toList)).take maxMessage)

/-! ## Renderers -/

def plainCommand (kind : CommandKind) : ReadCommand := ⟨kind, 1, none, by decide, by simp⟩

/-- `_summary`. -/
def summary (document : Value) : Except Raised Message := do
  let entries ← items document
  let lines := entries.map (fun item =>
    service.safeText (field item "displayName" (field item "id" (.str "Component"))) 80 ++ ": " ++
      service.safeText (field item "status" (.str "unknown")) 32)
  message (joined (["Fortify Lab summary", service.freshness document] ++ lines ++
      [service.link .summary]))
    [⟨"Health", plainCommand .health⟩, ⟨"Preflight", plainCommand .preflight⟩,
      ⟨"Incidents", plainCommand .incidents⟩, ⟨"History", plainCommand .history⟩]
    (some "lab:summary")

/-- The line of a remediation that is safe. -/
def safeAction (item : Value) : List String :=
  match item.get "remediation" with
  | some (.obj fields) =>
      match field (.obj fields) "safe" .null with
      | .bool true => ["  Safe action: " ++
          service.safeText (field (.obj fields) "summary" (.str "See Web UI"))]
      | _ => []
  | _ => []

/-- The lines of one component's health. -/
def healthLines (item : Value) : List String :=
  let status := service.safeText (field item "status" (.str "unknown")) 32
  let name := service.safeText (field item "displayName" (field item "id" (.str "Component"))) 80
  let suffix := match item.get "rootCause" with
    | some (.obj fields) => " — cause: " ++ service.safeText
        (field (.obj fields) "summary" (field (.obj fields) "componentId" (.str "unknown")))
    | _ => ""
  let evidence := match item.get "evidence" with
    | some (.obj fields) => ["  Evidence: " ++
        service.safeText (field (.obj fields) "summary" (.str "unavailable")) ++ "; checked " ++
        service.safeText (field (.obj fields) "observedAt" (.str "unknown")) 40]
    | _ => []
  [name ++ ": " ++ status ++ suffix] ++ evidence ++ service.safeAction item

def isBlocked (item : Value) : Bool := (field item "status" .null).isText "blocked"

/-- `_health`. -/
def health (document : Value) (command : ReadCommand) : Except Raised Message := do
  let entries ← items document
  let chosen := match command.component with
    | some component => entries.filter (fun item => (field item "id" .null).isText component)
    | none => entries
  let roots := chosen.filter (fun item => !isBlocked item)
  let blocked := chosen.filter isBlocked
  let actions ← pagination .health document command.page
  message (joined (["Dependency-aware health", service.freshness document] ++
      (roots ++ blocked).flatMap service.healthLines ++ [service.link .health]))
    actions (some "lab:health")

/-- What `_preflight`, `_incidents` and `_history` share: a title, the lines of the items or a line
for none, and the pages. -/
def listing (kind : CommandKind) (title empty key : String) (lines : Value → List String)
    (document : Value) (command : ReadCommand) : Except Raised Message := do
  let entries ← items document
  let actions ← pagination kind document command.page
  message (joined ([title, service.freshness document] ++
      (if entries.isEmpty then [empty] else []) ++ entries.flatMap lines ++ [service.link kind]))
    actions (some key)

/-- `_preflight`. -/
def preflight (document : Value) (command : ReadCommand) : Except Raised Message :=
  service.listing .preflight "Latest deployment preflight" "No preflight result is available."
    "lab:preflight" (fun item =>
      [service.safeText (field item "name" (field item "id" (.str "Check"))) 100 ++ ": " ++
        service.safeText (field item "status" (.str "unknown")) 32 ++ " — " ++
        service.safeText (field item "summary" (.str "No detail available."))] ++
      service.safeAction item) document command

/-- `_incidents`. -/
def incidents (document : Value) (command : ReadCommand) : Except Raised Message :=
  service.listing .incidents "Manager incidents" "No incidents on this page." "lab:incidents"
    (fun item =>
      let root := match item.get "rootCause" with
        | some (.obj fields) => field (.obj fields) "summary" (.str "unknown")
        | _ => .str "unknown"
      [service.safeText (field item "severity" (.str "unknown")) 16 ++ " " ++
        service.safeText (field item "status" (.str "unknown")) 16 ++ ": " ++
        service.safeText (field item "summary" (.str "Incident")) ++ "\n  Root cause: " ++
        service.safeText root]) document command

/-- `_history`. -/
def history (document : Value) (command : ReadCommand) : Except Raised Message :=
  service.listing .history "Recent manager history" "No history on this page." "lab:history"
    (fun item =>
      [service.safeText (field item "occurredAt" (field item "updatedAt" (.str "unknown"))) 40 ++
        " — " ++ service.safeText
          (field item "summary" (field item "type" (.str "Event")))]) document command

/-- `_help`. -/
def help : Except Raised Message :=
  message ("Read-only Fortify Lab commands\n" ++
    "/lab — inventory and aggregate state\n" ++
    "/health [component] — dependency-aware health\n" ++
    "/preflight — latest deployment preflight\n" ++
    "/incidents [page=N] — current incidents\n" ++
    "/history [page=N] — recent manager history\n" ++
    "/help — this command list") [] none

def renderer (document : Value) (command : ReadCommand) : Except Raised Message :=
  match command.kind with
  | .summary => service.summary document
  | .health => service.health document command
  | .preflight => service.preflight document command
  | .incidents => service.incidents document command
  | .history => service.history document command
  | .help => help

def unavailableMessage : Except Raised Message :=
  message ("Manager is unavailable. Telegram did not query MicroK8s directly; " ++
    "try again later.") [] none

/-- `execute`, with what the manager answers to the read. -/
def execute (answer : ManagerAnswer) (command : ReadCommand) : Except Raised Message :=
  if command.kind = .help then help
  else
    match answer with
    | .document fields =>
        match service.renderer (.obj fields) command with
        | .error .responseInvalid => unavailableMessage
        | outcome => outcome
    | .unauthorized => message ("Manager authorization failed. " ++
        "Reconnect the protected manager session locally.") [] none
    | .rateLimited retryAfter => message ("Manager rate limit reached." ++
        match retryAfter with
        | some seconds => s!" Try again in {seconds} seconds."
        | none => " Try again later.") [] none
    | .unavailable => unavailableMessage

end ReadModelService

end FortifyLab.Communications
