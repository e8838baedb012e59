import FortifyLab.Library.Pool
import FortifyLab.Dashboard.LoginLimiter

/-! The dashboard application: sessions, sign-in and the routes behind it. Requests are served
by threads that share the sessions and the limiter. -/

namespace FortifyLab.Dashboard

/-- What the body of a sign-in parses to; a document that is no object has no `get`. -/
inductive LoginBody where
  | fields (username password source : String)
  | malformed
  | notObject
  deriving DecidableEq, Repr

/-- A request; the method is in upper case, the body is what its declared length reads. -/
structure Environ where
  method : String
  path : String
  cookieHeader : String
  client : String
  contentLength : ℤ
  body : LoginBody
  deriving DecidableEq, Repr

structure WebIdentity where
  username : String
  sessionId : String
  authenticatedAt : ℚ
  source : String
  deriving DecidableEq, Repr

/-- A `_Session` as it is created; only `accessed` changes later. -/
structure Session where
  username : String
  created : ℚ
  source : String
  deriving DecidableEq, Repr

/-- What the constructor of the application fixes, with PBKDF2 and `str.isspace`. -/
structure DashboardApp where
  accounts : String → String
  verifyPassword : String → String → Bool
  space : Char → Bool
  idle : ℚ
  absolute : ℚ
  loginLimiter : LoginLimiter
  operationApi : Bool

/-- `strip`. -/
def DashboardApp.strip (app : DashboardApp) (text : List Char) : List Char :=
  ((text.dropWhile app.space).reverse.dropWhile app.space).reverse

/-- `_cookie`. -/
def DashboardApp.cookie (app : DashboardApp) (environ : Environ) (name : String) : Option String :=
  (environ.cookieHeader.toList.splitOn ';').findSome? (fun item =>
    let stripped := app.strip item
    let key := stripped.takeWhile (fun char => char ≠ '=')
    let rest := stripped.dropWhile (fun char => char ≠ '=')
    if rest ≠ [] ∧ String.ofList key = name then some (String.ofList (rest.drop 1)) else none)

/-- What a thread asks of its two clocks, the token source, the limiter's stamps, the sessions,
and of what stands behind them. A session object is named by its number. -/
inductive Ask where
  | monotonic
  | attempts (client : String)
  | setAttempts (client : String) (stamps : List ℚ)
  | drawToken
  | clock
  | store (token : String) (session : Session)
  | contains (token : String)
  | lookup (token : String)
  | accessed (object : Nat)
  | touch (object : Nat) (now : ℚ)
  | pop (token : String)
  | capabilities (identity : WebIdentity)
  | operation (environ : Environ) (identity : WebIdentity)
  | read (environ : Environ)
  | asset (path : String)
  deriving DecidableEq

@[reducible] def Told : Ask → Type
  | .monotonic => ℚ
  | .attempts _ => List ℚ
  | .drawToken => String
  | .clock => ℚ
  | .contains _ => Bool
  | .lookup _ => Option (Nat × Session)
  | .accessed _ => ℚ
  | _ => Unit

inductive Response where
  | ready
  | unauthenticated
  | methodNotAllowed
  | capabilities
  | operationsUnavailable
  | operation
  | read
  | asset
  | notFound
  | loginFailed
  | loggedIn (token : String)
  | loggedOut
  deriving DecidableEq, Repr

/-- What goes wrong: a session that is gone between two accesses, a body without fields, or a
source that is not supported. -/
inductive Crash where
  | missingKey
  | attributeError
  | valueError
  deriving DecidableEq, Repr

abbrev Serve := Program Ask Told

abbrev ServeAttempt := ExceptT Crash Serve

def asked (request : Ask) : Serve (Told request) := Program.perform request

def ask (request : Ask) : ServeAttempt (Told request) := ExceptT.lift (asked request)

/-! ## `LoginLimiter` and `SessionStore` -/

/-- `allowed`. -/
def LoginLimiter.allow (limiter : LoginLimiter) (client : String) : Serve Bool := do
  let now : ℚ ← asked .monotonic
  let stamps : List ℚ ← asked (.attempts client)
  let recent := stamps.filter (fun stamp => now - stamp < limiter.window)
  if limiter.limit ≤ recent.length then do
    asked (.setAttempts client recent)
    return false
  else do
    asked (.setAttempts client (recent ++ [now]))
    return true

/-- `create`. -/
def create (username source : String) : ServeAttempt String :=
  if source ∉ ["web", "local-cli"] then throw .valueError
  else do
    let token : String ← ask .drawToken
    let now : ℚ ← ask .clock
    ask (.store token ⟨username, now, source⟩)
    return token

namespace DashboardApp

variable (app : DashboardApp)

/-- `identity`. -/
def identity (token : Option String) : ServeAttempt (Option WebIdentity) :=
  match token with
  | none => return none
  | some token =>
      if token = "" then return none
      else do
        let present : Bool ← ask (.contains token)
        if present = false then return none
        else do
          let now : ℚ ← ask .clock
          let entry : Option (Nat × Session) ← ask (.lookup token)
          match entry with
          | none => throw .missingKey
          | some (object, session) => do
              let accessed : ℚ ← ask (.accessed object)
              if app.idle < now - accessed ∨ app.absolute < now - session.created then do
                ask (.pop token)
                return none
              else do
                ask (.touch object now)
                return some ⟨session.username, token, session.created, session.source⟩

/-- `delete`. -/
def delete (token : Option String) : ServeAttempt Unit :=
  match token with
  | none => return ()
  | some token => if token = "" then return () else ask (.pop token)

/-! ## `DashboardApp` -/

def cookieName : String := "fortifylab_session"

def sessionToken (environ : Environ) : Option String := app.cookie environ cookieName

/-- The fields of a sign-in that is complete and verified. -/
def signIn (environ : Environ) : Except Crash (Option (String × String)) :=
  if environ.contentLength < 1 ∨ 4096 < environ.contentLength then .ok none
  else match environ.body with
    | .malformed => .ok none
    | .notObject => .error .attributeError
    | .fields username password source =>
        if source ∉ ["web", "local-cli"] then .ok none
        else if app.accounts username = "" ∨
            app.verifyPassword password (app.accounts username) = false then .ok none
        else .ok (some (username, source))

/-- `_session`. -/
def session (environ : Environ) : ServeAttempt Response :=
  if environ.method = "POST" then do
    let allowed : Bool ← ExceptT.lift (app.loginLimiter.allow environ.client)
    if allowed = false then return .loginFailed
    else match app.signIn environ with
      | .error crash => throw crash
      | .ok none => return .loginFailed
      | .ok (some (username, source)) => do
          let token ← create username source
          return .loggedIn token
  else if environ.method = "DELETE" then do
    let known ← app.identity (app.sessionToken environ)
    if known = none then return .unauthenticated
    else do
      delete (app.sessionToken environ)
      return .loggedOut
  else return .methodNotAllowed

/-- The prefixes of the operation routes. -/
def operationPrefixes : List String :=
  ["/api/v1alpha1/operations", "/api/v1alpha1/approvals", "/api/v1alpha1/clean-install",
    "/api/v1alpha1/recovery", "/api/v1alpha1/profile-upgrades", "/api/v1alpha1/lab"]

def startsWith (path start : String) : Bool := start.toList.isPrefixOf path.toList

/-- `_asset`, up to the file. -/
def asset (environ : Environ) (path : String) : ServeAttempt Response :=
  if environ.method ∉ ["GET", "HEAD"] then return .methodNotAllowed
  else do
    ask (.asset path)
    return .asset

/-- The `/api/` routes, once the identity is known. -/
def api (environ : Environ) (identity : WebIdentity) : ServeAttempt Response :=
  if environ.path = "/api/v1alpha1/capabilities" then
    if environ.method ∉ ["GET", "HEAD"] then return .methodNotAllowed
    else do
      ask (.capabilities identity)
      return .capabilities
  else if operationPrefixes.any (startsWith environ.path) then
    if app.operationApi = false then return .operationsUnavailable
    else do
      ask (.operation environ identity)
      return .operation
  else do
    ask (.read environ)
    return .read

/-- `__call__`. -/
def call (environ : Environ) : ServeAttempt Response :=
  if environ.path = "/ready" then return .ready
  else if environ.path = "/api/v1alpha1/session" then app.session environ
  else if startsWith environ.path "/api/" then do
    let known ← app.identity (app.sessionToken environ)
    match known with
    | none => return .unauthenticated
    | some identity => app.api environ identity
  else if startsWith environ.path "/assets/" then asset environ environ.path
  else if environ.path ∈ ["/", "/index.html"] then do
    let known ← app.identity (app.sessionToken environ)
    if known = none then asset environ "/login.html" else asset environ environ.path
  else return .notFound

end DashboardApp

/-! ## The threads -/

/-- The dictionaries of the application and its session objects. -/
structure Stores where
  stamps : String → List ℚ
  sessions : String → Option (Nat × Session)
  objects : List ℚ
  drawn : Nat

inductive Reading where
  | time (value : ℚ)
  | nothing

namespace Stores

def empty : Stores := ⟨fun _ => [], fun _ => none, [], 0⟩

def reply (supply : Nat → String) (stores : Stores) (offer : Reading) :
    (request : Ask) → Option (Told request)
  | .monotonic => match offer with | .time value => some value | .nothing => none
  | .attempts client => some (stores.stamps client)
  | .setAttempts _ _ => some ()
  | .drawToken => some (supply stores.drawn)
  | .clock => match offer with | .time value => some value | .nothing => none
  | .store _ _ => some ()
  | .contains token => some (stores.sessions token).isSome
  | .lookup token => some (stores.sessions token)
  | .accessed object => stores.objects[object]?
  | .touch _ _ => some ()
  | .pop _ => some ()
  | .capabilities _ => some ()
  | .operation _ _ => some ()
  | .read _ => some ()
  | .asset _ => some ()

def effect (stores : Stores) : Ask → Stores
  | .setAttempts client stamps => { stores with stamps := Function.update stores.stamps client stamps }
  | .drawToken => { stores with drawn := stores.drawn + 1 }
  | .store token session => { stores with
      sessions := Function.update stores.sessions token (some (stores.objects.length, session))
      objects := stores.objects ++ [session.created] }
  | .touch object now => { stores with objects := stores.objects.set object now }
  | .pop token => { stores with sessions := Function.update stores.sessions token none }
  | _ => stores

/-- A new process has no sessions and no stamps; its tokens are new. -/
def afterRestart (stores : Stores) : Stores :=
  { stores with stamps := fun _ => [], sessions := fun _ => none }

end Stores

/-- How a request ends. -/
inductive Ending where
  | served (result : Except Crash Response)
  | started
  | killed

/-- A thread for every request; the first only starts the process. -/
def dashboard (app : DashboardApp) (supply : Nat → String) :
    Machine Stores (Option Environ) Reading Ask Told Ending where
  body
    | none => return .started
    | some environ => do return .served (← (app.call environ).run)
  reply stores _ := stores.reply supply
  effect stores _ := stores.effect
  spawned _ := none
  admits _ label := label.isSome
  lost := Stores.afterRestart
  boot := none
  killed := .killed
  fresh := .empty

abbrev DashboardPool := Pool Stores (Option Environ) Ask Told Ending

abbrev DashboardAction := Action (Option Environ) Reading

abbrev DashboardEntry := Entry (Option Environ) Ask Told

end FortifyLab.Dashboard
