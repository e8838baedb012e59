import FortifyLab.Library.Program
import FortifyLab.Supervisor.World

/-! `Store`: every method as the statements it runs on its connection. -/

namespace FortifyLab.Supervisor

abbrev StoreM := ExceptT Raised (Program Request Answer)

namespace Store

def ask (request : Request) : Program Request Answer (Answer request) :=
  Program.perform request

/-- A query. -/
def select (query : Query) : StoreM (Rows query) := ExceptT.lift (ask (.statement (.query query)))

/-- An error of the database is raised. -/
def raiseError {α : Type} : Except SqlError α → Except Raised α
  | .ok value => .ok value
  | .error error => .error (.sql error)

/-- A change. -/
def execute (change : Change) : StoreM Nat := ExceptT.mk do
  let answer : Except SqlError Nat ← ask (.statement (.change change))
  return raiseError answer

def beginImmediate : StoreM Unit := ExceptT.mk do
  let answer : Except SqlError Unit ← ask (.statement .beginImmediate)
  return raiseError answer

def commit : StoreM Unit := ExceptT.lift (ask (.statement .commit))

def rollback : StoreM Unit := ExceptT.lift (ask (.statement .rollback))

def outside (request : Outside) : StoreM (Reply request) :=
  ExceptT.lift (ask (.outside request))

/-- `int(self.now())`. -/
def now : StoreM Int := do
  let time ← outside .now
  return seconds time

/-- `try: … except sqlite3.IntegrityError: …`. -/
def exceptIntegrity {α : Type} (body handler : StoreM α) : StoreM α :=
  tryCatch body (fun raised => if raised = .sql .integrity then handler else throw raised)

/-! ## Settings -/

def get (key default : String) : StoreM String := do
  let row ← select (.setting key)
  return row.getD default

def set (key value : String) : StoreM Unit := do
  let _ ← execute (.setSetting key value)
  commit

def unset (key : String) : StoreM Unit := do
  let _ ← execute (.deleteSetting key)
  commit

/-! ## Issues and milestones -/

/-- `rollback` and `False`. -/
def refused : StoreM Bool := do
  rollback
  return false

/-- The fingerprint of a selection. -/
def issueSelected (issue : Int) (milestone : String) : String :=
  s!"issue:{issue}:selected:{milestone}"

/-- The fingerprint of a rollover. -/
def milestoneAdvanced (expected following : String) : String :=
  s!"milestone:{expected}:advanced:{following}"

def issueFields (issue : Int) (milestone : String) : Value :=
  .obj [("issue", .int issue), ("milestone", .str milestone)]

def claimIssue (issue : Int) (title milestone : String) : StoreM Bool :=
  exceptIntegrity (do
    beginImmediate
    let current ← select (.setting "current_issue")
    if current.getD "" ≠ "" then refused
    else
      let _ ← execute (.setSetting "current_issue" (toString issue))
      let _ ← execute (.setSetting "current_issue_title" ((title.take 200).toString))
      let created ← now
      let _ ← execute (.insertEvent ⟨issueSelected issue milestone, "issue.selected",
        issueFields issue milestone, created⟩)
      commit
      return true) refused

def advanceMilestone (expected following initial : String) (payload : Value) : StoreM Bool :=
  exceptIntegrity (do
    beginImmediate
    let row ← select (.setting "active_milestone")
    let paused ← select (.setting "paused")
    if row.getD initial ≠ expected ∨ paused = some "true" then refused
    else
      let _ ← execute (.setSetting "active_milestone" following)
      let created ← now
      let _ ← execute (.insertEvent ⟨milestoneAdvanced expected following,
        "milestone.rollover", payload, created⟩)
      commit
      return true) refused

/-! ## Events and notifications -/

def event (fingerprint kind : String) (payload : Value) : StoreM Bool :=
  exceptIntegrity (do
    let created ← now
    let _ ← execute (.insertEvent ⟨fingerprint, kind, payload, created⟩)
    commit
    return true) (return false)

def hasEvent (fingerprint : String) : StoreM Bool := select (.event fingerprint)

def notification (fingerprint : String) : StoreM (Option NotificationRow) :=
  select (.notification fingerprint)

/-- A row that was just written. -/
def written {α : Type} : Option α → StoreM α
  | some row => return row
  | none => throw .other

def upsertNotification (fingerprint kind : String) (severity : Severity) (message : String)
    (payload : Value) (state : DeliveryState) (digestBucket : Option String) :
    StoreM (NotificationRow × Bool) := do
  let existing ← notification fingerprint
  let now ← now
  match existing with
  | some _ =>
      let _ ← execute (.repeatNotification fingerprint message payload now)
      commit
      let row ← written (← notification fingerprint)
      return (row, false)
  | none =>
      let _ ← execute (.insertNotification ⟨fingerprint, kind, severity, message, payload,
        digestBucket, state, none, 1, now⟩)
      commit
      let row ← written (← notification fingerprint)
      return (row, true)

def markNotification (fingerprint : String) (state : DeliveryState)
    (messageId : Option String) : StoreM Unit := do
  let now ← now
  let _ ← execute (.markNotification fingerprint state messageId now)
  commit

/-! ## Approvals -/

variable (library : Library)

def approval (approvalId : String) : StoreM ApprovalRow := do
  match ← select (.approval approvalId) with
  | some row => return row
  | none => throw (.supervisor s!"Unknown approval: {approvalId}")

def createApproval (action : ApprovalAction) (payload : Value) (ttl : Int) :
    StoreM ApprovalRow := do
  let token ← outside .tokenHex
  let approvalId := "apr-" ++ token
  let created ← now
  let _ ← execute (.insertApproval ⟨approvalId, action, payload, library.planDigest payload,
    .pending, created, created + ttl, none, none, none⟩)
  commit
  approval approvalId

def pendingApproval (action : ApprovalAction) (payload : Value) :
    StoreM (Option ApprovalRow) := do
  let now ← now
  select (.pendingApproval action (library.planDigest payload) now)

def pendingApprovals (action : ApprovalAction) : StoreM (List ApprovalRow) := do
  let now ← now
  select (.pendingApprovals action now)

/-- `int(payload.get("pull_request", -1))`. -/
def pullRequestOf (payload : Value) : StoreM Int :=
  match library.int ((payload.get "pull_request").getD (.int (-1))) with
  | some number => return number
  | none => throw .other

/-- The loop of `supersede_merge_approvals`. -/
def supersedeOthers (pullRequest : Int) (headSha : String) :
    List ApprovalRow → Nat → StoreM Nat
  | [], superseded => return superseded
  | row :: rest, superseded => do
      let number ← pullRequestOf library row.payload
      if number = pullRequest ∧ library.str ((row.payload.get "head_sha").getD .null) ≠ headSha
      then do
        let decidedAt ← now
        let _ ← execute (.supersede row.id decidedAt "pull request head changed")
        supersedeOthers pullRequest headSha rest (superseded + 1)
      else supersedeOthers pullRequest headSha rest superseded

/-- What both supersede methods end with. -/
def commitSuperseded (superseded : Nat) : StoreM Nat := do
  if superseded ≠ 0 then commit
  return superseded

def supersedeMergeApprovals (pullRequest : Int) (headSha : String) : StoreM Nat := do
  let rows ← pendingApprovals .mergePr
  let superseded ← supersedeOthers library pullRequest headSha rows 0
  commitSuperseded superseded

/-- The loop of `supersede_approvals_for_pull_request`. -/
def supersedeAll (pullRequest : Int) (reason : String) (decidedAt : Int) :
    List ApprovalRow → Nat → StoreM Nat
  | [], superseded => return superseded
  | row :: rest, superseded => do
      let number ← pullRequestOf library row.payload
      if number = pullRequest then do
        let _ ← execute (.supersede row.id decidedAt reason)
        supersedeAll pullRequest reason decidedAt rest (superseded + 1)
      else supersedeAll pullRequest reason decidedAt rest superseded

def supersedeApprovalsForPullRequest (pullRequest : Int) (reason : String) : StoreM Nat := do
  let decidedAt ← now
  let rows ← pendingApprovals .mergePr
  let superseded ← supersedeAll library pullRequest reason decidedAt rows 0
  commitSuperseded superseded

/-- How the message of a decision that comes too late names the state. -/
def stateName : ApprovalState → String
  | .pending => "pending"
  | .approved => "approved"
  | .rejected => "rejected"
  | .superseded => "superseded"
  | .expired => "expired"

/-- An approval that has run out is stored as expired. -/
def expireApproval (approvalId : String) : StoreM ApprovalRow := do
  let _ ← execute (.expire approvalId)
  commit
  throw (.supervisor s!"Approval {approvalId} has expired")

def decide (approvalId : String) (verdict : Verdict) (actor reason : String) :
    StoreM ApprovalRow := do
  let row ← approval approvalId
  if row.state ≠ .pending then
    throw (.supervisor s!"Approval {approvalId} is already {stateName row.state}")
  else
    let time ← now
    if row.expiresAt ≤ time then expireApproval approvalId
    else
      let decidedAt ← now
      let _ ← execute (.decide approvalId verdict decidedAt actor reason)
      commit
      approval approvalId

/-! ## Callback tokens -/

def createCallbackToken (action : String) (ttl : Int) (approvalId actor : Option String)
    (payload : Value) : StoreM String := do
  let token ← outside .tokenUrlsafe
  let created ← now
  let _ ← execute (.insertToken ⟨library.tokenHash token, approvalId, action, actor, payload,
    created, created + ttl, none, none⟩)
  commit
  return token

/-- The row of a token that was issued, as `execute_callback` reads it. -/
def callbackToken (token : String) : StoreM (Option TokenRow) :=
  select (.callbackToken (library.tokenHash token))

/-- The block of `with self.connection`. -/
def consumeBlock (tokenHash actor : String) (now : Int) : StoreM Unit := do
  match ← select (.callbackToken tokenHash) with
  | none => throw (.supervisor "This action is invalid or no longer available")
  | some row =>
      if row.consumedAt.isSome then throw (.supervisor "This action was already used")
      else if row.expiresAt ≤ now then throw (.supervisor "This action has expired")
      else if row.actor.any (fun owner => owner ≠ actor) then
        throw (.supervisor "This action belongs to another identity")
      else
        let changed ← execute (.consumeToken tokenHash now actor)
        if changed ≠ 1 then throw (.supervisor "This action was already used")

/-- `with self.connection: …`. -/
def withConnection (block : StoreM Unit) : StoreM Unit := do
  tryCatch block (fun raised => do
    rollback
    throw raised)
  commit

def consumeCallbackToken (token actor : String) : StoreM TokenRow := do
  let now ← now
  withConnection (consumeBlock (library.tokenHash token) actor now)
  written (← select (.callbackToken (library.tokenHash token)))

end Store

end FortifyLab.Supervisor
