import FortifyLab.Supervisor.Merge
import FortifyLab.Supervisor.Monitor

/-! What an operator may do: the policy of a process, the buttons of a message and the
commands that hold or resume the supervisor. -/

namespace FortifyLab.Supervisor

variable (library : Library) (config : Config)

/-! ## The policy of a process -/

/-- `reload_policy` once a policy is loaded that may be adopted. -/
def adoptPolicy (role : String) (loaded : EffectivePolicy) : SupervisorM Unit := do
  world (.adopt loaded)
  auditPolicy
  let _ ← revertExpiredLease library config
  let policy ← world .policy
  let time ← world .now
  call (.set s!"process_policy:{role}" (library.dumps (.obj [("digest", .str policy.digest),
    ("generation", .int policy.generation), ("updated_at", .int (seconds time))])))
  call (.set "autonomy_configuration_state" "active")

/-- `reload_policy`. -/
def reloadPolicy (role : String) : SupervisorM Unit := do
  let time ← world .now
  let file ← world .policyFile
  match loadPolicy library.policies file time true with
  | .error (.policy _) => do
      call (.set "autonomy_configuration_state" "restart-required")
      fail "configuration restart required"
  | .error .typeError => throw .other
  | .ok loaded =>
      let policy ← world .policy
      if loaded.generation < policy.generation ∨
          loaded.generation = policy.generation ∧ loaded.digest ≠ policy.digest then do
        call (.set "autonomy_configuration_state" "mismatch")
        fail "configuration mismatch; actions are blocked"
      else adoptPolicy library config role loaded

/-- The policy that a new process adopts. -/
def startSupervisor : SupervisorM Unit := do
  let time ← world .now
  let file ← world .policyFile
  match loadPolicy library.policies file time true with
  | .error (.policy message) => fail message
  | .error .typeError => throw .other
  | .ok loaded => do
      world (.adopt loaded)
      auditPolicy
      let _ ← revertExpiredLease library config

/-- What follows a reload that worked. -/
def requireActive : SupervisorM Unit := do
  let state ← configurationState library config
  if state ≠ "active" then
    call (.set "autonomy_configuration_state" "mismatch")
    fail "configuration mismatch; actions are blocked"

/-- `require_consistent_policy`. -/
def requireConsistentPolicy (role : String) (allowExpiredRecovery : Bool) :
    SupervisorM Unit := do
  match ← supervisorError (reloadPolicy library config role) with
  | .ok _ => requireActive library config
  | .error message =>
      if allowExpiredRecovery then
        let state ← configurationState library config
        if state = "expired-lease" then return () else fail message
      else fail message

/-! ## Autonomy -/

def autonomyText : SupervisorM String := do
  let paused ← call (.get "paused" "false")
  let policy ← world .policy
  let state ← configurationState library config
  let held := if paused = "true" then "held" else "active"
  let expiry := (policy.expiresAt.map library.isoformat).getD "none"
  let decisions := String.intercalate ", " (AutonomyAction.all.map (fun action =>
    s!"{action.name}={(policy.decisions action).name}"))
  return s!"Autonomy: {policy.profile.name}\nState: {held}\nGeneration: {policy.generation}\n" ++
    s!"Digest: {clip 12 policy.digest}\nLease expiry: {expiry}\n" ++
    s!"Configuration: {state}\nPolicy: {decisions}"

/-- `str(expiry) if expiry else None`. -/
def expiryOf (payload : Value) : Value :=
  match payload.get "expires_at" with
  | some expiry => if expiry.truthy then .str (library.str expiry) else .null
  | none => .null

/-- A profile that the operator chose is installed. -/
def changeProfile (payload : Value) : SupervisorM String := do
  let profile := library.str ((payload.get "profile").getD .null)
  if (Profile.parse profile).isNone then fail "Unsupported autonomy change"
  else if config.autonomyPolicyFile then
    let own ← world .policy
    let time ← world .now
    match ← replacePolicy library profile (own.generation + 1) (expiryOf library payload) time with
    | .error (.policy message) => fail message
    | .error .typeError => throw .other
    | .ok policy => do
        world (.adopt policy)
        auditPolicy
        return s!"Autonomy changed to {profile}"
  else fail "configuration restart required"

/-- The mutation of `apply_autonomy_change`. -/
def changeAutonomy (operation : String) (payload : Value) : SupervisorM String := do
  if operation = "hold" then
    call (.set "paused" "true")
    return "Held"
  else if operation = "resume" then
    call (.set "paused" "false")
    return "Resumed"
  else if operation = "approve-once" then
    call (.set "autonomy_approve_once" "true")
    return "One merge approval armed"
  else changeProfile library config payload

def announceActivation (actor : String) : SupervisorM Unit := do
  let policy ← world .policy
  let expiry := (policy.expiresAt.map library.isoformat).getD "None"
  notifyOnce config {
    fingerprint := s!"autonomy:activated:{policy.generation}:{policy.digest}"
    kind := "autonomy.activated"
    message := if policy.profile = .autonomous then s!"🤖 Autonomous mode activated until {expiry}."
      else s!"Autonomy changed to {policy.profile.name}."
    payload := [("actor", .str actor), ("profile", .str policy.profile.name),
      ("generation", .int policy.generation), ("expires_at", match policy.expiresAt with
        | some expiry => .str (library.isoformat expiry)
        | none => .null)]
    meaningful := true }

/-- `apply_autonomy_change`. -/
def applyAutonomyChange (payload : Value) (actor : String) : SupervisorM String := do
  let operation := library.str ((payload.get "operation").getD .null)
  let result ← changeAutonomy library config operation payload
  let time ← world .now
  let token ← world .tokenHex
  let policy ← world .policy
  let _ ← call (.event s!"autonomy-control:{seconds time}:{token}" "autonomy.control_changed"
    (.obj [("actor", .str actor), ("operation", .str operation),
      ("profile", .str policy.profile.name), ("generation", .int policy.generation),
      ("digest", .str policy.digest)]))
  reloadPolicy library config "listener"
  if operation = "profile" then announceActivation library config actor
  let text ← autonomyText library config
  return s!"{result}. {text}"

/-! ## The rollover -/

/-- `approve_milestone_rollover`. -/
def approveMilestoneRollover (approvalId actor : String) : SupervisorM String := do
  let row ← call (.approval approvalId)
  if row.action ≠ .milestoneRollover then fail "Unsupported approval action"
  else
    let payload := row.payload
    verifyMilestoneRollover library config payload
    let _ ← call (.decide approvalId .approved actor "")
    let issue ← transitionMilestone library config
      (queueNextIssue library config library.recursionLimit none false) payload actor
    let source ← field payload "from"
    let target ← field payload "to"
    let _ ← call (.event s!"approval:{approvalId}:rollover" "milestone.rollover_approved"
      (.obj [("actor", .str actor), ("from", source), ("to", target)]))
    match issue with
    | none => return s!"Advanced to {library.str target}; no eligible issue is available"
    | some issue => return s!"Advanced to {library.str target}; issue #{issue.number} was started"

/-- The `stay-milestone` action. -/
def stayMilestone (approvalId actor : String) (payload : Value) : SupervisorM String := do
  let _ ← call (.decide approvalId .rejected actor "operator-deferred")
  call (.set "paused" "true")
  let source ← field payload "from"
  let target ← field payload "to"
  let _ ← call (.event s!"approval:{approvalId}:rollover-deferred" "milestone.rollover_deferred"
    (.obj [("actor", .str actor), ("from", source), ("to", target)]))
  return "Milestone rollover deferred; supervisor paused"

/-! ## Commands -/

/-- `/hold`. -/
def holdCommand (actor : String) : SupervisorM String := do
  call (.set "paused" "true")
  let time ← world .now
  let _ ← call (.event s!"emergency-hold:{seconds time}" "supervisor.emergency_hold"
    (.obj [("actor", .str actor)]))
  let later ← world .now
  notifyOnce config {
    fingerprint := s!"emergency-hold-notice:{seconds later}"
    kind := "supervisor.emergency_hold_notice"
    message := "🛑 Emergency hold active. Monitoring continues; no automatic action may start."
    payload := [("actor", .str actor)]
    severity := .failure
    meaningful := true }
  return "Emergency hold active"

/-- The reload before a command that does not concern autonomy. -/
def commandPolicy : SupervisorM Unit :=
  exceptSupervisor (reloadPolicy library config "listener") (fun message => do
    let _ ← configurationState library config
    fail message)

/-- `/pause` and `/continue`. -/
def pauseCommand (paused : Bool) (actor : String) : SupervisorM String := do
  commandPolicy library config
  requireConsistentPolicy library config "listener" false
  call (.set "paused" (if paused then "true" else "false"))
  let time ← world .now
  if paused then
    let _ ← call (.event s!"command:pause:{seconds time}" "supervisor.paused"
      (.obj [("actor", .str actor)]))
    return "⏸ Supervisor paused. Monitoring continues; no new work will start."
  else
    let _ ← call (.event s!"command:continue:{seconds time}" "supervisor.continued"
      (.obj [("actor", .str actor)]))
    return "▶️ Supervisor resumed."

/-! ## Callbacks -/

/-- The actions that need no consistent policy. -/
def shownActions : List String := ["status", "refresh", "workflow-details", "details"]

/-- `int(payload.get("issue", 0))`. -/
def issueOf (payload : Value) : SupervisorM Int :=
  match library.int ((payload.get "issue").getD (.int 0)) with
  | some issue => return issue
  | none => throw .other

/-- The checks of the approval that a token stands for, and its pull request. -/
def revalidate : Option String → SupervisorM (Option PullRequest)
  | none => return none
  | some approvalId => do
      let approval ← call (.approval approvalId)
      match approval.action with
      | .mergePr =>
          let pr ← attempt (world (.pullRequest (← planNumber library approval.payload)))
          verifyMergePlan library pr approval.payload true
          return some pr
      | .milestoneRollover =>
          verifyMilestoneRollover library config approval.payload
          return none

/-- What `execute_callback` does before it consumes the token. -/
def prepareCallback (candidate : TokenRow) : SupervisorM (Option PullRequest) := do
  if !shownActions.contains candidate.action then
    requireConsistentPolicy library config "listener"
      (candidate.action == "autonomy-change" &&
        ((candidate.payload.get "operation").getD .null).isText "profile")
  revalidate library config candidate.approvalId

def workflowDetails : SupervisorM String := do
  let text ← statusText library config
  let number ← call (.get "current_pr" "")
  match digits number with
  | some number =>
      let pr ← attempt (world (.pullRequest number))
      return s!"Workflow details\n{text}\nChecks: {checksState pr}" ++
        s!"\nMerge: {pr.mergeStateStatus}\n{pr.url}"
  | none => return s!"Workflow details\n{text}"

def toggleWatch (actor : String) : SupervisorM String := do
  let value ← call (.get "watched" "true")
  let watched := decide (value = "true")
  call (.set "watched" (if watched then "false" else "true"))
  let time ← world .now
  let _ ← call (.event s!"watch:{seconds time}:{actor}" "runner.watch_changed"
    (.obj [("actor", .str actor), ("watched", .bool (!watched))]))
  return if watched then "Routine updates muted" else "Workflow watched"

/-- The `pause-general` and `continue-general` actions. -/
def pauseGeneral (paused : Bool) (actor : String) : SupervisorM String := do
  call (.set "paused" (if paused then "true" else "false"))
  let time ← world .now
  if paused then
    let _ ← call (.event s!"pause:{seconds time}:{actor}" "supervisor.paused"
      (.obj [("actor", .str actor)]))
    return "Supervisor paused"
  else
    let _ ← call (.event s!"continue:{seconds time}:{actor}" "supervisor.continued"
      (.obj [("actor", .str actor)]))
    return "Supervisor resumed"

def requestStop (payload : Value) (actor : String) : SupervisorM String := do
  if config.runnerStopCommand = [] then fail "Stop is disabled by local policy"
  else
    let confirm ← call (.createCallbackToken "stop-confirm" (min 300 config.approvalTtlSeconds)
      none (some actor) payload)
    return s!"CONFIRM_STOP:{confirm}"

def confirmStop (payload : Value) (actor : String) : SupervisorM String := do
  let issue ← issueOf library payload
  if config.runnerStopCommand = [] ∨ issue < 1 then fail "Stop is disabled by local policy"
  else
    attempt (world (.run (config.runnerStopCommand ++ [toString issue])))
    let time ← world .now
    let _ ← call (.event s!"runner:{issue}:stop:{seconds time}" "runner.stop_requested"
      (.obj [("actor", .str actor), ("issue", .int issue)]))
    return s!"Stop requested for issue #{issue}"

/-- The first rejection reason that is configured. -/
def firstReason : SupervisorM String :=
  match config.notifications.rejectionReasons with
  | reason :: _ => return reason
  | [] => throw .other

def rejectMerge (approvalId actor : String) (payload : Value) : SupervisorM String := do
  let reason ← firstReason config
  let _ ← call (.decide approvalId .rejected actor reason)
  let number ← planNumber library payload
  let _ ← call (.event s!"approval:{approvalId}:rejected" "pull_request.merge_rejected"
    (.obj [("pull_request", .int number), ("actor", .str actor)]))
  return "PR merge rejected"

/-- The `pause` action of a merge approval. -/
def pauseForMerge (approvalId actor : String) (payload : Value) : SupervisorM String := do
  call (.set "paused" "true")
  let number ← planNumber library payload
  let _ ← call (.event s!"callback:{approvalId}:paused" "supervisor.paused"
    (.obj [("actor", .str actor), ("pull_request", .int number)]))
  return "Supervisor paused"

def mergeDetails (payload : Value) : Option PullRequest → SupervisorM String
  | none => throw .other
  | some pr => do
      let number ← field payload "pull_request"
      let draft := if pr.isDraft then "yes" else "no"
      return s!"PR #{library.str number}\nChecks: {checksState pr}\n" ++
        s!"Merge: {pr.mergeStateStatus}\nDraft: {draft}\nHead: {clip 12 pr.headRefOid}\n{pr.url}"

/-- The actions of an approval. -/
def performApproval (row : TokenRow) (actor : String) (approvalPr : Option PullRequest) :
    SupervisorM String := do
  let approvalId := row.approvalId.getD ""
  let approval ← call (.approval approvalId)
  if row.action = "advance-milestone" then approveMilestoneRollover library config approvalId actor
  else if row.action = "stay-milestone" then stayMilestone approvalId actor approval.payload
  else if row.action = "approve" then approve library config approvalId actor
  else if row.action = "reject" then rejectMerge library config approvalId actor approval.payload
  else if row.action = "pause" then pauseForMerge library approvalId actor approval.payload
  else if row.action = "details" then
    mergeDetails library approval.payload (if approval.action = .mergePr then approvalPr else none)
  else fail "Unsupported callback action"

/-- What `execute_callback` does once the token is consumed. -/
def performCallback (row : TokenRow) (actor : String) (approvalPr : Option PullRequest) :
    SupervisorM String := do
  if row.action = "autonomy-change" then
    requireConsistentPolicy library config "listener"
      (((row.payload.get "operation").getD .null).isText "profile")
    applyAutonomyChange library config row.payload actor
  else if row.action = "status" ∨ row.action = "refresh" then statusText library config
  else if row.action = "workflow-details" then workflowDetails library config
  else if row.action = "watch" then toggleWatch actor
  else if row.action = "pause-general" then pauseGeneral true actor
  else if row.action = "continue-general" then pauseGeneral false actor
  else if row.action = "stop" then requestStop config row.payload actor
  else if row.action = "stop-confirm" then confirmStop library config row.payload actor
  else performApproval library config row actor approvalPr

/-- `execute_callback`. -/
def executeCallback (token actor : String) : SupervisorM String := do
  match ← call (.callbackToken token) with
  | none => fail "This action is invalid or no longer available"
  | some candidate =>
      let approvalPr ← prepareCallback library config candidate
      let row ← call (.consumeCallbackToken token actor)
      performCallback library config row actor approvalPr

end FortifyLab.Supervisor
