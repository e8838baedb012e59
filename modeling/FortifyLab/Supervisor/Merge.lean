import FortifyLab.Supervisor.Queue

/-! The gates of a merge, and `approve`. -/

namespace FortifyLab.Supervisor

variable (library : Library) (config : Config)

/-! ## Checks -/

/-- The loop of `checks_state`. -/
def checksFrom : List CheckRun → Bool → String
  | [], pending => if pending then "pending" else "passed"
  | check :: rest, pending =>
      if check.status.toUpper ≠ "COMPLETED" then checksFrom rest true
      else if ["SUCCESS", "NEUTRAL", "SKIPPED"].contains check.conclusion.toUpper then
        checksFrom rest pending
      else "failed"

def checksState (pr : PullRequest) : String :=
  if pr.statusCheckRollup.isEmpty then "pending" else checksFrom pr.statusCheckRollup false

/-! ## The merge plan -/

/-- The merge states a plan admits. -/
def allowedMergeStates (pr : PullRequest) (allowDraft : Bool) : List String :=
  if allowDraft && pr.isDraft then ["CLEAN", "UNSTABLE", "BLOCKED"] else ["CLEAN", "UNSTABLE"]

def verifyMergePlan (pr : PullRequest) (payload : Value) (allowDraft : Bool) :
    SupervisorM Unit := do
  let headSha ← field payload "head_sha"
  if pr.headRefOid ≠ library.str headSha then fail "PR head changed; request a new approval"
  else if pr.state ≠ "OPEN" then fail "PR is no longer open"
  else if checksState pr ≠ "passed" then fail "PR checks are not passing"
  else if pr.mergeable ≠ "MERGEABLE" then fail "PR is not mergeable"
  else if pr.isDraft && !allowDraft then fail "PR is still a draft"
  else if (allowedMergeStates pr allowDraft).contains pr.mergeStateStatus then return ()
  else fail s!"PR merge state is {pr.mergeStateStatus}"

/-- The loop over the required checks. -/
def verifyRequiredChecks (checks : List CheckRun) : List String → SupervisorM Unit
  | [] => return ()
  | name :: rest =>
      match checks.filter (fun check => check.name ≠ "" && check.name = name) with
      | [check] =>
          if check.status.toUpper ≠ "COMPLETED" ∨ check.conclusion.toUpper ≠ "SUCCESS" then
            fail s!"Required check did not pass: {name}"
          else verifyRequiredChecks checks rest
      | _ => fail s!"Required check is missing or ambiguous: {name}"

def sensitiveLabels : List String :=
  ["approval-required", "destructive-operation", "scope-change", "secret-change",
    "sensitive-operation"]

def sensitivePaths : List String := ["secrets/input/"]

/-- The scope of an unattended merge: labels and files. -/
def verifyScope (pr : PullRequest) (issue : IssueDetails) : SupervisorM Unit := do
  if (pr.labels ++ issue.labels).any sensitiveLabels.contains then
    fail "Sensitive-operation policy requires approval"
  else if pr.files.any (fun path => sensitivePaths.any
      (fun start => start.toList.isPrefixOf path.toList)) then
    fail "Sensitive file scope requires approval"

/-- The branch, the current issue and the milestone of an unattended merge. -/
def verifyBranch (pr : PullRequest) : SupervisorM IssueDetails := do
  match branchIssue pr.headRefName with
  | none => fail "PR branch is not bound to an issue"
  | some number =>
      let current ← call (.get "current_issue" "")
      if current ≠ toString number then fail "PR branch does not match the active issue"
      else
        let issue ← attempt (world (.issueDetails number))
        if issue.number ≠ number ∨ issue.state ≠ "OPEN" then
          fail "Issue is not open in the active authorized milestone"
        else
          let active ← activeMilestone config
          if issue.milestone ≠ active then
            fail "Issue is not open in the active authorized milestone"
          else return issue

/-- The supervisor's own state in an unattended merge. -/
def verifyAuthority (pr : PullRequest) : SupervisorM Unit := do
  let reverted ← revertExpiredLease library config
  if reverted then fail "Autonomous lease expired before merge"
  else
    let policy ← world .policy
    if policy.profile ≠ .autonomous ∨ policy.expiresAt = none then
      fail "Autonomous lease is not active"
    else
      let paused ← call (.get "paused" "false")
      if paused = "true" then fail "Emergency hold or pause is active"
      else
        let state ← configurationState library config
        if state ≠ "active" then fail "Autonomy configuration is not consistent"
        else
          let lastError ← call (.get "last_error" "")
          if lastError ≠ "" then fail "An unresolved workflow failure exists"
          else if pr.reviewDecision = "CHANGES_REQUESTED" then fail "Changes are requested"

def verifyAutonomousMerge (pr : PullRequest) (payload : Value) (allowDraft : Bool) :
    SupervisorM Unit := do
  verifyMergePlan library pr payload allowDraft
  verifyAuthority library config pr
  verifyRequiredChecks pr.statusCheckRollup config.requiredMergeChecks
  let issue ← verifyBranch config pr
  verifyScope pr issue

/-! ## Approval -/

/-- `int(payload["pull_request"])`. -/
def planNumber (payload : Value) : SupervisorM Int := do
  let value ← field payload "pull_request"
  match library.int value with
  | some number => return number
  | none => throw .other

/-- The `try` block: the pull request is fetched and checked again right before the merge. -/
def mergeApproved (pr : PullRequest) (payload : Value) (actor : String) :
    SupervisorM PullRequest := do
  let number ← planNumber library payload
  if pr.isDraft then attempt (world (.ready number))
  let fresh ← attempt (world (.pullRequest number))
  if actor = "autonomy-policy" then verifyAutonomousMerge library config fresh payload false
  else verifyMergePlan library fresh payload false
  let headSha ← field payload "head_sha"
  attempt (world (.merge number (library.str headSha)))
  return fresh

/-- A merge that failed is recorded and raised again. -/
def mergeOrRecord (pr : PullRequest) (payload : Value) (actor : String) :
    SupervisorM PullRequest :=
  tryCatch (mergeApproved library config pr payload actor) (fun raised => do
    let number ← field payload "pull_request"
    call (.set "last_error" s!"Merge failed for PR #{library.str number}")
    throw raised)

def announceMerge (shown : String) (number : Int) (sha : String) : SupervisorM Unit :=
  notifyOnce config {
    fingerprint := s!"pr:{shown}:automatic-merge:{sha}"
    kind := "pull_request.automatic_merge"
    message := s!"🤖 PR #{shown} automatically merged at {clip 12 sha}."
    payload := [("pull_request", .int number), ("head_sha", .str sha)]
    meaningful := true }

/-- What the operator is told of a merge. -/
def approvalReply (pr : PullRequest) (number : String) (next : Option Issue) :
    SupervisorM String := do
  match next with
  | some issue => return s!"✅ PR #{number} merge approved and completed; " ++
      s!"issue #{issue.number} was started."
  | none =>
      let paused ← call (.get "paused" "false")
      if paused = "true" then
        return s!"✅ PR #{number} merge approved and completed. " ++
          "The supervisor is paused; no new issue was started."
      else if branchIssue pr.headRefName = none then
        return s!"✅ PR #{number} merge approved and completed. " ++
          "The maintenance PR did not advance the issue queue."
      else
        let active ← activeMilestone config
        return s!"✅ PR #{number} merge approved and completed. " ++
          s!"Milestone {active} is complete."

def approve (approvalId actor : String) : SupervisorM String := do
  let row ← call (.approval approvalId)
  if row.action ≠ .mergePr then fail "Unsupported approval action"
  else
    let pr ← attempt (world (.pullRequest (← planNumber library row.payload)))
    verifyMergePlan library pr row.payload true
    if actor = "autonomy-policy" then verifyAutonomousMerge library config pr row.payload true
    let _ ← call (.decide approvalId .approved actor "")
    let merged ← mergeOrRecord library config pr row.payload actor
    let number ← field row.payload "pull_request"
    let headSha ← field row.payload "head_sha"
    if actor = "autonomy-policy" then
      announceMerge config (library.str number) (← planNumber library row.payload)
        (library.str headSha)
    let _ ← call (.event s!"approval:{approvalId}:merge" "pull_request.merge_approved"
      (.obj [("pull_request", number), ("actor", .str actor)]))
    let next ← completeMergedPullRequest library config merged
    approvalReply config merged (library.str number) next

end FortifyLab.Supervisor
