import FortifyLab.Supervisor.Notices

/-! The issue queue, the milestone rollover and what follows a merged pull request. -/

namespace FortifyLab.Supervisor

variable (library : Library) (config : Config)

/-! ## Milestones -/

def authorizedMilestones : List String :=
  if config.milestones = [] then [config.milestone] else config.milestones

def activeMilestone : SupervisorM String := do
  let active ← call (.get "active_milestone" config.milestone)
  if (authorizedMilestones config).contains active then return active
  else fail "Active milestone is outside the configured authorization sequence"

def nextMilestone : SupervisorM (Option String) := do
  let active ← activeMilestone config
  return (authorizedMilestones config)[(authorizedMilestones config).idxOf active + 1]?

/-- `github.milestone`. -/
def githubMilestone (title : String) : SupervisorM Milestone := do
  let milestones ← attempt (world .milestones)
  match milestones.filter (fun item => item.title = title) with
  | [found] => return found
  | _ => fail s!"Milestone is unavailable or ambiguous: {title}"

/-! ## Issues -/

def isEligible (excluded : Option Int) (issue : Issue) : Bool :=
  decide (some issue.number ≠ excluded) && !issue.labels.contains "automated-observation" &&
    !issue.labels.contains "needs-triage"

def isQueuedNext (issue : Issue) : Bool := issue.labels.contains "queue:next"

/-- The order of the selection: issues marked as next first, then by number. -/
def goesBefore (left right : Issue) : Bool :=
  if isQueuedNext left = isQueuedNext right then decide (left.number < right.number)
  else isQueuedNext left

/-- The first issue that no other goes before. -/
def selectIssue : List Issue → Option Issue
  | [] => none
  | issue :: rest =>
      match selectIssue rest with
      | none => some issue
      | some best => if goesBefore best issue then some best else some issue

/-- `github.next_issue`. -/
def githubNextIssue (milestone : String) (excluded : Option Int) : SupervisorM (Option Issue) := do
  let issues ← attempt (world (.issueList milestone))
  return selectIssue (issues.filter (isEligible excluded))

/-! ## The rollover -/

/-- A field that a payload has to have. -/
def field (payload : Value) (key : String) : SupervisorM Value :=
  match payload.get key with
  | some value => return value
  | none => throw .other

/-- `payload.get(key) != expected`. -/
def differs (payload : Value) (key : String) (expected : Option String) : Bool :=
  match expected with
  | some text => !((payload.get key).getD .null).isText text
  | none => !((payload.get key).getD .null).same .null

def verifyMilestoneRollover (payload : Value) : SupervisorM Unit := do
  if differs payload "repository" (some config.repository) then
    fail "Milestone rollover repository changed"
  else
    let active ← activeMilestone config
    if differs payload "from" (some active) then
      fail "Active milestone changed; request a new approval"
    else
      let next ← nextMilestone config
      if differs payload "to" next then fail "Next authorized milestone changed"
      else
        let milestone ← githubMilestone (← activeMilestone config)
        if milestone.state ≠ "closed" then
          fail "Current milestone must be closed before rollover"
        else if milestone.openIssues ≠ 0 then fail "Current milestone still has open issues"
        else
          let eligible ← githubNextIssue (← activeMilestone config) none
          if eligible.isSome then fail "Current milestone has newly eligible work"
          else
            let target ← field payload "to"
            let following ← githubMilestone (library.str target)
            if following.state ≠ "open" then fail "Next authorized milestone must be open"

def preconditions : Value :=
  .obj [("current_closed", .bool true), ("current_open_issues", .int 0),
    ("current_eligible_work", .bool false), ("next_open", .bool true),
    ("sequence_match", .bool true), ("paused", .bool false), ("conflicting_approval", .bool false)]

/-- `transition_milestone`; `queueNext` is `queue_next_issue`. -/
def transitionMilestone (queueNext : SupervisorM (Option Issue)) (payload : Value)
    (actor : String) : SupervisorM (Option Issue) := do
  verifyMilestoneRollover library config payload
  let decision ← policyDecision .advanceMilestone
  let source ← field payload "from"
  let target ← field payload "to"
  let advanced ← call (.advanceMilestone (library.str source) (library.str target)
    config.milestone (.obj [("actor", .str actor), ("decision", .str decision.name),
      ("from", source), ("to", target), ("preconditions", preconditions)]))
  if advanced then
    call (.set "last_error" "")
    queueNext
  else return none

/-- The buttons of a message, with their callback tokens. -/
def actionButtons (approvalId : Option String) (payload : Value) :
    List (String × String × Nat) → SupervisorM (List InlineAction)
  | [] => return []
  | (label, action, row) :: rest => do
      let token ← call (.createCallbackToken action config.approvalTtlSeconds approvalId
        (some config.allowedUser) payload)
      let others ← actionButtons approvalId payload rest
      return ⟨label, token, row⟩ :: others

/-- The rollover that needs an operator. -/
def askForRollover (approval : ApprovalRow) (current following : String) :
    SupervisorM Unit := do
  let choices ← actionButtons config (some approval.id) (.obj [])
    [("Advance", "advance-milestone", 0), ("Stay", "stay-milestone", 0)]
  let details ← actionButtons config none (.obj []) [("Details", "workflow-details", 1)]
  notifyOnce config {
    fingerprint := s!"milestone:{current}:rollover:{following}:{approval.id}"
    kind := "milestone.rollover_ready"
    message := s!"🎯 {current} is complete. Advance to {following}?"
    payload := [("from", .str current), ("to", .str following)]
    meaningful := true
    actions := choices ++ details }

/-- The pending approval of a plan, or a new one. -/
def pendingOrNew (action : ApprovalAction) (payload : Value) : SupervisorM ApprovalRow := do
  match ← call (.pendingApproval action payload) with
  | some approval => return approval
  | none => call (.createApproval action payload config.approvalTtlSeconds)

/-- The rollover of a closed milestone whose preconditions hold. -/
def proposeRollover (queueNext : SupervisorM (Option Issue)) (current following : String)
    (payload : Value) : SupervisorM Unit := do
  let decision ← policyDecision .advanceMilestone
  if decision = .disabled then
    notifyOnce config {
      fingerprint := s!"milestone:{current}:rollover-disabled:{following}"
      kind := "milestone.rollover_disabled"
      message := s!"Milestone advance from {current} is disabled by autonomy policy."
      payload := [("from", .str current), ("to", .str following)]
      meaningful := true }
  else
    let approval ← pendingOrNew config .milestoneRollover payload
    if decision = .auto then
      let conflicting ← call (.pendingApprovals .mergePr)
      if conflicting.isEmpty then
        let _ ← call (.decide approval.id .approved "autonomy-policy" "")
        let _ ← transitionMilestone library config queueNext payload "autonomy-policy"
      else
        notifyOnce config {
          fingerprint := s!"milestone:{current}:rollover-conflicting-approval"
          kind := "milestone.rollover_blocked"
          message := "Milestone rollover is blocked by a pending merge approval."
          payload := [("from", .str current), ("to", .str following)]
          severity := .failure
          meaningful := true }
    else askForRollover config approval current following

/-- A rollover that something stands in the way of. -/
def rolloverBlocked (fingerprint error : String) (payload : List (String × Value)) :
    SupervisorM Unit := do
  call (.set "last_error" "milestone rollover blocked")
  notifyOnce config {
    fingerprint := fingerprint
    kind := "milestone.rollover_blocked"
    message := s!"Milestone rollover blocked: {error}"
    payload := payload
    severity := .failure
    meaningful := true }

/-- What a call raises as a `SupervisorError`, or its result. -/
def supervisorError {α : Type} (body : SupervisorM α) : SupervisorM (Except String α) :=
  exceptSupervisor (do return .ok (← body)) (fun message => return .error message)

/-- The rollover once the current milestone is known. -/
def offerFrom (queueNext : SupervisorM (Option Issue)) (current following : String)
    (milestone : Milestone) : SupervisorM Unit := do
  if milestone.state ≠ "closed" ∨ milestone.openIssues ≠ 0 then
    notifyOnce config {
      fingerprint := s!"milestone:{current}:awaiting-close"
      kind := "milestone.awaiting_close"
      message := s!"Milestone {current} has no eligible issues. Close it after " ++
        "confirming completion to enable rollover."
      payload := [("milestone", .str current)] }
  else
    let payload : Value := .obj [("repository", .str config.repository), ("from", .str current),
      ("to", .str following)]
    match ← supervisorError (verifyMilestoneRollover library config payload) with
    | .error error =>
        rolloverBlocked config s!"milestone:{current}:rollover-invalid:{following}" error
          [("from", .str current), ("to", .str following), ("reason", .str "precondition")]
    | .ok _ => proposeRollover library config queueNext current following payload

def offerMilestoneRollover (queueNext : SupervisorM (Option Issue)) : SupervisorM Unit := do
  let current ← activeMilestone config
  match ← nextMilestone config with
  | none => return ()
  | some following =>
      match ← supervisorError (githubMilestone current) with
      | .error error =>
          rolloverBlocked config s!"milestone:{current}:rollover-state-error" error
            [("from", .str current), ("reason", .str "github-state")]
      | .ok milestone => offerFrom library config queueNext current following milestone

/-! ## The queue -/

/-- The policy keeps the queue from starting an issue. -/
def startPolicy (decision : AutonomyDecision) : SupervisorM Unit := do
  let shown ← activeMilestone config
  let milestone ← activeMilestone config
  notifyOnce config {
    fingerprint := s!"issue:start-policy:{shown}:{decision.name}"
    kind := "issue.start_policy"
    message := if decision = .approval then "Starting the next issue requires operator approval."
      else "Starting the next issue is disabled by autonomy policy."
    payload := [("milestone", .str milestone), ("decision", .str decision.name)]
    meaningful := true }

/-- The runner of an issue that was claimed. -/
def startRunner (issue : Issue) : SupervisorM Unit := do
  if config.runnerCommand ≠ [] then
    attempt (world (.run (config.runnerCommand ++ [toString issue.number])))
    let _ ← call (.event s!"issue:{issue.number}:runner-started" "runner.started"
      (.obj [("issue", .int issue.number)]))
    call (.set "runner_state" s!"started for issue #{issue.number}")

/-- An eligible issue is claimed and started. -/
def startIssue (issue : Issue) (milestone : String) : SupervisorM (Option Issue) := do
  let claimed ← call (.claimIssue issue.number issue.title milestone)
  if claimed then
    notifyOnce config {
      fingerprint := s!"issue:{issue.number}:queued"
      kind := "issue.queued"
      message := s!"▶️ Queued issue #{issue.number}: {issue.title}\n{issue.url}"
      payload := [("issue", .int issue.number), ("title", .str issue.title)] }
    startRunner config issue
    return some issue
  else return none

/-- No eligible issue is left. -/
def milestoneComplete (queueNext : SupervisorM (Option Issue)) (milestone : String) :
    SupervisorM (Option Issue) := do
  let completed ← call (.event s!"milestone:{milestone}:complete" "milestone.complete"
    (.obj [("milestone", .str milestone)]))
  if completed then
    notifyOnce config {
      fingerprint := s!"milestone:{milestone}:complete-notice"
      kind := "milestone.complete"
      message := s!"🎉 No eligible issues remain in {milestone}."
      payload := [("milestone", .str milestone)] }
  offerMilestoneRollover library config queueNext
  return none

/-- `queue_next_issue`; it calls itself after a rollover, as deep as Python recurses. -/
def queueNextIssue : Nat → Option Int → Bool → SupervisorM (Option Issue)
  | 0, _, _ => throw .other
  | depth + 1, completedIssue, operatorApproved => do
      let paused ← call (.get "paused" "false")
      if paused = "true" then return none
      else
        let decision ← policyDecision .startNextIssue
        if decision ≠ .auto ∧ ¬ (decision = .approval ∧ operatorApproved = true) then
          startPolicy config decision
          return none
        else
          let milestone ← activeMilestone config
          match ← githubNextIssue milestone completedIssue with
          | none => milestoneComplete library config (queueNextIssue depth none false) milestone
          | some issue => startIssue config issue milestone

/-! ## A merged pull request -/

/-- `agent/issue-(\d+)`. -/
def branchIssue (branch : String) : Option Nat :=
  if "agent/issue-".toList.isPrefixOf branch.toList then
    digits (String.ofList (branch.toList.drop "agent/issue-".length))
  else none

/-- The issue of a merged pull request is closed as far as the policy permits. -/
def closeCompletedIssue (issue : Nat) (decision : AutonomyDecision) : SupervisorM Unit := do
  if decision = .auto then attempt (world (.closeIssue issue))
  else
    if decision = .approval then call (.set "pending_close_issue" (toString issue))
    notifyOnce config {
      fingerprint := s!"issue:{issue}:close:{decision.name}"
      kind := "issue.close_policy"
      message := if decision = .approval then s!"Issue #{issue} requires operator closure."
        else s!"Issue #{issue} closure is disabled by autonomy policy."
      payload := [("issue", .int issue), ("decision", .str decision.name)]
      meaningful := true }

/-- The current issue is given up where it is the completed one. -/
def releaseIssue (issue : Nat) : SupervisorM Unit := do
  let current ← call (.get "current_issue" "")
  if current = toString issue then call (.set "current_issue" "")

def mergedNotice (number : Int) (sha : String) (advancesQueue : Bool) : Notice where
  fingerprint := s!"pr:{number}:merged-notice:{sha}"
  kind := "pull_request.merged_notice"
  message := if advancesQueue then s!"✅ PR #{number} merged. Selecting next issue."
    else s!"✅ Maintenance PR #{number} merged. Issue queue unchanged."
  payload := [("pull_request", .int number), ("head_sha", .str sha)]

/-- What is done for the issue of the pull request, and the next issue. -/
def completeIssue (number : Int) (sha : String) (decision : AutonomyDecision) :
    Option Nat → SupervisorM (Option Issue)
  | none => do
      notifyOnce config (mergedNotice number sha false)
      return none
  | some issue => do
      closeCompletedIssue config issue decision
      notifyOnce config (mergedNotice number sha true)
      releaseIssue issue
      queueNextIssue library config library.recursionLimit (some issue) false

def completeMergedPullRequest (pr : PullRequest) : SupervisorM (Option Issue) := do
  let fingerprint := s!"pr:{pr.number}:completed:{pr.headRefOid}"
  let _ ← call (.supersedeApprovalsForPullRequest pr.number "pull request merged")
  let completed ← call (.hasEvent fingerprint)
  if completed then return none
  else
    let issue := branchIssue pr.headRefName
    let decision ← policyDecision .closeCompletedIssue
    let next ← completeIssue library config pr.number pr.headRefOid decision issue
    call (.set "current_pr" "")
    let _ ← call (.event fingerprint "pull_request.merged" (.obj [
      ("pull_request", .int pr.number), ("head_sha", .str pr.headRefOid),
      ("issue", match issue with
        | some issue => .int issue
        | none => .null)]))
    return next

end FortifyLab.Supervisor
