import FortifyLab.Supervisor.Queue
import FortifyLab.Supervisor.WorkflowStatus
import Mathlib.Algebra.Order.Ring.Unbundled.Rat

/-! The status card, and `monitor_runner`. -/

namespace FortifyLab.Supervisor

variable (library : Library) (config : Config)

/-! ## The status card -/

def queueState : SupervisorM String := do
  let issue ← call (.get "current_issue" "")
  if issue ≠ "" then return "active"
  else
    let paused ← call (.get "paused" "false")
    if paused = "true" then return "held"
    else
      let lastError ← call (.get "last_error" "")
      if lastError ≠ "" then return "blocked"
      else
        let current ← activeMilestone config
        let complete ← call (.hasEvent s!"milestone:{current}:complete")
        if complete then
          let next ← nextMilestone config
          return if next.getD "" ≠ "" then "rollover-pending" else "complete"
        else return "idle"

/-- The heartbeat of an issue, where there is a root to look under. -/
def issueHeartbeat (issue : String) : SupervisorM (Option HeartbeatDocument) := do
  match config.heartbeatRoot, digits issue with
  | true, some number =>
      let file ← world (.heartbeat number)
      return readHeartbeat file number
  | _, _ => return none

/-- What the card shows besides the heartbeat. -/
def cardState (paused pr issue : String) : SupervisorM CardState := do
  let policy ← world .policy
  let configuration ← configurationState library config
  let milestone ← activeMilestone config
  let title ← call (.get "current_issue_title" "")
  let ciState ← call (.get "ci_state" "not started")
  let approvals ← call (.pendingApprovals .mergePr)
  let queue ← queueState config
  return {
    milestone := milestone
    issue := issue
    title := title
    paused := decide (paused = "true")
    prState := if pr ≠ "" ∧ pr ≠ "none" then s!"#{pr}" else "none"
    ciState := ciState
    approvalReady := !approvals.isEmpty
    policy := policy
    configurationState := configuration
    queueState := queue }

def statusText : SupervisorM String := do
  let paused ← call (.get "paused" "false")
  let pr ← call (.get "current_pr" "none")
  let issue ← call (.get "current_issue" "")
  let heartbeat ← issueHeartbeat config issue
  let card ← cardState library config paused pr issue
  let now ← world .now
  return renderCard library card heartbeat now

/-- The buttons of a card. -/
def workflowActions : SupervisorM (List InlineAction) := do
  let issue ← call (.get "current_issue" "")
  let paused ← call (.get "paused" "false")
  let payload : Value := match digits issue with
    | some number => .obj [("issue", .int number)]
    | none => .obj []
  actionButtons config none payload
    (if paused = "true" then
      [("Continue", "continue-general", 0), ("Details", "workflow-details", 0)]
    else if digits issue ≠ none ∧ config.runnerStopCommand ≠ [] then
      [("Details", "workflow-details", 0), ("Stop", "stop", 0)]
    else [("Details", "workflow-details", 0), ("Refresh", "refresh", 0)])

/-- A card that is not there yet. -/
def sendCard (message : String) (actions : List InlineAction) : SupervisorM Unit := do
  let messageId ← attempt (world (.send message actions))
  call (.set "status_message_id" messageId)

/-- A card that could not be edited. -/
def cardEditFailed : SupervisorM Unit := do
  let time ← world .now
  let _ ← call (.event s!"status-card-edit:{seconds time}" "communications.message_edit_failed"
    (.obj [("provider", .str "telegram"), ("outcome", .str "failed")]))

/-- The given buttons, or else those of the workflow. -/
def cardActions (given : List InlineAction) : SupervisorM (List InlineAction) :=
  if given.isEmpty then workflowActions config else return given

/-- `update_status_card`. -/
def updateStatusCard (given : List InlineAction) : SupervisorM Unit := do
  let actions ← cardActions config given
  let message ← statusText library config
  let messageId ← call (.get "status_message_id" "")
  if messageId = "" then sendCard message actions
  else
    match ← supervisorError (attempt (world (.edit messageId message actions))) with
    | .ok _ => return ()
    | .error _ => do
        cardEditFailed
        sendCard message actions

/-! ## The runner -/

def attentionPhases : List String := ["waiting-for-approval", "failed"]

def stalledHealths : List String := ["possibly-stalled", "stalled"]

def runnerPrefix (issue : String) (generation : Int) : String := s!"runner:{issue}:{generation}"

/-- The policy that the runner attests has to be the monitor's own. -/
def attestRunner (heartbeat : HeartbeatDocument) (now : ℚ) : SupervisorM Unit := do
  if heartbeat.runnerHealth = "completed" ∨ heartbeat.runnerHealth = "failed" then
    call (.unset "process_policy:runner")
  else
    call (.set "process_policy:runner" (library.dumps (.obj [
      ("digest", .str heartbeat.policyDigest),
      ("generation", .int heartbeat.policyGeneration),
      ("updated_at", .int (seconds now))])))
    let policy ← world .policy
    if heartbeat.policyGeneration ≠ policy.generation ∨ heartbeat.policyDigest ≠ policy.digest then
      call (.set "autonomy_configuration_state" "mismatch")
      fail "configuration mismatch; runner actions are blocked"

def announceStart (issue : String) (number : Nat) (heartbeat : HeartbeatDocument) :
    SupervisorM Unit := do
  let start := runnerPrefix issue heartbeat.generation ++ ":started"
  let known ← call (.hasEvent start)
  if known then return ()
  else
    let title ← call (.get "current_issue_title" "title unavailable")
    notifyOnce config {
      fingerprint := start
      kind := "runner.started"
      message := s!"▶️ Work started on issue #{issue}: {title}"
      payload := [("issue", .int number), ("phase", .str heartbeat.phase)]
      meaningful := true }

def announcePhase (issue : String) (number : Nat) (heartbeat : HeartbeatDocument)
    (previousPhase : String) : SupervisorM Unit := do
  if previousPhase ≠ "" ∧ heartbeat.phase ≠ previousPhase ∧
      attentionPhases.contains heartbeat.phase then
    notifyOnce config {
      fingerprint := runnerPrefix issue heartbeat.generation ++ s!":phase:{heartbeat.phase}"
      kind := "runner.phase_attention"
      message := s!"🔔 Issue #{issue} entered {heartbeat.phase}."
      payload := [("issue", .int number), ("phase", .str heartbeat.phase)]
      severity := if heartbeat.phase = "failed" then .failure else .info
      meaningful := true }

def announceHealth (issue : String) (number : Nat) (heartbeat : HeartbeatDocument)
    (previousHealth : String) (now : ℚ) : SupervisorM Unit := do
  let health := heartbeat.runnerHealth
  if stalledHealths.contains health ∧ health ≠ previousHealth then
    notifyOnce config {
      fingerprint := runnerPrefix issue heartbeat.generation ++ s!":health:{health}"
      kind := "runner.stalled"
      message := renderStall heartbeat now
      payload := [("issue", .int number), ("phase", .str heartbeat.phase),
        ("runner_health", .str health)]
      severity := .failure
      meaningful := true }
  else if stalledHealths.contains previousHealth ∧ ¬ stalledHealths.contains health then
    notifyOnce config {
      fingerprint := runnerPrefix issue heartbeat.generation ++ s!":recovered:{heartbeat.revision}"
      kind := "runner.recovered"
      message := s!"✅ Runner recovered on issue #{issue}; phase {heartbeat.phase}."
      payload := [("issue", .int number), ("phase", .str heartbeat.phase)]
      meaningful := true }

/-- `float(self.store.get(key, "0") or 0)`. -/
def storedTime (key : String) : SupervisorM ℚ := do
  let text ← call (.get key "0")
  if text = "" then return 0
  else
    match library.parseFloat text with
    | some time => return time
    | none => throw .other

/-- The routine message of a long run. -/
def announceRoutine (issue : String) (number : Nat) (heartbeat : HeartbeatDocument) (now : ℚ) :
    SupervisorM Unit := do
  let key := runnerPrefix issue heartbeat.generation ++ ":last-routine"
  let elapsed : ℚ := max 0 (now - heartbeat.startedAt)
  let interval := heartbeatInterval elapsed
  let lastRoutine ← storedTime library key
  let meaningfulAt ← storedTime library "last_meaningful_notification"
  if 600 ≤ elapsed ∧ (lastRoutine = 0 ∨ interval ≤ now - lastRoutine) then
    let watched ← call (.get "watched" "true")
    if watched = "true" ∧ config.notifications.quiet now = false ∧
        min 600 (interval : ℚ) ≤ now - meaningfulAt then
      let slot := (elapsed / interval).floor
      let text ← statusText library config
      notifyOnce config {
        fingerprint := runnerPrefix issue heartbeat.generation ++ s!":heartbeat:{slot}"
        kind := "runner.heartbeat"
        message := text
        payload := [("issue", .int number), ("phase", .str heartbeat.phase), ("slot", .int slot)] }
      call (.set key (toString (seconds now)))

/-- `monitor_runner` once the heartbeat is read. -/
def observeRunner (issue : String) (number : Nat) (heartbeat : HeartbeatDocument) :
    SupervisorM Unit := do
  let now ← world .now
  attestRunner library heartbeat now
  let start := runnerPrefix issue heartbeat.generation
  let previousPhase ← call (.get (start ++ ":phase") "")
  let previousHealth ← call (.get (start ++ ":health") "")
  announceStart config issue number heartbeat
  announcePhase config issue number heartbeat previousPhase
  announceHealth config issue number heartbeat previousHealth now
  announceRoutine library config issue number heartbeat now
  call (.set (start ++ ":phase") heartbeat.phase)
  call (.set (start ++ ":health") heartbeat.runnerHealth)
  let approvals ← call (.pendingApprovals .mergePr)
  if approvals.isEmpty then updateStatusCard library config []

/-- `monitor_runner`. -/
def monitorRunner : SupervisorM Unit := do
  let issue ← call (.get "current_issue" "")
  match config.heartbeatRoot, digits issue with
  | true, some number =>
      let file ← world (.heartbeat number)
      match readHeartbeat file number with
      | none => return ()
      | some heartbeat => observeRunner library config issue number heartbeat
  | _, _ => return ()

end FortifyLab.Supervisor
