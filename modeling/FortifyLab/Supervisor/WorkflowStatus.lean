import FortifyLab.Supervisor.World

/-! `workflow_status.py`: the supervisor's reading of a heartbeat and the texts it shows. -/

namespace FortifyLab.Supervisor

/-- Whole seconds of a duration, none of them negative. -/
def wholeSeconds (time : ℚ) : Nat := (seconds time).toNat

def duration (time : ℚ) : String :=
  let total := wholeSeconds time
  if total / 3600 ≠ 0 then s!"{total / 3600}h {total % 3600 / 60}m"
  else s!"{total % 3600 / 60}m"

/-- First update at 10m, 15m cadence through 60m, then every 30m. -/
def heartbeatInterval (elapsed : ℚ) : Nat :=
  if elapsed < 600 then 600 else if elapsed < 3600 then 900 else 1800

def readableHealths : List String :=
  ["active", "quiet", "possibly-stalled", "stalled", "completed", "failed"]

/-- `read_heartbeat`: the document as it is stored, where it is well formed. -/
def readHeartbeat (file : Option HeartbeatDocument) (issue : Nat) : Option HeartbeatDocument :=
  match file with
  | none => none
  | some document =>
      if document.schemaVersion ≠ 1 ∨ document.issue ≠ issue ∨
          document.policyDigest.length ≠ 64 then none
      else if readableHealths.contains document.runnerHealth then some document
      else none

/-- What the card shows of the workflow besides the heartbeat. -/
structure CardState where
  milestone : String
  issue : String
  title : String
  paused : Bool
  prState : String
  ciState : String
  approvalReady : Bool
  policy : EffectivePolicy
  configurationState : String
  queueState : String

variable (library : Library)

def policyLines (card : CardState) : String :=
  s!"Autonomy: {card.policy.profile.name} · generation {card.policy.generation} · digest " ++
    String.ofList (card.policy.digest.toList.take 12) ++ "\nPolicy: " ++
    String.intercalate ", " (AutonomyAction.all.map (fun action =>
      s!"{action.name}={(card.policy.decisions action).name}")) ++ "\n" ++
    (match card.policy.expiresAt with
      | some expiry => s!"Lease expiry: {library.isoformat expiry}\n"
      | none => "") ++
    (if card.configurationState = "mismatch" then "Configuration: mismatch — actions blocked\n"
      else if card.configurationState = "expired-lease" then
        "Configuration: expired lease — actions blocked\n"
      else if card.configurationState = "restart-required" then
        "Configuration: restart required — actions blocked\n"
      else "")

def yesNo (value : Bool) : String := if value then "yes" else "no"

/-- A text that may be missing. -/
def orElse (text missing : String) : String := if text = "" then missing else text

/-- The card of a workflow without a heartbeat. -/
def idleCard (card : CardState) : String :=
  let workflow := if card.paused then "paused" else if card.issue = "" then "idle" else "waiting"
  let nextStep :=
    if card.issue = "" then
      if card.paused then "operator resume or queue selection" else "eligible issue selection"
    else if card.paused then "operator action" else "runner startup or operator action"
  let progress := if card.issue = "" then card.queueState else s!"issue #{card.issue}"
  let title := orElse card.title "none"
  s!"Fortify SDLC Workflow — {card.milestone}\nMilestone progress: {progress}\n" ++
    s!"Current: {title}\nWorkflow: {workflow}\nRunner: no heartbeat\n" ++
    s!"PR / CI: {card.prState} / {card.ciState}\n" ++
    s!"Approval ready: {yesNo card.approvalReady}\n" ++
    policyLines library card ++ s!"Next: {nextStep}"

/-- The card of a workflow whose runner reports `heartbeat`. -/
def runningCard (card : CardState) (heartbeat : HeartbeatDocument) (now : ℚ) : String :=
  let title := orElse card.title "title unavailable"
  let workflow := if card.paused then "paused" else "running"
  let next := orElse (heartbeat.nextExpectedTransition.getD "") "operator review"
  s!"Fortify SDLC Workflow — {card.milestone}\n" ++
    s!"Milestone progress: issue #{card.issue} · " ++
    s!"{duration (now - heartbeat.startedAt)} elapsed\n" ++
    s!"Current: {title}\n" ++
    s!"Workflow: {workflow}\n" ++
    s!"Started: {library.isoformat heartbeat.startedAt}\n" ++
    s!"Last activity: {duration (now - heartbeat.lastActivityAt)} ago\n" ++
    s!"Phase: {heartbeat.phase} · {duration (now - heartbeat.phaseStartedAt)}\n" ++
    s!"Runner: {heartbeat.runnerHealth}\n" ++
    s!"Changed files: {heartbeat.changedFileCount}\n" ++
    s!"Validation: {heartbeat.validationState}\n" ++
    s!"PR / CI: {card.prState} / {card.ciState}\n" ++
    s!"Approval ready: {yesNo card.approvalReady}\n" ++
    policyLines library card ++
    s!"Next: {next}"

/-- `render_card`. -/
def renderCard (card : CardState) (heartbeat : Option HeartbeatDocument) (now : ℚ) : String :=
  match heartbeat with
  | none => idleCard library card
  | some heartbeat => runningCard library card heartbeat now

/-- `render_stall`. -/
def renderStall (heartbeat : HeartbeatDocument) (now : ℚ) : String :=
  let safeStep := orElse heartbeat.lastCompletedSafeStep "not recorded"
  s!"⚠ Runner {heartbeat.runnerHealth} on issue #{heartbeat.issue}.\n" ++
    s!"Phase: {heartbeat.phase}\nElapsed: {duration (now - heartbeat.startedAt)}\n" ++
    s!"Activity age: {duration (now - heartbeat.lastActivityAt)}\n" ++
    s!"Last safe step: {safeStep}\n" ++
    "Actions: Status, Details, Refresh, Pause"

end FortifyLab.Supervisor
