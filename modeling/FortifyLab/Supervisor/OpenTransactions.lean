import FortifyLab.Supervisor.Queue
import FortifyLab.Supervisor.Transactions

/-! Runs of one supervisor on its connection, and the transactions they leave open. -/

namespace FortifyLab.Supervisor

open Connection Program

variable (library : Library) (world : Surroundings)

/-- What answers a request of the supervisor when nothing else uses the database. -/
def runRequest (state : OnConnection) (request : SupervisorRequest) :
    SupervisorAnswer request × OnConnection :=
  eval (handle tables world) (request.perform library) state

def SupervisorRequest.Harmless (state : OnConnection) : SupervisorRequest → Prop
  | .store call => call.Harmless library world state.1.seen state.2
  | .outside _ => True

/-- The two methods that begin a transaction answer, and answer by the database. -/
def TransactionAnswers (database : Database) :
    (request : SupervisorRequest) → SupervisorAnswer request → Prop
  | .store (.claimIssue issue _ milestone), answer =>
      answer = .ok (canClaim database issue milestone)
  | .store (.advanceMilestone expected following initial _), answer =>
      answer = .ok (canAdvance database expected following initial)
  | _, _ => True

variable {library world} {α : Type}

theorem runRequest_answers {request : SupervisorRequest} {state : OnConnection}
    (outside : state.1.inTransaction = false) :
    TransactionAnswers state.1.seen request (runRequest library world state request).1 := by
  rcases state with ⟨connection, time⟩
  change connection.inTransaction = false at outside
  rw [eq_closed outside]
  generalize connection.seen = database
  cases request with
  | outside asked => trivial
  | store made =>
      cases made with
      | claimIssue issue title milestone =>
          exact (claimIssue_spec database time issue title milestone).2
      | advanceMilestone expected following initial payload =>
          exact (advanceMilestone_spec database time expected following initial payload).2
      | _ => trivial

theorem runRequest_closed {request : SupervisorRequest} {state : OnConnection}
    (outside : state.1.inTransaction = false)
    (harmless : request.Harmless library world state) :
    (runRequest library world state request).2.1.inTransaction = false := by
  rcases state with ⟨connection, time⟩
  change connection.inTransaction = false at outside
  rw [eq_closed outside] at harmless ⊢
  cases request with
  | outside asked => rfl
  | store made => exact (call_closed_iff connection.seen time made).mpr harmless

/-- Library values that nothing below depends on. -/
def plainLibrary : Library where
  policies := ⟨fun _ => none, fun _ => "", fun _ => ""⟩
  planDigest := fun _ => "digest"
  tokenHash := id
  parseInt := fun _ => none
  parseFloat := fun _ => none
  loads := fun _ => none
  dumps := fun _ => ""
  isoformat := fun _ => ""
  errorDigest := fun _ => ""
  recursionLimit := 3

def plainConfig : Config where
  repository := "owner/lab"
  milestone := "v1"
  milestones := []
  pollSeconds := 120
  approvalTtlSeconds := 3600
  runnerCommand := []
  runnerStopCommand := []
  heartbeatRoot := false
  autonomyPolicyFile := false
  requiredMergeChecks := ["repository", "secrets"]
  notifications := ⟨false, fun _ => false, fun _ => "", [], ["changes-required"]⟩
  allowedUser := "1"

def assistedPolicy : EffectivePolicy where
  profile := .assisted
  generation := 1
  decisions := Profile.assisted.defaults
  digest := "digest"
  expiresAt := none
  configured := true

def mergedPullRequest : PullRequest where
  number := 5
  state := "MERGED"
  isDraft := false
  headRefOid := "abc"
  headRefName := "agent/issue-4"
  mergeable := ""
  mergeStateStatus := ""
  reviewDecision := ""
  statusCheckRollup := []
  url := ""
  mergedAt := "now"
  files := []
  labels := []

/-- A world in which GitHub lists the issues only from some request on. -/
def outage (failures : Nat) : Surroundings := fun time asked =>
  match asked with
  | .now => 1000
  | .tokenHex => "id"
  | .tokenUrlsafe => "token"
  | .policy => assistedPolicy
  | .adopt _ => ()
  | .policyFile => .none
  | .installPolicy _ => true
  | .heartbeat _ => none
  | .pullRequest _ => .ok mergedPullRequest
  | .ready _ => .ok ()
  | .merge _ _ => .ok ()
  | .closeIssue _ => .ok ()
  | .issueList _ =>
      if time < failures then .error (.supervisor "GitHub CLI request failed")
      else .ok [⟨6, "next", "", []⟩]
  | .milestones => .ok []
  | .issueDetails _ => .error .other
  | .send _ _ => .ok "77"
  | .edit _ _ _ => .ok ()
  | .run _ => .ok ()

def completion : SupervisorProgram (Except Raised (Option Issue)) :=
  (completeMergedPullRequest plainLibrary plainConfig mergedPullRequest).run

/-- A first completion, in which GitHub fails once the notice of the merge is sent. -/
def afterOutage : OnConnection :=
  (eval (runRequest plainLibrary (outage 15)) completion (closed Database.empty, 0)).2

end FortifyLab.Supervisor
