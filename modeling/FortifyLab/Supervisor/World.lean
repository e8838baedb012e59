import FortifyLab.Supervisor.AutonomyPolicy
import FortifyLab.Supervisor.Database

/-! What the supervisor asks of the world around its database: the clock, its own policy,
GitHub, Telegram, the heartbeat files and the runner. -/

namespace FortifyLab.Supervisor

/-- What a call raises: a `SupervisorError`, an error of the database, or anything else. -/
inductive Raised where
  | supervisor (message : String)
  | sql (error : SqlError)
  | other
  deriving DecidableEq

/-! ## GitHub -/

structure CheckRun where
  name : String
  status : String
  conclusion : String

structure PullRequest where
  number : Int
  state : String
  isDraft : Bool
  headRefOid : String
  headRefName : String
  mergeable : String
  mergeStateStatus : String
  reviewDecision : String
  statusCheckRollup : List CheckRun
  url : String
  mergedAt : String
  files : List String
  labels : List String

structure Issue where
  number : Int
  title : String
  url : String
  labels : List String
  deriving DecidableEq

structure Milestone where
  title : String
  state : String
  openIssues : Int

structure IssueDetails where
  number : Int
  state : String
  milestone : String
  labels : List String

/-! ## Telegram -/

structure InlineAction where
  label : String
  token : String
  row : Nat

/-! ## The runner's heartbeat -/

/-- A heartbeat document; its times are the instants that its texts stand for. -/
structure HeartbeatDocument where
  schemaVersion : Int
  issue : Int
  milestone : String
  writerId : String
  generation : Int
  policyGeneration : Int
  policyDigest : String
  revision : Int
  phase : String
  phaseStartedAt : Int
  startedAt : Int
  totalElapsedSeconds : Int
  lastActivityAt : Int
  runnerHealth : String
  changedFileCount : Int
  validationState : String
  prReference : Option String
  lastCompletedSafeStep : String
  nextExpectedTransition : Option String
  deriving DecidableEq

/-! ## Configuration -/

/-- `NotificationPreferences`; the quiet hours and the digest day of an instant depend on
the configured time zone. -/
structure NotificationPreferences where
  failuresOnly : Bool
  quiet : ℚ → Bool
  digestBucket : ℚ → String
  retryStages : List String
  rejectionReasons : List String

structure Config where
  repository : String
  milestone : String
  milestones : List String
  pollSeconds : Int
  approvalTtlSeconds : Int
  runnerCommand : List String
  runnerStopCommand : List String
  heartbeatRoot : Bool
  autonomyPolicyFile : Bool
  requiredMergeChecks : List String
  notifications : NotificationPreferences
  allowedUser : String

/-! ## Requests -/

inductive Outside where
  | now
  | tokenHex
  | tokenUrlsafe
  | policy
  | adopt (policy : EffectivePolicy)
  | policyFile
  | installPolicy (policy : EffectivePolicy)
  | heartbeat (issue : Nat)
  | pullRequest (number : Int)
  | ready (number : Int)
  | merge (number : Int) (headSha : String)
  | closeIssue (number : Int)
  | issueList (milestone : String)
  | milestones
  | issueDetails (number : Int)
  | send (message : String) (actions : List InlineAction)
  | edit (messageId message : String) (actions : List InlineAction)
  | run (command : List String)

/-- `policy` and `adopt` read and write the supervisor's own field. -/
abbrev Reply : Outside → Type
  | .now => ℚ
  | .tokenHex => String
  | .tokenUrlsafe => String
  | .policy => EffectivePolicy
  | .adopt _ => Unit
  | .policyFile => PolicyFile
  | .installPolicy _ => Bool
  | .heartbeat _ => Option HeartbeatDocument
  | .pullRequest _ => Except Raised PullRequest
  | .ready _ => Except Raised Unit
  | .merge _ _ => Except Raised Unit
  | .closeIssue _ => Except Raised Unit
  | .issueList _ => Except Raised (List Issue)
  | .milestones => Except Raised (List Milestone)
  | .issueDetails _ => Except Raised IssueDetails
  | .send _ _ => Except Raised String
  | .edit _ _ _ => Except Raised Unit
  | .run _ => Except Raised Unit

/-- The parts of Python's library whose values the supervisor only compares or shows. -/
structure Library where
  policies : PolicyLibrary
  /-- The digest of a payload's canonical text. -/
  planDigest : Value → String
  /-- The digest of a callback token. -/
  tokenHash : String → String
  /-- `int` and `float` of a text. -/
  parseInt : String → Option Int
  parseFloat : String → Option ℚ
  /-- `json.loads` and `json.dumps`. -/
  loads : String → Option Value
  dumps : Value → String
  /-- An instant as text. -/
  isoformat : ℚ → String
  /-- The twelve digits that stand for an error. -/
  errorDigest : String → String
  recursionLimit : Nat

/-- `str`. -/
def Library.str (library : Library) : Value → String
  | .str text => text
  | other => library.policies.render other

/-- `int`. -/
def Library.int (library : Library) : Value → Option Int
  | .bool value => some (if value then 1 else 0)
  | .int value => some value
  | .float value => some (value.num.tdiv value.den)
  | .str text => library.parseInt text
  | _ => none

/-- `int` of a clock's time. -/
def seconds (time : ℚ) : Int := time.num.tdiv time.den

abbrev Request := DatabaseRequest Query Change Outside

abbrev Answer : Request → Type := DatabaseRequest.Answer Rows Reply

end FortifyLab.Supervisor
