import FortifyLab.Library.Observed
import FortifyLab.Supervisor.Callbacks
import FortifyLab.Supervisor.OpenTransactions
import FortifyLab.Supervisor.Statements

/-! Any number of supervisor processes on one database and one policy file: every statement
and every explicit transaction is one step. -/

namespace FortifyLab.Supervisor

open Connection Program

/-- What the processes share, and the policy that each has adopted. -/
structure Site where
  database : Database
  file : PolicyFile
  policies : Nat → EffectivePolicy

/-! ## The explicit transactions -/

/-- What a claim makes of the database. -/
def claimed (database : Database) (issue : Int) (title milestone : String) (created : Int) :
    Database :=
  if canClaim database issue milestone then
    { database with
      settings := Function.update
        (Function.update database.settings "current_issue" (some (toString issue)))
        "current_issue_title" (some ((title.take 200).toString))
      events := database.events ++ [⟨Store.issueSelected issue milestone, "issue.selected",
        Store.issueFields issue milestone, created⟩] }
  else database

/-- What a transition makes of the database. -/
def advanced (database : Database) (expected following initial : String) (payload : Value)
    (created : Int) : Database :=
  if canAdvance database expected following initial then
    { database with
      settings := Function.update database.settings "active_milestone" (some following)
      events := database.events ++ [⟨Store.milestoneAdvanced expected following,
        "milestone.rollover", payload, created⟩] }
  else database

section Transactions

attribute [local simp] runCall StoreCall.perform StoreCall.body Store.select Store.execute
  Store.beginImmediate Store.commit Store.rollback Store.outside Store.now Store.ask
  Store.raiseError Store.exceptIntegrity Store.refused Program.perform ExceptT.run
  ExceptT.mk ExceptT.lift ExceptT.bind ExceptT.bindCont ExceptT.pure ExceptT.tryCatch tryCatch
  tryCatchThe MonadExceptOf.tryCatch Bind.bind Pure.pure Program.bind Functor.map throw throwThe
  MonadExceptOf.throw handle Connection.answer Connection.after Connection.closed
  Connection.seen Connection.inTransaction tables Database.read Database.write

variable {library : Library} {world : Surroundings} (database : Database) (time : Nat)

theorem claimIssue_claimed (issue : Int) (title milestone : String) :
    (runCall library world (.claimIssue issue title milestone) (closed database, time)).2.1 =
      closed (claimed database issue title milestone (seconds (world time .now))) := by
  by_cases idle : (database.settings "current_issue").getD "" = ""
  · by_cases known : database.hasEvent (Store.issueSelected issue milestone) <;>
      simp [Store.claimIssue, claimed, canClaim, idle, hasEvent_settings, known]
  · simp [Store.claimIssue, claimed, canClaim, idle]

theorem advanceMilestone_advanced (expected following initial : String) (payload : Value) :
    (runCall library world (.advanceMilestone expected following initial payload)
      (closed database, time)).2.1 =
      closed (advanced database expected following initial payload
        (seconds (world time .now))) := by
  by_cases free : (database.settings "active_milestone").getD initial = expected ∧
      database.settings "paused" ≠ some "true"
  · by_cases known : database.hasEvent (Store.milestoneAdvanced expected following) <;>
      simp [Store.advanceMilestone, advanced, canAdvance, free, hasEvent_settings, known]
  · have refused : (database.settings "active_milestone").getD initial ≠ expected ∨
        database.settings "paused" = some "true" := by
      by_contra both
      exact free (by simpa using both)
    have answer : canAdvance database expected following initial = false := by
      rcases refused with moved | paused
      · simp [canAdvance, moved]
      · simp [canAdvance, paused]
    simp [Store.advanceMilestone, advanced, answer, refused]

end Transactions

/-! ## Steps -/

/-- One step of a process. -/
inductive SiteRequest where
  | query (query : Query)
  | change (change : Change)
  | claim (issue : Int) (title milestone : String) (created : Int)
  | advance (expected following initial : String) (payload : Value) (created : Int)
  | policy (process : Nat)
  | adopt (process : Nat) (policy : EffectivePolicy)
  | policyFile
  | install (policy : EffectivePolicy)
  | outside (asked : Outside)

abbrev SiteAnswer : SiteRequest → Type
  | .query query => Rows query
  | .change _ => Except SqlError Nat
  | .claim _ _ _ _ => Bool
  | .advance _ _ _ _ _ => Bool
  | .policy _ => EffectivePolicy
  | .adopt _ _ => Unit
  | .policyFile => PolicyFile
  | .install _ => Unit
  | .outside asked => Reply asked

abbrev SiteProgram := Program SiteRequest SiteAnswer

def siteStep (request : SiteRequest) : SiteProgram (SiteAnswer request) := Program.perform request

/-- A statement outside the explicit transactions commits by itself. -/
def singleStatement : (request : Request) → SiteProgram (Answer request)
  | .statement (.query query) => siteStep (.query query)
  | .statement (.change change) => siteStep (.change change)
  | .statement .beginImmediate => return .ok ()
  | .statement .commit => return ()
  | .statement .rollback => return ()
  | .outside asked => siteStep (.outside asked)

variable (library : Library) (config : Config)

/-- A call of the store; nothing depends on when in its transaction the clock is read. -/
def storeSteps : (call : StoreCall) → SiteProgram (Except Raised call.Result)
  | .claimIssue issue title milestone => do
      let time ← siteStep (.outside .now)
      let answer ← siteStep (.claim issue title milestone (seconds time))
      return .ok answer
  | .advanceMilestone expected following initial payload => do
      let time ← siteStep (.outside .now)
      let answer ← siteStep (.advance expected following initial payload (seconds time))
      return .ok answer
  | other => (other.perform library).expand singleStatement

/-- The policy file is replaced or not, and either may be reported. -/
def installSteps (policy : EffectivePolicy) : SiteProgram Bool := do
  let replaced ← siteStep (.outside (.installPolicy policy))
  if replaced then
    siteStep (.install policy)
    siteStep (.outside (.installPolicy policy))
  else return false

/-- The steps of a request of one process. -/
def siteSteps (process : Nat) :
    (request : SupervisorRequest) → SiteProgram (SupervisorAnswer request)
  | .store call => storeSteps library call
  | .outside .policy => siteStep (.policy process)
  | .outside (.adopt policy) => siteStep (.adopt process policy)
  | .outside .policyFile => siteStep .policyFile
  | .outside (.installPolicy policy) => installSteps policy
  | .outside asked => siteStep (.outside asked)

/-! ## The machine -/

/-- What a process may be doing. -/
inductive Duty where
  | idle
  | queueNext (completedIssue : Option Int) (operatorApproved : Bool)
  | completeMerged (pr : PullRequest)
  | offerRollover
  | approveRollover (approvalId actor : String)
  | approve (approvalId actor : String)
  | callback (token actor : String)
  | hold (actor : String)
  | pause (paused : Bool) (actor : String)
  | stay (approvalId actor : String) (payload : Value)
  | start
  | reload (role : String)
  | planMerge (payload : Value)
  | issueToken (action : String) (ttl : Int) (approvalId actor : Option String) (payload : Value)
  | write (key value : String)

structure Task where
  process : Nat
  duty : Duty

/-- The call without its result. -/
def silently {α : Type} (body : SupervisorM α) : SupervisorM String := do
  let _ ← body
  return ""

def Duty.body : Duty → SupervisorM String
  | .idle => return ""
  | .queueNext completedIssue operatorApproved =>
      silently (queueNextIssue library config library.recursionLimit completedIssue
        operatorApproved)
  | .completeMerged pr => silently (completeMergedPullRequest library config pr)
  | .offerRollover => silently (offerMilestoneRollover library config
      (queueNextIssue library config library.recursionLimit none false))
  | .approveRollover approvalId actor => approveMilestoneRollover library config approvalId actor
  | .approve approvalId actor => Supervisor.approve library config approvalId actor
  | .callback token actor => executeCallback library config token actor
  | .hold actor => holdCommand config actor
  | .pause paused actor => pauseCommand library config paused actor
  | .stay approvalId actor payload => stayMilestone approvalId actor payload
  | .start => silently (startSupervisor library config)
  | .reload role => silently (reloadPolicy library config role)
  | .planMerge payload => silently (call (.createApproval .mergePr payload
      config.approvalTtlSeconds))
  | .issueToken action ttl approvalId actor payload =>
      silently (call (.createCallbackToken action ttl approvalId actor payload))
  | .write key value => silently (call (.set key value))

/-- The settings that other functions write; the queue slot and the active milestone are
written only by the functions above. -/
def Duty.isAdmitted : Duty → Bool
  | .write key _ => !(["current_issue", "current_issue_title", "active_milestone"].contains key)
  | _ => true

namespace Site

variable (site : Site)

/-- The answer of a step; what lies outside is offered. -/
def reply (offer : (asked : Outside) → Reply asked) :
    (request : SiteRequest) → Option (SiteAnswer request)
  | .query query => some (site.database.read query)
  | .change change => some (match site.database.write change with
      | some (count, _) => .ok count
      | none => .error .integrity)
  | .claim issue _ milestone _ => some (canClaim site.database issue milestone)
  | .advance expected following initial _ _ =>
      some (canAdvance site.database expected following initial)
  | .policy process => some (site.policies process)
  | .adopt _ _ => some ()
  | .policyFile => some site.file
  | .install _ => some ()
  | .outside asked => some (offer asked)

/-- The document that `replace_policy` writes. -/
def policyDocument (policy : EffectivePolicy) : Value :=
  .obj ([("schema_version", .str schemaVersion), ("profile", .str policy.profile.name),
    ("generation", .int policy.generation)] ++ match policy.expiresAt with
      | some expiry => [("expires_at", .str (library.isoformat expiry))]
      | none => [])

def effect : SiteRequest → Site
  | .change change => match site.database.write change with
      | some (_, database) => { site with database }
      | none => site
  | .claim issue title milestone created =>
      { site with database := claimed site.database issue title milestone created }
  | .advance expected following initial payload created =>
      { site with database := advanced site.database expected following initial payload created }
  | .adopt process policy => { site with policies := Function.update site.policies process policy }
  | .install policy => { site with file := .document (policyDocument library policy) }
  | _ => site

end Site

/-- The processes, from some site on. -/
def processes (start : Site) :
    Machine Site Task ((asked : Outside) → Reply asked) SiteRequest SiteAnswer
      (Except Raised String) where
  body task := ((task.duty.body library config).run).expand (siteSteps library task.process)
  reply site _ offer request := site.reply offer request
  effect site _ request := site.effect library request
  spawned _ := none
  admits _ task := task.duty.isAdmitted
  lost := id
  boot := ⟨0, .idle⟩
  killed := .error .other
  fresh := start

end FortifyLab.Supervisor
