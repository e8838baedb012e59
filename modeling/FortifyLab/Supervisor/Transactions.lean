import FortifyLab.Library.Execution
import FortifyLab.Supervisor.Calls

/-! What each call of the store leaves of the connection's transaction. -/

namespace FortifyLab.Supervisor

open Connection

/-- A supervisor's connection, and how often it asked the rest of the world. -/
abbrev OnConnection := Connection Database × Nat

/-- What the rest of the world answers, one request after the other. -/
abbrev Surroundings := Nat → (asked : Outside) → Reply asked

variable (library : Library) (world : Surroundings)

/-- A call of the store on a connection. -/
def runCall (call : StoreCall) (state : OnConnection) :
    Except Raised call.Result × OnConnection :=
  Program.eval (handle tables world) (call.perform library) state

/-! ## When a call leaves no transaction open -/

/-- The pull request that a pending approval names, where it is a number. -/
def namedPullRequest (row : ApprovalRow) : Option Int :=
  library.int ((row.payload.get "pull_request").getD (.int (-1)))

def isReadable (row : ApprovalRow) : Bool := (namedPullRequest library row).isSome

/-- The loop of a supersede method raises at the first unreadable row; no row before it
may have been superseded by then. -/
def Settles (supersedes : ApprovalRow → Bool) (rows : List ApprovalRow) : Prop :=
  (∀ row ∈ rows, isReadable library row = true) ∨
    ∀ row ∈ rows.takeWhile (isReadable library), supersedes row = false

def isOtherHead (pullRequest : Int) (headSha : String) (row : ApprovalRow) : Bool :=
  decide (namedPullRequest library row = some pullRequest) &&
    decide (library.str ((row.payload.get "head_sha").getD .null) ≠ headSha)

def isForPullRequest (pullRequest : Int) (row : ApprovalRow) : Bool :=
  decide (namedPullRequest library row = some pullRequest)

/-- The calls that leave no transaction open: an event is not yet recorded, a drawn id or
token is new, a token's approval exists, and a supersede method does not raise after its
first update. -/
def StoreCall.Harmless (database : Database) (time : Nat) : StoreCall → Prop
  | .event fingerprint _ _ => database.hasEvent fingerprint = false
  | .createApproval _ _ _ => database.approval ("apr-" ++ world time .tokenHex) = none
  | .createCallbackToken _ _ approvalId _ _ =>
      database.callbackToken (library.tokenHash (world time .tokenUrlsafe)) = none ∧
        database.referenceHolds approvalId = true
  | .supersedeMergeApprovals pullRequest headSha =>
      Settles library (isOtherHead library pullRequest headSha)
        (database.pendingApprovals .mergePr (seconds (world time .now)))
  | .supersedeApprovalsForPullRequest pullRequest _ =>
      Settles library (isForPullRequest library pullRequest)
        (database.pendingApprovals .mergePr (seconds (world (time + 1) .now)))
  | _ => True

variable {library world} (database : Database) (time : Nat)

attribute [local simp] runCall StoreCall.perform StoreCall.body Store.select Store.execute
  Store.beginImmediate Store.commit Store.rollback Store.outside Store.now Store.ask
  Store.raiseError Store.exceptIntegrity Store.refused Program.perform ExceptT.run
  ExceptT.mk ExceptT.lift ExceptT.bind ExceptT.bindCont ExceptT.pure ExceptT.tryCatch tryCatch
  tryCatchThe MonadExceptOf.tryCatch Bind.bind Pure.pure Program.bind Functor.map throw throwThe
  MonadExceptOf.throw handle Connection.answer Connection.after Connection.closed
  Connection.seen Connection.inTransaction tables Database.read Database.write

/-! ## The single calls -/

theorem event_closed_iff (fingerprint kind : String) (payload : Value) :
    (runCall library world (.event fingerprint kind payload)
      (closed database, time)).2.1.inTransaction = false ↔
      database.hasEvent fingerprint = false := by
  by_cases known : database.hasEvent fingerprint <;> simp [Store.event, known]

theorem createApproval_closed_iff (action : ApprovalAction) (payload : Value) (ttl : Int) :
    (runCall library world (.createApproval action payload ttl)
      (closed database, time)).2.1.inTransaction = false ↔
      database.approval ("apr-" ++ world time .tokenHex) = none := by
  cases taken : database.approval ("apr-" ++ world time .tokenHex) with
  | some row => simp [Store.createApproval, taken]
  | none =>
      simp [Store.createApproval, Store.approval, taken]
      split <;> simp

theorem createCallbackToken_closed_iff (action : String) (ttl : Int)
    (approvalId actor : Option String) (payload : Value) :
    (runCall library world (.createCallbackToken action ttl approvalId actor payload)
      (closed database, time)).2.1.inTransaction = false ↔
      database.callbackToken (library.tokenHash (world time .tokenUrlsafe)) = none ∧
        database.referenceHolds approvalId = true := by
  cases taken : database.callbackToken (library.tokenHash (world time .tokenUrlsafe)) with
  | some row => simp [Store.createCallbackToken, taken]
  | none =>
      by_cases holds : database.referenceHolds approvalId <;>
        simp [Store.createCallbackToken, taken, holds]

/-- Whether the queue slot is idle and the issue was never selected for the milestone. -/
def canClaim (database : Database) (issue : Int) (milestone : String) : Bool :=
  decide ((database.settings "current_issue").getD "" = "") &&
    !database.hasEvent (Store.issueSelected issue milestone)

/-- What `advance_milestone` compares, and whether the step was never made. -/
def canAdvance (database : Database) (expected following initial : String) : Bool :=
  decide ((database.settings "active_milestone").getD initial = expected) &&
    decide (database.settings "paused" ≠ some "true") &&
    !database.hasEvent (Store.milestoneAdvanced expected following)

theorem hasEvent_settings (settings : String → Option String) (approvals : List ApprovalRow)
    (callbackTokens : List TokenRow) (notifications : List NotificationRow)
    (fingerprint : String) :
    (⟨settings, approvals, database.events, callbackTokens, notifications⟩ : Database).hasEvent
      fingerprint = database.hasEvent fingerprint := rfl

theorem claimIssue_spec (issue : Int) (title milestone : String) :
    (runCall library world (.claimIssue issue title milestone)
      (closed database, time)).2.1.inTransaction = false ∧
    (runCall library world (.claimIssue issue title milestone) (closed database, time)).1 =
      .ok (canClaim database issue milestone) := by
  by_cases idle : (database.settings "current_issue").getD "" = ""
  · by_cases known : database.hasEvent (Store.issueSelected issue milestone) <;>
      simp [Store.claimIssue, canClaim, idle, hasEvent_settings, known]
  · simp [Store.claimIssue, canClaim, idle]

theorem advanceMilestone_spec (expected following initial : String) (payload : Value) :
    (runCall library world (.advanceMilestone expected following initial payload)
      (closed database, time)).2.1.inTransaction = false ∧
    (runCall library world (.advanceMilestone expected following initial payload)
      (closed database, time)).1 = .ok (canAdvance database expected following initial) := by
  by_cases free : (database.settings "active_milestone").getD initial = expected ∧
      database.settings "paused" ≠ some "true"
  · by_cases known : database.hasEvent (Store.milestoneAdvanced expected following) <;>
      simp [Store.advanceMilestone, canAdvance, free, hasEvent_settings, known]
  · have refused : (database.settings "active_milestone").getD initial ≠ expected ∨
        database.settings "paused" = some "true" := by
      by_contra both
      exact free (by simpa using both)
    have answer : canAdvance database expected following initial = false := by
      rcases refused with moved | paused
      · simp [canAdvance, moved]
      · simp [canAdvance, paused]
    simp [Store.advanceMilestone, answer, refused]

theorem upsertNotification_closed (fingerprint kind : String) (severity : Severity)
    (message : String) (payload : Value) (state : DeliveryState) (digestBucket : Option String) :
    (runCall library world (.upsertNotification fingerprint kind severity message payload state
      digestBucket) (closed database, time)).2.1.inTransaction = false := by
  cases existing : database.notification fingerprint with
  | some row =>
      simp [Store.upsertNotification, Store.notification, Store.written, existing]
      split <;> simp
  | none =>
      simp [Store.upsertNotification, Store.notification, Store.written, existing]
      split <;> simp

theorem decide_closed (approvalId : String) (verdict : Verdict) (actor reason : String) :
    (runCall library world (.decide approvalId verdict actor reason)
      (closed database, time)).2.1.inTransaction = false := by
  cases found : database.approval approvalId with
  | none => simp [Store.decide, Store.approval, found]
  | some row =>
      by_cases pending : row.state = .pending
      · by_cases late : row.expiresAt ≤ seconds (world time .now)
        · simp [Store.decide, Store.approval, Store.expireApproval, found, pending, late]
        · simp [Store.decide, Store.approval, found, pending, late]
          split <;> simp
      · simp [Store.decide, Store.approval, found, pending]

/-- Whatever its block does, `with self.connection` commits or rolls back. -/
theorem withConnection_closed (block : StoreM Unit) (state : OnConnection) :
    (Program.eval (handle tables world) (Store.withConnection block).run state).2.1.inTransaction =
      false := by
  show (Program.eval (handle tables world) ((block.run >>= _) >>= _) state).2.1.inTransaction = false
  rw [Program.eval_bind, Program.eval_bind]
  cases (Program.eval (handle tables world) block.run state).1 with
  | ok value => rfl
  | error raised => rfl

/-- Reading a token's row back leaves the connection as it is. -/
theorem readBack_closed (tokenHash : String) (outcome : Except Raised Unit × OnConnection)
    (ended : outcome.2.1.inTransaction = false) :
    (Program.eval (handle tables world)
      (ExceptT.bindCont (fun _ => Store.select (.callbackToken tokenHash) >>= Store.written)
        outcome.1) outcome.2).2.1.inTransaction = false := by
  rcases outcome with ⟨result, connection, time⟩
  change connection.inTransaction = false at ended
  rw [eq_closed ended]
  generalize connection.seen = database
  cases result with
  | error raised => rfl
  | ok value => cases found : database.callbackToken tokenHash <;> simp [Store.written, found]

theorem consumeCallbackToken_closed (token actor : String) :
    (runCall library world (.consumeCallbackToken token actor)
      (closed database, time)).2.1.inTransaction = false := by
  show (Program.eval (handle tables world)
    ((Store.withConnection (Store.consumeBlock (library.tokenHash token) actor _)).run >>= _)
    _).2.1.inTransaction = false
  rw [Program.eval_bind]
  exact readBack_closed _ _ (withConnection_closed _ _)

/-! ## The supersede methods -/

/-- Whether a supersede loop raises inside the transaction that its updates opened. -/
def raisesLate (library : Library) (supersedes : ApprovalRow → Bool) :
    Bool → List ApprovalRow → Bool
  | _, [] => false
  | touched, row :: rest =>
      if isReadable library row then raisesLate library supersedes (touched || supersedes row) rest
      else touched

theorem raisesLate_eq_false (supersedes : ApprovalRow → Bool) (touched : Bool)
    (rows : List ApprovalRow) :
    raisesLate library supersedes touched rows = false ↔
      (∀ row ∈ rows, isReadable library row = true) ∨
        touched = false ∧ ∀ row ∈ rows.takeWhile (isReadable library), supersedes row = false := by
  induction rows generalizing touched with
  | nil => simp [raisesLate]
  | cons row rest ih =>
      by_cases readable : isReadable library row = true
      · rw [raisesLate, if_pos readable, ih, List.takeWhile_cons_of_pos readable]
        simp [readable, and_assoc]
      · rw [raisesLate, if_neg readable, List.takeWhile_cons_of_neg readable]
        simp [readable]

theorem pure_bindStore {α β : Type} (value : α) (rest : α → StoreM β) :
    ((pure value : StoreM α) >>= rest) = rest value := rfl

theorem pullRequestOf_some {row : ApprovalRow} {number : Int}
    (named : namedPullRequest library row = some number) :
    Store.pullRequestOf library row.payload = pure number := by
  unfold namedPullRequest at named
  rw [Store.pullRequestOf, named]

theorem pullRequestOf_none {row : ApprovalRow} (named : namedPullRequest library row = none) :
    Store.pullRequestOf library row.payload = throw .other := by
  unfold namedPullRequest at named
  rw [Store.pullRequestOf, named]

/-- The end of a loop: what was superseded is committed. -/
theorem commitSuperseded_transaction (superseded : Nat) (connection : Connection Database)
    (time : Nat) (opened : connection.inTransaction = decide (superseded ≠ 0)) :
    (Program.eval (handle tables world) (Store.commitSuperseded superseded).run
      (connection, time)).2.1.inTransaction = false := by
  by_cases none : superseded = 0
  · subst none
    simpa [Store.commitSuperseded] using opened
  · simp [Store.commitSuperseded, none]

theorem supersedeOthers_transaction (pullRequest : Int) (headSha : String)
    (rows : List ApprovalRow) (superseded : Nat) (connection : Connection Database) (time : Nat)
    (opened : connection.inTransaction = decide (superseded ≠ 0)) :
    (Program.eval (handle tables world)
      (Store.supersedeOthers library pullRequest headSha rows superseded >>=
        Store.commitSuperseded).run (connection, time)).2.1.inTransaction =
      raisesLate library (isOtherHead library pullRequest headSha) (decide (superseded ≠ 0)) rows := by
  induction rows generalizing superseded connection time with
  | nil => exact commitSuperseded_transaction superseded connection time opened
  | cons row rest ih =>
      cases named : namedPullRequest library row with
      | none =>
          simp only [Store.supersedeOthers, pullRequestOf_none named, raisesLate, isReadable, named]
          exact opened
      | some number =>
          simp only [Store.supersedeOthers, pullRequestOf_some named, pure_bindStore, raisesLate,
            isReadable, named, Option.isSome_some, if_true]
          by_cases other : number = pullRequest ∧
              library.str ((row.payload.get "head_sha").getD .null) ≠ headSha
          · have hit : isOtherHead library pullRequest headSha row = true := by
              simpa [isOtherHead, named] using other
            rw [if_pos other, hit, Bool.or_true]
            exact ih (superseded + 1) ⟨connection.saved, some _⟩ (time + 1) rfl
          · have missed : isOtherHead library pullRequest headSha row = false := by
              simpa [isOtherHead, named] using other
            rw [if_neg other, missed, Bool.or_false]
            exact ih superseded connection time opened

theorem supersedeAll_transaction (pullRequest : Int) (reason : String) (decidedAt : Int)
    (rows : List ApprovalRow) (superseded : Nat) (connection : Connection Database) (time : Nat)
    (opened : connection.inTransaction = decide (superseded ≠ 0)) :
    (Program.eval (handle tables world)
      (Store.supersedeAll library pullRequest reason decidedAt rows superseded >>=
        Store.commitSuperseded).run (connection, time)).2.1.inTransaction =
      raisesLate library (isForPullRequest library pullRequest) (decide (superseded ≠ 0)) rows := by
  induction rows generalizing superseded connection time with
  | nil => exact commitSuperseded_transaction superseded connection time opened
  | cons row rest ih =>
      cases named : namedPullRequest library row with
      | none =>
          simp only [Store.supersedeAll, pullRequestOf_none named, raisesLate, isReadable, named]
          exact opened
      | some number =>
          simp only [Store.supersedeAll, pullRequestOf_some named, pure_bindStore, raisesLate,
            isReadable, named, Option.isSome_some, if_true]
          by_cases same : number = pullRequest
          · have hit : isForPullRequest library pullRequest row = true := by
              simpa [isForPullRequest, named] using same
            rw [if_pos same, hit, Bool.or_true]
            exact ih (superseded + 1) ⟨connection.saved, some _⟩ time rfl
          · have missed : isForPullRequest library pullRequest row = false := by
              simpa [isForPullRequest, named] using same
            rw [if_neg same, missed, Bool.or_false]
            exact ih superseded connection time opened

theorem settles_iff (supersedes : ApprovalRow → Bool) (rows : List ApprovalRow) :
    raisesLate library supersedes false rows = false ↔ Settles library supersedes rows := by
  rw [raisesLate_eq_false]
  simp [Settles]

theorem supersedeMergeApprovals_closed_iff (pullRequest : Int) (headSha : String) :
    (runCall library world (.supersedeMergeApprovals pullRequest headSha)
      (closed database, time)).2.1.inTransaction = false ↔
      (StoreCall.supersedeMergeApprovals pullRequest headSha).Harmless library world database
        time := by
  rw [StoreCall.Harmless, ← settles_iff]
  exact Eq.congr_left (supersedeOthers_transaction pullRequest headSha
    (database.pendingApprovals .mergePr (seconds (world time .now))) 0 (closed database) (time + 1)
    rfl)

theorem supersedeForPullRequest_closed_iff (pullRequest : Int) (reason : String) :
    (runCall library world (.supersedeApprovalsForPullRequest pullRequest reason)
      (closed database, time)).2.1.inTransaction = false ↔
      (StoreCall.supersedeApprovalsForPullRequest pullRequest reason).Harmless library world
        database time := by
  rw [StoreCall.Harmless, ← settles_iff]
  exact Eq.congr_left (supersedeAll_transaction pullRequest reason (seconds (world time .now))
    (database.pendingApprovals .mergePr (seconds (world (time + 1) .now))) 0 (closed database)
    (time + 2) rfl)

/-! ## Every call -/

/-- From a connection outside a transaction, a call leaves it outside one just when it is
harmless. -/
theorem call_closed_iff (call : StoreCall) :
    (runCall library world call (closed database, time)).2.1.inTransaction = false ↔
      call.Harmless library world database time := by
  cases call with
  | get key default => simp [Store.get, StoreCall.Harmless]
  | set key value => simp [Store.set, StoreCall.Harmless]
  | unset key => simp [Store.unset, StoreCall.Harmless]
  | claimIssue issue title milestone =>
      exact iff_of_true (claimIssue_spec database time issue title milestone).1 trivial
  | advanceMilestone expected following initial payload =>
      exact iff_of_true
        (advanceMilestone_spec database time expected following initial payload).1 trivial
  | event fingerprint kind payload => exact event_closed_iff database time fingerprint kind payload
  | hasEvent fingerprint => simp [Store.hasEvent, StoreCall.Harmless]
  | upsertNotification fingerprint kind severity message payload state digestBucket =>
      exact iff_of_true (upsertNotification_closed database time fingerprint kind severity message
        payload state digestBucket) trivial
  | markNotification fingerprint state messageId =>
      simp [Store.markNotification, StoreCall.Harmless]
  | notification fingerprint => simp [Store.notification, StoreCall.Harmless]
  | createApproval action payload ttl =>
      exact createApproval_closed_iff database time action payload ttl
  | approval approvalId =>
      cases found : database.approval approvalId <;>
        simp [Store.approval, StoreCall.Harmless, found]
  | pendingApproval action payload => simp [Store.pendingApproval, StoreCall.Harmless]
  | pendingApprovals action => simp [Store.pendingApprovals, StoreCall.Harmless]
  | supersedeMergeApprovals pullRequest headSha =>
      exact supersedeMergeApprovals_closed_iff database time pullRequest headSha
  | supersedeApprovalsForPullRequest pullRequest reason =>
      exact supersedeForPullRequest_closed_iff database time pullRequest reason
  | decide approvalId verdict actor reason =>
      exact iff_of_true (decide_closed database time approvalId verdict actor reason) trivial
  | createCallbackToken action ttl approvalId actor payload =>
      exact createCallbackToken_closed_iff database time action ttl approvalId actor payload
  | callbackToken token => simp [Store.callbackToken, StoreCall.Harmless]
  | consumeCallbackToken token actor =>
      exact iff_of_true (consumeCallbackToken_closed database time token actor) trivial

end FortifyLab.Supervisor
