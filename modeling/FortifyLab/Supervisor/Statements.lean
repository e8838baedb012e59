import FortifyLab.Supervisor.Calls

/-! The changes that each call of the store makes, and the settings it reads. -/

namespace FortifyLab.Supervisor

open Program

variable (library : Library)

/-- The changes that a call may make, whatever its statements are answered. -/
def StoreCall.Makes : StoreCall → Change → Prop
  | .set key value, change => change = .setSetting key value
  | .unset key, change => change = .deleteSetting key
  | .claimIssue issue title milestone, change =>
      change = .setSetting "current_issue" (toString issue) ∨
        change = .setSetting "current_issue_title" ((title.take 200).toString) ∨
        ∃ created, change = .insertEvent ⟨Store.issueSelected issue milestone, "issue.selected",
          Store.issueFields issue milestone, created⟩
  | .advanceMilestone expected following _ payload, change =>
      change = .setSetting "active_milestone" following ∨
        ∃ created, change = .insertEvent ⟨Store.milestoneAdvanced expected following,
          "milestone.rollover", payload, created⟩
  | .event fingerprint kind payload, change =>
      ∃ created, change = .insertEvent ⟨fingerprint, kind, payload, created⟩
  | .upsertNotification fingerprint kind _ message payload _ _, change =>
      (∃ now, change = .repeatNotification fingerprint message payload now) ∨
        ∃ row, change = .insertNotification row ∧ row.kind = kind
  | .markNotification fingerprint state messageId, change =>
      ∃ now, change = .markNotification fingerprint state messageId now
  | .createApproval action payload _, change =>
      ∃ row, change = .insertApproval row ∧ row.action = action ∧ row.payload = payload ∧
        row.state = .pending
  | .supersedeMergeApprovals _ _, change =>
      ∃ id decidedAt reason, change = .supersede id decidedAt reason
  | .supersedeApprovalsForPullRequest _ _, change =>
      ∃ id decidedAt reason, change = .supersede id decidedAt reason
  | .decide approvalId verdict actor reason, change =>
      change = .expire approvalId ∨
        ∃ decidedAt, change = .decide approvalId verdict decidedAt actor reason
  | .createCallbackToken action _ approvalId actor payload, change =>
      ∃ row, change = .insertToken row ∧ row.action = action ∧ row.approvalId = approvalId ∧
        row.actor = actor ∧ row.payload = payload ∧ row.consumedAt = none
  | .consumeCallbackToken token actor, change =>
      ∃ now, change = .consumeToken (library.tokenHash token) now actor
  | _, _ => False

def StoreCall.ReadsSetting : StoreCall → String → Prop
  | .get key _, other => other = key
  | .claimIssue _ _ _, other => other = "current_issue"
  | .advanceMilestone _ _ _ _, other => other = "active_milestone" ∨ other = "paused"
  | _, _ => False

/-- The requests that make some changes and read some settings, and otherwise ask for the
time or for a new name only. -/
def Changing (makes : Change → Prop) (reads : String → Prop) : Request → Prop
  | .statement (.change change) => makes change
  | .statement (.query (.setting key)) => reads key
  | .outside asked => asked = .now ∨ asked = .tokenHex ∨ asked = .tokenUrlsafe
  | _ => True

/-- What a call may ask. -/
abbrev StoreCall.Allows (call : StoreCall) : Request → Prop :=
  Changing (call.Makes library) call.ReadsSetting

namespace Store

variable {library} {makes : Change → Prop} {reads : String → Prop} {α : Type}

theorem changing_select {query : Query}
    (known : Changing makes reads (.statement (.query query))) :
    OnlyAsks (Changing makes reads) (select query).run := ⟨known, fun _ => trivial⟩

theorem changing_execute {change : Change} (made : makes change) :
    OnlyAsks (Changing makes reads) (execute change).run := by
  exact ⟨made, fun _ => trivial⟩

theorem changing_begin : OnlyAsks (Changing makes reads) beginImmediate.run :=
  ⟨trivial, fun _ => trivial⟩

theorem changing_commit : OnlyAsks (Changing makes reads) commit.run :=
  ⟨trivial, fun _ => trivial⟩

theorem changing_rollback : OnlyAsks (Changing makes reads) rollback.run :=
  ⟨trivial, fun _ => trivial⟩

theorem changing_outside {asked : Outside} (known : Changing makes reads (.outside asked)) :
    OnlyAsks (Changing makes reads) (outside asked).run := ⟨known, fun _ => trivial⟩

theorem changing_now : OnlyAsks (Changing makes reads) now.run :=
  ⟨.inl rfl, fun _ => trivial⟩

theorem changing_pure (value : α) :
    OnlyAsks (Changing makes reads) (pure value : StoreM α).run := trivial

theorem changing_throw (raised : Raised) :
    OnlyAsks (Changing makes reads) (throw raised : StoreM α).run := trivial

theorem changing_refused : OnlyAsks (Changing makes reads) refused.run :=
  onlyAsks_bindExcept changing_rollback (fun _ => changing_pure false)

theorem changing_exceptIntegrity {body handler : StoreM α}
    (first : OnlyAsks (Changing makes reads) body.run)
    (second : OnlyAsks (Changing makes reads) handler.run) :
    OnlyAsks (Changing makes reads) (exceptIntegrity body handler).run := by
  apply onlyAsks_tryCatch first
  intro raised
  split
  · exact second
  · exact changing_throw raised

theorem changing_written (row : Option α) : OnlyAsks (Changing makes reads) (written row).run := by
  cases row <;> trivial

theorem changing_approval (approvalId : String) :
    OnlyAsks (Changing makes reads) (approval approvalId).run := by
  refine onlyAsks_bindExcept (changing_select trivial) ?_
  intro row
  cases row <;> trivial

theorem changing_pullRequestOf (payload : Value) :
    OnlyAsks (Changing makes reads) (pullRequestOf library payload).run := by
  unfold pullRequestOf
  split <;> trivial

theorem changing_commitSuperseded (superseded : Nat) :
    OnlyAsks (Changing makes reads) (commitSuperseded superseded).run := by
  unfold commitSuperseded
  split
  · exact onlyAsks_bindExcept changing_commit (fun _ => trivial)
  · trivial

theorem changing_supersedeOthers (pullRequest : Int) (headSha : String) (rows : List ApprovalRow)
    (superseded : Nat) (made : ∀ id decidedAt reason, makes (.supersede id decidedAt reason)) :
    OnlyAsks (Changing makes reads)
      (supersedeOthers library pullRequest headSha rows superseded).run := by
  induction rows generalizing superseded with
  | nil => exact changing_pure superseded
  | cons row rest ih =>
      apply onlyAsks_bindExcept (changing_pullRequestOf row.payload)
      intro number
      split
      · apply onlyAsks_bindExcept changing_now
        intro time
        exact onlyAsks_bindExcept (changing_execute (made _ _ _)) (fun _ => ih _)
      · exact ih _

theorem changing_supersedeAll (pullRequest : Int) (reason : String) (decidedAt : Int)
    (rows : List ApprovalRow) (superseded : Nat)
    (made : ∀ id decidedAt reason, makes (.supersede id decidedAt reason)) :
    OnlyAsks (Changing makes reads)
      (supersedeAll library pullRequest reason decidedAt rows superseded).run := by
  induction rows generalizing superseded with
  | nil => exact changing_pure superseded
  | cons row rest ih =>
      apply onlyAsks_bindExcept (changing_pullRequestOf row.payload)
      intro number
      split
      · exact onlyAsks_bindExcept (changing_execute (made _ _ _)) (fun _ => ih _)
      · exact ih _

theorem changing_withConnection {block : StoreM Unit}
    (only : OnlyAsks (Changing makes reads) block.run) :
    OnlyAsks (Changing makes reads) (withConnection block).run := by
  apply onlyAsks_bindExcept
  · apply onlyAsks_tryCatch only
    intro raised
    exact onlyAsks_bindExcept changing_rollback (fun _ => changing_throw raised)
  · intro done
    exact changing_commit

end Store

section Calls

open Store

variable {library}

theorem makes_claimIssue (issue : Int) (title milestone : String) :
    OnlyAsks (StoreCall.Allows library (.claimIssue issue title milestone))
      (claimIssue issue title milestone).run := by
  refine changing_exceptIntegrity ?_ changing_refused
  apply onlyAsks_bindExcept changing_begin
  intro _
  refine onlyAsks_bindExcept (changing_select rfl) ?_
  intro current
  split
  · exact changing_refused
  · apply onlyAsks_bindExcept (changing_execute (.inl rfl))
    intro _
    apply onlyAsks_bindExcept (changing_execute (.inr (.inl rfl)))
    intro _
    apply onlyAsks_bindExcept changing_now
    intro created
    apply onlyAsks_bindExcept (changing_execute (.inr (.inr ⟨created, rfl⟩)))
    intro _
    exact onlyAsks_bindExcept changing_commit (fun _ => changing_pure true)

theorem makes_advanceMilestone (expected following initial : String) (payload : Value) :
    OnlyAsks (StoreCall.Allows library (.advanceMilestone expected following initial payload))
      (advanceMilestone expected following initial payload).run := by
  refine changing_exceptIntegrity ?_ changing_refused
  apply onlyAsks_bindExcept changing_begin
  intro _
  refine onlyAsks_bindExcept (changing_select (.inl rfl)) ?_
  intro row
  refine onlyAsks_bindExcept (changing_select (.inr rfl)) ?_
  intro paused
  split
  · exact changing_refused
  · apply onlyAsks_bindExcept (changing_execute (.inl rfl))
    intro _
    apply onlyAsks_bindExcept changing_now
    intro created
    apply onlyAsks_bindExcept (changing_execute (.inr ⟨created, rfl⟩))
    intro _
    exact onlyAsks_bindExcept changing_commit (fun _ => changing_pure true)

theorem makes_event (fingerprint kind : String) (payload : Value) :
    OnlyAsks (StoreCall.Allows library (.event fingerprint kind payload))
      (event fingerprint kind payload).run := by
  refine changing_exceptIntegrity ?_ (changing_pure false)
  apply onlyAsks_bindExcept changing_now
  intro created
  apply onlyAsks_bindExcept (changing_execute ⟨created, rfl⟩)
  intro _
  exact onlyAsks_bindExcept changing_commit (fun _ => changing_pure true)

theorem makes_upsertNotification (fingerprint kind : String) (severity : Severity)
    (message : String) (payload : Value) (state : DeliveryState) (digestBucket : Option String) :
    OnlyAsks (StoreCall.Allows library (.upsertNotification fingerprint kind severity message
      payload state digestBucket))
      (upsertNotification fingerprint kind severity message payload state digestBucket).run := by
  refine onlyAsks_bindExcept (changing_select trivial) ?_
  intro existing
  apply onlyAsks_bindExcept changing_now
  intro now
  cases existing with
  | some row =>
      apply onlyAsks_bindExcept (changing_execute (.inl ⟨now, rfl⟩))
      intro _
      apply onlyAsks_bindExcept changing_commit
      intro _
      refine onlyAsks_bindExcept (changing_select trivial) ?_
      intro written
      exact onlyAsks_bindExcept (changing_written written) (fun _ => changing_pure _)
  | none =>
      apply onlyAsks_bindExcept (changing_execute (.inr ⟨_, rfl, rfl⟩))
      intro _
      apply onlyAsks_bindExcept changing_commit
      intro _
      refine onlyAsks_bindExcept (changing_select trivial) ?_
      intro written
      exact onlyAsks_bindExcept (changing_written written) (fun _ => changing_pure _)

theorem makes_createApproval (action : ApprovalAction) (payload : Value) (ttl : Int) :
    OnlyAsks (StoreCall.Allows library (.createApproval action payload ttl))
      (createApproval library action payload ttl).run := by
  refine onlyAsks_bindExcept (changing_outside (.inr (.inl rfl))) ?_
  intro token
  apply onlyAsks_bindExcept changing_now
  intro created
  apply onlyAsks_bindExcept (changing_execute ⟨_, rfl, rfl, rfl, rfl⟩)
  intro _
  exact onlyAsks_bindExcept changing_commit (fun _ => changing_approval _)

theorem makes_decide (approvalId : String) (verdict : Verdict) (actor reason : String) :
    OnlyAsks (StoreCall.Allows library (.decide approvalId verdict actor reason))
      (decide approvalId verdict actor reason).run := by
  apply onlyAsks_bindExcept (changing_approval approvalId)
  intro row
  split
  · exact changing_throw _
  · apply onlyAsks_bindExcept changing_now
    intro time
    split
    · apply onlyAsks_bindExcept (changing_execute (.inl rfl))
      intro _
      exact onlyAsks_bindExcept changing_commit (fun _ => changing_throw _)
    · apply onlyAsks_bindExcept changing_now
      intro decidedAt
      apply onlyAsks_bindExcept (changing_execute (.inr ⟨decidedAt, rfl⟩))
      intro _
      exact onlyAsks_bindExcept changing_commit (fun _ => changing_approval _)

theorem makes_createCallbackToken (action : String) (ttl : Int) (approvalId actor : Option String)
    (payload : Value) :
    OnlyAsks (StoreCall.Allows library (.createCallbackToken action ttl approvalId actor payload))
      (createCallbackToken library action ttl approvalId actor payload).run := by
  refine onlyAsks_bindExcept (changing_outside (.inr (.inr rfl))) ?_
  intro token
  apply onlyAsks_bindExcept changing_now
  intro created
  apply onlyAsks_bindExcept (changing_execute ⟨_, rfl, rfl, rfl, rfl, rfl, rfl⟩)
  intro _
  exact onlyAsks_bindExcept changing_commit (fun _ => changing_pure _)

theorem makes_consumeCallbackToken (token actor : String) :
    OnlyAsks (StoreCall.Allows library (.consumeCallbackToken token actor))
      (consumeCallbackToken library token actor).run := by
  apply onlyAsks_bindExcept changing_now
  intro now
  refine onlyAsks_bindExcept (changing_withConnection ?_) ?_
  · refine onlyAsks_bindExcept (changing_select trivial) ?_
    intro row
    cases row with
    | none => exact changing_throw _
    | some row =>
        dsimp only
        split
        · exact changing_throw _
        · split
          · exact changing_throw _
          · split
            · exact changing_throw _
            · apply onlyAsks_bindExcept (changing_execute ⟨now, rfl⟩)
              intro changed
              split <;> trivial
  · intro _
    exact onlyAsks_bindExcept (changing_select trivial) changing_written

/-- Whatever the statements of a call are answered, its changes are among those it makes. -/
theorem StoreCall.makes (call : StoreCall) :
    OnlyAsks (call.Allows library) (call.perform library) := by
  cases call with
  | get key default => exact onlyAsks_bindExcept (changing_select rfl) (fun _ => changing_pure _)
  | set key value =>
      exact onlyAsks_bindExcept (changing_execute rfl) (fun _ => changing_commit)
  | unset key => exact onlyAsks_bindExcept (changing_execute rfl) (fun _ => changing_commit)
  | claimIssue issue title milestone => exact makes_claimIssue issue title milestone
  | advanceMilestone expected following initial payload =>
      exact makes_advanceMilestone expected following initial payload
  | event fingerprint kind payload => exact makes_event fingerprint kind payload
  | hasEvent fingerprint => exact changing_select trivial
  | upsertNotification fingerprint kind severity message payload state digestBucket =>
      exact makes_upsertNotification fingerprint kind severity message payload state digestBucket
  | markNotification fingerprint state messageId =>
      apply onlyAsks_bindExcept changing_now
      intro now
      exact onlyAsks_bindExcept (changing_execute ⟨now, rfl⟩) (fun _ => changing_commit)
  | notification fingerprint => exact changing_select trivial
  | createApproval action payload ttl => exact makes_createApproval action payload ttl
  | approval approvalId => exact changing_approval approvalId
  | pendingApproval action payload =>
      exact onlyAsks_bindExcept changing_now (fun _ => changing_select trivial)
  | pendingApprovals action =>
      exact onlyAsks_bindExcept changing_now (fun _ => changing_select trivial)
  | supersedeMergeApprovals pullRequest headSha =>
      refine onlyAsks_bindExcept
        (onlyAsks_bindExcept changing_now (fun _ => changing_select trivial)) ?_
      intro rows
      refine onlyAsks_bindExcept (changing_supersedeOthers pullRequest headSha rows 0 ?_)
        changing_commitSuperseded
      exact fun id decidedAt reason => ⟨id, decidedAt, reason, rfl⟩
  | supersedeApprovalsForPullRequest pullRequest reason =>
      apply onlyAsks_bindExcept changing_now
      intro decidedAt
      refine onlyAsks_bindExcept
        (onlyAsks_bindExcept changing_now (fun _ => changing_select trivial)) ?_
      intro rows
      refine onlyAsks_bindExcept (changing_supersedeAll pullRequest reason decidedAt rows 0 ?_)
        changing_commitSuperseded
      exact fun id decidedAt reason => ⟨id, decidedAt, reason, rfl⟩
  | decide approvalId verdict actor reason => exact makes_decide approvalId verdict actor reason
  | createCallbackToken action ttl approvalId actor payload =>
      exact makes_createCallbackToken action ttl approvalId actor payload
  | callbackToken token => exact changing_select trivial
  | consumeCallbackToken token actor => exact makes_consumeCallbackToken token actor

end Calls

end FortifyLab.Supervisor
