import FortifyLab.Supervisor.SiteSteps

/-! The functions that may do more than what is ordinary: they keep to an automaton wherever
they start, if the parts do in which it restricts them. -/

namespace FortifyLab.Supervisor

open Program Automaton

variable {library : Library} {config : Config} {process : Nat} {α β Role : Type}
  {automaton : Automaton SiteRequest SiteAnswer Role} {queueNext : SupervisorM (Option Issue)}

/-- The steps of a function of one process. -/
abbrev stepsOf (library : Library) (process : Nat) (body : SupervisorM α) :
    SiteProgram (Except Raised α) :=
  body.run.expand (siteSteps library process)

/-- Wherever it starts, the function keeps to the automaton. -/
abbrev Roams (automaton : Automaton SiteRequest SiteAnswer Role) (library : Library)
    (process : Nat) (body : SupervisorM α) : Prop :=
  automaton.Anywhere (stepsOf library process body)

/-- Every step of the request is permitted. -/
def Permits (automaton : Automaton SiteRequest SiteAnswer Role) (library : Library)
    (process : Nat) (request : SupervisorRequest) : Prop :=
  ∀ role step, request.Steps library process step → automaton.permits role step

/-- Nothing is restricted that most functions may ask. -/
def Unrestrictive (automaton : Automaton SiteRequest SiteAnswer Role) (library : Library)
    (config : Config) (process : Nat) : Prop :=
  ∀ request, Ordinary config request → Permits automaton library process request

theorem roams_pure {value : α} : Roams automaton library process (pure value) := fun _ => trivial

theorem roams_throw {raised : Raised} :
    Roams automaton library process (throw raised : SupervisorM α) := fun _ => trivial

/-- What only asks requests whose steps are permitted. -/
theorem roams_only {allowed : SupervisorRequest → Prop} {body : SupervisorM α}
    (permitted : ∀ request, allowed request → Permits automaton library process request)
    (only : OnlyAsks allowed body.run) : Roams automaton library process body := by
  apply anywhere_only
  refine onlyAsks_expandOnly (fun request asked => ?_) only
  apply (siteSteps_steps process request).mono
  intro step steps role
  exact permitted request asked role step steps

theorem roams_call {made : StoreCall}
    (permitted : Permits automaton library process (.store made)) :
    Roams automaton library process (call made) := by
  have only : OnlyAsks (fun request => request = .store made) (call made).run := only_call rfl
  refine roams_only ?_ only
  rintro request rfl
  exact permitted

theorem roams_world {asked : Outside}
    (permitted : Permits automaton library process (.outside asked)) :
    Roams automaton library process (world asked) := by
  have only : OnlyAsks (fun request => request = .outside asked) (world asked).run := only_world rfl
  refine roams_only ?_ only
  rintro request rfl
  exact permitted

theorem roams_attempt {program : SupervisorM (Except Raised α)}
    (start : Roams automaton library process program) :
    Roams automaton library process (attempt program) := by
  apply anywhere_expandBind start
  intro result
  cases result with
  | ok value => exact roams_pure
  | error raised => exact roams_throw

theorem Unrestrictive.roams (free : Unrestrictive automaton library config process)
    {body : SupervisorM α} (only : OnlyAsks (Ordinary config) body.run) :
    Roams automaton library process body :=
  roams_only free only

/-- What is ordinary, and then what keeps to the automaton. -/
theorem Unrestrictive.thenRoams (free : Unrestrictive automaton library config process)
    {first : SupervisorM α} {rest : α → SupervisorM β} (only : OnlyAsks (Ordinary config) first.run)
    (next : ∀ value, Roams automaton library process (rest value)) :
    Roams automaton library process (first >>= rest) :=
  anywhere_expandBind (free.roams only) next

/-- What roams, and then the rest, with what was shown still known. -/
theorem follows_passing {Mark : Type} {observer : Observer SiteRequest SiteAnswer Mark}
    {first : SupervisorM α} {rest : α → SupervisorM β} {marks : List Mark}
    {post : List Mark → Except Raised β → Prop}
    (start : Roams observer.automaton library process first)
    (next : ∀ after value, marks ⊆ after → Follows observer.move post after
      (stepsOf library process (rest value)))
    (raises : ∀ after error, marks ⊆ after → post after (.error error)) :
    Follows observer.move post marks (stepsOf library process (first >>= rest)) :=
  follows_expandBind (Observer.follows_grows (start marks))
    (fun after value grown => next after value grown.1)
    (fun after error grown => raises after error grown.1)

/-- A field that is read is the payload's. -/
theorem follows_field {payload : Value} {key : String} {rest : Value → SupervisorM β} {role : Role}
    {post : Role → Except Raised β → Prop}
    (next : ∀ value, payload.get key = some value → Follows automaton.move post role
      (stepsOf library process (rest value)))
    (raises : post role (.error .other)) :
    Follows automaton.move post role (stepsOf library process (field payload key >>= rest)) := by
  unfold field
  split
  · next value found => exact next value found
  · exact raises

/-! ## The rollover -/

theorem transitionMilestone_roams (free : Unrestrictive automaton library config process)
    (moves : ∀ expected following initial payload, Permits automaton library process
      (.store (.advanceMilestone expected following initial payload)))
    (queue : Roams automaton library process queueNext) (payload : Value) (actor : String) :
    Roams automaton library process (transitionMilestone library config queueNext payload actor) := by
  refine free.thenRoams (verifyMilestoneRollover_ordinary _) fun _ => ?_
  refine free.thenRoams (policyDecision_ordinary _) fun decision => ?_
  refine free.thenRoams (field_ordinary _ _) fun source => ?_
  refine free.thenRoams (field_ordinary _ _) fun target => ?_
  apply anywhere_expandBind (roams_call (moves _ _ _ _))
  intro advanced
  split
  · exact free.thenRoams (only_call (by simp [Ordinary])) fun _ => queue
  · exact roams_pure

/-- The payload of a rollover that is offered. -/
def offeredPayload (config : Config) (current following : String) : Value :=
  .obj [("repository", .str config.repository), ("from", .str current), ("to", .str following)]

theorem proposeRollover_roams (free : Unrestrictive automaton library config process)
    {current following : String} {payload : Value} (offers : Offers .milestoneRollover payload)
    (transition : Roams automaton library process (transitionMilestone library config queueNext payload "autonomy-policy")) :
    Roams automaton library process (proposeRollover library config queueNext current following payload) := by
  refine free.thenRoams (policyDecision_ordinary _) fun decision => ?_
  split
  · exact free.roams (notifyOnce_ordinary (by simp [isOrdinaryKind]))
  · refine free.thenRoams (pendingOrNew_ordinary offers) fun approval => ?_
    split
    · refine free.thenRoams (only_call (by simp [Ordinary])) fun conflicting => ?_
      split
      · refine free.thenRoams (only_call (by simp [Ordinary])) fun _ => ?_
        exact anywhere_expandBind transition fun _ => roams_pure
      · exact free.roams (notifyOnce_ordinary (by simp [isOrdinaryKind]))
    · exact free.roams (askForRollover_ordinary _ _ _)

theorem offerFrom_roams (free : Unrestrictive automaton library config process)
    (transition : ∀ current following, Roams automaton library process (transitionMilestone library config queueNext (offeredPayload config current following)
        "autonomy-policy"))
    (current following : String) (milestone : Milestone) :
    Roams automaton library process (offerFrom library config queueNext current following milestone) := by
  unfold offerFrom
  split
  · exact free.roams (notifyOnce_ordinary (by simp [isOrdinaryKind]))
  · refine free.thenRoams (only_supervisorError (verifyMilestoneRollover_ordinary _)) ?_
    intro verified
    split
    · exact free.roams (rolloverBlocked_ordinary _ _ _)
    · exact proposeRollover_roams free (fun _ => ⟨following, rfl⟩) (transition current following)

theorem offerMilestoneRollover_roams (free : Unrestrictive automaton library config process)
    (transition : ∀ current following, Roams automaton library process (transitionMilestone library config queueNext (offeredPayload config current following)
        "autonomy-policy")) :
    Roams automaton library process (offerMilestoneRollover library config queueNext) := by
  refine free.thenRoams activeMilestone_ordinary fun current => ?_
  refine free.thenRoams nextMilestone_ordinary fun next => ?_
  split
  · exact roams_pure
  · refine free.thenRoams (only_supervisorError (githubMilestone_ordinary _)) fun found => ?_
    split
    · exact free.roams (rolloverBlocked_ordinary _ _ _)
    · exact offerFrom_roams free transition _ _ _

theorem approveMilestoneRollover_roams (free : Unrestrictive automaton library config process)
    (approved : ∀ fingerprint payload, Permits automaton library process
      (.store (.event fingerprint "milestone.rollover_approved" payload)))
    (transition : ∀ payload actor, Roams automaton library process (transitionMilestone library config
      (queueNextIssue library config library.recursionLimit none false) payload actor))
    (approvalId actor : String) :
    Roams automaton library process (approveMilestoneRollover library config approvalId actor) := by
  refine free.thenRoams (only_call (by simp [Ordinary])) fun row => ?_
  split
  · exact roams_throw
  · refine free.thenRoams (verifyMilestoneRollover_ordinary _) fun _ => ?_
    refine free.thenRoams (only_call (by simp [Ordinary])) fun _ => ?_
    refine anywhere_expandBind (transition _ _) fun issue => ?_
    refine free.thenRoams (field_ordinary _ _) fun source => ?_
    refine free.thenRoams (field_ordinary _ _) fun target => ?_
    refine anywhere_expandBind (roams_call (approved _ _)) fun _ => ?_
    split
    · exact roams_pure
    · exact roams_pure

/-! ## The queue -/

theorem startRunner_roams (free : Unrestrictive automaton library config process) (issue : Issue)
    (runs : ∀ command, Permits automaton library process (.outside (.run command))) :
    Roams automaton library process (startRunner config issue) := by
  unfold startRunner
  split
  · refine anywhere_expandBind (roams_attempt (roams_world (runs _))) fun _ => ?_
    refine free.thenRoams (only_call (by simp [Ordinary, isOrdinaryKind])) fun _ => ?_
    exact free.roams (only_call (by simp [Ordinary]))
  · exact roams_pure

theorem startIssue_roams (free : Unrestrictive automaton library config process)
    (claims : ∀ issue title milestone,
      Permits automaton library process (.store (.claimIssue issue title milestone)))
    (runs : ∀ command, Permits automaton library process (.outside (.run command))) (issue : Issue)
    (milestone : String) : Roams automaton library process (startIssue config issue milestone) := by
  refine anywhere_expandBind (roams_call (claims _ _ _)) fun claimed => ?_
  split
  · refine free.thenRoams (notifyOnce_ordinary (by simp [isOrdinaryKind])) fun _ => ?_
    exact anywhere_expandBind (startRunner_roams free issue runs) fun _ => roams_pure
  · exact roams_pure

theorem milestoneComplete_roams (free : Unrestrictive automaton library config process) (milestone : String)
    (offers : Roams automaton library process (offerMilestoneRollover library config queueNext)) :
    Roams automaton library process (milestoneComplete library config queueNext milestone) := by
  refine free.thenRoams (only_call (by simp [Ordinary, isOrdinaryKind])) fun completed => ?_
  extract_lets offered
  have continues : ∀ r, Roams automaton library process (offered r) :=
    fun _ => anywhere_expandBind offers fun _ => roams_pure
  split
  · exact free.thenRoams (notifyOnce_ordinary (by simp [isOrdinaryKind])) continues
  · exact continues ()

/-- The queue keeps to an automaton if what starts an issue and what moves the milestone do. -/
theorem queueNextIssue_roams (free : Unrestrictive automaton library config process)
    (starts : ∀ issue milestone, Roams automaton library process (startIssue config issue milestone))
    (transition : ∀ (queueNext : SupervisorM (Option Issue)), Roams automaton library process queueNext →
      ∀ current following, Roams automaton library process (transitionMilestone library config queueNext
        (offeredPayload config current following) "autonomy-policy"))
    (depth : Nat) (completedIssue : Option Int) (operatorApproved : Bool) :
    Roams automaton library process (queueNextIssue library config depth completedIssue operatorApproved) := by
  induction depth generalizing completedIssue operatorApproved with
  | zero => exact roams_throw
  | succ depth ih =>
      refine free.thenRoams (only_call (by simp [Ordinary])) fun paused => ?_
      split
      · exact roams_pure
      · refine free.thenRoams (policyDecision_ordinary _) fun decision => ?_
        split
        · exact free.thenRoams (startPolicy_ordinary _) fun _ => roams_pure
        · refine free.thenRoams activeMilestone_ordinary fun milestone => ?_
          refine free.thenRoams (githubNextIssue_ordinary _ _) fun next => ?_
          split
          · exact milestoneComplete_roams free _
              (offerMilestoneRollover_roams free (transition _ (ih none false)))
          · exact starts _ _

/-! ## A merged pull request -/

theorem completeIssue_roams (free : Unrestrictive automaton library config process)
    (queue : ∀ completedIssue, Roams automaton library process (queueNextIssue library config library.recursionLimit completedIssue false))
    (number : Int) (sha : String) (decision : AutonomyDecision) (issue : Option Nat) :
    Roams automaton library process (completeIssue library config number sha decision issue) := by
  cases issue with
  | none =>
      have notified : OnlyAsks (Ordinary config)
          (notifyOnce config (mergedNotice number sha false)).run :=
        notifyOnce_ordinary (by simp [mergedNotice, isOrdinaryKind])
      exact free.thenRoams notified fun _ => roams_pure
  | some issue =>
      refine free.thenRoams (closeCompletedIssue_ordinary _ _) fun _ => ?_
      have notified : OnlyAsks (Ordinary config)
          (notifyOnce config (mergedNotice number sha true)).run :=
        notifyOnce_ordinary (by simp [mergedNotice, isOrdinaryKind])
      refine free.thenRoams notified fun _ => ?_
      exact free.thenRoams (releaseIssue_ordinary _) fun _ => queue _

theorem completeMergedPullRequest_roams (free : Unrestrictive automaton library config process)
    (queue : ∀ completedIssue, Roams automaton library process (queueNextIssue library config library.recursionLimit completedIssue false))
    (pr : PullRequest) :
    Roams automaton library process (completeMergedPullRequest library config pr) := by
  refine free.thenRoams (only_call (by simp [Ordinary])) fun _ => ?_
  refine free.thenRoams (only_call (by simp [Ordinary])) fun completed => ?_
  split
  · exact roams_pure
  · refine free.thenRoams (policyDecision_ordinary _) fun decision => ?_
    refine anywhere_expandBind (completeIssue_roams free queue _ _ _ _) fun next => ?_
    refine free.thenRoams (only_call (by simp [Ordinary])) fun _ => ?_
    refine free.thenRoams (only_call (by simp [Ordinary, isOrdinaryKind])) fun _ => ?_
    exact roams_pure

theorem mergeApproved_roams (free : Unrestrictive automaton library config process)
    (merges : ∀ number headSha,
      Permits automaton library process (.outside (.merge number headSha)))
    (pr : PullRequest) (payload : Value) (actor : String) :
    Roams automaton library process (mergeApproved library config pr payload actor) := by
  refine free.thenRoams (planNumber_ordinary _) fun number => ?_
  extract_lets merged
  have continues : ∀ r, Roams automaton library process (merged r) := by
    intro _
    refine free.thenRoams (only_attempt (only_world trivial)) fun fresh => ?_
    extract_lets finish
    have finishes : ∀ r, Roams automaton library process (finish r) := by
      intro _
      refine free.thenRoams (field_ordinary _ _) fun headSha => ?_
      refine anywhere_expandBind (roams_attempt (roams_world (merges _ _))) fun _ => ?_
      exact roams_pure
    split
    · exact free.thenRoams (verifyAutonomousMerge_ordinary _ _ _) finishes
    · exact free.thenRoams (verifyMergePlan_ordinary _ _ _) finishes
  split
  · exact free.thenRoams (only_attempt (only_world trivial)) continues
  · exact continues ()

/-- What follows the checks of a merge that is approved. -/
theorem approve_roams (free : Unrestrictive automaton library config process)
    {actor : String} (merges : ∀ pr payload,
      Roams automaton library process (mergeApproved library config pr payload actor))
    (queue : ∀ completedIssue, Roams automaton library process (queueNextIssue library config library.recursionLimit completedIssue false))
    (approvalId : String) :
    Roams automaton library process (approve library config approvalId actor) := by
  refine free.thenRoams (only_call (by simp [Ordinary])) fun row => ?_
  split
  · exact roams_throw
  · refine free.thenRoams (planNumber_ordinary _) fun number => ?_
    refine free.thenRoams (only_attempt (only_world trivial)) fun pr => ?_
    refine free.thenRoams (verifyMergePlan_ordinary _ _ _) fun _ => ?_
    extract_lets decided
    have continues : ∀ r, Roams automaton library process (decided r) := by
      intro _
      refine free.thenRoams (only_call (by simp [Ordinary])) fun _ => ?_
      have merging : Roams automaton library process (mergeOrRecord library config pr row.payload actor) := by
        apply anywhere_expandTryCatch (merges _ _)
        intro raised
        refine free.thenRoams (field_ordinary _ _) fun number => ?_
        exact free.thenRoams (only_call (by simp [Ordinary])) fun _ => roams_throw
      refine anywhere_expandBind merging fun merged => ?_
      refine free.thenRoams (field_ordinary _ _) fun number => ?_
      refine free.thenRoams (field_ordinary _ _) fun headSha => ?_
      extract_lets recorded
      have completes : ∀ r, Roams automaton library process (recorded r) := by
        intro _
        refine free.thenRoams (only_call (by simp [Ordinary, isOrdinaryKind])) fun _ => ?_
        refine anywhere_expandBind (completeMergedPullRequest_roams free queue _) fun next => ?_
        exact free.roams (approvalReply_ordinary _ _ _)
      split
      · refine free.thenRoams (planNumber_ordinary _) fun number => ?_
        exact free.thenRoams (announceMerge_ordinary _ _ _) completes
      · exact completes ()
    split
    · exact free.thenRoams (verifyAutonomousMerge_ordinary _ _ _) continues
    · exact continues ()

/-! ## Callbacks -/

theorem confirmStop_roams (free : Unrestrictive automaton library config process)
    (stops : ∀ issue : Int, config.runnerStopCommand ≠ [] → Permits automaton library process
      (.outside (.run (config.runnerStopCommand ++ [toString issue]))))
    (payload : Value) (actor : String) :
    Roams automaton library process (confirmStop library config payload actor) := by
  have issued : OnlyAsks (Ordinary config) (issueOf library payload).run := by
    unfold issueOf
    split
    · exact only_pure
    · exact only_throw
  refine free.thenRoams issued fun issue => ?_
  split
  · exact roams_throw
  · next enabled =>
    have known : config.runnerStopCommand ≠ [] := fun none => enabled (.inl none)
    refine anywhere_expandBind (roams_attempt (roams_world (stops _ known))) fun _ => ?_
    refine free.thenRoams (only_world trivial) fun time => ?_
    refine free.thenRoams (only_call (by simp [Ordinary, isOrdinaryKind])) fun _ => ?_
    exact roams_pure

theorem performApproval_roams (free : Unrestrictive automaton library config process)
    {actor : String} (rollover : ∀ approvalId,
      Roams automaton library process (approveMilestoneRollover library config approvalId actor))
    (approves : ∀ approvalId,
      Roams automaton library process (approve library config approvalId actor))
    (row : TokenRow) (pr : Option PullRequest) :
    Roams automaton library process (performApproval library config row actor pr) := by
  refine free.thenRoams (only_call (by simp [Ordinary])) fun approval => ?_
  split
  · exact rollover _
  · split
    · exact free.roams (stayMilestone_ordinary _ _ _)
    · split
      · exact approves _
      · split
        · exact free.roams (rejectMerge_ordinary _ _ _)
        · split
          · exact free.roams (pauseForMerge_ordinary _ _ _)
          · split
            · exact free.roams (mergeDetails_ordinary _ _)
            · exact roams_throw

theorem performCallback_roams (free : Unrestrictive automaton library config process)
    (stops : ∀ issue : Int, config.runnerStopCommand ≠ [] → Permits automaton library process
      (.outside (.run (config.runnerStopCommand ++ [toString issue]))))
    (row : TokenRow) (actor : String) (pr : Option PullRequest)
    (performs : Roams automaton library process (performApproval library config row actor pr)) :
    Roams automaton library process (performCallback library config row actor pr) := by
  unfold performCallback
  split
  · refine free.thenRoams (requireConsistentPolicy_ordinary _ _) fun _ => ?_
    exact free.roams (applyAutonomyChange_ordinary _ _)
  · split
    · exact free.roams statusText_ordinary
    · split
      · exact free.roams workflowDetails_ordinary
      · split
        · exact free.roams (toggleWatch_ordinary _)
        · split
          · exact free.roams (pauseGeneral_ordinary _ _)
          · split
            · exact free.roams (pauseGeneral_ordinary _ _)
            · split
              · exact free.roams (requestStop_ordinary _ _)
              · split
                · exact confirmStop_roams free stops _ _
                · exact performs

theorem executeCallback_roams (free : Unrestrictive automaton library config process)
    (consumes : ∀ token actor, Permits automaton library process
      (.store (.consumeCallbackToken token actor)))
    {actor : String} (performs : ∀ row pr,
      Roams automaton library process (performCallback library config row actor pr))
    (token : String) :
    Roams automaton library process (executeCallback library config token actor) := by
  refine free.thenRoams (only_call (by simp [Ordinary])) fun found => ?_
  cases found with
  | none => exact roams_throw
  | some candidate =>
      refine free.thenRoams (prepareCallback_ordinary _) fun pr => ?_
      refine anywhere_expandBind (roams_call (consumes _ _)) fun row => ?_
      exact performs _ _

/-! ## What a process may be doing -/

theorem silently_roams {body : SupervisorM α} (start : Roams automaton library process body) :
    Roams automaton library process (silently body) :=
  anywhere_expandBind start fun _ => roams_pure

theorem body_roams (free : Unrestrictive automaton library config process)
    (queue : ∀ completedIssue operatorApproved, Roams automaton library process
      (queueNextIssue library config library.recursionLimit completedIssue operatorApproved))
    (offers : Roams automaton library process (offerMilestoneRollover library config
      (queueNextIssue library config library.recursionLimit none false)))
    (approves : ∀ approvalId actor,
      Roams automaton library process (approve library config approvalId actor))
    (duty : Duty)
    (rollover : ∀ approvalId actor, duty = .approveRollover approvalId actor →
      Roams automaton library process (approveMilestoneRollover library config approvalId actor))
    (callbacks : ∀ token actor, duty = .callback token actor →
      Roams automaton library process (executeCallback library config token actor))
    (writes : ∀ key value, duty = .write key value →
      Permits automaton library process (.store (.set key value))) :
    Roams automaton library process (duty.body library config) := by
  cases duty with
  | idle => exact roams_pure
  | queueNext completedIssue operatorApproved =>
      exact silently_roams (queue completedIssue operatorApproved)
  | completeMerged pr =>
      exact silently_roams (completeMergedPullRequest_roams free (queue · false) pr)
  | offerRollover => exact silently_roams offers
  | approveRollover approvalId actor => exact rollover approvalId actor rfl
  | approve approvalId actor => exact approves approvalId actor
  | callback token actor => exact callbacks token actor rfl
  | hold actor => exact free.roams (holdCommand_ordinary actor)
  | pause paused actor => exact free.roams (pauseCommand_ordinary paused actor)
  | stay approvalId actor payload => exact free.roams (stayMilestone_ordinary _ _ _)
  | start => exact silently_roams (free.roams startSupervisor_ordinary)
  | reload role => exact silently_roams (free.roams (reloadPolicy_ordinary role))
  | planMerge payload => exact silently_roams (free.roams (only_call nofun))
  | issueToken action ttl approvalId actor payload =>
      exact silently_roams (free.roams (only_call (by simp [Ordinary])))
  | write key value => exact silently_roams (roams_call (writes key value rfl))

end FortifyLab.Supervisor
