import FortifyLab.Supervisor.Preparatory

/-! What most functions of the supervisor may ask: nothing that claims, merges, moves the
milestone, consumes a token or launches a command. -/

namespace FortifyLab.Supervisor

open Program

/-- The kinds of events and notices that most functions record. -/
def isOrdinaryKind (kind : String) : Bool :=
  !(["issue.selected", "milestone.rollover", "milestone.rollover_approved",
    "runner.stalled"].contains kind)

/-- A rollover is offered to a milestone that is named. -/
def Offers (action : ApprovalAction) (payload : Value) : Prop :=
  action = .milestoneRollover → ∃ title, payload.get "to" = some (.str title)

def Ordinary (config : Config) : SupervisorRequest → Prop
  | .store (.get key default) => (key = "paused" → default = "false") ∧
      (key = "active_milestone" → default = config.milestone)
  | .store (.set key value) => (key = "current_issue" → value = "") ∧
      key ≠ "current_issue_title" ∧ key ≠ "active_milestone"
  | .store (.unset _) => False
  | .store (.claimIssue _ _ _) => False
  | .store (.advanceMilestone _ _ _ _) => False
  | .store (.event _ kind _) => isOrdinaryKind kind
  | .store (.upsertNotification _ kind _ _ _ _ _) => isOrdinaryKind kind
  | .store (.createApproval action payload _) => Offers action payload
  | .store (.consumeCallbackToken _ _) => False
  | .outside (.run _) => False
  | .outside (.merge _ _) => False
  | _ => True

variable {library : Library} {config : Config}

theorem ordinary_of_policyKind {kind : String} (known : kind ∈ policyKinds) :
    isOrdinaryKind kind := by
  simp only [policyKinds, List.mem_cons, List.not_mem_nil, or_false] at known
  rcases known with rfl | rfl | rfl | rfl <;> decide

/-! ## Notices and the policy -/

theorem Notifies.ordinary {kind : String} (ordinary : isOrdinaryKind kind)
    (request : SupervisorRequest) (notifies : Notifies kind request) : Ordinary config request := by
  cases request with
  | outside asked => cases asked <;> trivial
  | store call =>
      cases call with
      | set key value =>
          cases notifies
          simp [Ordinary]
      | event fingerprint recorded payload =>
          rcases notifies with rfl | rfl
          · exact ordinary
          · simp [Ordinary, isOrdinaryKind]
      | upsertNotification =>
          cases notifies
          exact ordinary
      | markNotification => trivial
      | _ => exact notifies.elim

theorem notifyOnce_ordinary {notice : Notice} (ordinary : isOrdinaryKind notice.kind) :
    OnlyAsks (Ordinary config) (notifyOnce config notice).run :=
  (notifyOnce_notifies notice).mono (Notifies.ordinary ordinary)

theorem Preparatory.ordinary (request : SupervisorRequest)
    (preparatory : Preparatory config request) : Ordinary config request := by
  cases request with
  | outside asked =>
      cases asked with
      | merge number headSha => exact preparatory.elim
      | run command => exact preparatory.elim
      | _ => trivial
  | store call =>
      cases call with
      | get key default => exact preparatory
      | set key value =>
          rcases preparatory with known | ⟨role, rfl⟩
          · simp only [policySettings, List.mem_cons, List.not_mem_nil, or_false] at known
            rcases known with rfl | rfl | rfl | rfl <;> simp [Ordinary]
          · exact ⟨fun same => absurd same (processPolicy_ne role (by simp)),
              processPolicy_ne role (by simp), processPolicy_ne role (by simp)⟩
      | event fingerprint kind payload => exact ordinary_of_policyKind preparatory
      | upsertNotification => exact ordinary_of_policyKind preparatory
      | markNotification => trivial
      | approval => trivial
      | _ => exact preparatory.elim

theorem auditPolicy_ordinary : OnlyAsks (Ordinary config) auditPolicy.run :=
  auditPolicy_preparatory.mono Preparatory.ordinary

theorem replacePolicy_ordinary (profile : String) (generation : Nat) (expiresAt : Value) (now : ℚ) :
    OnlyAsks (Ordinary config) (replacePolicy library profile generation expiresAt now).run := by
  unfold replacePolicy
  split
  · exact only_pure
  · refine only_worldBind trivial fun installed => ?_
    split
    · exact only_pure
    · exact only_pure

theorem revertExpiredLease_ordinary :
    OnlyAsks (Ordinary config) (revertExpiredLease library config).run :=
  revertExpiredLease_preparatory.mono Preparatory.ordinary

theorem configurationState_ordinary :
    OnlyAsks (Ordinary config) (configurationState library config).run :=
  configurationState_preparatory.mono Preparatory.ordinary

/-! ## The gates of a merge -/

theorem field_ordinary (payload : Value) (key : String) :
    OnlyAsks (Ordinary config) (field payload key).run :=
  (field_preparatory _ _).mono Preparatory.ordinary

theorem planNumber_ordinary (payload : Value) :
    OnlyAsks (Ordinary config) (planNumber library payload).run :=
  (planNumber_preparatory _).mono Preparatory.ordinary

theorem activeMilestone_ordinary : OnlyAsks (Ordinary config) (activeMilestone config).run :=
  activeMilestone_preparatory.mono Preparatory.ordinary

theorem nextMilestone_ordinary : OnlyAsks (Ordinary config) (nextMilestone config).run :=
  nextMilestone_preparatory.mono Preparatory.ordinary

theorem verifyMergePlan_ordinary (pr : PullRequest) (payload : Value) (allowDraft : Bool) :
    OnlyAsks (Ordinary config) (verifyMergePlan library pr payload allowDraft).run :=
  (verifyMergePlan_preparatory _ _ _).mono Preparatory.ordinary

theorem verifyAuthority_ordinary (pr : PullRequest) :
    OnlyAsks (Ordinary config) (verifyAuthority library config pr).run := by
  refine onlyAsks_bindExcept revertExpiredLease_ordinary fun reverted => ?_
  split
  · exact only_throw
  · refine only_worldBind trivial fun policy => ?_
    split
    · exact only_throw
    · refine only_callBind (by simp [Ordinary]) fun paused => ?_
      split
      · exact only_throw
      · refine onlyAsks_bindExcept configurationState_ordinary fun state => ?_
        split
        · exact only_throw
        · refine only_callBind (by simp [Ordinary]) fun lastError => ?_
          repeat' split
          all_goals first | exact only_throw | exact only_pure

theorem verifyRequiredChecks_ordinary (checks : List CheckRun) (names : List String) :
    OnlyAsks (Ordinary config) (verifyRequiredChecks checks names).run := by
  induction names with
  | nil => exact only_pure
  | cons name rest ih =>
      unfold verifyRequiredChecks
      split
      · split
        · exact only_throw
        · exact ih
      · exact only_throw

theorem verifyBranch_ordinary (pr : PullRequest) : OnlyAsks (Ordinary config) (verifyBranch config pr).run := by
  unfold verifyBranch
  split
  · exact only_throw
  · refine only_callBind (by simp [Ordinary]) fun current => ?_
    split
    · exact only_throw
    · apply only_attemptBind
      · exact only_world trivial
      · intro issue
        split
        · exact only_throw
        · refine onlyAsks_bindExcept activeMilestone_ordinary fun active => ?_
          split
          · exact only_throw
          · exact only_pure

theorem verifyScope_ordinary (pr : PullRequest) (issue : IssueDetails) :
    OnlyAsks (Ordinary config) (verifyScope pr issue).run := by
  unfold verifyScope
  repeat' split
  all_goals first | exact only_throw | exact only_pure

theorem verifyAutonomousMerge_ordinary (pr : PullRequest) (payload : Value) (allowDraft : Bool) :
    OnlyAsks (Ordinary config) (verifyAutonomousMerge library config pr payload allowDraft).run := by
  refine onlyAsks_bindExcept (verifyMergePlan_ordinary _ _ _) fun _ => ?_
  refine onlyAsks_bindExcept (verifyAuthority_ordinary _) fun _ => ?_
  refine onlyAsks_bindExcept (verifyRequiredChecks_ordinary _ _) fun _ => ?_
  exact onlyAsks_bindExcept (verifyBranch_ordinary _) fun issue => verifyScope_ordinary _ _

/-! ## The status card -/

theorem queueState_ordinary : OnlyAsks (Ordinary config) (queueState config).run := by
  refine only_callBind (by simp [Ordinary]) fun issue => ?_
  split
  · exact only_pure
  · refine only_callBind (by simp [Ordinary]) fun paused => ?_
    split
    · exact only_pure
    · refine only_callBind (by simp [Ordinary]) fun lastError => ?_
      split
      · exact only_pure
      · refine onlyAsks_bindExcept activeMilestone_ordinary fun current => ?_
        refine only_callBind (by simp [Ordinary]) fun complete => ?_
        split
        · exact onlyAsks_bindExcept nextMilestone_ordinary fun _ => only_pure
        · exact only_pure

theorem issueHeartbeat_ordinary (issue : String) :
    OnlyAsks (Ordinary config) (issueHeartbeat config issue).run := by
  unfold issueHeartbeat
  split
  · exact only_worldBind trivial fun _ => only_pure
  · exact only_pure

theorem cardState_ordinary (paused pr issue : String) :
    OnlyAsks (Ordinary config) (cardState library config paused pr issue).run := by
  refine only_worldBind trivial fun policy => ?_
  refine onlyAsks_bindExcept configurationState_ordinary fun configuration => ?_
  refine onlyAsks_bindExcept activeMilestone_ordinary fun milestone => ?_
  refine only_callBind (by simp [Ordinary]) fun title => ?_
  refine only_callBind (by simp [Ordinary]) fun ciState => ?_
  refine only_callBind (by simp [Ordinary]) fun approvals => ?_
  exact onlyAsks_bindExcept queueState_ordinary fun _ => only_pure

theorem statusText_ordinary : OnlyAsks (Ordinary config) (statusText library config).run := by
  refine only_callBind (by simp [Ordinary]) fun paused => ?_
  refine only_callBind (by simp [Ordinary]) fun pr => ?_
  refine only_callBind (by simp [Ordinary]) fun issue => ?_
  refine onlyAsks_bindExcept (issueHeartbeat_ordinary _) fun heartbeat => ?_
  refine onlyAsks_bindExcept (cardState_ordinary _ _ _) fun card => ?_
  exact only_worldBind trivial fun _ => only_pure

theorem actionButtons_ordinary (approvalId : Option String) (payload : Value)
    (buttons : List (String × String × Nat)) :
    OnlyAsks (Ordinary config) (actionButtons config approvalId payload buttons).run := by
  induction buttons with
  | nil => exact only_pure
  | cons button rest ih =>
      refine only_callBind (by simp [Ordinary]) fun token => ?_
      exact onlyAsks_bindExcept ih fun _ => only_pure

theorem workflowActions_ordinary : OnlyAsks (Ordinary config) (workflowActions config).run := by
  refine only_callBind (by simp [Ordinary]) fun issue => ?_
  refine only_callBind (by simp [Ordinary]) fun paused => ?_
  exact actionButtons_ordinary _ _ _

theorem sendCard_ordinary (message : String) (actions : List InlineAction) :
    OnlyAsks (Ordinary config) (sendCard message actions).run := by
  apply only_attemptBind
  · exact only_world trivial
  · intro messageId
    exact only_call (by simp [Ordinary])

theorem cardEditFailed_ordinary : OnlyAsks (Ordinary config) cardEditFailed.run := by
  refine only_worldBind trivial fun time => ?_
  exact only_callBind (by simp [Ordinary, isOrdinaryKind]) fun _ => only_pure

theorem updateStatusCard_ordinary (given : List InlineAction) :
    OnlyAsks (Ordinary config) (updateStatusCard library config given).run := by
  have chosen : OnlyAsks (Ordinary config) (cardActions config given).run := by
    unfold cardActions
    split
    · exact workflowActions_ordinary
    · exact only_pure
  refine onlyAsks_bindExcept chosen fun actions => ?_
  refine onlyAsks_bindExcept statusText_ordinary fun message => ?_
  refine only_callBind (by simp [Ordinary]) fun messageId => ?_
  split
  · exact sendCard_ordinary _ _
  · refine onlyAsks_bindExcept (only_supervisorError ?_) fun edited => ?_
    · apply only_attempt
      exact only_world trivial
    · split
      · exact only_pure
      · exact onlyAsks_bindExcept cardEditFailed_ordinary fun _ => sendCard_ordinary _ _

/-! ## The rollover and the queue -/

theorem githubMilestone_ordinary (title : String) :
    OnlyAsks (Ordinary config) (githubMilestone title).run :=
  (githubMilestone_preparatory _).mono Preparatory.ordinary

theorem githubNextIssue_ordinary (milestone : String) (excluded : Option Int) :
    OnlyAsks (Ordinary config) (githubNextIssue milestone excluded).run :=
  (githubNextIssue_preparatory _ _).mono Preparatory.ordinary

theorem policyDecision_ordinary (action : AutonomyAction) :
    OnlyAsks (Ordinary config) (policyDecision action).run :=
  only_worldBind trivial fun _ => only_pure

theorem verifyMilestoneRollover_ordinary (payload : Value) :
    OnlyAsks (Ordinary config) (verifyMilestoneRollover library config payload).run :=
  (verifyMilestoneRollover_preparatory _).mono Preparatory.ordinary

theorem askForRollover_ordinary (approval : ApprovalRow) (current following : String) :
    OnlyAsks (Ordinary config) (askForRollover config approval current following).run := by
  refine onlyAsks_bindExcept (actionButtons_ordinary _ _ _) fun choices => ?_
  refine onlyAsks_bindExcept (actionButtons_ordinary _ _ _) fun details => ?_
  exact notifyOnce_ordinary (by simp [isOrdinaryKind])

theorem pendingOrNew_ordinary {action : ApprovalAction} {payload : Value}
    (offers : Offers action payload) :
    OnlyAsks (Ordinary config) (pendingOrNew config action payload).run := by
  refine only_callBind trivial fun pending => ?_
  split
  · exact only_pure
  · exact only_call offers

theorem rolloverBlocked_ordinary (fingerprint error : String) (payload : List (String × Value)) :
    OnlyAsks (Ordinary config) (rolloverBlocked config fingerprint error payload).run :=
  only_callBind (by simp [Ordinary]) fun _ => notifyOnce_ordinary (by simp [isOrdinaryKind])

theorem startPolicy_ordinary (decision : AutonomyDecision) :
    OnlyAsks (Ordinary config) (startPolicy config decision).run := by
  refine onlyAsks_bindExcept activeMilestone_ordinary fun shown => ?_
  refine onlyAsks_bindExcept activeMilestone_ordinary fun milestone => ?_
  exact notifyOnce_ordinary (by simp [isOrdinaryKind])

theorem closeCompletedIssue_ordinary (issue : Nat) (decision : AutonomyDecision) :
    OnlyAsks (Ordinary config) (closeCompletedIssue config issue decision).run := by
  unfold closeCompletedIssue
  split
  · exact only_attempt (only_world trivial)
  · extract_lets report
    have reported : ∀ r, OnlyAsks (Ordinary config) (report r).run :=
      fun _ => notifyOnce_ordinary (by simp [isOrdinaryKind])
    split
    · exact only_callBind (by simp [Ordinary]) reported
    · exact reported ()

theorem releaseIssue_ordinary (issue : Nat) :
    OnlyAsks (Ordinary config) (releaseIssue issue).run := by
  refine only_callBind (by simp [Ordinary]) fun current => ?_
  split
  · exact only_call (by simp [Ordinary])
  · exact only_pure

theorem announceMerge_ordinary (shown : String) (number : Int) (sha : String) :
    OnlyAsks (Ordinary config) (announceMerge config shown number sha).run :=
  notifyOnce_ordinary (by simp [isOrdinaryKind])

theorem approvalReply_ordinary (pr : PullRequest) (number : String) (next : Option Issue) :
    OnlyAsks (Ordinary config) (approvalReply config pr number next).run := by
  cases next with
  | some issue => exact only_pure
  | none =>
      refine only_callBind (by simp [Ordinary]) fun paused => ?_
      split
      · exact only_pure
      · split
        · exact only_pure
        · exact onlyAsks_bindExcept activeMilestone_ordinary fun _ => only_pure

/-! ## The policy of a process -/

theorem reloadPolicy_ordinary (role : String) :
    OnlyAsks (Ordinary config) (reloadPolicy library config role).run :=
  (reloadPolicy_preparatory _).mono Preparatory.ordinary

theorem startSupervisor_ordinary :
    OnlyAsks (Ordinary config) (startSupervisor library config).run := by
  refine only_worldBind trivial fun time => ?_
  refine only_worldBind trivial fun file => ?_
  split
  · exact only_throw
  · exact only_throw
  · refine only_worldBind trivial fun _ => ?_
    refine onlyAsks_bindExcept auditPolicy_ordinary fun _ => ?_
    exact onlyAsks_bindExcept revertExpiredLease_ordinary fun _ => only_pure

theorem requireConsistentPolicy_ordinary (role : String) (allowExpiredRecovery : Bool) :
    OnlyAsks (Ordinary config)
      (requireConsistentPolicy library config role allowExpiredRecovery).run :=
  (requireConsistentPolicy_preparatory _ _).mono Preparatory.ordinary

theorem autonomyText_ordinary : OnlyAsks (Ordinary config) (autonomyText library config).run := by
  refine only_callBind (by simp [Ordinary]) fun paused => ?_
  refine only_worldBind trivial fun policy => ?_
  exact onlyAsks_bindExcept configurationState_ordinary fun _ => only_pure

theorem changeProfile_ordinary (payload : Value) :
    OnlyAsks (Ordinary config) (changeProfile library config payload).run := by
  unfold changeProfile
  extract_lets profile
  split
  · exact only_throw
  · split
    · refine only_worldBind trivial fun own => ?_
      refine only_worldBind trivial fun time => ?_
      refine onlyAsks_bindExcept (replacePolicy_ordinary _ _ _ _) fun replaced => ?_
      split
      · exact only_throw
      · exact only_throw
      · refine only_worldBind trivial fun _ => ?_
        exact onlyAsks_bindExcept auditPolicy_ordinary fun _ => only_pure
    · exact only_throw

theorem changeAutonomy_ordinary (operation : String) (payload : Value) :
    OnlyAsks (Ordinary config) (changeAutonomy library config operation payload).run := by
  unfold changeAutonomy
  split
  · exact only_callBind (by simp [Ordinary]) fun _ => only_pure
  · split
    · exact only_callBind (by simp [Ordinary]) fun _ => only_pure
    · split
      · exact only_callBind (by simp [Ordinary]) fun _ => only_pure
      · exact changeProfile_ordinary payload

theorem announceActivation_ordinary (actor : String) :
    OnlyAsks (Ordinary config) (announceActivation library config actor).run :=
  only_worldBind trivial fun _ => notifyOnce_ordinary (by simp [isOrdinaryKind])

theorem applyAutonomyChange_ordinary (payload : Value) (actor : String) :
    OnlyAsks (Ordinary config) (applyAutonomyChange library config payload actor).run := by
  refine onlyAsks_bindExcept (changeAutonomy_ordinary _ _) fun result => ?_
  refine only_worldBind trivial fun time => ?_
  refine only_worldBind trivial fun token => ?_
  refine only_worldBind trivial fun policy => ?_
  refine only_callBind (by simp [Ordinary, isOrdinaryKind]) fun _ => ?_
  refine onlyAsks_bindExcept (reloadPolicy_ordinary _) fun _ => ?_
  extract_lets shown
  have told : ∀ r, OnlyAsks (Ordinary config) (shown r).run :=
    fun _ => onlyAsks_bindExcept autonomyText_ordinary fun _ => only_pure
  split
  · exact onlyAsks_bindExcept (announceActivation_ordinary actor) told
  · exact told ()

/-! ## Commands and callbacks -/

theorem stayMilestone_ordinary (approvalId actor : String) (payload : Value) :
    OnlyAsks (Ordinary config) (stayMilestone approvalId actor payload).run := by
  refine only_callBind trivial fun _ => ?_
  refine only_callBind (by simp [Ordinary]) fun _ => ?_
  refine onlyAsks_bindExcept (field_ordinary _ _) fun source => ?_
  refine onlyAsks_bindExcept (field_ordinary _ _) fun target => ?_
  exact only_callBind (by simp [Ordinary, isOrdinaryKind]) fun _ => only_pure

theorem holdCommand_ordinary (actor : String) :
    OnlyAsks (Ordinary config) (holdCommand config actor).run := by
  refine only_callBind (by simp [Ordinary]) fun _ => ?_
  refine only_worldBind trivial fun time => ?_
  refine only_callBind (by simp [Ordinary, isOrdinaryKind]) fun _ => ?_
  refine only_worldBind trivial fun later => ?_
  exact onlyAsks_bindExcept (notifyOnce_ordinary (by simp [isOrdinaryKind])) fun _ => only_pure

theorem commandPolicy_ordinary : OnlyAsks (Ordinary config) (commandPolicy library config).run := by
  apply only_exceptSupervisor (reloadPolicy_ordinary _)
  intro message
  exact onlyAsks_bindExcept configurationState_ordinary fun _ => only_throw

theorem pauseCommand_ordinary (paused : Bool) (actor : String) :
    OnlyAsks (Ordinary config) (pauseCommand library config paused actor).run := by
  refine onlyAsks_bindExcept commandPolicy_ordinary fun _ => ?_
  refine onlyAsks_bindExcept (requireConsistentPolicy_ordinary _ _) fun _ => ?_
  refine only_callBind (by simp [Ordinary]) fun _ => ?_
  refine only_worldBind trivial fun time => ?_
  split
  · exact only_callBind (by simp [Ordinary, isOrdinaryKind]) fun _ => only_pure
  · exact only_callBind (by simp [Ordinary, isOrdinaryKind]) fun _ => only_pure

theorem prepareCallback_ordinary (candidate : TokenRow) :
    OnlyAsks (Ordinary config) (prepareCallback library config candidate).run :=
  (prepareCallback_preparatory _).mono Preparatory.ordinary

theorem workflowDetails_ordinary :
    OnlyAsks (Ordinary config) (workflowDetails library config).run := by
  refine onlyAsks_bindExcept statusText_ordinary fun text => ?_
  refine only_callBind (by simp [Ordinary]) fun number => ?_
  split
  · exact only_attemptBind (only_world trivial) fun _ => only_pure
  · exact only_pure

theorem toggleWatch_ordinary (actor : String) :
    OnlyAsks (Ordinary config) (toggleWatch actor).run := by
  refine only_callBind (by simp [Ordinary]) fun value => ?_
  refine only_callBind (by simp [Ordinary]) fun _ => ?_
  refine only_worldBind trivial fun time => ?_
  exact only_callBind (by simp [Ordinary, isOrdinaryKind]) fun _ => only_pure

theorem pauseGeneral_ordinary (paused : Bool) (actor : String) :
    OnlyAsks (Ordinary config) (pauseGeneral paused actor).run := by
  refine only_callBind (by simp [Ordinary]) fun _ => ?_
  refine only_worldBind trivial fun time => ?_
  split
  · exact only_callBind (by simp [Ordinary, isOrdinaryKind]) fun _ => only_pure
  · exact only_callBind (by simp [Ordinary, isOrdinaryKind]) fun _ => only_pure

theorem requestStop_ordinary (payload : Value) (actor : String) :
    OnlyAsks (Ordinary config) (requestStop config payload actor).run := by
  unfold requestStop
  split
  · exact only_throw
  · exact only_callBind trivial fun _ => only_pure

theorem rejectMerge_ordinary (approvalId actor : String) (payload : Value) :
    OnlyAsks (Ordinary config) (rejectMerge library config approvalId actor payload).run := by
  refine onlyAsks_bindExcept ?_ fun reason => ?_
  · unfold firstReason
    split
    · exact only_pure
    · exact only_throw
  · refine only_callBind trivial fun _ => ?_
    refine onlyAsks_bindExcept (planNumber_ordinary _) fun number => ?_
    exact only_callBind (by simp [Ordinary, isOrdinaryKind]) fun _ => only_pure

theorem pauseForMerge_ordinary (approvalId actor : String) (payload : Value) :
    OnlyAsks (Ordinary config) (pauseForMerge library approvalId actor payload).run := by
  refine only_callBind (by simp [Ordinary]) fun _ => ?_
  refine onlyAsks_bindExcept (planNumber_ordinary _) fun number => ?_
  exact only_callBind (by simp [Ordinary, isOrdinaryKind]) fun _ => only_pure

theorem mergeDetails_ordinary (payload : Value) (pr : Option PullRequest) :
    OnlyAsks (Ordinary config) (mergeDetails library payload pr).run := by
  cases pr with
  | none => exact only_throw
  | some pr => exact onlyAsks_bindExcept (field_ordinary _ _) fun _ => only_pure

end FortifyLab.Supervisor
