import FortifyLab.Supervisor.Callbacks
import FortifyLab.Supervisor.PolicyRules

/-! What the functions of the supervisor may ask that send notices, keep the policy of their
process or revalidate an approval. -/

namespace FortifyLab.Supervisor

open Program

/-! ## Rules -/

section Rules

variable {allowed : SupervisorRequest → Prop} {α β : Type}

theorem only_pure {value : α} : OnlyAsks allowed (pure value : SupervisorM α).run := trivial

theorem only_throw {raised : Raised} : OnlyAsks allowed (throw raised : SupervisorM α).run :=
  trivial

theorem only_call {made : StoreCall} (first : allowed (.store made)) :
    OnlyAsks allowed (call made).run := ⟨first, fun _ => trivial⟩

theorem only_world {asked : Outside} (first : allowed (.outside asked)) :
    OnlyAsks allowed (world asked).run := ⟨first, fun _ => trivial⟩

theorem only_callBind {made : StoreCall} {rest : made.Result → SupervisorM α}
    (first : allowed (.store made)) (next : ∀ value, OnlyAsks allowed (rest value).run) :
    OnlyAsks allowed (call made >>= rest).run := onlyAsks_bindExcept (only_call first) next

theorem only_worldBind {asked : Outside} {rest : Reply asked → SupervisorM α}
    (first : allowed (.outside asked)) (next : ∀ value, OnlyAsks allowed (rest value).run) :
    OnlyAsks allowed (world asked >>= rest).run := onlyAsks_bindExcept (only_world first) next

theorem only_attempt {program : SupervisorM (Except Raised α)}
    (only : OnlyAsks allowed program.run) : OnlyAsks allowed (attempt program).run := by
  apply onlyAsks_bindExcept only
  intro result
  cases result with
  | ok value => exact only_pure
  | error raised => exact only_throw

theorem only_exceptSupervisor {body : SupervisorM α} {handler : String → SupervisorM α}
    (first : OnlyAsks allowed body.run) (second : ∀ message, OnlyAsks allowed (handler message).run) :
    OnlyAsks allowed (exceptSupervisor body handler).run := by
  apply onlyAsks_tryCatch first
  intro raised
  cases raised with
  | supervisor message => exact second message
  | sql error => exact only_throw
  | other => exact only_throw

theorem only_supervisorError {body : SupervisorM α} (only : OnlyAsks allowed body.run) :
    OnlyAsks allowed (supervisorError body).run :=
  only_exceptSupervisor (onlyAsks_bindExcept only (fun _ => only_pure)) (fun _ => only_pure)

theorem only_attemptBind {asked : SupervisorM (Except Raised β)} {rest : β → SupervisorM α}
    (first : OnlyAsks allowed asked.run) (next : ∀ value, OnlyAsks allowed (rest value).run) :
    OnlyAsks allowed (attempt asked >>= rest).run :=
  onlyAsks_bindExcept (only_attempt first) next

end Rules

variable {library : Library} {config : Config}

/-! ## Notices and the policy -/

/-- What a notice of some kind asks: it is stored, recorded, and sent or put off. -/
def Notifies (kind : String) : SupervisorRequest → Prop
  | .store (.set key _) => key = "last_meaningful_notification"
  | .store (.event _ recorded _) => recorded = kind ∨ recorded = "communications.delivery_failed"
  | .store (.upsertNotification _ recorded _ _ _ _ _) => recorded = kind
  | .store (.markNotification _ _ _) => True
  | .outside .now => True
  | .outside (.send _ _) => True
  | .outside (.edit _ _ _) => True
  | _ => False

theorem deliver_notifies {kind : String} (row : NotificationRow) (created meaningful : Bool)
    (actions : List InlineAction) :
    OnlyAsks (Notifies kind) (deliver row created meaningful actions).run := by
  unfold deliver
  extract_lets rendered
  split
  · apply only_attempt
    exact only_world trivial
  · split
    · apply only_attemptBind
      · exact only_world trivial
      · intro messageId
        refine only_callBind trivial fun _ => ?_
        split
        · exact only_worldBind trivial fun _ => only_call rfl
        · exact only_pure
    · exact only_pure

theorem deliveryFailed_notifies {kind : String} (fingerprint : String) :
    OnlyAsks (Notifies kind) (deliveryFailed fingerprint).run := by
  refine only_callBind trivial fun _ => ?_
  refine only_worldBind trivial fun _ => ?_
  exact only_callBind (.inr rfl) fun _ => only_pure

theorem bucketOf_notifies {kind : String} (deferred : Bool) :
    OnlyAsks (Notifies kind) (bucketOf config deferred).run := by
  unfold bucketOf
  split
  · exact only_worldBind trivial fun _ => only_pure
  · exact only_pure

theorem notifyOnce_notifies (notice : Notice) :
    OnlyAsks (Notifies notice.kind) (notifyOnce config notice).run := by
  refine only_worldBind trivial fun time => ?_
  refine onlyAsks_bindExcept (bucketOf_notifies _) fun bucket => ?_
  refine only_callBind rfl fun row => ?_
  refine only_callBind (.inl rfl) fun known => ?_
  split
  · exact only_pure
  · exact only_exceptSupervisor (deliver_notifies _ _ _ _) (fun _ => deliveryFailed_notifies _)

/-! ## The policy of a process -/

/-- The settings in which a process keeps its policy. -/
def policySettings : List String :=
  ["autonomy_configuration_state", "autonomy_policy_digest", "autonomy_policy_generation",
    "last_meaningful_notification"]

/-- The events of a policy that changed, of its notices and of a lease that ended. -/
def policyKinds : List String :=
  ["autonomy.policy_changed", "autonomy.lease_expired", "autonomy.reverted",
    "communications.delivery_failed"]

/-- Of the settings a process reads and writes those of its policy, of the approvals nothing
but a row, and of the remote repository what it shows; it installs a policy only where a
lease ended. -/
@[grind =] def Preparatory (config : Config) : SupervisorRequest → Prop
  | .store (.get key default) => (key = "paused" → default = "false") ∧
      (key = "active_milestone" → default = config.milestone)
  | .store (.set key _) => key ∈ policySettings ∨ ∃ role : String, key = s!"process_policy:{role}"
  | .store (.event _ kind _) => kind ∈ policyKinds
  | .store (.upsertNotification _ kind _ _ _ _ _) => kind ∈ policyKinds
  | .store (.markNotification _ _ _) => True
  | .store (.approval _) => True
  | .outside (.installPolicy policy) => policy.profile = .assisted ∧ policy.expiresAt = none
  | .outside .now => True
  | .outside .policy => True
  | .outside (.adopt _) => True
  | .outside .policyFile => True
  | .outside (.pullRequest _) => True
  | .outside .milestones => True
  | .outside (.issueList _) => True
  | .outside (.send _ _) => True
  | .outside (.edit _ _ _) => True
  | _ => False

/-- A text that begins otherwise is another one. -/
theorem text_ne {front back other : String} (apart : ¬ front.toList <+: other.toList) :
    front ++ back ≠ other := by
  rintro rfl
  apply apart
  rw [String.toList_append]
  exact List.prefix_append _ _

/-- Where a process keeps its policy is no setting of the queue. -/
theorem processPolicy_ne (role : String) {other : String}
    (queue : other ∈ ["paused", "current_issue", "current_issue_title", "active_milestone"]) :
    s!"process_policy:{role}" ≠ other := by
  apply text_ne
  simp only [List.mem_cons, List.not_mem_nil, or_false] at queue
  rcases queue with rfl | rfl | rfl | rfl <;> decide

theorem Notifies.preparatory {kind : String} (known : kind ∈ policyKinds)
    (request : SupervisorRequest) (notifies : Notifies kind request) :
    Preparatory config request := by
  cases request with
  | outside asked =>
      cases asked with
      | now => trivial
      | send message actions => trivial
      | edit messageId message actions => trivial
      | _ => exact notifies.elim
  | store call =>
      cases call with
      | set key value =>
          cases notifies
          exact .inl (by simp [policySettings])
      | event fingerprint recorded payload =>
          rcases notifies with rfl | rfl
          · exact known
          · simp [Preparatory, policyKinds]
      | upsertNotification =>
          cases notifies
          exact known
      | markNotification => trivial
      | _ => exact notifies.elim

theorem notifyOnce_preparatory {notice : Notice} (known : notice.kind ∈ policyKinds) :
    OnlyAsks (Preparatory config) (notifyOnce config notice).run :=
  (notifyOnce_notifies notice).mono (Notifies.preparatory known)

theorem auditPolicy_preparatory : OnlyAsks (Preparatory config) auditPolicy.run := by
  refine only_callBind (by simp [Preparatory]) fun digest => ?_
  refine only_callBind (by simp [Preparatory]) fun generation => ?_
  refine only_worldBind trivial fun policy => ?_
  split
  · exact only_pure
  · refine only_callBind (by simp [Preparatory, policyKinds]) fun _ => ?_
    refine only_callBind (by simp [Preparatory, policySettings]) fun _ => ?_
    exact only_call (by simp [Preparatory, policySettings])

theorem announceReversion_preparatory (expired reverted : EffectivePolicy) (expiredAt : String) :
    OnlyAsks (Preparatory config) (announceReversion config expired reverted expiredAt).run :=
  onlyAsks_bindExcept (notifyOnce_preparatory (by simp [policyKinds])) fun _ =>
    notifyOnce_preparatory (by simp [policyKinds])

/-- A lease that ended is replaced by the assisted profile. -/
theorem replaceAssisted_preparatory (generation : Nat) (now : ℚ) :
    OnlyAsks (Preparatory config) (replacePolicy library "assisted" generation .null now).run := by
  unfold replacePolicy
  split
  · exact only_pure
  · next policy made =>
    have assisted := effective_assisted made
    refine only_worldBind ⟨assisted.1, assisted.2.2⟩ fun installed => ?_
    split
    · exact only_pure
    · exact only_pure

theorem revertLease_preparatory (expired : EffectivePolicy) (expiry now : ℚ) :
    OnlyAsks (Preparatory config) (revertLease library config expired expiry now).run := by
  unfold revertLease
  split
  · refine onlyAsks_bindExcept (replaceAssisted_preparatory _ _) fun replaced => ?_
    split
    · exact only_callBind (by simp [Preparatory, policySettings]) fun _ => only_throw
    · exact only_throw
    · refine only_worldBind trivial fun _ => ?_
      refine onlyAsks_bindExcept auditPolicy_preparatory fun _ => ?_
      refine only_callBind (by simp [Preparatory, policySettings]) fun _ => ?_
      exact onlyAsks_bindExcept (announceReversion_preparatory _ _ _) fun _ => only_pure
  · exact only_callBind (by simp [Preparatory, policySettings]) fun _ => only_throw

theorem revertExpiredLease_preparatory :
    OnlyAsks (Preparatory config) (revertExpiredLease library config).run := by
  refine only_worldBind trivial fun policy => ?_
  split
  · exact only_pure
  · refine only_worldBind trivial fun now => ?_
    split
    · exact only_pure
    · exact revertLease_preparatory _ _ _

theorem recentIdentities_preparatory (now : Int) (roles : List String)
    (identities : List (Int × String)) :
    OnlyAsks (Preparatory config) (recentIdentities library config now roles identities).run := by
  induction roles generalizing identities with
  | nil => exact only_pure
  | cons role rest ih =>
      have read : Preparatory config (.store (.get s!"process_policy:{role}" "")) :=
        ⟨fun same => absurd same (processPolicy_ne role (by simp)),
          fun same => absurd same (processPolicy_ne role (by simp))⟩
      refine only_callBind read fun raw => ?_
      split
      · exact ih _
      · split
        · exact only_pure
        · split
          · exact ih _
          · exact ih _

theorem configurationState_preparatory :
    OnlyAsks (Preparatory config) (configurationState library config).run := by
  refine only_callBind (by simp [Preparatory]) fun persisted => ?_
  split
  · exact only_pure
  · refine only_worldBind trivial fun time => ?_
    refine only_worldBind trivial fun policy => ?_
    refine onlyAsks_bindExcept (recentIdentities_preparatory _ _ _) fun identities => ?_
    split
    · exact only_pure
    · exact only_pure

theorem adoptPolicy_preparatory (role : String) (loaded : EffectivePolicy) :
    OnlyAsks (Preparatory config) (adoptPolicy library config role loaded).run := by
  have written : ∀ value, Preparatory config (.store (.set s!"process_policy:{role}" value)) :=
    fun value => .inr ⟨role, rfl⟩
  refine only_worldBind trivial fun _ => ?_
  refine onlyAsks_bindExcept auditPolicy_preparatory fun _ => ?_
  refine onlyAsks_bindExcept revertExpiredLease_preparatory fun reverted => ?_
  refine only_worldBind trivial fun policy => ?_
  refine only_worldBind trivial fun time => ?_
  refine only_callBind (written _) fun _ => ?_
  exact only_call (by simp [Preparatory, policySettings])

theorem reloadPolicy_preparatory (role : String) :
    OnlyAsks (Preparatory config) (reloadPolicy library config role).run := by
  refine only_worldBind trivial fun time => ?_
  refine only_worldBind trivial fun file => ?_
  split
  · exact only_callBind (by simp [Preparatory, policySettings]) fun _ => only_throw
  · exact only_throw
  · refine only_worldBind trivial fun policy => ?_
    split
    · exact only_callBind (by simp [Preparatory, policySettings]) fun _ => only_throw
    · exact adoptPolicy_preparatory _ _

theorem requireActive_preparatory :
    OnlyAsks (Preparatory config) (requireActive library config).run := by
  refine onlyAsks_bindExcept configurationState_preparatory fun state => ?_
  split
  · exact only_callBind (by simp [Preparatory, policySettings]) fun _ => only_throw
  · exact only_pure

theorem requireConsistentPolicy_preparatory (role : String) (allowExpiredRecovery : Bool) :
    OnlyAsks (Preparatory config)
      (requireConsistentPolicy library config role allowExpiredRecovery).run := by
  refine onlyAsks_bindExcept (only_supervisorError (reloadPolicy_preparatory role)) ?_
  intro reloaded
  split
  · exact requireActive_preparatory
  · split
    · refine onlyAsks_bindExcept configurationState_preparatory fun state => ?_
      split
      · exact only_pure
      · exact only_throw
    · exact only_throw

/-! ## Revalidation -/

theorem field_preparatory (payload : Value) (key : String) :
    OnlyAsks (Preparatory config) (field payload key).run := by
  unfold field
  split
  · exact only_pure
  · exact only_throw

theorem planNumber_preparatory (payload : Value) :
    OnlyAsks (Preparatory config) (planNumber library payload).run := by
  refine onlyAsks_bindExcept (field_preparatory _ _) fun value => ?_
  split
  · exact only_pure
  · exact only_throw

theorem activeMilestone_preparatory :
    OnlyAsks (Preparatory config) (activeMilestone config).run := by
  refine only_callBind (by simp [Preparatory]) fun active => ?_
  split
  · exact only_pure
  · exact only_throw

theorem nextMilestone_preparatory :
    OnlyAsks (Preparatory config) (nextMilestone config).run :=
  onlyAsks_bindExcept activeMilestone_preparatory fun _ => only_pure

theorem verifyMergePlan_preparatory (pr : PullRequest) (payload : Value) (allowDraft : Bool) :
    OnlyAsks (Preparatory config) (verifyMergePlan library pr payload allowDraft).run := by
  refine onlyAsks_bindExcept (field_preparatory _ _) fun headSha => ?_
  repeat' split
  all_goals first | exact only_throw | exact only_pure

theorem githubMilestone_preparatory (title : String) :
    OnlyAsks (Preparatory config) (githubMilestone title).run := by
  apply only_attemptBind
  · exact only_world trivial
  · intro milestones
    split
    · exact only_pure
    · exact only_throw

theorem githubNextIssue_preparatory (milestone : String) (excluded : Option Int) :
    OnlyAsks (Preparatory config) (githubNextIssue milestone excluded).run := by
  apply only_attemptBind
  · exact only_world trivial
  · intro issues
    exact only_pure

theorem verifyMilestoneRollover_preparatory (payload : Value) :
    OnlyAsks (Preparatory config) (verifyMilestoneRollover library config payload).run := by
  unfold verifyMilestoneRollover
  split
  · exact only_throw
  · refine onlyAsks_bindExcept activeMilestone_preparatory fun active => ?_
    split
    · exact only_throw
    · refine onlyAsks_bindExcept nextMilestone_preparatory fun next => ?_
      split
      · exact only_throw
      · refine onlyAsks_bindExcept activeMilestone_preparatory fun current => ?_
        refine onlyAsks_bindExcept (githubMilestone_preparatory _) fun milestone => ?_
        split
        · exact only_throw
        · split
          · exact only_throw
          · refine onlyAsks_bindExcept activeMilestone_preparatory fun again => ?_
            refine onlyAsks_bindExcept (githubNextIssue_preparatory _ _) fun eligible => ?_
            split
            · exact only_throw
            · refine onlyAsks_bindExcept (field_preparatory _ _) fun target => ?_
              refine onlyAsks_bindExcept (githubMilestone_preparatory _) fun following => ?_
              split
              · exact only_throw
              · exact only_pure

theorem revalidate_preparatory (approvalId : Option String) :
    OnlyAsks (Preparatory config) (revalidate library config approvalId).run := by
  cases approvalId with
  | none => exact only_pure
  | some approvalId =>
      refine only_callBind trivial fun approval => ?_
      split
      · refine onlyAsks_bindExcept (planNumber_preparatory _) fun number => ?_
        refine only_attemptBind (only_world trivial) fun pr => ?_
        exact onlyAsks_bindExcept (verifyMergePlan_preparatory _ _ _) fun _ => only_pure
      · exact onlyAsks_bindExcept (verifyMilestoneRollover_preparatory _) fun _ => only_pure

theorem prepareCallback_preparatory (candidate : TokenRow) :
    OnlyAsks (Preparatory config) (prepareCallback library config candidate).run := by
  unfold prepareCallback
  extract_lets checked
  split
  · exact onlyAsks_bindExcept (requireConsistentPolicy_preparatory _ _) fun _ =>
      revalidate_preparatory _
  · exact revalidate_preparatory _

end FortifyLab.Supervisor
