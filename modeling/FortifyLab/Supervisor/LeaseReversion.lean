import FortifyLab.Supervisor.OpenTransactions
import FortifyLab.Supervisor.OwnPolicy

/-! What the expiry of an autonomous lease leaves of the operator's decisions. -/

namespace FortifyLab.Supervisor

open Program Register

/-- The actions that the assisted profile decides automatically. -/
def assistedAutomatic : List AutonomyAction :=
  [.startNextIssue, .closeCompletedIssue, .advanceMilestone, .retryIdempotentFailure]

/-- No decision is stricter than the assisted profile's. -/
def Unrestricted (policy : EffectivePolicy) : Prop :=
  (∀ action ∈ assistedAutomatic, policy.decisions action = .auto) ∧
    policy.decisions .mergePullRequest ≠ .disabled

/-- Whatever is decided automatically is decided most permissively. -/
theorem permits_auto_le {decision : AutonomyDecision} :
    AutonomyDecision.auto.permits ≤ decision.permits ↔ decision = .auto := by
  cases decision <;> decide

theorem permits_approval_le {decision : AutonomyDecision} :
    AutonomyDecision.approval.permits ≤ decision.permits ↔ decision ≠ .disabled := by
  cases decision <;> decide

/-- The assisted defaults widen no decision exactly where none is stricter than they are. -/
theorem assisted_narrows_iff {policy : EffectivePolicy} (guarded : policy.Guarded) :
    (∀ action, (Profile.assisted.defaults action).permits ≤ (policy.decisions action).permits) ↔
      Unrestricted policy := by
  constructor
  · intro narrows
    constructor
    · intro action automatic
      simp only [assistedAutomatic, List.mem_cons, List.not_mem_nil, or_false] at automatic
      rcases automatic with rfl | rfl | rfl | rfl
      · exact permits_auto_le.mp (narrows .startNextIssue)
      · exact permits_auto_le.mp (narrows .closeCompletedIssue)
      · exact permits_auto_le.mp (narrows .advanceMilestone)
      · exact permits_auto_le.mp (narrows .retryIdempotentFailure)
    · exact permits_approval_le.mp (narrows .mergePullRequest)
  · rintro ⟨automatic, merges⟩ action
    have kept : ∀ action ∈ AutonomyAction.protectedActions,
        AutonomyDecision.approval.permits ≤ (policy.decisions action).permits := by
      intro action member
      rw [guarded action member]
    cases action with
    | startNextIssue => exact permits_auto_le.mpr (automatic _ (by decide))
    | closeCompletedIssue => exact permits_auto_le.mpr (automatic _ (by decide))
    | advanceMilestone => exact permits_auto_le.mpr (automatic _ (by decide))
    | retryIdempotentFailure => exact permits_auto_le.mpr (automatic _ (by decide))
    | mergePullRequest => exact permits_approval_le.mpr merges
    | destructiveOperations => exact kept _ (by decide)
    | secretOperations => exact kept _ (by decide)
    | scopeChanges => exact kept _ (by decide)

/-! ## The reversion -/

/-- A policy that is loaded from a document needs an approval for the protected actions. -/
theorem loadPolicy_guarded {library : PolicyLibrary} {file : PolicyFile} {now : ℚ}
    {allowExpired : Bool} {policy : EffectivePolicy}
    (loaded : loadPolicy library file now allowExpired = .ok policy) : policy.Guarded := by
  unfold loadPolicy at loaded
  split at loaded
  · cases loaded
    intro action member
    simp only [AutonomyAction.protectedActions, List.mem_cons, List.not_mem_nil, or_false] at member
    rcases member with rfl | rfl | rfl <;> rfl
  · cases loaded
  · unfold loadDocument at loaded
    split at loaded
    · split at loaded
      · cases loaded
      · split at loaded
        · exact effective_guarded loaded
        · cases loaded
    · cases loaded

/-- A policy that replaces another has the decisions of its profile. -/
theorem Replaces.replaced {library : Library} {profile : String} {generation : Nat}
    {policy : EffectivePolicy} (replaces : Replaces library profile generation policy) :
    profile = policy.profile.name ∧ policy.generation = generation ∧
      policy.decisions = policy.profile.defaults ∧ policy.Guarded := by
  obtain ⟨expiresAt, now, made⟩ := replaces
  obtain ⟨profiled, numbered, decided, _⟩ := effective_iff.mp made
  have decisions : policy.profile.defaults = policy.decisions := by
    simpa [checkOverrides, firstName, applyOverrides] using decided
  exact ⟨name_of_checkProfile profiled, by simpa [checkGeneration] using numbered.symm,
    decisions.symm, effective_guarded made⟩

theorem Replaces.assisted {library : Library} {generation : Nat} {policy : EffectivePolicy}
    (replaces : Replaces library "assisted" generation policy) :
    policy.decisions = Profile.assisted.defaults ∧ policy.Guarded := by
  obtain ⟨named, _, decided, guarded⟩ := replaces.replaced
  have same : policy.profile = .assisted := by
    cases profile : policy.profile <;> simp [profile, Profile.name] at named
    rfl
  rw [same] at decided
  exact ⟨decided, guarded⟩

/-- A reversion that succeeded leaves the decisions of the assisted profile in force. -/
theorem reverted {library : Library} {config : Config} {expired : EffectivePolicy}
    {exchanges : List (Exchange SupervisorRequest SupervisorAnswer)}
    (reached : Reaches (revertExpiredLease library config).run exchanges (.done (.ok true)))
    (coherent : ownPolicy.Coherent expired exchanges) :
    Replaces library "assisted" (expired.generation + 1) (ownPolicy.last expired exchanges) := by
  have keeps := @owns_revert library config (fun _ _ => True) expired (fun _ _ => trivial)
  obtain ⟨_, ended⟩ := keeps.reached reached coherent
  rcases ended with ⟨_, failed⟩ | replaced
  · exact absurd rfl failed
  · exact replaced

/-- A library that reads one timestamp. -/
def leaseLibrary : Library := { plainLibrary with
  policies := ⟨fun text => if text = "2026-08-01T00:00:00Z" then some (1785542400, true) else none,
    fun _ => "", fun _ => "digest"⟩
  isoformat := fun _ => "2026-08-01T00:00:00Z" }

def leaseConfig : Config := { plainConfig with autonomyPolicyFile := true }

/-- A lease under which no issue may be started. -/
def leaseDocument : Value :=
  .obj [("schema_version", .str schemaVersion), ("profile", .str "autonomous"),
    ("generation", .int 4), ("expires_at", .str "2026-08-01T00:00:00Z"),
    ("actions", .obj [("start_next_issue", .str "disabled")])]

def leasePolicy : EffectivePolicy where
  profile := .autonomous
  generation := 4
  decisions := Function.update Profile.autonomous.defaults .startNextIssue .disabled
  digest := "digest"
  expiresAt := some 1785542400
  configured := true

/-- After the lease, where every notice has a message already. -/
def leaseAnswer (held : EffectivePolicy) : (request : SupervisorRequest) → SupervisorAnswer request
  | .store (.get _ default) => .ok default
  | .store (.set _ _) => .ok ()
  | .store (.event _ _ _) => .ok true
  | .store (.upsertNotification fingerprint kind severity message payload state bucket) =>
      .ok (⟨fingerprint, kind, severity, message, payload, bucket, state, some "1", 1, 0⟩, false)
  | .store _ => .error .other
  | .outside .policy => held
  | .outside .now => 1785542400
  | .outside asked => outage 0 0 asked

def leaseRun : List (Exchange SupervisorRequest SupervisorAnswer) × Except Raised Bool :=
  ownPolicy.play leaseAnswer leasePolicy (revertExpiredLease leaseLibrary leaseConfig).run

theorem lease_loaded :
    loadPolicy leaseLibrary.policies (.document leaseDocument) 0 true = .ok leasePolicy := rfl

theorem leaseRun_reaches :
    Reaches (revertExpiredLease leaseLibrary leaseConfig).run leaseRun.1 (.done (.ok true)) := by
  have reverts : leaseRun.2 = .ok true := by rfl
  rw [← reverts]
  exact play_reaches leaseAnswer leasePolicy _

theorem leaseAnswer_honest (held : EffectivePolicy) (request : SupervisorRequest)
    (shown : EffectivePolicy)
    (shows : ownPolicy.shows request (leaseAnswer held request) = some shown) : shown = held := by
  cases request with
  | store call => cases shows
  | outside asked =>
      cases asked with
      | policy =>
          cases shows
          rfl
      | _ => cases shows

theorem leaseRun_coherent : ownPolicy.Coherent leasePolicy leaseRun.1 :=
  play_coherent leaseAnswer_honest leasePolicy _

end FortifyLab.Supervisor
