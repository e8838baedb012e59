import FortifyLab.Library.Register
import FortifyLab.Supervisor.Preparatory

/-! The policy of one supervisor as a register: what a reversion, a reload and a change of the
profile may set it to. -/

namespace FortifyLab.Supervisor

open Program Register

/-- The field `policy` of a supervisor. -/
def ownPolicy : Register SupervisorRequest SupervisorAnswer EffectivePolicy where
  shows
    | .outside .policy, policy => some policy
    | _, _ => none
  writes
    | .outside (.adopt policy) => some policy
    | _ => none

/-- The requests that adopt no policy. -/
def Steady (request : SupervisorRequest) : Prop := ownPolicy.writes request = none

variable {library : Library} {config : Config} {α β : Type}
  {follows : EffectivePolicy → EffectivePolicy → Prop}
  {post : EffectivePolicy → Except Raised α → Prop} {held : EffectivePolicy}

/-! ## Rules -/

theorem owns_pure {value : α} (ends : post held (.ok value)) :
    ownPolicy.Keeps follows post held (pure value : SupervisorM α).run := ends

theorem owns_throw {raised : Raised} (ends : post held (.error raised)) :
    ownPolicy.Keeps follows post held (throw raised : SupervisorM α).run := ends

/-- The supervisor reads the policy that it adopted last. -/
theorem owns_policyBind {rest : EffectivePolicy → SupervisorM α}
    (next : ownPolicy.Keeps follows post held (rest held).run) :
    ownPolicy.Keeps follows post held (world .policy >>= rest).run := by
  intro answer shown
  have same : answer = held := shown answer rfl
  subst same
  exact ⟨nofun, next⟩

theorem owns_adoptBind {policy : EffectivePolicy} {rest : Unit → SupervisorM α}
    (may : follows held policy) (next : ownPolicy.Keeps follows post policy (rest ()).run) :
    ownPolicy.Keeps follows post held (world (.adopt policy) >>= rest).run := by
  intro answer _
  constructor
  · intro value sets
    cases sets
    exact may
  · exact next

/-- What adopts nothing, and then the rest. -/
theorem owns_steadyBind {first : SupervisorM β} {rest : β → SupervisorM α}
    (steady : OnlyAsks Steady first.run) (raises : ∀ error, post held (.error error))
    (next : ∀ value, ownPolicy.Keeps follows post held (rest value).run) :
    ownPolicy.Keeps follows post held (first >>= rest).run := by
  apply keeps_bindExcept (keeps_quiet steady)
  · rintro after value rfl
    exact next value
  · rintro after error rfl
    exact raises error

theorem owns_worldBind {asked : Outside} {rest : Reply asked → SupervisorM α}
    (steady : Steady (.outside asked)) (raises : ∀ error, post held (.error error))
    (next : ∀ value, ownPolicy.Keeps follows post held (rest value).run) :
    ownPolicy.Keeps follows post held (world asked >>= rest).run :=
  owns_steadyBind (only_world steady) raises next

theorem owns_callBind {made : StoreCall} {rest : made.Result → SupervisorM α}
    (raises : ∀ error, post held (.error error))
    (next : ∀ value, ownPolicy.Keeps follows post held (rest value).run) :
    ownPolicy.Keeps follows post held (call made >>= rest).run :=
  owns_steadyBind (only_call rfl) raises next

theorem owns_steady {body : SupervisorM α} (steady : OnlyAsks Steady body.run)
    (ends : ∀ result, post held result) : ownPolicy.Keeps follows post held body.run := by
  apply (keeps_quiet steady).mono
  rintro after result rfl
  exact ends result

/-! ## What adopts nothing -/

theorem Notifies.steady {kind : String} (request : SupervisorRequest)
    (notifies : Notifies kind request) : Steady request := by
  cases request with
  | store call => rfl
  | outside asked =>
      cases asked with
      | adopt policy => exact notifies.elim
      | _ => rfl

theorem notifyOnce_steady (notice : Notice) : OnlyAsks Steady (notifyOnce config notice).run :=
  (notifyOnce_notifies notice).mono Notifies.steady

theorem auditPolicy_steady : OnlyAsks Steady auditPolicy.run := by
  refine only_callBind rfl fun digest => ?_
  refine only_callBind rfl fun generation => ?_
  refine only_worldBind rfl fun policy => ?_
  split
  · exact only_pure
  · refine only_callBind rfl fun _ => ?_
    refine only_callBind rfl fun _ => ?_
    exact only_call rfl

theorem replacePolicy_steady (profile : String) (generation : Nat) (expiresAt : Value) (now : ℚ) :
    OnlyAsks Steady (replacePolicy library profile generation expiresAt now).run := by
  unfold replacePolicy
  split
  · exact only_pure
  · refine only_worldBind rfl fun installed => ?_
    split
    · exact only_pure
    · exact only_pure

theorem announceReversion_steady (expired reverted : EffectivePolicy) (expiredAt : String) :
    OnlyAsks Steady (announceReversion config expired reverted expiredAt).run :=
  onlyAsks_bindExcept (notifyOnce_steady _) fun _ => notifyOnce_steady _

theorem recentIdentities_steady (now : Int) (roles : List String)
    (identities : List (Int × String)) :
    OnlyAsks Steady (recentIdentities library config now roles identities).run := by
  induction roles generalizing identities with
  | nil => exact only_pure
  | cons role rest ih =>
      refine only_callBind rfl fun raw => ?_
      split
      · exact ih _
      · split
        · exact only_pure
        · split
          · exact ih _
          · exact ih _

theorem configurationState_steady :
    OnlyAsks Steady (configurationState library config).run := by
  refine only_callBind rfl fun persisted => ?_
  split
  · exact only_pure
  · refine only_worldBind rfl fun time => ?_
    refine only_worldBind rfl fun policy => ?_
    refine onlyAsks_bindExcept (recentIdentities_steady _ _ _) fun identities => ?_
    split
    · exact only_pure
    · exact only_pure

theorem autonomyText_steady : OnlyAsks Steady (autonomyText library config).run := by
  refine only_callBind rfl fun paused => ?_
  refine only_worldBind rfl fun policy => ?_
  exact onlyAsks_bindExcept configurationState_steady fun state => only_pure

theorem announceActivation_steady (actor : String) :
    OnlyAsks Steady (announceActivation library config actor).run :=
  only_worldBind rfl fun _ => notifyOnce_steady _

/-! ## What is adopted -/

/-- The policies that `replace_policy` gives. -/
def Replaces (library : Library) (profile : String) (generation : Nat) (policy : EffectivePolicy) :
    Prop :=
  ∃ expiresAt now, effective library.policies (.str profile) (.int generation) (.obj []) expiresAt
    true now false = .ok policy

theorem owns_replacePolicy {profile : String} {generation : Nat} {expiresAt : Value} {now : ℚ} :
    ownPolicy.Keeps follows (fun after result => after = held ∧
        ∀ policy, result = .ok (.ok policy) → Replaces library profile generation policy) held
      (replacePolicy library profile generation expiresAt now).run := by
  unfold replacePolicy
  split
  · apply owns_pure
    simp
  · next policy made =>
    refine owns_worldBind rfl (by simp) fun installed => ?_
    split
    · apply owns_pure
      constructor
      · rfl
      · intro policy same
        cases same
        exact ⟨expiresAt, now, made⟩
    · apply owns_pure
      simp

theorem owns_revertLease {expiry now : ℚ}
    (may : ∀ policy, Replaces library "assisted" (held.generation + 1) policy →
      follows held policy) :
    ownPolicy.Keeps follows (fun after result => after = held ∧ result ≠ .ok true ∨
        Replaces library "assisted" (held.generation + 1) after) held
      (revertLease library config held expiry now).run := by
  unfold revertLease
  split
  · apply keeps_bindExcept owns_replacePolicy
    · rintro after replaced ⟨rfl, known⟩
      split
      · exact owns_callBind (by simp) fun _ => owns_throw (by simp)
      · exact owns_throw (by simp)
      · next policy =>
        have reverted := known policy rfl
        apply owns_adoptBind (may policy reverted)
        refine owns_steadyBind auditPolicy_steady (fun _ => .inr reverted) fun _ => ?_
        refine owns_callBind (fun _ => .inr reverted) fun _ => ?_
        refine owns_steadyBind (announceReversion_steady _ _ _) (fun _ => .inr reverted) ?_
        exact fun _ => owns_pure (.inr reverted)
    · rintro after error ⟨rfl, _⟩
      simp
  · exact owns_callBind (by simp) fun _ => owns_throw (by simp)

/-- A reversion that succeeds leaves the assisted profile, and one that does not the policy as it
was or the assisted profile. -/
theorem owns_revert
    (may : ∀ policy, Replaces library "assisted" (held.generation + 1) policy →
      follows held policy) :
    ownPolicy.Keeps follows (fun after result => after = held ∧ result ≠ .ok true ∨
        Replaces library "assisted" (held.generation + 1) after) held
      (revertExpiredLease library config).run := by
  apply owns_policyBind
  split
  · exact owns_pure (by simp)
  · refine owns_worldBind rfl (by simp) fun now => ?_
    split
    · exact owns_pure (by simp)
    · exact owns_revertLease may

/-- A loaded policy that is no older than the one held, and no other of its generation. -/
def Adoptable (held loaded : EffectivePolicy) : Prop :=
  ¬ (loaded.generation < held.generation ∨
    loaded.generation = held.generation ∧ loaded.digest ≠ held.digest)

/-- What a supervisor may adopt: what it loads, and what it installs in place of what it holds. -/
structure Admits (library : Library) (follows : EffectivePolicy → EffectivePolicy → Prop) :
    Prop where
  loaded : ∀ held file time policy, loadPolicy library.policies file time true = .ok policy →
    Adoptable held policy → follows held policy
  replaced : ∀ held profile policy, Replaces library profile (held.generation + 1) policy →
    follows held policy

theorem owns_adoptPolicy {role : String} {loaded : EffectivePolicy}
    (admits : Admits library follows) (may : follows held loaded) :
    ownPolicy.Keeps follows (fun _ _ => True) held (adoptPolicy library config role loaded).run := by
  apply owns_adoptBind may
  refine owns_steadyBind auditPolicy_steady (fun _ => trivial) fun _ => ?_
  apply keeps_bindExcept (owns_revert (admits.replaced loaded "assisted"))
  · intro after reverted _
    apply owns_policyBind
    refine owns_worldBind rfl (fun _ => trivial) fun time => ?_
    exact owns_steady (only_callBind rfl fun _ => only_call rfl) (fun _ => trivial)
  · exact fun _ _ _ => trivial

theorem owns_reload {role : String} (admits : Admits library follows) :
    ownPolicy.Keeps follows (fun _ _ => True) held (reloadPolicy library config role).run := by
  refine owns_worldBind rfl (fun _ => trivial) fun time => ?_
  refine owns_worldBind rfl (fun _ => trivial) fun file => ?_
  split
  · exact owns_steady (only_callBind rfl fun _ => only_throw) (fun _ => trivial)
  · exact owns_throw trivial
  · next loaded known =>
    apply owns_policyBind
    split
    · exact owns_steady (only_callBind rfl fun _ => only_throw) (fun _ => trivial)
    · next newer => exact owns_adoptPolicy admits (admits.loaded held file time loaded known newer)

theorem owns_changeProfile {payload : Value} (admits : Admits library follows) :
    ownPolicy.Keeps follows (fun _ _ => True) held
      (changeProfile library config payload).run := by
  unfold changeProfile
  extract_lets profile
  split
  · exact owns_throw trivial
  · split
    · apply owns_policyBind
      refine owns_worldBind rfl (fun _ => trivial) fun time => ?_
      apply keeps_bindExcept owns_replacePolicy
      · rintro after replaced ⟨rfl, known⟩
        split
        · exact owns_throw trivial
        · exact owns_throw trivial
        · next policy =>
          apply owns_adoptBind (admits.replaced _ profile policy (known policy rfl))
          exact owns_steady (onlyAsks_bindExcept auditPolicy_steady fun _ => only_pure)
            (fun _ => trivial)
      · exact fun _ _ _ => trivial
    · exact owns_throw trivial

theorem owns_changeAutonomy {operation : String} {payload : Value}
    (admits : Admits library follows) :
    ownPolicy.Keeps follows (fun _ _ => True) held
      (changeAutonomy library config operation payload).run := by
  have writes : ∀ key value (told : String), ownPolicy.Keeps follows (fun _ _ => True) held
      (call (.set key value) >>= fun _ => (pure told : SupervisorM String)).run := fun _ _ _ =>
    owns_steady (only_callBind rfl fun _ => only_pure) (fun _ => trivial)
  unfold changeAutonomy
  split
  · exact writes _ _ _
  · split
    · exact writes _ _ _
    · split
      · exact writes _ _ _
      · exact owns_changeProfile admits

theorem owns_change {payload : Value} {actor : String} (admits : Admits library follows) :
    ownPolicy.Keeps follows (fun _ _ => True) held
      (applyAutonomyChange library config payload actor).run := by
  apply keeps_bindExcept (owns_changeAutonomy admits)
  · intro after result _
    refine owns_worldBind rfl (fun _ => trivial) fun time => ?_
    refine owns_worldBind rfl (fun _ => trivial) fun token => ?_
    apply owns_policyBind
    refine owns_callBind (fun _ => trivial) fun _ => ?_
    apply keeps_bindExcept (owns_reload admits)
    · intro last reloaded _
      extract_lets answered
      have answers : ∀ done, OnlyAsks Steady (answered done).run := fun _ =>
        onlyAsks_bindExcept autonomyText_steady fun _ => only_pure
      split
      · exact owns_steady (onlyAsks_bindExcept (announceActivation_steady _) answers)
          (fun _ => trivial)
      · exact owns_steady (answers ()) (fun _ => trivial)
    · exact fun _ _ _ => trivial
  · exact fun _ _ _ => trivial

end FortifyLab.Supervisor
