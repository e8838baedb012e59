import FortifyLab.Supervisor.AutonomyPolicy

/-! What every policy satisfies that `_effective` makes, whatever the document. -/

namespace FortifyLab.Supervisor

variable {library : PolicyLibrary} {profile generation overrides expiresAt : Value}
  {configured allowExpired : Bool} {now : ℚ} {policy : EffectivePolicy}

/-- A policy is made exactly when every check succeeds, and of what the checks give. -/
theorem effective_iff :
    effective library profile generation overrides expiresAt configured now allowExpired =
        .ok policy ↔
      checkProfile library profile = .ok policy.profile ∧
        checkGeneration generation = .ok policy.generation ∧
        checkOverrides policy.profile overrides = .ok policy.decisions ∧
        checkProtected policy.decisions = .ok () ∧
        checkExpiry library policy.profile expiresAt now allowExpired = .ok policy.expiresAt ∧
        policy.digest = library.digest
          ⟨policy.profile, policy.generation, policy.expiresAt, policy.decisions⟩ ∧
        policy.configured = configured := by
  constructor
  · intro made
    unfold effective at made
    cases profiled : checkProfile library profile with
    | error error => simp [profiled, bind, Except.bind] at made
    | ok profile =>
      cases numbered : checkGeneration generation with
      | error error => simp [profiled, numbered, bind, Except.bind] at made
      | ok generation =>
        cases decided : checkOverrides profile overrides with
        | error error => simp [profiled, numbered, decided, bind, Except.bind] at made
        | ok decisions =>
          cases guarded : checkProtected decisions with
          | error error => simp [profiled, numbered, decided, guarded, bind, Except.bind] at made
          | ok done =>
            cases leased : checkExpiry library profile expiresAt now allowExpired with
            | error error =>
                simp [profiled, numbered, decided, guarded, leased, bind, Except.bind] at made
            | ok expiry =>
                simp only [profiled, numbered, decided, guarded, leased, bind, Except.bind, pure,
                  Except.pure, Except.ok.injEq] at made
                subst made
                exact ⟨rfl, rfl, decided, guarded, leased, rfl, rfl⟩
  · rintro ⟨profiled, numbered, decided, guarded, leased, digest, known⟩
    simp only [effective, profiled, numbered, decided, guarded, leased, bind, Except.bind, pure,
      Except.pure, ← digest, ← known]

/-- The protected actions need an approval. -/
def EffectivePolicy.Guarded (policy : EffectivePolicy) : Prop :=
  ∀ action ∈ AutonomyAction.protectedActions, policy.decisions action = .approval

theorem guarded_of_checkProtected {decisions : AutonomyAction → AutonomyDecision}
    (checked : checkProtected decisions = .ok ()) :
    ∀ action ∈ AutonomyAction.protectedActions, decisions action = .approval := by
  unfold checkProtected at checked
  split at checked
  · cases checked
  · next safe =>
    intro action member
    simpa using List.find?_eq_none.mp safe action member

theorem effective_guarded
    (made : effective library profile generation overrides expiresAt configured now allowExpired =
      .ok policy) : policy.Guarded :=
  guarded_of_checkProtected (effective_iff.mp made).2.2.2.1

/-- Only an autonomous policy has an expiry. -/
theorem checkExpiry_ok {profile : Profile} {expiry : Option ℚ}
    (checked : checkExpiry library profile expiresAt now allowExpired = .ok expiry) :
    profile = .autonomous ∧ (∃ instant, expiry = some instant ∧
        checkLease library expiresAt now allowExpired = .ok instant) ∨
      profile ≠ .autonomous ∧ expiresAt = .null ∧ expiry = none := by
  unfold checkExpiry at checked
  split at checked
  · next autonomous =>
    cases leased : checkLease library expiresAt now allowExpired with
    | error error => simp [leased, bind, Except.bind] at checked
    | ok instant =>
        simp only [leased, bind, Except.bind, pure, Except.pure, Except.ok.injEq] at checked
        exact .inl ⟨autonomous, instant, checked.symm, rfl⟩
  · next other =>
    split at checked
    · cases checked
      exact .inr ⟨other, rfl, rfl⟩
    · cases checked

theorem parse_name (profile : Profile) : Profile.parse profile.name = some profile := by
  cases profile <;> decide

theorem checkProfile_name (profile : Profile) :
    checkProfile library (.str profile.name) = .ok profile := by
  simp [checkProfile, parse_name]

/-- A name that is accepted is the profile's. -/
theorem name_of_checkProfile {text : String} {profile : Profile}
    (checked : checkProfile library (.str text) = .ok profile) : text = profile.name := by
  unfold checkProfile at checked
  dsimp only at checked
  split at checked
  · next found =>
    cases checked
    simpa [eq_comm] using List.find?_some found
  · cases checked

/-- The policy that a lease reverts to. -/
theorem effective_assisted {generation : Nat}
    (made : effective library (.str "assisted") (.int generation) (.obj []) .null configured now
      allowExpired = .ok policy) :
    policy.profile = .assisted ∧ policy.generation = generation ∧ policy.expiresAt = none := by
  rcases effective_iff.mp made with ⟨profiled, numbered, _, _, leased, _⟩
  have assisted : policy.profile = .assisted := by
    have known : checkProfile library (.str "assisted") = .ok .assisted := checkProfile_name .assisted
    rw [profiled] at known
    exact Except.ok.inj known
  refine ⟨assisted, ?_, ?_⟩
  · simpa [checkGeneration] using numbered.symm
  · rcases checkExpiry_ok leased with ⟨autonomous, _⟩ | ⟨_, _, none⟩
    · rw [assisted] at autonomous
      cases autonomous
    · exact none

end FortifyLab.Supervisor
