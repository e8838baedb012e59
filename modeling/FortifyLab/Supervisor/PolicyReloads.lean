import FortifyLab.Supervisor.LeaseReversion
import FortifyLab.Supervisor.Processes

/-! One supervisor and any policy files: the generations that it adopts, the reloads that it
rejects, and that an installed policy is read back as it was. -/

namespace FortifyLab.Supervisor

open Program Register

/-! ## Adopting -/

/-- A later policy of the same supervisor: none of an earlier generation, and no other of the same
generation. -/
structure Succeeds (held policy : EffectivePolicy) : Prop where
  generation : held.generation ≤ policy.generation
  digest : policy.generation = held.generation → policy.digest = held.digest
  guarded : policy.Guarded

instance : Trans Succeeds Succeeds Succeeds where
  trans := fun first second =>
    ⟨first.generation.trans second.generation, fun same => by
      have early := first.generation
      have late := second.generation
      rw [second.digest (by omega), first.digest (by omega)], second.guarded⟩

theorem Adoptable.succeeds {held loaded : EffectivePolicy} (newer : Adoptable held loaded)
    (guarded : loaded.Guarded) : Succeeds held loaded where
  generation := by
    unfold Adoptable at newer
    omega
  digest same := by
    by_contra other
    exact newer (.inr ⟨same, other⟩)
  guarded := guarded

theorem Replaces.succeeds {library : Library} {profile : String} {held policy : EffectivePolicy}
    (replaces : Replaces library profile (held.generation + 1) policy) : Succeeds held policy := by
  obtain ⟨_, numbered, _, guarded⟩ := replaces.replaced
  exact ⟨by omega, by omega, guarded⟩

theorem succeeds_admits {library : Library} : Admits library Succeeds where
  loaded _ _ _ _ loaded newer := newer.succeeds (loadPolicy_guarded loaded)
  replaced _ _ _ replaces := replaces.succeeds

/-- What a supervisor does with its policy, once it has loaded one. -/
inductive PolicyDuty where
  | revert
  | reload (role : String)
  | change (payload : Value) (actor : String)

variable (library : Library) (config : Config)

def PolicyDuty.body : PolicyDuty → SupervisorM Unit
  | .revert => do
      let _ ← revertExpiredLease library config
  | .reload role => reloadPolicy library config role
  | .change payload actor => do
      let _ ← applyAutonomyChange library config payload actor

/-- One duty after the other, whatever they raise. -/
def session : List PolicyDuty → SupervisorProgram Unit
  | [] => pure ()
  | duty :: rest => do
      let _ ← (duty.body library config).run
      session rest

variable {library config} {held : EffectivePolicy}

theorem owns_duty (duty : PolicyDuty) :
    ownPolicy.Keeps Succeeds (fun _ _ => True) held (duty.body library config).run := by
  cases duty with
  | revert =>
      apply keeps_bindExcept (owns_revert (succeeds_admits.replaced held "assisted"))
      · exact fun _ _ _ => trivial
      · exact fun _ _ _ => trivial
  | reload role => exact owns_reload succeeds_admits
  | change payload actor =>
      apply keeps_bindExcept (owns_change succeeds_admits)
      · exact fun _ _ _ => trivial
      · exact fun _ _ _ => trivial

theorem owns_session (duties : List PolicyDuty) :
    ownPolicy.Keeps Succeeds (fun _ _ => True) held (session library config duties) := by
  induction duties generalizing held with
  | nil => trivial
  | cons duty rest ih => exact keeps_bind (owns_duty duty) (fun _ _ _ => ih)

/-- Of the policies that one supervisor holds, a later one succeeds every earlier one. -/
theorem session_succeeds {duties : List PolicyDuty} {rest : SupervisorProgram Unit}
    {exchanges : List (Exchange SupervisorRequest SupervisorAnswer)}
    (reached : Reaches (session library config duties) exchanges rest)
    (coherent : ownPolicy.Coherent held exchanges) :
    (held :: ownPolicy.written exchanges).Pairwise Succeeds :=
  List.isChain_iff_pairwise.mp ((owns_session duties).reached reached coherent).1

/-! ## Rejected files -/

/-- The file has no policy that may be adopted. -/
def Rejected (library : Library) (held : EffectivePolicy) (file : PolicyFile) (time : ℚ) : Prop :=
  ∀ loaded, loadPolicy library.policies file time true = .ok loaded → ¬ Adoptable held loaded

/-- `reload_policy` once its file is read. -/
def reloadRead (library : Library) (config : Config) (role : String) (file : PolicyFile)
    (time : ℚ) : SupervisorM Unit := do
  match loadPolicy library.policies file time true with
  | .error (.policy _) => do
      call (.set "autonomy_configuration_state" "restart-required")
      fail "configuration restart required"
  | .error .typeError => throw .other
  | .ok loaded =>
      let policy ← world .policy
      if loaded.generation < policy.generation ∨
          loaded.generation = policy.generation ∧ loaded.digest ≠ policy.digest then do
        call (.set "autonomy_configuration_state" "mismatch")
        fail "configuration mismatch; actions are blocked"
      else adoptPolicy library config role loaded

theorem reloadPolicy_reads (role : String) : reloadPolicy library config role = (do
    let time ← world .now
    let file ← world .policyFile
    reloadRead library config role file time) := rfl

theorem owns_rejected {role : String} {file : PolicyFile} {time : ℚ}
    (rejected : Rejected library held file time) :
    ownPolicy.Keeps (fun _ _ => False) (fun _ _ => True) held
      (reloadRead library config role file time).run := by
  unfold reloadRead
  split
  · exact owns_steady (only_callBind rfl fun _ => only_throw) (fun _ => trivial)
  · exact owns_throw trivial
  · next loaded known =>
    apply owns_policyBind
    split
    · exact owns_steady (only_callBind rfl fun _ => only_throw) (fun _ => trivial)
    · next newer => exact absurd newer (rejected loaded known)

/-- A reload of a file that is rejected adopts nothing. -/
theorem rejected_keeps {role : String} {file : PolicyFile} {time : ℚ}
    {rest : SupervisorProgram (Except Raised Unit)}
    {exchanges : List (Exchange SupervisorRequest SupervisorAnswer)}
    (rejected : Rejected library held file time)
    (reached : Reaches (reloadPolicy library config role).run
      (⟨.outside .now, time⟩ :: ⟨.outside .policyFile, file⟩ :: exchanges) rest)
    (coherent : ownPolicy.Coherent held exchanges) : ownPolicy.written exchanges = [] := by
  rw [reloadPolicy_reads] at reached
  cases reached with
  | step _ later =>
    cases later with
    | step _ later =>
      have after : Reaches (reloadRead library config role file time).run exchanges rest := later
      have chain := ((owns_rejected rejected).reached after coherent).1
      cases adopted : ownPolicy.written exchanges with
      | nil => rfl
      | cons policy others =>
          rw [adopted, List.isChain_cons_cons] at chain
          exact chain.1.elim

/-! ## Round trips -/

/-- What the library does with timestamps: the text of an instant that was read is read as that
instant again. -/
structure Timestamps (library : Library) : Prop where
  empty : library.policies.timestamp "" = none
  again : ∀ text instant, library.policies.timestamp text = some (instant, true) →
    library.policies.timestamp (library.isoformat instant) = some (instant, true)

/-- The expiry as it is written into a policy file. -/
def expiryText (library : Library) : Option ℚ → Value
  | some instant => .str (library.isoformat instant)
  | none => .null

/-- An expiry that was accepted is accepted again as it is written. -/
theorem checkExpiry_again (timestamps : Timestamps library) {profile : Profile} {given : Value}
    {now later : ℚ} {expiry : Option ℚ}
    (accepted : checkExpiry library.policies profile given now false = .ok expiry) :
    checkExpiry library.policies profile (expiryText library expiry) later true = .ok expiry := by
  rcases checkExpiry_ok accepted with ⟨autonomous, instant, rfl, leased⟩ | ⟨other, _, rfl⟩
  · have read : ∃ text, library.policies.timestamp text = some (instant, true) := by
      unfold checkLease at leased
      split at leased
      · next text =>
        split at leased
        · cases leased
        · split at leased
          · cases leased
          · cases leased
          · next known =>
            split at leased
            · cases leased
            · cases leased
              exact ⟨text, known⟩
      · cases leased
    obtain ⟨text, read⟩ := read
    have again := timestamps.again text instant read
    have some : library.isoformat instant ≠ "" := by
      intro empty
      rw [empty, timestamps.empty] at again
      cases again
    simp [checkExpiry, checkLease, expiryText, autonomous, some, again, Bind.bind, Except.bind,
      pure, Except.pure]
  · simp [checkExpiry, expiryText, other]

/-- What `replace_policy` installs is read back as the policy that it returned. -/
theorem replaced_again (timestamps : Timestamps library) {profile : String} {generation : Nat}
    {policy : EffectivePolicy} (replaces : Replaces library profile generation policy)
    (later : ℚ) :
    loadPolicy library.policies (.document (Site.policyDocument library policy)) later true =
      .ok policy := by
  obtain ⟨expiresAt, now, made⟩ := replaces
  obtain ⟨_, _, decided, guarded, leased, digest, configured⟩ := effective_iff.mp made
  have again := @checkExpiry_again library timestamps _ _ _ later _ leased
  have remade : effective library.policies (.str policy.profile.name) (.int policy.generation)
      (.obj []) (expiryText library policy.expiresAt) true later true = .ok policy := by
    apply effective_iff.mpr
    exact ⟨checkProfile_name _, by simp [checkGeneration], decided, guarded, again, digest,
      configured⟩
  rw [← remade]
  have known : ∀ names : List String, names ⊆ policyFields →
      firstName (names.filter (fun name => !policyFields.contains name)) = none := by
    intro names member
    have none : names.filter (fun name => !policyFields.contains name) = [] := by
      simpa using fun name given => member given
    rw [none]
    rfl
  cases expiry : policy.expiresAt with
  | none =>
      simp only [loadPolicy, loadDocument, Site.policyDocument, expiry]
      rw [known _ (by simp [policyFields])]
      rfl
  | some instant =>
      simp only [loadPolicy, loadDocument, Site.policyDocument, expiry]
      rw [known _ (by simp [policyFields])]
      rfl

theorem replaces_of_reaches {profile : String} {generation : Nat} {expiresAt : Value} {now : ℚ}
    {policy : EffectivePolicy} {exchanges : List (Exchange SupervisorRequest SupervisorAnswer)}
    (reached : Reaches (replacePolicy library profile generation expiresAt now).run exchanges
      (.done (.ok (.ok policy)))) : Replaces library profile generation policy := by
  unfold replacePolicy at reached
  split at reached
  · cases reached
  · next made known =>
    cases reached with
    | step installed later =>
      cases installed with
      | false => cases later
      | true =>
          cases later
          exact ⟨expiresAt, now, known⟩

/-! ## The policies of one supervisor -/

/-- Whatever files it finds, one supervisor never goes back to an earlier generation, adopts no
other policy of the generation it holds and none that leaves a protected action unguarded; a
reload of a file that is rejected adopts nothing; and what it installs is read back as it was. -/
theorem policies_kept (library : Library) (config : Config) (timestamps : Timestamps library) :
    (∀ file time held duties exchanges rest,
      loadPolicy library.policies file time true = .ok held →
      Reaches (session library config duties) exchanges rest →
      ownPolicy.Coherent held exchanges →
      (held :: ownPolicy.written exchanges).Pairwise (fun earlier later =>
        earlier.generation ≤ later.generation ∧
          (later.generation = earlier.generation → later.digest = earlier.digest)) ∧
      ∀ policy ∈ held :: ownPolicy.written exchanges, policy.Guarded) ∧
    (∀ role held file time exchanges rest, Rejected library held file time →
      Reaches (reloadPolicy library config role).run
        (⟨.outside .now, time⟩ :: ⟨.outside .policyFile, file⟩ :: exchanges) rest →
      ownPolicy.Coherent held exchanges → ownPolicy.written exchanges = []) ∧
    ∀ profile generation expiresAt now exchanges policy,
      Reaches (replacePolicy library profile generation expiresAt now).run exchanges
        (.done (.ok (.ok policy))) →
      ∀ later, loadPolicy library.policies (.document (Site.policyDocument library policy)) later
        true = .ok policy := by
  constructor
  · intro file time held duties exchanges rest loaded reached coherent
    have ordered := session_succeeds reached coherent
    constructor
    · exact ordered.imp fun succeeds => ⟨succeeds.generation, succeeds.digest⟩
    · rw [List.pairwise_cons] at ordered
      rw [List.forall_mem_cons]
      exact ⟨loadPolicy_guarded loaded, fun policy member => (ordered.1 policy member).guarded⟩
  · constructor
    · exact fun role held file time exchanges rest => rejected_keeps
    · intro profile generation expiresAt now exchanges policy reached later
      exact replaced_again timestamps (replaces_of_reaches reached) later

theorem lease_timestamps : Timestamps leaseLibrary where
  empty := by decide
  again text instant read := by
    have known : instant = 1785542400 := by
      simp only [leaseLibrary] at read
      split at read
      · cases read
        rfl
      · cases read
    rw [known]
    rfl

/-- The lease that ends. -/
def leaseSession : List (Exchange SupervisorRequest SupervisorAnswer) × Unit :=
  ownPolicy.play leaseAnswer leasePolicy (session leaseLibrary leaseConfig [.revert])

theorem policies_kept_lease :
    (leasePolicy :: ownPolicy.written leaseSession.1).Pairwise (fun earlier later =>
        earlier.generation ≤ later.generation ∧
          (later.generation = earlier.generation → later.digest = earlier.digest)) ∧
      ∀ policy ∈ leasePolicy :: ownPolicy.written leaseSession.1, policy.Guarded :=
  (policies_kept leaseLibrary leaseConfig lease_timestamps).1 (.document leaseDocument) 0
    leasePolicy [.revert] leaseSession.1 _ lease_loaded
    (play_reaches leaseAnswer leasePolicy _) (play_coherent leaseAnswer_honest leasePolicy _)

end FortifyLab.Supervisor
