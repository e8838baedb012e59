import FortifyLab.Authorization.Journey
import FortifyLab.Authorization.Service
import FortifyLab.Library.History

/-! What a caller of the authorization service asks of the approval store, each request
explained by what the caller has been told before. -/

namespace FortifyLab.Authorization

open Registry Lifecycle Program

abbrev History := List (Exchange Request Answer)

/-- What a caller set out to do. -/
structure Acts where
  requests : OperationPlan → ActorIdentity → Prop
  approves : ApprovalId → ActorIdentity → Option String → Prop
  revokes : ApprovalId → ActorIdentity → Prop
  authorizes : ApprovalId → ActorIdentity → OperationPlan → Option (List ComponentId) → Prop

/-- The document that `request` inserts. -/
def AuthorizationService.requested (service : AuthorizationService) (plan : OperationPlan)
    (identity : ActorIdentity) (id : ApprovalId) (now : Instant) (risk : Risk) : Approval where
  id := id
  state := .pending
  actor := identity.actor
  source := identity.source
  sessionId := identity.sessionId
  risk := risk
  operation := plan.operation
  targets := plan.targets
  planDigest := plan.digest service.sha256
  createdAt := now
  expiresAt := now + service.approvalTtl
  decidedAt := none
  consumedAt := none
  revokedAt := none

/-- What an approval keeps from its request on: everything but its decisions. -/
def Approval.terms (approval : Approval) : Approval :=
  { approval with state := .pending, decidedAt := none, consumedAt := none, revokedAt := none }

/-- Two documents of one request. -/
structure Approval.Agree (left right : Approval) : Prop where
  actor : left.actor = right.actor
  sessionId : left.sessionId = right.sessionId
  source : left.source = right.source
  risk : left.risk = right.risk
  expiresAt : left.expiresAt = right.expiresAt
  planDigest : left.planDigest = right.planDigest

theorem agree_of_terms {left right : Approval} (same : left.terms = right.terms) :
    left.Agree right := by
  simp only [Approval.terms, Approval.mk.injEq] at same
  exact ⟨by simp [same], by simp [same], by simp [same], by simp [same], by simp [same],
    by simp [same]⟩

/-- What the state provider said: without one, what the plan says itself. -/
def Observes (history : History) (plan : OperationPlan) :
    Option (List ComponentId) → List (String × String) → Prop
  | none, observed => observed = plan.currentState
  | some targets, observed => ⟨.currentState targets, some observed⟩ ∈ history

/-- The plan as it stands with the state observed now. -/
def OperationPlan.observing (plan : OperationPlan) (observed : List (String × String)) :
    OperationPlan :=
  ⟨plan.operation, plan.targets, observed⟩

/-- A conditional transition that the caller may ask for: from a stored document, and
after the checks of the call. -/
inductive Decides (service : AuthorizationService) (acts : Acts) (history : History) :
    ApprovalId → ApprovalState → ApprovalState → Approval → Prop where
  | approved {approvalId : ApprovalId} {identity : ActorIdentity} {confirmation : Option String}
      {found : Approval} {now : Instant} (approves : acts.approves approvalId identity confirmation)
      (read : ⟨.findApproval approvalId, some found⟩ ∈ history)
      (clock : ⟨.authorizationNow, now⟩ ∈ history)
      (clear : service.decisionReason found identity now confirmation = none) :
      Decides service acts history approvalId .pending .approved
        { found with state := .approved, decidedAt := some now }
  | revoked {approvalId : ApprovalId} {identity : ActorIdentity} {found : Approval}
      {now : Instant} (revokes : acts.revokes approvalId identity)
      (read : ⟨.findApproval approvalId, some found⟩ ∈ history)
      (bound : found.actor = identity.actor)
      (undecided : found.state = .pending ∨ found.state = .approved) :
      Decides service acts history approvalId found.state .revoked
        { found with state := .revoked, revokedAt := some now }
  | consumed {approvalId : ApprovalId} {identity : ActorIdentity} {plan : OperationPlan}
      {provider : Option (List ComponentId)} {found : Approval} {now later : Instant}
      {observed : List (String × String)}
      (authorizes : acts.authorizes approvalId identity plan provider)
      (read : ⟨.findApproval approvalId, some found⟩ ∈ history)
      (observes : Observes history plan provider observed)
      (clock : ⟨.authorizationNow, now⟩ ∈ history)
      (clear : service.consumptionReason found (plan.observing observed) identity now = none) :
      Decides service acts history approvalId .approved .consumed
        { found with state := .consumed, consumedAt := some later }

/-- The approval that the history shows consumed for an operation on its components. -/
structure Consumes (service : AuthorizationService) (history : History) (operation : String)
    (targets : List ComponentId) (approvalId : ApprovalId) (document : Approval) : Prop where
  accepted : ⟨.transition approvalId .approved .consumed document, true⟩ ∈ history
  bound : ∃ observed,
    document.planDigest = OperationPlan.digest service.sha256 ⟨operation, targets, observed⟩

theorem Consumes.mono {history longer : History} (sub : history ⊆ longer) {operation : String}
    {targets : List ComponentId} {id : ApprovalId} {document : Approval}
    (consumes : Consumes service history operation targets id document) :
    Consumes service longer operation targets id document :=
  ⟨sub consumes.accepted, consumes.bound⟩

/-- A row is created once by a caller, and with an approval where the risk requires one. -/
structure Licensed (service : AuthorizationService) (history : History) (document : Document) :
    Prop where
  first : ∀ other answer, (⟨.createRow other, answer⟩ : Exchange Request Answer) ∉ history
  approved : ∀ risk, riskByOperation.lookup document.operation.name = some risk →
    risk.approvalRequired = true → ∃ approvalId approval,
      Consumes service history document.operation.name document.components approvalId approval

/-- What a caller may ask after its own history. -/
def Lawful (service : AuthorizationService) (acts : Acts) (history : History) : Request → Prop
  | .insertApproval document => ∃ plan identity risk now, acts.requests plan identity ∧
      plan.risk = some risk ∧ document = service.requested plan identity document.id now risk
  | .transition approvalId expected state document =>
      Decides service acts history approvalId expected state document
  | .createRow document => Licensed service history document
  | _ => True

/-- Requests that change no approval and create no row. -/
def Plain : Request → Prop
  | .createRow _ => False
  | .insertApproval _ => False
  | .transition _ _ _ _ => False
  | _ => True

variable {service : AuthorizationService} {acts : Acts}

theorem lawful_of_plain (history : History) (request : Request) (plain : Plain request) :
    Lawful service acts history request := by
  cases request <;> trivial

/-- The exchange changed the table of approvals. -/
def Writes : Exchange Request Answer → Prop
  | ⟨.insertApproval _, true⟩ => True
  | ⟨.transition _ _ _ _, true⟩ => True
  | _ => False

/-- The exchange is a call's own record in the audit history. -/
def Audits : Exchange Request Answer → Bool
  | ⟨.record _, _⟩ => true
  | _ => false

/-- How many audit entries the exchanges made. -/
def audits (history : History) : Nat := history.countP Audits

@[simp] theorem audits_nil : audits [] = 0 := rfl

@[simp] theorem audits_append (first second : History) :
    audits (first ++ second) = audits first + audits second := by
  simp [audits]

@[simp] theorem audits_cons (exchange : Exchange Request Answer) (rest : History) :
    audits (exchange :: rest) = audits rest + (if Audits exchange then 1 else 0) := by
  simp [audits, List.countP_cons]

/-- The exchange tried to create a row of an operation. -/
def MakesRow : Exchange Request Answer → Prop
  | ⟨.createRow _, _⟩ => True
  | _ => False

/-! ## The calls of the service -/

theorem audit_runs (approvalId : Option ApprovalId) (action actor outcome reason : String) :
    Runs (Lawful service acts)
      (fun more _ => ∃ now entry, more = [⟨.authorizationNow, now⟩, ⟨.record entry, ()⟩]) []
      (audit approvalId action actor outcome reason) := by
  apply runs_ask (fun _ => trivial)
  intro now
  apply runs_ask (fun _ => trivial)
  intro _
  exact runs_done ⟨now, _, rfl⟩

theorem storedApproval_runs (approvalId : ApprovalId) :
    Runs (Lawful service acts)
      (fun more result => ∃ answer, more = [⟨.findApproval approvalId, answer⟩] ∧
        (∀ found, result = .ok found → answer = some found) ∧
        (∀ error, result = .error error → answer = none)) []
      (storedApproval approvalId).run := by
  apply runs_askExcept (fun _ => trivial)
  intro answer
  match answer with
  | none => exact runs_done ⟨none, rfl, by simp, by simp⟩
  | some found => exact runs_done ⟨some found, rfl, by simp, by simp⟩

/-- How `approve` ends: it raises without a change or makes the transition, and it
leaves one audit entry exactly when it found the approval. -/
structure Approved (approvalId : ApprovalId) (more : History) (result : Except Failure Approval) :
    Prop where
  returned : ∀ document, result = .ok document →
    ⟨.transition approvalId .pending .approved document, true⟩ ∈ more
  raised : ∀ error, result = .error error → ∀ exchange ∈ more, ¬ Writes exchange
  audited : audits more = 1 ↔ ∃ found, ⟨.findApproval approvalId, some found⟩ ∈ more
  noRow : ∀ exchange ∈ more, ¬ MakesRow exchange

theorem approve_runs {approvalId : ApprovalId} {identity : ActorIdentity}
    {confirmation : Option String} (may : acts.approves approvalId identity confirmation) :
    Runs (Lawful service acts) (Approved approvalId) []
      (service.approve approvalId identity confirmation).run := by
  apply runs_bindExcept (storedApproval_runs approvalId)
  · intro more found outcome
    rcases outcome with ⟨answer, rfl, read, _⟩
    cases read found rfl
    apply runs_askExcept (fun _ => trivial)
    intro now
    split
    · next reason denied =>
      apply runs_liftBind (audit_runs _ _ _ _ _)
      intro more _ audited
      rcases audited with ⟨later, entry, rfl⟩
      exact runs_done ⟨by simp, by simp [Writes], by simp [Audits], by simp [MakesRow]⟩
    · next clear =>
      apply runs_askExcept
      · intro before
        exact .approved may (by simp) (by simp) clear
      · intro accepted
        split
        · next won =>
          apply runs_liftBind (audit_runs _ _ _ _ _)
          intro more _ audited
          rcases audited with ⟨later, entry, rfl⟩
          exact runs_done ⟨by simp [won], by simp, by simp [Audits], by simp [MakesRow]⟩
        · next lost =>
          apply runs_liftBind (audit_runs _ _ _ _ _)
          intro more _ audited
          rcases audited with ⟨later, entry, rfl⟩
          exact runs_done ⟨by simp, by simp [Writes, lost], by simp [Audits], by simp [MakesRow]⟩
  · intro more error outcome
    rcases outcome with ⟨answer, rfl, _, missing⟩
    cases missing error rfl
    exact ⟨by simp, by simp [Writes], by simp [Audits], by simp [MakesRow]⟩

theorem planRisk_runs (plan : OperationPlan) :
    Runs (Lawful service acts)
      (fun more result => more = [] ∧ (∀ risk, result = .ok risk → plan.risk = some risk) ∧
        (∀ error, result = .error error → plan.risk = none)) []
      (planRisk plan).run := by
  unfold planRisk
  split
  · next risk known => exact runs_done ⟨rfl, by simpa using known, by simp⟩
  · next unknown => exact runs_done ⟨rfl, by simp, by simpa using unknown⟩

theorem request_runs {plan : OperationPlan} {identity : ActorIdentity}
    (may : acts.requests plan identity) :
    Runs (Lawful service acts) (fun more _ => ∀ exchange ∈ more, ¬ MakesRow exchange) []
      (service.request plan identity).run := by
  apply runs_askExcept (fun _ => trivial)
  intro now
  apply runs_askExcept (fun _ => trivial)
  intro id
  apply runs_bindExcept (planRisk_runs plan)
  · intro more risk outcome
    rcases outcome with ⟨rfl, known, _⟩
    apply runs_askExcept
    · intro before
      exact ⟨plan, identity, risk, now, may, known risk rfl, rfl⟩
    · intro inserted
      split
      · apply runs_liftBind (audit_runs _ _ _ _ _)
        intro more _ audited
        rcases audited with ⟨later, entry, rfl⟩
        exact runs_done (by simp [MakesRow])
      · exact runs_done (by simp [MakesRow])
  · intro more error outcome
    rcases outcome with ⟨rfl, _, _⟩
    simp [MakesRow]

theorem revoke_runs {approvalId : ApprovalId} {identity : ActorIdentity}
    (may : acts.revokes approvalId identity) :
    Runs (Lawful service acts)
      (fun more result => (∀ exchange ∈ more, ¬ MakesRow exchange) ∧
        (∀ document, result = .ok document → ∃ previous,
          ⟨.transition approvalId previous .revoked document, true⟩ ∈ more) ∧
        (∀ error, result = .error error → ∀ exchange ∈ more, ¬ Writes exchange)) []
      (AuthorizationService.revoke approvalId identity).run := by
  apply runs_bindExcept (storedApproval_runs approvalId)
  · intro more found outcome
    rcases outcome with ⟨answer, rfl, read, _⟩
    cases read found rfl
    dsimp only
    split
    · apply runs_liftBind (audit_runs _ _ _ _ _)
      intro more _ audited
      rcases audited with ⟨later, entry, rfl⟩
      exact runs_done ⟨by simp [MakesRow], by simp, by simp [Writes]⟩
    · next bound =>
      split
      · exact runs_done ⟨by simp [MakesRow], by simp, by simp [Writes]⟩
      · next undecided =>
        apply runs_askExcept (fun _ => trivial)
        intro now
        apply runs_askExcept
        · intro before
          exact .revoked may (by simp) (not_not.mp bound)
            (by simpa [or_iff_not_imp_left] using undecided)
        · intro accepted
          split
          · next won =>
            apply runs_liftBind (audit_runs _ _ _ _ _)
            intro more _ audited
            rcases audited with ⟨later, entry, rfl⟩
            exact runs_done ⟨by simp [MakesRow], fun _ same => ⟨found.state, by simp_all⟩, by simp⟩
          · next lost => exact runs_done ⟨by simp [MakesRow], by simp, by simp [Writes, lost]⟩
  · intro more error outcome
    rcases outcome with ⟨answer, rfl, _, missing⟩
    exact ⟨by simp [MakesRow], by simp, by simp [Writes]⟩

/-- How `authorize` ends: it raises without a change, and where the risk requires an
approval it returns only after consuming one. It leaves one audit entry exactly when
the operation has a policy and the approval that it looks up is stored. -/
structure Authorized (service : AuthorizationService) (plan : OperationPlan)
    (approvalId : Option ApprovalId) (more : History) (result : Except Failure Unit) : Prop where
  returned : result = .ok () → ∃ risk, plan.risk = some risk ∧
    (risk.approvalRequired = true → ∃ id document, approvalId = some id ∧
      Consumes service more plan.operation plan.targets id document)
  raised : ∀ error, result = .error error → ∀ exchange ∈ more, ¬ Writes exchange
  audited : audits more = 1 ↔ ∃ risk, plan.risk = some risk ∧
    (risk.approvalRequired = true → ∀ id, approvalId = some id →
      ∃ found, ⟨.findApproval id, some found⟩ ∈ more)
  noRow : ∀ exchange ∈ more, ¬ MakesRow exchange

theorem Observes.mono {history longer : History} (sub : history ⊆ longer) {plan : OperationPlan}
    {provider : Option (List ComponentId)} {observed : List (String × String)}
    (observes : Observes history plan provider observed) :
    Observes longer plan provider observed := by
  cases provider with
  | none => exact observes
  | some targets => exact sub observes

theorem Decides.mono {history longer : History} (sub : history ⊆ longer)
    {id : ApprovalId} {expected state : ApprovalState} {document : Approval}
    (decides : Decides service acts history id expected state document) :
    Decides service acts longer id expected state document := by
  cases decides with
  | approved approves read clock clear => exact .approved approves (sub read) (sub clock) clear
  | revoked revokes read bound undecided => exact .revoked revokes (sub read) bound undecided
  | consumed authorizes read observes clock clear =>
      exact .consumed authorizes (sub read) (observes.mono sub) (sub clock) clear

theorem Decides.movesTo {history : History} {id : ApprovalId}
    {expected state : ApprovalState} {document : Approval}
    (decides : Decides service acts history id expected state document) :
    MovesTo expected state ∧ document.state = state := by
  cases decides with
  | approved => exact ⟨.approve, rfl⟩
  | revoked _ _ _ undecided =>
      rcases undecided with pending | approved
      · rw [pending]
        exact ⟨.withdraw, rfl⟩
      · rw [approved]
        exact ⟨.revoke, rfl⟩
  | consumed => exact ⟨.consume, rfl⟩

theorem Decides.read {history : History} {id : ApprovalId}
    {expected state : ApprovalState} {document : Approval}
    (decides : Decides service acts history id expected state document) :
    ∃ found, ⟨.findApproval id, some found⟩ ∈ history ∧ document.terms = found.terms := by
  cases decides with
  | approved _ read => exact ⟨_, read, rfl⟩
  | revoked _ read => exact ⟨_, read, rfl⟩
  | consumed _ read => exact ⟨_, read, rfl⟩

/-- Why a consumption was asked for. -/
theorem Decides.consumption {history : History} {id : ApprovalId}
    {expected state : ApprovalState} {document : Approval}
    (decides : Decides service acts history id expected state document) (last : state = .consumed) :
    ∃ identity plan provider found now observed, acts.authorizes id identity plan provider ∧
      ⟨.findApproval id, some found⟩ ∈ history ∧ Observes history plan provider observed ∧
      ⟨.authorizationNow, now⟩ ∈ history ∧
      service.consumptionReason found (plan.observing observed) identity now = none := by
  cases decides with
  | approved => cases last
  | revoked => cases last
  | consumed authorizes read observes clock clear =>
      exact ⟨_, _, _, _, _, _, authorizes, read, observes, clock, clear⟩

/-- Why an approval was asked for. -/
theorem Decides.approval {history : History} {id : ApprovalId}
    {expected state : ApprovalState} {document : Approval}
    (decides : Decides service acts history id expected state document) (last : state = .approved) :
    ∃ identity confirmation found now, acts.approves id identity confirmation ∧
      ⟨.findApproval id, some found⟩ ∈ history ∧ ⟨.authorizationNow, now⟩ ∈ history ∧
      service.decisionReason found identity now confirmation = none := by
  cases decides with
  | approved approves read clock clear => exact ⟨_, _, _, _, approves, read, clock, clear⟩
  | revoked => cases last
  | consumed => cases last

/-- The exchange changes no approval, makes no row and is no audit entry. -/
def Silent (exchange : Exchange Request Answer) : Prop :=
  ¬ Writes exchange ∧ ¬ MakesRow exchange ∧ Audits exchange = false

theorem audits_silent {told : History} (silent : ∀ exchange ∈ told, Silent exchange) :
    audits told = 0 := by
  unfold audits
  rw [List.countP_eq_zero]
  intro exchange member
  simp [(silent exchange member).2.2]

/-- `authorize` has found the stored approval and ends after one more audit entry. -/
theorem Authorized.of_found {plan : OperationPlan} {risk : Risk} {approvalId : ApprovalId}
    {found : Approval} {told rest : History} {result : Except Failure Unit}
    (known : plan.risk = some risk) (silent : ∀ exchange ∈ told, Silent exchange)
    (read : ⟨.findApproval approvalId, some found⟩ ∈ told) (counted : audits rest = 1)
    (noRow : ∀ exchange ∈ rest, ¬ MakesRow exchange)
    (raised : ∀ error, result = .error error → ∀ exchange ∈ rest, ¬ Writes exchange)
    (returned : result = .ok () → ∃ document,
      Consumes service (told ++ rest) plan.operation plan.targets approvalId document) :
    Authorized service plan (some approvalId) (told ++ rest) result where
  returned same := ⟨risk, known, fun _ => by
    rcases returned same with ⟨document, consumes⟩
    exact ⟨approvalId, document, rfl, consumes⟩⟩
  raised error same := List.forall_mem_append.mpr
    ⟨fun exchange member => (silent exchange member).1, raised error same⟩
  audited := by
    have one : audits (told ++ rest) = 1 := by simp [audits_silent silent, counted]
    refine iff_of_true one ⟨risk, known, fun _ id same => ?_⟩
    cases same
    exact ⟨found, List.mem_append_left rest read⟩
  noRow := List.forall_mem_append.mpr ⟨fun exchange member => (silent exchange member).2.1, noRow⟩

/-- The end of `authorize`, from what it was told before. -/
theorem consume_runs {plan : OperationPlan} {risk : Risk} {identity : ActorIdentity}
    {approvalId : ApprovalId} {provider : Option (List ComponentId)} {found : Approval}
    {observed : Option (List (String × String))} {told : History}
    (may : acts.authorizes approvalId identity plan provider) (known : plan.risk = some risk)
    (silent : ∀ exchange ∈ told, Silent exchange)
    (read : ⟨.findApproval approvalId, some found⟩ ∈ told)
    (observes : ∀ state, observed = some state → Observes told plan provider state) :
    Runs (Lawful service acts) (Authorized service plan (some approvalId)) told
      (service.consume plan risk identity approvalId found observed).run := by
  unfold AuthorizationService.consume
  split
  · apply runs_liftBind (audit_runs _ _ _ _ _)
    intro more _ audited
    rcases audited with ⟨later, entry, rfl⟩
    exact runs_done (.of_found known silent read (by simp [Audits]) (by simp [MakesRow])
      (by simp [Writes]) (by simp))
  · next state =>
    apply runs_askExcept (fun _ => trivial)
    intro now
    dsimp only
    split
    · next reason denied =>
      apply runs_liftBind (audit_runs _ _ _ _ _)
      intro more _ audited
      rcases audited with ⟨later, entry, rfl⟩
      rw [List.append_assoc]
      exact runs_done (.of_found known silent read (by simp [Audits]) (by simp [MakesRow])
        (by simp [Writes]) (by simp))
    · next clear =>
      apply runs_askExcept (fun _ => trivial)
      intro consumed
      apply runs_askExcept
      · intro before
        refine .consumed may (by simp [read]) ?_ (by simp) clear
        exact (observes state rfl).mono (fun _ member => by simp [member])
      · intro accepted
        split
        · next won =>
          apply runs_liftExcept
          apply (audit_runs _ _ _ _ _).last
          intro more _ audited
          rcases audited with ⟨later, entry, rfl⟩
          simp only [List.append_assoc]
          refine .of_found known silent read (by simp [Audits]) (by simp [MakesRow]) (by simp) ?_
          have digest := (consumptionReason_clear clear).2.2.2.2.2
          intro _
          exact ⟨{ found with state := .consumed, consumedAt := some consumed },
            by simp [won], state, digest⟩
        · next lost =>
          apply runs_liftBind (audit_runs _ _ _ _ _)
          intro more _ audited
          rcases audited with ⟨later, entry, rfl⟩
          simp only [List.append_assoc]
          exact runs_done (.of_found known silent read (by simp [Audits]) (by simp [MakesRow])
            (by simp [Writes, lost]) (by simp))

theorem authorize_runs {plan : OperationPlan} {identity : ActorIdentity}
    {approvalId : Option ApprovalId} {provider : Option (List ComponentId)}
    (may : ∀ id, approvalId = some id → acts.authorizes id identity plan provider) :
    Runs (Lawful service acts) (Authorized service plan approvalId) []
      (service.authorize plan identity approvalId provider).run := by
  apply runs_bindExcept (planRisk_runs plan)
  · intro more risk outcome
    rcases outcome with ⟨rfl, known, _⟩
    have policy := known risk rfl
    split
    · next routine =>
      apply runs_liftExcept
      apply (audit_runs _ _ _ _ _).last
      intro more _ audited
      rcases audited with ⟨later, entry, rfl⟩
      have needless : ¬ risk.approvalRequired = true := by simpa using routine
      exact ⟨fun _ => ⟨risk, policy, fun required => absurd required needless⟩, by simp,
        iff_of_true (by simp [Audits]) ⟨risk, policy, fun required => absurd required needless⟩,
        by simp [MakesRow]⟩
    · split
      · apply runs_liftBind (audit_runs _ _ _ _ _)
        intro more _ audited
        rcases audited with ⟨later, entry, rfl⟩
        exact runs_done ⟨by simp, by simp [Writes],
          iff_of_true (by simp [Audits]) ⟨risk, policy, by simp⟩, by simp [MakesRow]⟩
      · next required _ approvalId =>
        apply runs_bindExcept (storedApproval_runs approvalId)
        · intro more found outcome
          rcases outcome with ⟨answer, rfl, read, _⟩
          cases read found rfl
          split
          · next targets =>
            apply runs_askExcept (fun _ => trivial)
            intro observed
            apply consume_runs (may approvalId rfl) policy
            · simp [Silent, Writes, MakesRow, Audits]
            · simp
            · intro state same
              simp [Observes, same]
          · apply consume_runs (may approvalId rfl) policy
            · simp [Silent, Writes, MakesRow, Audits]
            · simp
            · intro state same
              simpa [Observes] using same.symm
        · intro more error outcome
          rcases outcome with ⟨answer, rfl, _, missing⟩
          cases missing error rfl
          refine ⟨by simp, by simp [Writes], iff_of_false (by simp [Audits]) ?_, by simp [MakesRow]⟩
          intro stored
          rcases stored with ⟨other, same, stored⟩
          rw [policy] at same
          cases same
          have impossible := stored (by simpa using required) approvalId rfl
          simp at impossible
  · intro more error outcome
    rcases outcome with ⟨rfl, _, unknown⟩
    have refused := unknown error rfl
    exact ⟨by simp, by simp, by simp [refused], by simp⟩

end FortifyLab.Authorization
