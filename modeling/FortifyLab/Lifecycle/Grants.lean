import FortifyLab.Lifecycle.Ledger

/-! What stands behind a call of `authorize` that returns: an earlier request of the same
plan and an accepted approval; and what `approve` and `authorize` leave behind. -/

namespace FortifyLab.Lifecycle

open Registry Authorization Program

abbrev ManagerEntry := Entry Call Request Answer

variable {settings : Settings} {service : AuthorizationService}
  {allowed : ManagerPool → ManagerAction → Prop} {log : List ManagerEntry} {pool : ManagerPool}

/-- The table of approvals that the requests of a log make. -/
def approvalsAfter (log : List ManagerEntry) : List ApprovalRow :=
  (log.foldl (fun state entry => state.effect entry.thread entry.request) ManagerState.empty).approvals

/-- The table after one more request depends on the table before only. -/
theorem effect_approvals_congr {left right : ManagerState} (same : left.approvals = right.approvals)
    (first second : Nat) (request : Request) :
    (left.effect first request).approvals = (right.effect second request).approvals := by
  cases request with
  | insertApproval document =>
      simp only [ManagerState.effect, same]
      split
      · exact same
      · rfl
  | transition id expected next document => simp only [ManagerState.effect, same]
  | createRow document =>
      simp only [ManagerState.effect]
      split <;> split <;> exact same
  | _ => exact same

theorem reachable_ledger (configured : settings.authorization = some service)
    (reached : (manager settings).Reachable allowed log pool) :
    Ledger service Call.acts log pool.shared.approvals ∧
      pool.shared.approvals = approvalsAfter log := by
  have start : Ledger service Call.acts [] ManagerState.empty.approvals :=
    ⟨by simp [ManagerState.empty], by simp [ManagerState.empty], by simp [ManagerState.empty],
      by simp, by simp [ManagerState.empty], by simp, by simp⟩
  rcases (consent configured).reachable_invariant
    (fun log (state : ManagerState) => Ledger service Call.acts log state.approvals ∧
      state.approvals = approvalsAfter log) ⟨start, rfl⟩
    (fun log state index offer call request answer lawful replied _ known =>
      ⟨known.1.step lawful replied, by
        unfold approvalsAfter
        rw [List.foldl_append]
        exact effect_approvals_congr known.2 _ _ _⟩)
    (fun log state known => known) reached with ⟨_, _, _, known⟩
  exact known

/-- The document was inserted by a request of this plan, by the same actor, session and
source. -/
def RequestedFor (log : List ManagerEntry) (identity : ActorIdentity) (planned : OperationPlan)
    (document : Approval) : Prop :=
  ∃ requested ∈ log, ∃ requester, requested.label = .request planned requester ∧
    requested.exchange = ⟨.insertApproval document, true⟩ ∧
    requester.actor = identity.actor ∧ requester.sessionId = identity.sessionId ∧
    requester.source = identity.source

/-- An `approve` of the same actor and session was accepted in time, with the further
conditions of a high risk. -/
def AcceptedFor (service : AuthorizationService) (log : List ManagerEntry)
    (identity : ActorIdentity) (document : Approval) : Prop :=
  ∃ decided ∈ log, ∃ approver confirmation approval now,
    decided.label = .approve document.id approver confirmation ∧
    decided.exchange = ⟨.transition document.id .pending .approved approval, true⟩ ∧
    approver.actor = identity.actor ∧ approver.sessionId = identity.sessionId ∧
    ⟨.authorizationNow, now⟩ ∈ own log decided.thread ∧ now < document.expiresAt ∧
    (document.risk = .high → approver.source ∈ highRiskSources ∧
      now - approver.authenticatedAt ≤ service.reauthenticationAge ∧
      confirmation = some highRiskConfirmation)

/-- What stands before the consumption of an approval by a thread. -/
structure Backed (service : AuthorizationService) (before : List ManagerEntry) (index : Nat)
    (plan : OperationPlan) (identity : ActorIdentity) (id : ApprovalId)
    (provider : Option (List ComponentId)) (planned : OperationPlan) (document : Approval)
    (observed : List (String × String)) (now : Instant) : Prop where
  named : document.id = id
  risk : planned.risk = some document.risk
  requested : RequestedFor before identity planned document
  accepted : AcceptedFor service before identity document
  digest : planned.digest service.sha256 = (plan.observing observed).digest service.sha256
  observes : Observes (own before index) plan provider observed
  clock : ⟨.authorizationNow, now⟩ ∈ own before index
  valid : now < document.expiresAt

/-- The thread consumed the approval, for the plan and the state that were requested. -/
def Granted (service : AuthorizationService) (log : List ManagerEntry) (index : Nat)
    (plan : OperationPlan) (identity : ActorIdentity) (id : ApprovalId)
    (provider : Option (List ComponentId)) : Prop :=
  ∃ before consumed after consumption planned document observed now,
    log = before ++ consumed :: after ∧ consumed.thread = index ∧
    consumed.exchange = ⟨.transition id .approved .consumed consumption, true⟩ ∧
    Backed service before index plan identity id provider planned document observed now ∧
    planned.operation = plan.operation ∧ planned.targets = plan.targets ∧
    planned.currentState.Perm observed ∧ plan.risk = some document.risk

theorem exchange_cases {entry : ManagerEntry} {request : Request} {answer : Answer request}
    (same : entry.exchange = ⟨request, answer⟩) :
    ∃ index label, entry = ⟨index, label, request, answer⟩ := by
  rcases entry with ⟨index, label, other, reply⟩
  cases same
  exact ⟨index, label, rfl⟩

theorem requests_label {call : Call} {plan : OperationPlan} {identity : ActorIdentity}
    (requests : call.acts.requests plan identity) : call = .request plan identity := by
  cases call <;> first
    | (rcases requests with ⟨rfl, rfl⟩; rfl)
    | exact absurd requests (fun impossible => impossible)

theorem approves_label {call : Call} {id : ApprovalId} {identity : ActorIdentity}
    {confirmation : Option String} (approves : call.acts.approves id identity confirmation) :
    call = .approve id identity confirmation := by
  cases call <;> first
    | (rcases approves with ⟨rfl, rfl, rfl⟩; rfl)
    | exact absurd approves (fun impossible => impossible)

theorem AcceptedFor.grow {identity : ActorIdentity} {document : Approval}
    (accepted : AcceptedFor service log identity document) (more : List ManagerEntry) :
    AcceptedFor service (log ++ more) identity document := by
  rcases accepted with ⟨decided, member, approver, confirmation, approval, now, label, made, actor,
    session, clock, rest⟩
  exact ⟨decided, List.mem_append_left more member, approver, confirmation, approval, now, label,
    made, actor, session, own_subset _ _ _ clock, rest⟩

/-- An approved row was accepted from an identity that its document names. -/
theorem Ledger.accepted {table : List ApprovalRow} (ledger : Ledger service Call.acts log table)
    {row : ApprovalRow} (there : row ∈ table) (state : row.state = .approved) {document : Approval}
    (named : document.id = row.id) (same : row.payload.terms = document.terms)
    {identity : ActorIdentity} (actor : document.actor = identity.actor)
    (session : document.sessionId = identity.sessionId) :
    AcceptedFor service log identity document := by
  have journey := ledger.journey row there
  rw [state] at journey
  have accepted : (ApprovalState.pending, ApprovalState.approved) ∈ acceptedMoves log row.id := by
    rw [journey.eq_of_approved]
    exact List.mem_singleton_self _
  rcases mem_acceptedMoves.mp accepted with ⟨decided, deciding, approval, moved⟩
  rw [← named] at moved
  rcases (ledger.decided decided deciding document.id approval moved).approval rfl with
    ⟨approver, confirmation, found, now, approves, reading, clock, clear⟩
  rcases decisionReason_clear clear with ⟨_, inTime, itsActor, itsSession, high⟩
  rcases ledger.read reading with ⟨origin, present, originId, originTerms⟩
  have sameRow : origin = row := ledger.unique present there (originId.trans named)
  rw [sameRow] at originTerms
  have alike : found.Agree document := agree_of_terms (originTerms.symm.trans same)
  exact ⟨decided, deciding, approver, confirmation, approval, now, approves_label approves, moved,
    itsActor.symm.trans (alike.actor.trans actor),
    itsSession.symm.trans (alike.sessionId.trans session), clock, alike.expiresAt ▸ inTime,
    fun isHigh => high (alike.risk.trans isHigh)⟩

/-- The accepted consumption of an approval has a request and an approval behind it. -/
theorem backed_of_consumed (configured : settings.authorization = some service)
    (reached : (manager settings).Reachable allowed log pool) {before after : List ManagerEntry}
    {index : Nat} {call : Call} {id : ApprovalId} {consumption : Approval}
    (split : log = before ++
      ⟨index, call, .transition id .approved .consumed consumption, true⟩ :: after) :
    ∃ identity plan provider planned document observed now,
      call.acts.authorizes id identity plan provider ∧
      Backed service before index plan identity id provider planned document observed now := by
  rcases (consent configured).reachable_split reached split with ⟨earlier, offer, known, replied, lawful⟩
  rcases reachable_ledger configured known with ⟨ledger, _⟩
  have stored : ∃ row ∈ earlier.shared.approvals, row.id = id ∧ row.state = .approved := by
    have answered : (manager settings).reply earlier.shared index offer
        (.transition id .approved .consumed consumption) = some true := replied
    simpa [manager, ManagerState.reply] using answered
  rcases stored with ⟨row, member, named, state⟩
  have decides : Decides service call.acts (own before index) id .approved .consumed consumption :=
    lawful
  rcases decides.consumption rfl with
    ⟨identity, plan, provider, found, now, observed, authorizes, read, observes, clock, clear⟩
  -- the row that the approval was read from is still the one it was requested as
  rcases ledger.read read with ⟨origin, there, known, terms⟩
  have sameRow : origin = row := ledger.unique there member (known.trans named.symm)
  rw [sameRow] at terms
  rcases consumptionReason_clear clear with ⟨_, valid, actor, session, source, digest⟩
  rcases (ledger.requested row member).made with
    ⟨requested, asked, document, planned, requester, risk, at_, made, requests, policy, built, bound⟩
  have agreed : found.Agree document := agree_of_terms (terms.symm.trans bound)
  have identified : document.id = row.id := by
    rw [built]
    exact (ledger.column row member).1
  have asRequested : RequestedFor before identity planned document := by
    refine ⟨requested, asked, requester, requests_label requests, made, ?_, ?_, ?_⟩
    · calc
        requester.actor = document.actor := by rw [built]; rfl
        _ = identity.actor := agreed.actor.symm.trans actor
    · calc
        requester.sessionId = document.sessionId := by rw [built]; rfl
        _ = identity.sessionId := agreed.sessionId.symm.trans session
    · calc
        requester.source = document.source := by rw [built]; rfl
        _ = identity.source := agreed.source.symm.trans source
  have sameDigest : planned.digest service.sha256 = (plan.observing observed).digest service.sha256 := by
    calc
      planned.digest service.sha256 = document.planDigest := by rw [built]; rfl
      _ = _ := agreed.planDigest.symm.trans digest
  have sameRisk : planned.risk = some document.risk := by
    rw [policy, built]
    rfl
  have accepted : AcceptedFor service before identity document :=
    ledger.accepted member state identified bound (agreed.actor.symm.trans actor)
      (agreed.sessionId.symm.trans session)
  exact ⟨identity, plan, provider, planned, document, observed, now, authorizes,
    identified.trans named, sameRisk, asRequested, accepted, sameDigest, observes, clock,
    agreed.expiresAt ▸ valid⟩

/-- With a collision-free hash the plan and the state are those of the request. -/
theorem Backed.granted {before after : List ManagerEntry} {index : Nat} {call : Call}
    {id : ApprovalId} {consumption : Approval} {plan planned : OperationPlan}
    {identity : ActorIdentity} {provider : Option (List ComponentId)} {document : Approval}
    {observed : List (String × String)} {now : Instant} (distinct : ¬ Collision service.sha256)
    (split : log = before ++
      ⟨index, call, .transition id .approved .consumed consumption, true⟩ :: after)
    (backed : Backed service before index plan identity id provider planned document observed now) :
    Granted service log index plan identity id provider := by
  rcases digest_determines distinct backed.digest with ⟨operations, targets, states⟩
  have sameRisk : plan.risk = planned.risk := by
    unfold OperationPlan.risk
    rw [operations]
    rfl
  exact ⟨before, _, after, consumption, planned, document, observed, now, split, rfl, rfl, backed,
    operations, targets, states, sameRisk.trans backed.risk⟩

/-! ## What a finished call leaves -/

/-- The thread ended with this outcome. -/
def Ended (pool : ManagerPool) (index : Nat) (call : Call) (outcome : Outcome) : Prop :=
  pool.threads[index]? = some ⟨call, .done outcome⟩

/-- No request of the thread changed the table of approvals. -/
def LeavesApprovals (log : List ManagerEntry) (index : Nat) : Prop :=
  ∀ before entry after, log = before ++ entry :: after → entry.thread = index →
    approvalsAfter (before ++ [entry]) = approvalsAfter before

/-- The approval was stored when the thread looked it up. -/
def LookedUp (log : List ManagerEntry) (index : Nat) (id : ApprovalId) : Prop :=
  ∃ before entry after, log = before ++ entry :: after ∧ entry.thread = index ∧
    entry.request = .findApproval id ∧ ∃ row ∈ approvalsAfter before, row.id = id

/-- Exactly one audit entry was made by the thread. -/
def AuditedOnce (log : List ManagerEntry) (index : Nat) : Prop := audits (own log index) = 1

theorem leaves_of_not_writes (configured : settings.authorization = some service)
    (reached : (manager settings).Reachable allowed log pool) {index : Nat}
    (quiet : ∀ exchange ∈ own log index, ¬ Writes exchange) : LeavesApprovals log index := by
  intro before entry after split same
  rcases (consent configured).reachable_split reached split with ⟨earlier, offer, known, replied, _⟩
  rcases reachable_ledger configured known with ⟨_, table⟩
  have kept : ¬ Writes entry.exchange := by
    apply quiet
    rw [mem_own]
    exact ⟨entry, by simp [split], same, rfl⟩
  have step : approvalsAfter (before ++ [entry]) =
      (earlier.shared.effect entry.thread entry.request).approvals := by
    unfold approvalsAfter at table ⊢
    rw [List.foldl_append]
    exact effect_approvals_congr table.symm _ _ _
  rw [step, ← table]
  exact effect_kept replied kept

theorem lookedUp_iff (configured : settings.authorization = some service)
    (reached : (manager settings).Reachable allowed log pool) {index : Nat} {id : ApprovalId} :
    LookedUp log index id ↔ ∃ found, ⟨.findApproval id, some found⟩ ∈ own log index := by
  constructor
  · intro stored
    rcases stored with ⟨before, entry, after, split, same, asked, row, member, named⟩
    rcases (consent configured).reachable_split reached split with ⟨earlier, offer, known, replied, _⟩
    rcases reachable_ledger configured known with ⟨_, table⟩
    rw [← table] at member
    rcases entry with ⟨thread, label, request, answer⟩
    cases asked
    have answered : (earlier.shared.approvals.find? (fun row => decide (row.id = id))).map
        ApprovalRow.payload = answer := Option.some.inj replied
    have present : (earlier.shared.approvals.find? (fun row => decide (row.id = id))).isSome := by
      rw [List.find?_isSome]
      exact ⟨row, member, by simpa using named⟩
    rcases Option.isSome_iff_exists.mp present with ⟨other, found⟩
    rw [found] at answered
    refine ⟨other.payload, mem_own.mpr ⟨_, ?_, same, by rw [Entry.exchange, ← answered]; rfl⟩⟩
    simp [split]
  · intro found
    rcases found with ⟨document, read⟩
    rcases mem_own.mp read with ⟨entry, member, same, exchanged⟩
    rcases exchange_cases exchanged with ⟨thread, label, rfl⟩
    rcases List.append_of_mem member with ⟨before, after, split⟩
    rcases (consent configured).reachable_split reached split with ⟨earlier, offer, known, replied, _⟩
    rcases reachable_ledger configured known with ⟨_, table⟩
    have answered : (earlier.shared.approvals.find? (fun row => decide (row.id = id))).map
        ApprovalRow.payload = some document := Option.some.inj replied
    rcases mem_of_findApproval answered with ⟨row, there, named, _⟩
    rw [table] at there
    exact ⟨before, _, after, split, same, rfl, row, there, named⟩

/-- How a finished call of the authorization service ended, by its own history. -/
theorem ended_history (configured : settings.authorization = some service)
    (reached : (manager settings).Reachable allowed log pool) {index : Nat} {call : Call}
    {outcome : Outcome} (ended : Ended pool index call outcome) (alive : outcome ≠ .killed) :
    call.Ends service (own log index) outcome := by
  rcases (consent configured).reachable_traced reached with ⟨roles, annotated, traced⟩
  exact Discipline.traced_ends traced annotated ended alive

theorem label_of_ended (configured : settings.authorization = some service)
    (reached : (manager settings).Reachable allowed log pool) {index : Nat} {call : Call}
    {outcome : Outcome} (ended : Ended pool index call outcome) {entry : ManagerEntry}
    (member : entry ∈ log) (same : entry.thread = index) : entry.label = call := by
  rcases (consent configured).reachable_traced reached with ⟨roles, _, traced⟩
  rcases traced.named entry member with ⟨thread, found, named⟩
  have there : pool.threads[index]? = some ⟨call, .done outcome⟩ := ended
  rw [same, there] at found
  cases found
  exact named.symm

/-- The bindings of plan, state and identity, and the rows that refusals leave alone. -/
structure Binding (service : AuthorizationService) (log : List ManagerEntry) (pool : ManagerPool) :
    Prop where
  granted : ∀ index plan identity approvalId provider risk,
    Ended pool index (.authorize plan identity approvalId provider) (.authorized (.ok ())) →
    plan.risk = some risk → risk.approvalRequired = true →
    ∃ id, approvalId = some id ∧ Granted service log index plan identity id provider
  refused : ∀ index plan identity approvalId provider error,
    Ended pool index (.authorize plan identity approvalId provider) (.authorized (.error error)) →
    LeavesApprovals log index
  denied : ∀ index id identity confirmation error,
    Ended pool index (.approve id identity confirmation) (.approval (.error error)) →
    LeavesApprovals log index

/-- An `authorize` of a risky plan that returned consumed its approval. -/
theorem consumed_of_returned (configured : settings.authorization = some service)
    (reached : (manager settings).Reachable allowed log pool) {index : Nat} {plan : OperationPlan}
    {identity : ActorIdentity} {approvalId : Option ApprovalId}
    {provider : Option (List ComponentId)} {risk : Risk}
    (ended : Ended pool index (.authorize plan identity approvalId provider) (.authorized (.ok ())))
    (policy : plan.risk = some risk) (required : risk.approvalRequired = true) :
    ∃ id consumption before after, approvalId = some id ∧
      log = before ++ ⟨index, .authorize plan identity approvalId provider,
        .transition id .approved .consumed consumption, true⟩ :: after := by
  have authorized : Authorized service plan approvalId (own log index) (.ok ()) :=
    ended_history configured reached ended (by simp)
  rcases authorized.returned rfl with ⟨known, same, consumes⟩
  cases same.symm.trans policy
  rcases consumes required with ⟨id, consumption, named, consumed⟩
  rcases mem_own.mp consumed.accepted with ⟨entry, member, own, exchanged⟩
  have labelled := label_of_ended configured reached ended member own
  rcases exchange_cases exchanged with ⟨thread, label, rfl⟩
  cases own
  cases labelled
  rcases List.append_of_mem member with ⟨before, after, split⟩
  exact ⟨id, consumption, before, after, named, split⟩

theorem reachable_binding (configured : settings.authorization = some service)
    (distinct : ¬ Collision service.sha256) (reached : (manager settings).Reachable allowed log pool) :
    Binding service log pool where
  granted index plan identity approvalId provider risk ended policy required := by
    rcases consumed_of_returned configured reached ended policy required with
      ⟨id, consumption, before, after, named, split⟩
    rcases backed_of_consumed configured reached split with
      ⟨_, _, _, planned, document, observed, now, ⟨_, rfl, rfl, rfl⟩, backed⟩
    exact ⟨id, named, backed.granted distinct split⟩
  refused index plan identity approvalId provider error ended := by
    have authorized : Authorized service plan approvalId (own log index) (.error error) :=
      ended_history configured reached ended (by simp)
    exact leaves_of_not_writes configured reached (authorized.raised error rfl)
  denied index id identity confirmation error ended := by
    have approved : Approved id (own log index) (.error error) :=
      ended_history configured reached ended (by simp)
    exact leaves_of_not_writes configured reached (approved.raised error rfl)

/-- The plan, state and identity of every `authorize` that returns are those of an earlier
request that was approved in time, refusals change nothing, and a call leaves exactly one
audit entry when its operation has a policy and the approval it looks up is stored. -/
theorem authorization_bound (configured : settings.authorization = some service)
    (distinct : ¬ Collision service.sha256) (reached : (manager settings).Reachable allowed log pool) :
    Binding service log pool ∧
    (∀ index plan identity approvalId provider result,
      Ended pool index (.authorize plan identity approvalId provider) (.authorized result) →
      (AuditedOnce log index ↔ ∃ risk, plan.risk = some risk ∧ (risk.approvalRequired = true →
        ∀ id, approvalId = some id → LookedUp log index id))) ∧
    (∀ index id identity confirmation result,
      Ended pool index (.approve id identity confirmation) (.approval result) →
      (AuditedOnce log index ↔ LookedUp log index id)) := by
  refine ⟨reachable_binding configured distinct reached, ?_, ?_⟩
  · intro index plan identity approvalId provider result ended
    have authorized : Authorized service plan approvalId (own log index) result :=
      ended_history configured reached ended (by simp)
    simp only [lookedUp_iff configured reached]
    exact authorized.audited
  · intro index id identity confirmation result ended
    have approved : Approved id (own log index) result :=
      ended_history configured reached ended (by simp)
    rw [lookedUp_iff configured reached]
    exact approved.audited

/-- The shipped registry with an authorization service whose hash is the text itself. -/
def guardedSettings : Settings :=
  { shippedSettings with
    authorization := some {
      approvalTtl := 600000000
      reauthenticationAge := 300000000
      sha256 := String.ofList }
    stateProvider := true }

/-- An operator at the web interface. -/
def operator : ActorIdentity where
  actor := "local:admin"
  source := .web
  sessionId := "session"
  authenticatedAt := 0
  actor_bounded := by decide
  session_bounded := by decide

def playGuarded (script : List (ManagerPool → ManagerAction)) :
    Option (List ManagerEntry × ManagerPool) :=
  (manager guardedSettings).playLog (fun _ _ => true) [] (manager guardedSettings).initial script

theorem reachable_playGuarded {script : List (ManagerPool → ManagerAction)}
    (played : playGuarded script = some (log, pool)) :
    (manager guardedSettings).Reachable (fun _ _ => True) log pool :=
  Machine.reachable_playLog (fun _ _ _ => trivial) script .initial played

/-- The arguments of an `authorize` that returned. -/
def returnedAuthorize (pool : ManagerPool) (index : Nat) :
    Option (OperationPlan × ActorIdentity × Option ApprovalId × Option (List ComponentId)) :=
  match pool.threads[index]? with
  | some ⟨.authorize plan identity approvalId provider, .done (.authorized (.ok ()))⟩ =>
      some (plan, identity, approvalId, provider)
  | _ => none

theorem ended_of_returnedAuthorize {index : Nat} {plan : OperationPlan} {identity : ActorIdentity}
    {approvalId : Option ApprovalId} {provider : Option (List ComponentId)}
    (returned : returnedAuthorize pool index = some (plan, identity, approvalId, provider)) :
    Ended pool index (.authorize plan identity approvalId provider) (.authorized (.ok ())) := by
  unfold returnedAuthorize at returned
  split at returned
  · next found =>
    cases returned
    exact found
  · cases returned

theorem not_collision_ofList : ¬ Collision String.ofList := by
  intro collision
  rcases collision with ⟨left, right, different, same⟩
  exact different (String.ofList_injective same)

/-- A high-risk plan is requested, approved and authorized. -/
def authorizeScript : List (ManagerPool → ManagerAction) :=
  goOn 0 4 "" ++
  arrive (.request ⟨"uninstall", ["mysql"], []⟩ operator) ++ goOn 1 5 "approval" ++
  arrive (.approve "approval" operator (some highRiskConfirmation)) ++ goOn 2 5 "" ++
  arrive (.authorize ⟨"uninstall", ["mysql"], []⟩ operator (some "approval") (some ["mysql"])) ++
  goOn 3 7 ""

theorem authorization_bound_uninstall :
    ∃ log pool plan identity approvalId provider id,
      (manager guardedSettings).Reachable (fun _ _ => True) log pool ∧
      Ended pool 3 (.authorize plan identity approvalId provider) (.authorized (.ok ())) ∧
      plan.risk = some .high ∧
      Granted ⟨600000000, 300000000, String.ofList⟩ log 3 plan identity id provider := by
  have played : (playGuarded authorizeScript).any (fun run =>
      (returnedAuthorize run.2 3).any (fun call => decide (call.1.risk = some .high))) = true := by
    decide +kernel
  rcases (Option.any_eq_true _ _).mp played with ⟨⟨log, pool⟩, run, holds⟩
  rcases (Option.any_eq_true _ _).mp holds with ⟨⟨plan, identity, approvalId, provider⟩, call, risk⟩
  have reached := reachable_playGuarded run
  have ended := ended_of_returnedAuthorize call
  rcases (authorization_bound rfl not_collision_ofList reached).1.granted 3 plan identity approvalId
    provider .high ended (of_decide_eq_true risk) rfl with ⟨id, _, granted⟩
  exact ⟨log, pool, plan, identity, approvalId, provider, id, reached, ended, of_decide_eq_true risk,
    granted⟩

/-- The approval call of a thread and its result, when it has ended. -/
def endedApprove (pool : ManagerPool) (index : Nat) :
    Option (ApprovalId × ActorIdentity × Option String × Except Failure Approval) :=
  match pool.threads[index]? with
  | some ⟨.approve id identity confirmation, .done (.approval result)⟩ =>
      some (id, identity, confirmation, result)
  | _ => none

theorem ended_of_endedApprove {index : Nat} {id : ApprovalId} {identity : ActorIdentity}
    {confirmation : Option String} {result : Except Failure Approval}
    (ended : endedApprove pool index = some (id, identity, confirmation, result)) :
    Ended pool index (.approve id identity confirmation) (.approval result) := by
  unfold endedApprove at ended
  split at ended
  · next found =>
    cases ended
    exact found
  · cases ended

/-- A refusal because the approval is unknown leaves no audit entry. -/
theorem approve_unknown_not_audited :
    ¬ ∀ log pool, (manager guardedSettings).Reachable (fun _ _ => True) log pool →
      ∀ index id identity confirmation result,
        Ended pool index (.approve id identity confirmation) (.approval result) →
        AuditedOnce log index := by
  intro audited
  have played : (playGuarded (goOn 0 4 "" ++ arrive (.approve "unknown" operator none) ++
      goOn 1 1 "")).any (fun run =>
        decide (audits (own run.1 1) ≠ 1) && (endedApprove run.2 1).isSome) = true := by
    decide +kernel
  rcases (Option.any_eq_true _ _).mp played with ⟨⟨log, pool⟩, run, holds⟩
  rw [Bool.and_eq_true, decide_eq_true_eq, Option.isSome_iff_exists] at holds
  rcases holds with ⟨silent, ⟨id, identity, confirmation, result⟩, ended⟩
  exact silent (audited log pool (reachable_playGuarded run) 1 id identity confirmation result
    (ended_of_endedApprove ended))

end FortifyLab.Lifecycle
