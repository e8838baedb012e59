import FortifyLab.Library.Observed
import FortifyLab.Lifecycle.RemoteActions

/-! What a call of the remote service asks: `execute` touches nothing before it has claimed
its token, and then only what the token was issued for. -/

namespace FortifyLab.Lifecycle

open Registry Authorization Program

/-- What a call has learned. For `execute` it is the time, the row of its token, that it has
claimed the row, that a port was out and that it has finished; for a plan, that the plan is
saved and offered for approval. -/
inductive TokenMark where
  | timed (now : Instant)
  | found (hash : String) (row : CallbackRow)
  | claimed (hash : String)
  | outage
  | finished (hash : String)
  | saved (planId : ApprovalId)
  | offered (planId : ApprovalId)
  deriving DecidableEq

/-- The identity a call of the service is made with. -/
def RemoteCall.identity : RemoteCall → Option ActorIdentity
  | .manager _ => none
  | .lifecyclePlan _ _ _ identity => some identity
  | .labPlan _ _ _ identity => some identity
  | .recoveryActions _ _ identity => some identity
  | .execute _ _ identity => some identity

/-- The token of an identity may be claimed at a time. -/
structure Claimable (sha256 : List Char → String) (token : String) (identity : ActorIdentity)
    (now : Instant) (hash : String) (row : CallbackRow) : Prop where
  hashed : tokenHash sha256 token = some hash
  actor : row.actor = identity.actor
  session : row.sessionId = identity.sessionId
  pending : row.state = .pending
  timely : now < row.expiresAt

/-- What has been learned once the token is claimed. -/
def HasClaimed (sha256 : List Char → String) (token : String) (identity : ActorIdentity)
    (marks : List TokenMark) (hash : String) (row : CallbackRow) : Prop :=
  ∃ now, marks = [.timed now, .found hash row, .claimed hash] ∧
    Claimable sha256 token identity now hash row

/-- The actions that are calls of the manager. -/
def managerActions : List String := ["approve", "reject", "retry", "cancel"]

/-- The actions that are calls of a port. -/
def portActions : List String := ["acknowledge", "pause"]

/-- What has been learned when a claimed token is finished; it is given back after an outage. -/
def Finishes (sha256 : List Char → String) (token : String) (identity : ActorIdentity)
    (marks : List TokenMark) (hash : String) (row : CallbackRow) (retryable : Bool) : Prop :=
  ∃ now, marks = [.timed now, .found hash row, .claimed hash] ++
      (if retryable then [.outage] else []) ∧
    Claimable sha256 token identity now hash row ∧
    (retryable = true → row.action ∈ portActions)

/-- A row that `issue` inserts for the identity of its call. -/
def IssuedTo (identity : Option ActorIdentity) (row : CallbackRow) : Prop :=
  row.state = .pending ∧
    ∃ issuer, identity = some issuer ∧ row.actor = issuer.actor ∧ row.sessionId = issuer.sessionId

/-- What a call may ask after what it has learned. -/
def mayAsk (sha256 : List Char → String) (call : RemoteCall) (marks : List TokenMark) :
    ActionRequest → Prop
  | .manager _ => ∀ order token identity, call = .execute order token identity →
      ∃ hash row, HasClaimed sha256 token identity marks hash row ∧ row.action ∈ managerActions
  | .findPlan planId => ∃ order token identity hash row, call = .execute order token identity ∧
      HasClaimed sha256 token identity marks hash row ∧ row.action = "approve" ∧
      planId = row.reference
  | .acknowledge incidentId actor => ∃ order token identity hash row,
      call = .execute order token identity ∧ HasClaimed sha256 token identity marks hash row ∧
      row.action = "acknowledge" ∧ incidentId = row.reference ∧ actor = row.actor
  | .pause actor => ∃ order token identity hash row, call = .execute order token identity ∧
      HasClaimed sha256 token identity marks hash row ∧ row.action = "pause" ∧ actor = row.actor
  | .findCallback hash => ∃ order token identity, call = .execute order token identity ∧
      tokenHash sha256 token = some hash
  | .expire hash => ∃ order token identity now row, call = .execute order token identity ∧
      marks = [.timed now, .found hash row] ∧ row.state = .pending ∧ row.expiresAt ≤ now
  | .claim hash => ∃ order token identity now row, call = .execute order token identity ∧
      marks = [.timed now, .found hash row] ∧ Claimable sha256 token identity now hash row
  | .finish hash retryable => ∃ order token identity row, call = .execute order token identity ∧
      Finishes sha256 token identity marks hash row retryable
  | .insertCallback row => IssuedTo call.identity row ∧
      (row.action = "approve" → marks = [.saved row.reference])
  | _ => True

def portMark (answer : Except PortFailure Unit) : Option TokenMark :=
  if answer = .error .outage then some .outage else none

/-- What an exchange of a call teaches it. -/
def tokenMark (call : RemoteCall) : Exchange ActionRequest ActionAnswer → Option TokenMark
  | ⟨.clock, answer⟩ => match call with
      | .execute _ _ _ => some (.timed answer)
      | _ => none
  | ⟨.findCallback hash, answer⟩ => (answer : Option CallbackRow).map (.found hash)
  | ⟨.claim hash, answer⟩ => if (answer : Bool) then some (.claimed hash) else none
  | ⟨.acknowledge _ _, answer⟩ => portMark answer
  | ⟨.pause _, answer⟩ => portMark answer
  | ⟨.finish hash _, _⟩ => some (.finished hash)
  | ⟨.savePlan snapshot, answer⟩ => if (answer : Bool) then some (.saved snapshot.id) else none
  | ⟨.insertCallback row, _⟩ => if row.action = "approve" then some (.offered row.reference)
      else none
  | _ => none

def tokenObserver (sha256 : List Char → String) (call : RemoteCall) :
    Observer ActionRequest ActionAnswer TokenMark where
  mark := tokenMark call
  permits := mayAsk sha256 call

variable {sha256 : List Char → String} {call : RemoteCall} {marks : List TokenMark}

/-- The code of the manager asks the manager only. -/
theorem managerProgram_asks {α : Type} {allowed : ActionRequest → Prop} (program : Act α)
    (permitted : ∀ request, allowed (.manager request)) :
    OnlyAsks allowed (managerProgram program) := by
  have each : ∀ request, OnlyAsks allowed (askAction (.manager request)) :=
    fun request => ⟨permitted request, fun _ => trivial⟩
  exact onlyAsks_expand each program

/-- A request that is permitted and teaches nothing. -/
def Mute (sha256 : List Char → String) (call : RemoteCall) (marks : List TokenMark)
    (request : ActionRequest) : Prop :=
  mayAsk sha256 call marks request ∧ ∀ answer, tokenMark call ⟨request, answer⟩ = none

theorem follows_mute {α : Type} {program : ActionAct α}
    (only : OnlyAsks (Mute sha256 call marks) program) :
    Follows (tokenObserver sha256 call).move (fun after _ => after = marks) marks program :=
  Automaton.follows_still (only.mono (fun request mute => ⟨mute.1, fun answer => by
    simp [Observer.automaton, tokenObserver, mute.2 answer]⟩))

theorem follows_asks {α ε : Type} {post : List TokenMark → Except ε α → Prop}
    {request : ActionRequest} {rest : ActionAnswer request → ExceptT ε ActionAct α}
    (permitted : mayAsk sha256 call marks request)
    (next : ∀ answer, Follows (tokenObserver sha256 call).move post
      (marks ++ (tokenMark call ⟨request, answer⟩).toList) (rest answer).run) :
    Follows (tokenObserver sha256 call).move post marks
      ((liftM (askAction request) : ExceptT ε ActionAct _) >>= rest).run :=
  fun answer => ⟨_, ⟨permitted, rfl⟩, next answer⟩

/-! ## `execute` -/

section Execute

variable {order : SetOrder} {token hash : String} {identity : ActorIdentity} {now : Instant}

/-- Under the lock a token is read, checked and claimed. -/
theorem claimToken_follows (hashed : tokenHash sha256 token = some hash) :
    Follows (tokenObserver sha256 (.execute order token identity)).move
      (fun after result => ∀ action reference, result = .ok (action, reference) →
        ∃ row, after = [.timed now, .found hash row, .claimed hash] ∧
          Claimable sha256 token identity now hash row ∧ row.action = action ∧
          row.reference = reference)
      [.timed now] (claimToken hash identity now).run := by
  refine follows_asks ?_ ?_
  · exact ⟨order, token, identity, rfl, hashed⟩
  intro answer
  cases answer with
  | none => exact fun action reference same => by cases same
  | some row =>
      dsimp only
      split
      · exact fun action reference same => by cases same
      · next known =>
        rw [not_or, not_not, not_not] at known
        split
        · exact fun action reference same => by cases same
        · next pending =>
          rw [not_not] at pending
          split
          · next late =>
            refine follows_asks ?_ ?_
            · exact ⟨order, token, identity, now, row, rfl, rfl, pending, late⟩
            intro _
            exact fun action reference same => by cases same
          · next timely =>
            have claimable : Claimable sha256 token identity now hash row :=
              ⟨hashed, known.1, known.2, pending, not_le.mp timely⟩
            refine follows_asks ?_ ?_
            · exact ⟨order, token, identity, now, row, rfl, rfl, claimable⟩
            intro claimed
            split
            · next taken =>
              intro action reference same
              cases same
              refine ⟨row, ?_, claimable, rfl, rfl⟩
              have isTrue : (claimed : Bool) = true := taken
              simp [tokenMark, isTrue]
            · exact fun action reference same => by cases same

theorem withTokenLock_follows {α : Type} {post : List TokenMark → Except ActionFailure α → Prop}
    {body : ActionAttempt α} (follows : Follows (tokenObserver sha256 call).move post marks body.run) :
    Follows (tokenObserver sha256 call).move post marks (withTokenLock body).run := by
  have quiet : ∀ shown, (tokenObserver sha256 call).automaton.after shown .lock () = shown :=
    fun shown => List.append_nil shown
  have opened : ∀ shown, (tokenObserver sha256 call).automaton.after shown .unlock () = shown :=
    fun shown => List.append_nil shown
  refine follows_perform ?_
  intro _
  refine ⟨_, ⟨trivial, rfl⟩, ?_⟩
  rw [quiet]
  refine follows_bind follows ?_
  intro after result holds
  refine follows_perform ?_
  intro _
  refine ⟨_, ⟨trivial, rfl⟩, ?_⟩
  rw [opened]
  exact holds

variable {remote : RemoteActions} {settings : Settings} {allowed : ActionRequest → Prop}

theorem manager_asks {α : Type} (attempt : Attempt α)
    (permitted : ∀ request, allowed (.manager request)) :
    OnlyAsks allowed (Trial.manager attempt).run :=
  onlyAsks_bind (managerProgram_asks attempt.run permitted) (fun _ => trivial)

/-- What a program of the `try` block leaves: nothing new and no outage, or a port that was
out. -/
def Performed {α : Type} (action : String) (marks after : List TokenMark)
    (result : Except Thrown α) : Prop :=
  (after = marks ∧ result ≠ .error .outage) ∨
    (after = marks ++ [.outage] ∧ result = .error .outage ∧ action ∈ portActions)

/-- A program that is no port's. -/
def Settled {α : Type} (marks after : List TokenMark) (result : Except Thrown α) : Prop :=
  after = marks ∧ result ≠ .error .outage

theorem manager_follows {α : Type} (attempt : Attempt α)
    (permitted : ∀ request, mayAsk sha256 call marks (.manager request)) :
    Follows (tokenObserver sha256 call).move (Settled marks) marks
      (Trial.manager attempt).run := by
  have quiet := follows_mute (managerProgram_asks attempt.run
    (fun request => ⟨permitted request, fun _ => rfl⟩) :
      OnlyAsks (Mute sha256 call marks) (managerProgram attempt.run))
  refine follows_bind quiet ?_
  intro after result same
  subst same
  cases result with
  | ok value => exact ⟨rfl, fun same => by cases same⟩
  | error cause => exact ⟨rfl, fun same => by cases same⟩

/-- A call of the manager is followed by its text. -/
theorem managerText_follows {α β : Type} {attempt : Attempt α} {text : α → Trial β}
    (permitted : ∀ request, mayAsk sha256 call marks (.manager request))
    (next : ∀ value, Follows (tokenObserver sha256 call).move (Settled marks) marks
      (text value).run) :
    Follows (tokenObserver sha256 call).move (Settled marks) marks
      (Trial.manager attempt >>= text).run := by
  refine follows_bindExcept (manager_follows attempt permitted) ?_ ?_
  · intro after value settled
    rw [settled.1]
    exact next value
  · intro after thrown settled
    refine ⟨settled.1, ?_⟩
    intro same
    cases same
    exact settled.2 rfl

theorem settled_pure {α : Type} (value : α) :
    Follows (tokenObserver sha256 call).move (Settled marks) marks
      (pure value : Trial α).run :=
  ⟨rfl, fun same => by cases same⟩

theorem settled_throw {α : Type} {message : String} :
    Follows (tokenObserver sha256 call).move (Settled marks) marks
      (throw (.refused message) : Trial α).run :=
  ⟨rfl, fun same => by cases same⟩

theorem approvePlan_follows {reference : String}
    (managers : ∀ request, mayAsk sha256 call marks (.manager request))
    (plans : mayAsk sha256 call marks (.findPlan reference)) :
    Follows (tokenObserver sha256 call).move (Settled marks) marks
      (remote.approvePlan settings order reference identity).run := by
  refine follows_asks plans ?_
  intro answer
  have quiet : marks ++ (tokenMark call ⟨.findPlan reference, answer⟩).toList = marks :=
    List.append_nil marks
  rw [quiet]
  cases answer with
  | none => exact settled_throw
  | some plan =>
      refine managerText_follows managers ?_
      intro approval
      have submits : ∀ approved : Approval,
          Follows (tokenObserver sha256 call).move (Settled marks) marks (do
            let operation ← Trial.manager (submitAsync settings order plan.operation
              plan.requestedTargets (RemoteActions.caller identity (some approved.id)) none)
            return "Operation queued: " ++ operation.id ++ remote.operationLink operation.id :
              Trial String).run :=
        fun approved => managerText_follows managers (fun _ => settled_pure _)
      dsimp only
      split
      · exact managerText_follows managers submits
      · exact submits approval
      · exact settled_throw

/-- A port answers, is out or raises. -/
theorem port_follows {action : String} {request : ActionRequest} {text : String}
    (answered : ActionAnswer request = Except PortFailure Unit) (known : action ∈ portActions)
    (permitted : mayAsk sha256 call marks request)
    (shows : ∀ answer, tokenMark call ⟨request, answer⟩ = portMark (cast answered answer)) :
    Follows (tokenObserver sha256 call).move (Performed action marks) marks
      (do Trial.port request answered; return text : Trial String).run := by
  intro answer
  refine ⟨_, ⟨permitted, rfl⟩, ?_⟩
  have shown : (tokenObserver sha256 call).automaton.after marks request answer =
      marks ++ (portMark (cast answered answer)).toList := by rw [← shows answer]; rfl
  rw [shown]
  have outcome : ∀ result : Except PortFailure Unit,
      Follows (tokenObserver sha256 call).move (Performed action marks)
        (marks ++ (portMark result).toList)
        (ExceptT.mk (pure (result.mapError PortFailure.thrown)) >>= fun _ => pure text :
          Trial String).run := by
    intro result
    rcases result with cause | ⟨⟩
    · cases cause with
      | outage => exact .inr ⟨rfl, rfl, known⟩
      | refused message => exact .inl ⟨List.append_nil marks, fun same => by cases same⟩
      | other => exact .inl ⟨List.append_nil marks, fun same => by cases same⟩
    · exact .inl ⟨List.append_nil marks, fun same => by cases same⟩
  exact outcome (cast answered answer)

/-- Once the token is claimed, its action asks what belongs to it and teaches nothing but an
outage. -/
theorem perform_follows {hash : String} {row : CallbackRow}
    (claimed : HasClaimed sha256 token identity marks hash row)
    (actor : row.actor = identity.actor) :
    Follows (tokenObserver sha256 (.execute order token identity)).move
      (Performed row.action marks) marks
      (remote.perform settings order row.action row.reference identity).run := by
  have managers : row.action ∈ managerActions → ∀ request,
      mayAsk sha256 (.execute order token identity) marks (.manager request) := by
    intro known request other code who same
    cases same
    exact ⟨hash, row, claimed, known⟩
  have settled : ∀ {program : Trial String},
      Follows (tokenObserver sha256 (.execute order token identity)).move (Settled marks) marks
        program.run →
      Follows (tokenObserver sha256 (.execute order token identity)).move
        (Performed row.action marks) marks program.run :=
    fun follows => follows.mono (fun _ _ both => .inl both)
  unfold RemoteActions.perform
  split
  · next approve =>
    refine settled (approvePlan_follows (managers (by simp [managerActions, approve])) ?_)
    exact ⟨order, token, identity, hash, row, rfl, claimed, approve, rfl⟩
  split
  · next reject =>
    exact settled (managerText_follows (managers (by simp [managerActions, reject]))
      (fun _ => settled_pure _))
  split
  · next retry =>
    exact settled (managerText_follows (managers (by simp [managerActions, retry]))
      (fun _ => settled_pure _))
  split
  · next cancel =>
    exact settled (managerText_follows (managers (by simp [managerActions, cancel]))
      (fun _ => settled_pure _))
  split
  · next both =>
    refine port_follows rfl (by simp [portActions, both.1]) ?_ (fun _ => rfl)
    exact ⟨order, token, identity, hash, row, rfl, claimed, both.1, rfl, actor.symm⟩
  split
  · next both =>
    refine port_follows rfl (by simp [portActions, both.1]) ?_ (fun _ => rfl)
    exact ⟨order, token, identity, hash, row, rfl, claimed, both.1, actor.symm⟩
  · exact settled settled_throw

theorem execute_follows :
    Follows (tokenObserver remote.authorization.sha256 (.execute order token identity)).move
      (fun _ _ => True) [] (remote.execute settings order token identity).run := by
  refine follows_asks trivial ?_
  intro now
  cases hashed : tokenHash remote.authorization.sha256 token with
  | none => trivial
  | some hash =>
      refine follows_bindExcept (withTokenLock_follows (claimToken_follows hashed)) ?_
        (fun _ _ _ => trivial)
      intro after taken claims
      rcases taken with ⟨action, reference⟩
      rcases claims action reference rfl with ⟨row, rfl, claimable, rfl, rfl⟩
      have claimed : HasClaimed remote.authorization.sha256 token identity
          [.timed now, .found hash row, .claimed hash] hash row := ⟨now, rfl, claimable⟩
      refine follows_liftBind (perform_follows claimed claimable.actor) ?_
      intro after result performed
      refine follows_asks ⟨order, token, identity, row, rfl, now, ?_, claimable, ?_⟩ ?_
      · rcases performed with ⟨rfl, served⟩ | ⟨rfl, rfl, _⟩
        · rw [decide_eq_false served]
          rfl
        · rfl
      · intro retryable
        rcases performed with ⟨_, served⟩ | ⟨_, _, known⟩
        · exact absurd (of_decide_eq_true retryable) served
        · exact known
      · intro _
        cases result with
        | ok text => trivial
        | error thrown => trivial

end Execute

/-! ## The other calls -/

theorem managerProgram_mute {α : Type} (program : Act α)
    (other : ∀ order token identity, call ≠ .execute order token identity) :
    OnlyAsks (Mute sha256 call marks) (managerProgram program) :=
  managerProgram_asks program (fun _ =>
    ⟨fun order token identity same => absurd same (other order token identity), fun _ => rfl⟩)

/-- Tokens are issued for the identity of the call. -/
theorem issue_mute {identity : ActorIdentity} (mine : call.identity = some identity)
    {action : String} (other : action ≠ "approve") (reference : String) (expiresAt : Instant) :
    OnlyAsks (Mute sha256 call marks) (issue sha256 action reference identity expiresAt) := by
  refine ⟨⟨trivial, fun _ => rfl⟩, fun token => ⟨⟨⟨?_, ?_⟩, ?_⟩, fun _ => trivial⟩⟩
  · exact ⟨rfl, identity, mine, rfl, rfl⟩
  · exact fun approve => absurd approve other
  · exact fun _ => if_neg other

section Plans

variable {remote : RemoteActions} {settings : Settings} {identity : ActorIdentity}

theorem remoteManager_mute {α : Type} (attempt : Attempt α)
    (other : ∀ order token identity, call ≠ .execute order token identity) :
    OnlyAsks (Mute sha256 call marks)
      ((RemoteAttempt.manager attempt).run.expand (performRemote sha256)) := by
  have managers : OnlyAsks (fun request => ∃ asked, request = RemoteRequest.manager asked)
      (RemoteAttempt.manager attempt).run := by
    refine onlyAsks_bind (onlyAsks_expand ?_ attempt.run) (fun _ => trivial)
    exact fun request => ⟨⟨request, rfl⟩, fun _ => trivial⟩
  refine onlyAsks_expandOnly ?_ managers
  intro request known
  rcases known with ⟨asked, rfl⟩
  refine ⟨⟨?_, fun _ => rfl⟩, fun _ => trivial⟩
  exact fun order token who same => absurd same (other order token who)

theorem planManager_follows {α β : Type} {attempt : Attempt α} {rest : α → RemoteAttempt β}
    (other : ∀ order token identity, call ≠ .execute order token identity)
    (next : ∀ value, Follows (tokenObserver sha256 call).move (fun _ _ => True) marks
      ((rest value).run.expand (performRemote sha256))) :
    Follows (tokenObserver sha256 call).move (fun _ _ => True) marks
      ((RemoteAttempt.manager attempt >>= rest).run.expand (performRemote sha256)) := by
  refine Automaton.follows_expandBind (follows_mute (remoteManager_mute attempt other)) ?_ ?_
  · intro after value same
    rw [same]
    exact next value
  · exact fun _ _ _ => trivial

/-- A plan is offered for approval once, and only where it is new. -/
theorem offerPlan_follows (service : RemoteActionService) (snapshot : PlanSnapshot)
    (mine : call.identity = some identity) :
    Follows (tokenObserver sha256 call).move (fun _ _ => True) []
      ((service.offerPlan snapshot identity).run.expand (performRemote sha256)) := by
  have saves : Follows (tokenObserver sha256 call).move
      (fun after (fresh : Bool) => after = if fresh then [.saved snapshot.id] else []) []
      (performRemote sha256 (.savePlan snapshot)) := by
    intro fresh
    refine ⟨_, ⟨trivial, rfl⟩, ?_⟩
    cases fresh <;> rfl
  have offers : Follows (tokenObserver sha256 call).move (fun _ _ => True) [.saved snapshot.id]
      (performRemote sha256 (.issue "approve" snapshot.id identity snapshot.expiresAt)) := by
    intro token
    refine ⟨_, ⟨trivial, rfl⟩, ?_⟩
    intro _
    exact ⟨_, ⟨⟨⟨rfl, identity, mine, rfl, rfl⟩, fun _ => rfl⟩, rfl⟩, trivial⟩
  refine Automaton.follows_expandAsk saves ?_
  intro after fresh same
  subst same
  cases fresh with
  | false => trivial
  | true =>
      refine Automaton.follows_expandAsk offers ?_
      intro after approve _
      refine Automaton.follows_expandAsk
        (follows_mute (issue_mute mine (by decide) snapshot.id snapshot.expiresAt)) ?_
      exact fun _ _ _ => trivial

theorem lifecyclePlan_follows (service : RemoteActionService) (order : SetOrder)
    (operation : String) (targets : List ComponentId) (mine : call.identity = some identity)
    (other : ∀ order token identity, call ≠ .execute order token identity) :
    Follows (tokenObserver sha256 call).move (fun _ _ => True) []
      ((service.lifecyclePlan settings order operation targets identity).run.expand
        (performRemote sha256)) := by
  refine planManager_follows other ?_
  intro resolved
  have asks : Follows (tokenObserver sha256 call).move (fun after _ => after = []) []
      (performRemote sha256 (.manager (.currentState resolved.components))) :=
    fun current => ⟨_, ⟨fun order token who same => absurd same (other order token who), rfl⟩, rfl⟩
  refine Automaton.follows_expandAsk asks ?_
  intro after current same
  subst same
  cases current with
  | none => trivial
  | some current =>
      refine planManager_follows other ?_
      intro risk
      split
      · trivial
      · refine planManager_follows other ?_
        intro approval
        split
        · trivial
        · exact offerPlan_follows service _ mine

theorem labPlan_follows (service : RemoteActionService) (order : SetOrder) (action : String)
    (component : Option ComponentId) (mine : call.identity = some identity)
    (other : ∀ order token identity, call ≠ .execute order token identity) :
    Follows (tokenObserver sha256 call).move (fun _ _ => True) []
      ((service.labPlan settings order action component identity).run.expand
        (performRemote sha256)) :=
  planManager_follows other (fun _ => lifecyclePlan_follows service order _ _ mine other)

theorem issueControl_mute (mine : call.identity = some identity) {action : String}
    (other : action ≠ "approve") (label reference : String) (expiresAt : Instant) :
    OnlyAsks (Mute remote.authorization.sha256 call marks)
      (remote.issueControl label action reference identity expiresAt) :=
  onlyAsks_bind (issue_mute mine other reference expiresAt) (fun _ => trivial)

theorem controls_mute (mine : call.identity = some identity) {action : String}
    (other : action ≠ "approve") (label reference : String) (expiresAt : Instant) :
    OnlyAsks (Mute remote.authorization.sha256 call marks) (do
      let control ← remote.issueControl label action reference identity expiresAt
      pure [control]) :=
  onlyAsks_bind (issueControl_mute mine other label reference expiresAt) (fun _ => trivial)

/-- No control of an operation approves a plan. -/
theorem operationControl_action {document : Document} {label action : String}
    (offered : RemoteActions.operationControl document = some (label, action)) :
    action ≠ "approve" := by
  unfold RemoteActions.operationControl at offered
  split at offered
  · split at offered
    · cases offered
      decide
    · cases offered
  · split at offered
    · cases offered
    · cases offered
      decide

theorem recoveryActions_mute (incidentId : Option String) (operationId : Option OperationId) :
    OnlyAsks (Mute remote.authorization.sha256 (.recoveryActions incidentId operationId identity)
      marks) (remote.recoveryActions incidentId operationId identity).run := by
  have managers : ∀ request, Mute remote.authorization.sha256
      (.recoveryActions incidentId operationId identity) marks (.manager request) :=
    fun request => ⟨fun _ _ _ same => (by cases same), fun _ => rfl⟩
  refine onlyAsks_askExcept ⟨trivial, fun _ => rfl⟩ ?_
  intro now
  refine onlyAsks_bindExcept (onlyAsks_liftExcept ?_) ?_
  · unfold RemoteActions.incidentControls
    split
    · trivial
    split
    · trivial
    · exact controls_mute rfl (by decide) _ _ _
  intro acknowledges
  refine onlyAsks_bindExcept ?_ ?_
  · unfold RemoteActions.operationControls
    split
    · trivial
    split
    · trivial
    refine onlyAsks_bindExcept (manager_asks _ managers) ?_
    intro document
    split
    · trivial
    · next label action offered =>
      exact onlyAsks_bindExcept
        (onlyAsks_liftExcept (issueControl_mute rfl (operationControl_action offered) _ _ _))
        (fun _ => trivial)
  intro operates
  refine onlyAsks_bindExcept (onlyAsks_liftExcept ?_) (fun _ => trivial)
  unfold RemoteActions.pauseControls
  split
  · exact controls_mute rfl (by decide) _ _ _
  · trivial

/-- Every call of the service asks only what it may. -/
theorem RemoteCall.body_follows (call : RemoteCall) :
    Follows (tokenObserver remote.authorization.sha256 call).move (fun _ _ => True) []
      (RemoteCall.body remote settings call) := by
  have silent : ∀ {program : ActionAct RemoteOutcome},
      OnlyAsks (Mute remote.authorization.sha256 call []) program →
      Follows (tokenObserver remote.authorization.sha256 call).move (fun _ _ => True) [] program :=
    fun only => (follows_mute only).mono (fun _ _ _ => trivial)
  cases call with
  | manager call =>
      refine silent (onlyAsks_bind (managerProgram_mute _ ?_) (fun _ => trivial))
      exact fun _ _ _ same => by cases same
  | lifecyclePlan order operation targets identity =>
      refine follows_bind (lifecyclePlan_follows _ order operation targets rfl ?_)
        (fun _ _ _ => trivial)
      exact fun _ _ _ same => by cases same
  | labPlan order action component identity =>
      refine follows_bind (labPlan_follows _ order action component rfl ?_) (fun _ _ _ => trivial)
      exact fun _ _ _ same => by cases same
  | recoveryActions incidentId operationId identity =>
      exact silent (onlyAsks_bind (recoveryActions_mute incidentId operationId) (fun _ => trivial))
  | execute order token identity =>
      exact follows_bind execute_follows (fun _ _ _ => trivial)

end Plans

end FortifyLab.Lifecycle
