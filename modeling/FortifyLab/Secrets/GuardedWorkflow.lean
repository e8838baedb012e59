import FortifyLab.Authorization.Service
import FortifyLab.Library.Execution
import FortifyLab.Lifecycle.Manager
import FortifyLab.Library.Trace
import FortifyLab.Secrets.Workflow

/-! `SecretWorkflow` together with the authorization service it calls: `plan`,
`request_approval`, `replace` and `cancel` over the store of updates and the ledger. -/

namespace FortifyLab.Secrets

open Program
open Registry (ComponentId)
open Authorization (ActorIdentity Approval ApprovalId AuthorizationService OperationPlan)

/-- What the workflow asks, and what the authorization service asks on its behalf. -/
inductive GuardedRequest where
  | secret (request : SecretRequest)
  | authority (request : Lifecycle.Request)

abbrev GuardedAnswer : GuardedRequest → Type
  | .secret request => SecretAnswer request
  | .authority request => Lifecycle.Answer request

abbrev GuardedProgram := Program GuardedRequest GuardedAnswer

/-- Code of the workflow that authorizes nothing. -/
def unguarded {α : Type} (program : SecretProgram α) : GuardedProgram α :=
  program.expand (fun request => Program.perform (.secret request))

/-- A call of the authorization service that needs no state provider. -/
def authority {α : Type} (program : Lifecycle.Act α) : GuardedProgram α :=
  program.expand (fun request => Program.perform (.authority request))

/-- The `state_provider` of `replace`. -/
def provideState (target : SecretTarget) (sourceType : String) :
    GuardedProgram (Option (List (String × String))) := do
  match ← unguarded (currentState target) with
  | .error _ => return none
  | .ok state => return some (authorizationPlan target sourceType state).currentState

/-- What the authorization service asks; the state of the targets is the provider's. -/
def performAuthority (target : SecretTarget) (sourceType : String) :
    (request : Lifecycle.Request) → GuardedProgram (Lifecycle.Answer request)
  | .currentState _ => provideState target sourceType
  | request => Program.perform (GuardedRequest.authority request)

variable (settings : WorkflowSettings) (service : AuthorizationService)

/-- The call of `authorize` in `replace`. -/
def authorizeSecret (target : SecretTarget) (sourceType : String) (plan : OperationPlan)
    (identity : ActorIdentity) (approvalId : ApprovalId) :
    GuardedProgram (Except SecretRaised Unit) := do
  let result ← (service.authorize plan identity (some approvalId) (some plan.targets)).run.expand
    (performAuthority target sourceType)
  return result.mapError .denied

/-- What the workflow asks, with the authorization service in place of its outcome. -/
def guard (target : SecretTarget) (sourceType : String) :
    (request : SecretRequest) → GuardedProgram (SecretAnswer request)
  | .authorize plan identity approvalId =>
      authorizeSecret service target sourceType plan identity approvalId
  | request => Program.perform (GuardedRequest.secret request)

/-- The source that `_validate_source` returns has the type of the one it was given, which
the state provider may therefore name. -/
theorem validateSource_sourceType (target : SecretTarget) (source : SecretSource) :
    Ends (fun _ result => ∀ accepted, result = .ok accepted →
      accepted.sourceType = source.sourceType) (validateSource settings target source) := by
  unfold validateSource
  split
  · next external =>
    unfold validateExternal
    split
    · apply ends_perform
      intro resolved
      cases (resolved : Option String) with
      | none => exact ends_done (by simp)
      | some path =>
          apply ends_done
          intro accepted same
          cases same
          exact external.symm
    · exact ends_done (by simp)
  · apply ends_done
    intro accepted same
    unfold checkSource at same
    split_ifs at same with upload reference generated
    · split at same
      · split_ifs at same
        cases same
        rfl
      · cases same
    · split at same
      · split_ifs at same
        cases same
        rfl
      · cases same
    · cases same
      rfl

/-- `plan`. -/
def SecretRegistry.plan (registry : SecretRegistry) (componentId : ComponentId)
    (secretId sourceType : String) : Except SecretRaised SecretImpact := do
  let target ← registry.target componentId secretId
  target.plan sourceType

/-- `request_approval` of a declared target. -/
def requestFor (target : SecretTarget) (sourceType : String) (identity : ActorIdentity) :
    GuardedProgram (Except SecretRaised Approval) := do
  match ← unguarded (currentState target) with
  | .error raised => return .error raised
  | .ok state => do
      let result ← authority (service.request (authorizationPlan target sourceType state) identity).run
      return result.mapError .denied

/-- `request_approval`. -/
def requestApproval (componentId : ComponentId) (secretId sourceType : String)
    (identity : ActorIdentity) : GuardedProgram (Except SecretRaised Approval) :=
  match settings.registry.target componentId secretId with
  | .error raised => return .error raised
  | .ok target =>
      match target.plan sourceType with
      | .error raised => return .error raised
      | .ok _ => requestFor service target sourceType identity

/-- `replace`, with what the authorization service does. -/
def guardedReplace (request : Replacement) : GuardedProgram (Except SecretRaised SecretUpdate) :=
  match settings.registry.target request.componentId request.secretId with
  | .error raised => return .error raised
  | .ok target =>
      (replaceTarget settings target request).expand (guard service target
        request.source.sourceType)

/-! ## The two stores -/

/-- The store of updates with the volatile state of the workflow, and the ledger. -/
structure GuardedState where
  secrets : SecretState
  authority : Lifecycle.ManagerState

/-- The calls of the workflow, and those by which an operator decides on an approval. -/
inductive GuardedCall where
  | openStore
  | plan (componentId : ComponentId) (secretId sourceType : String)
  | requestApproval (componentId : ComponentId) (secretId sourceType : String)
      (identity : ActorIdentity)
  | approve (approvalId : ApprovalId) (identity : ActorIdentity) (confirmation : Option String)
  | revoke (approvalId : ApprovalId) (identity : ActorIdentity)
  | replace (request : Replacement)
  | cancel (operationId : String) (identity : ActorIdentity)

inductive GuardedOutcome where
  | opened
  | planned (result : Except SecretRaised SecretImpact)
  | approval (result : Except SecretRaised Approval)
  | updated (result : Except SecretRaised SecretUpdate)
  | killed

/-- The outside world's part of an answer to either. -/
structure GuardedOffer where
  secret : Offer
  authority : Lifecycle.Offer

def GuardedState.reply (state : GuardedState) (thread : Nat) (offer : GuardedOffer) :
    (request : GuardedRequest) → Option (GuardedAnswer request)
  | .secret request => Secrets.reply state.secrets offer.secret request
  | .authority request => state.authority.reply thread offer.authority request

def GuardedState.effect (state : GuardedState) (thread : Nat) : GuardedRequest → GuardedState
  | .secret request => { state with secrets := Secrets.effect state.secrets thread request }
  | .authority request => { state with authority := state.authority.effect thread request }

/-- A call of the authorization service itself. -/
def decision (attempt : Lifecycle.Attempt Approval) : GuardedProgram GuardedOutcome := do
  let result ← authority attempt.run
  return .approval (result.mapError .denied)

def guardedBody : GuardedCall → GuardedProgram GuardedOutcome
  | .openStore => do
      unguarded openStore
      return .opened
  | .plan componentId secretId sourceType =>
      return .planned (settings.registry.plan componentId secretId sourceType)
  | .requestApproval componentId secretId sourceType identity => do
      let result ← requestApproval settings service componentId secretId sourceType identity
      return .approval result
  | .approve approvalId identity confirmation =>
      decision (service.approve approvalId identity confirmation)
  | .revoke approvalId identity => decision (AuthorizationService.revoke approvalId identity)
  | .replace request => do
      let result ← guardedReplace settings service request
      return .updated result
  | .cancel operationId identity => do
      let result ← unguarded (cancel operationId identity)
      return .updated result

def GuardedCall.outside : GuardedCall → Bool
  | .openStore => false
  | _ => true

def guardedWorkflow : Machine GuardedState GuardedCall GuardedOffer GuardedRequest GuardedAnswer
    GuardedOutcome where
  body := guardedBody settings service
  reply := GuardedState.reply
  effect := GuardedState.effect
  spawned := fun _ => none
  admits := fun state call => call.outside && state.secrets.serving
  lost := fun state => ⟨{ state.secrets with lock := none, cancelled := [], serving := false },
    state.authority.afterCrash⟩
  boot := .openStore
  killed := .killed
  fresh := ⟨.empty, .empty⟩

/-! ## What the parts of the workflow ask -/

/-- Requests of an update whose record is there. -/
def Updating : SecretRequest → Prop
  | .now | .monotonic | .statement | .update _ | .get _ | .isCancelled _ | .discardCancelled _
  | .adapterReplace _ _ _ | .adapterRollback _ _ _ | .restart _ _ | .healthy _ _ => True
  | _ => False

theorem execute_asks {allowed : SecretRequest → Prop} {request : SecretRequest}
    (statement : allowed .statement) (itself : allowed request) :
    OnlyAsks allowed (execute request) := by
  refine ⟨statement, ?_⟩
  intro answer
  cases (answer : Except SecretRaised Unit) with
  | error raised => trivial
  | ok value => exact ⟨itself, fun _ => trivial⟩

theorem currentState_asks {allowed : SecretRequest → Prop} (target : SecretTarget)
    (statement : allowed .statement) (latest : ∀ identifier, allowed (.latestState identifier)) :
    OnlyAsks allowed (currentState target) := by
  apply onlyAsks_bind (execute_asks statement (latest _))
  intro state
  cases state <;> trivial

theorem save_updating (document : SecretUpdate) : OnlyAsks Updating (save document) := by
  refine ⟨trivial, ?_⟩
  intro now
  apply onlyAsks_bind (execute_asks trivial trivial)
  intro result
  cases result <;> trivial

theorem verifyConsumer_updating (deadline : ℚ) (consumer : ComponentId) (document : SecretUpdate) :
    OnlyAsks Updating (verifyConsumer deadline consumer document) := by
  apply onlyAsks_bind (save_updating _)
  rintro ⟨raised, saved⟩
  cases raised with
  | some raised => trivial
  | none =>
      refine ⟨trivial, ?_⟩
      intro answer
      rcases (answer : Except SecretRaised Bool) with raised | healthy
      · trivial
      · cases healthy <;> trivial

theorem restartConsumer_updating (deadline : ℚ) (consumer : ComponentId)
    (document : SecretUpdate) : OnlyAsks Updating (restartConsumer deadline consumer document) := by
  have checked : OnlyAsks Updating (checkDeadline deadline document.id) := by
    refine ⟨trivial, ?_⟩
    intro cancelled
    cases (cancelled : Bool) with
    | true => trivial
    | false => exact ⟨trivial, fun _ => trivial⟩
  apply onlyAsks_bind checked
  intro outcome
  cases outcome with
  | some raised => trivial
  | none =>
      apply onlyAsks_bind (save_updating _)
      rintro ⟨raised, saved⟩
      cases raised with
      | some raised => trivial
      | none =>
          refine ⟨trivial, ?_⟩
          intro answer
          cases (answer : Except SecretRaised Unit) with
          | error raised => trivial
          | ok value => exact verifyConsumer_updating deadline consumer saved

theorem restartConsumers_updating (deadline : ℚ) (consumers : List ComponentId)
    (document : SecretUpdate) :
    OnlyAsks Updating (restartConsumers deadline consumers document) := by
  induction consumers generalizing document with
  | nil => trivial
  | cons consumer rest ih =>
      apply onlyAsks_bind (restartConsumer_updating deadline consumer document)
      rintro ⟨raised, saved⟩
      cases raised with
      | some raised => trivial
      | none => exact ih saved

theorem recover_updating (target : SecretTarget) (deadline : ℚ) (revision : Option String)
    (raised : SecretRaised) (document : SecretUpdate) :
    OnlyAsks Updating (recover target deadline revision raised document) := by
  unfold recover
  cases revision with
  | none => trivial
  | some revision =>
      dsimp only
      split
      · trivial
      · apply onlyAsks_bind (save_updating _)
        rintro ⟨failure, saved⟩
        cases failure with
        | some failure => trivial
        | none =>
            refine ⟨trivial, ?_⟩
            intro answer
            cases (answer : Except SecretRaised Unit) <;> trivial

theorem applyUpdate_updating (target : SecretTarget) (source : SecretSource) (deadline : ℚ)
    (document : SecretUpdate) : OnlyAsks Updating (applyUpdate target source deadline document) := by
  refine ⟨trivial, ?_⟩
  intro answer
  cases (answer : Except SecretRaised (Option String)) with
  | error raised => exact recover_updating target deadline none raised document
  | ok revision =>
      apply onlyAsks_bind (restartConsumers_updating deadline target.consumers document)
      rintro ⟨failure, saved⟩
      cases failure with
      | none => trivial
      | some raised => exact recover_updating target deadline revision raised saved

theorem concludeUpdate_updating (document : SecretUpdate) :
    OnlyAsks Updating (concludeUpdate document) := by
  refine ⟨trivial, ?_⟩
  intro _
  apply onlyAsks_bind (save_updating document)
  rintro ⟨raised, saved⟩
  cases raised with
  | some raised => trivial
  | none =>
      apply onlyAsks_bind (execute_asks trivial trivial)
      rintro (raised | _ | row) <;> trivial

theorem runUpdate_updating (target : SecretTarget) (source : SecretSource)
    (document : SecretUpdate) : OnlyAsks Updating (runUpdate settings target source document) := by
  apply onlyAsks_perform
  · trivial
  intro (started : ℚ)
  exact onlyAsks_bind (applyUpdate_updating target source _ document) concludeUpdate_updating

/-- Requests of the block under the lock. -/
def Locking : SecretRequest → Prop
  | .acquire | .release | .now | .newUuid | .statement | .activeTarget _ | .create _ => True
  | _ => False

theorem claim_locking (target : SecretTarget) (sourceType actor : String) (impact : SecretImpact) :
    OnlyAsks Locking (claim target sourceType actor impact) := by
  have released {result : Except SecretRaised SecretUpdate} : OnlyAsks Locking (released result) :=
    ⟨trivial, fun _ => trivial⟩
  refine ⟨trivial, ?_⟩
  intro _
  apply onlyAsks_bind (execute_asks trivial trivial)
  rintro (raised | active)
  · exact released
  · cases (active : Bool) with
    | true => exact released
    | false =>
        refine ⟨trivial, ?_⟩
        intro now
        refine ⟨trivial, ?_⟩
        intro id
        apply onlyAsks_bind (execute_asks trivial trivial)
        rintro (raised | created)
        · exact released
        · cases (created : Except SecretRaised Unit) <;> exact released

abbrev GuardedPool := Pool GuardedState GuardedCall GuardedRequest GuardedAnswer GuardedOutcome

abbrev GuardedAction := Action GuardedCall GuardedOffer

end FortifyLab.Secrets
