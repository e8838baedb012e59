import FortifyLab.Library.Pool
import FortifyLab.Secrets.Target
import Mathlib.Data.Rat.Defs

/-! `SecretWorkflow.replace` and `cancel` over the store of updates. -/

namespace FortifyLab.Secrets

open Registry (ComponentId)
open Authorization (ActorIdentity OperationPlan ApprovalId)

/-- What the workflow asks: the file system, the authorization service, its lock, the
clocks, the store, the set of cancelled updates, the adapter and the consumers. Each
statement of the store is preceded by `statement`, which tells whether it runs. -/
inductive SecretRequest where
  | resolveExternal (path : String)
  | authorize (plan : OperationPlan) (identity : ActorIdentity) (approvalId : ApprovalId)
  | acquire
  | release
  | now
  | newUuid
  | monotonic
  | statement
  | latestState (target : String)
  | activeTarget (target : String)
  | create (document : SecretUpdate)
  | update (document : SecretUpdate)
  | get (operationId : String)
  | interruptActive (now : String)
  | serve
  | isCancelled (operationId : String)
  | addCancelled (operationId : String)
  | discardCancelled (operationId : String)
  | adapterReplace (target : SecretTarget) (source : SecretSource) (deadline : ℚ)
  | adapterRollback (target : SecretTarget) (revision : String) (deadline : ℚ)
  | restart (componentId : ComponentId) (deadline : ℚ)
  | healthy (componentId : ComponentId) (deadline : ℚ)

def SecretAnswer : SecretRequest → Type
  | .resolveExternal _ => Option String
  | .authorize _ _ _ => Except SecretRaised Unit
  | .acquire => Unit
  | .release => Unit
  | .now => String
  | .newUuid => String
  | .monotonic => ℚ
  | .statement => Except SecretRaised Unit
  | .latestState _ => String
  | .activeTarget _ => Bool
  | .create _ => Except SecretRaised Unit
  | .update _ => Unit
  | .get _ => Option SecretUpdate
  | .interruptActive _ => Unit
  | .serve => Unit
  | .isCancelled _ => Bool
  | .addCancelled _ => Unit
  | .discardCancelled _ => Unit
  | .adapterReplace _ _ _ => Except SecretRaised (Option String)
  | .adapterRollback _ _ _ => Except SecretRaised Unit
  | .restart _ _ => Except SecretRaised Unit
  | .healthy _ _ => Except SecretRaised Bool

abbrev SecretProgram := Program SecretRequest SecretAnswer

def ask (request : SecretRequest) : SecretProgram (SecretAnswer request) :=
  Program.perform request

structure WorkflowSettings where
  registry : SecretRegistry
  timeout : ℚ
  maxUpload : Nat

/-- The arguments of `replace`. -/
structure Replacement where
  componentId : ComponentId
  secretId : String
  source : SecretSource
  identity : ActorIdentity
  approvalId : ApprovalId
  sscConfirmation : Option String
  backupVerified : Bool

/-- One statement of the store; where it fails nothing changes. -/
def execute (request : SecretRequest) :
    SecretProgram (Except SecretRaised (SecretAnswer request)) := do
  match ← ask .statement with
  | .error raised => return .error raised
  | .ok _ => return .ok (← ask request)

/-- `_save`: the updated document, and what the store raised. -/
def save (document : SecretUpdate) : SecretProgram (Option SecretRaised × SecretUpdate) := do
  let now ← ask .now
  match ← execute (.update { document with updatedAt := now }) with
  | .error raised => return (some raised, { document with updatedAt := now })
  | .ok _ => return (none, { document with updatedAt := now })

variable (settings : WorkflowSettings)

/-! ## What comes before the record -/

/-- The file behind an external path. -/
def validateExternal (source : SecretSource) : SecretProgram (Except SecretRaised SecretSource) :=
  match source.value with
  | .text path => do
      match ← ask (.resolveExternal path) with
      | some resolved => return .ok ⟨"external-path", .text resolved, none⟩
      | none => return .error (.invalid
          "external secret file is outside allowed roots, unsafe, or unreadable")
  | _ => return .error (.invalid "external secret path is invalid")

/-- The checks of the other source types. -/
def checkSource (target : SecretTarget) (source : SecretSource) :
    Except SecretRaised SecretSource :=
  if source.sourceType = "upload" then
    match source.value with
    | .bytes content =>
        if 0 < content.length ∧ content.length ≤ settings.maxUpload then .ok source
        else .error (.invalid "uploaded secret has an invalid size")
    | _ => .error (.invalid "uploaded secret has an invalid size")
  else if source.sourceType = "kubernetes-secret" then
    match source.value, source.key with
    | .text name, some key =>
        if isName name && isName key then .ok source
        else .error (.invalid "Kubernetes Secret reference is invalid")
    | _, _ => .error (.invalid "Kubernetes Secret reference is invalid")
  else if source.sourceType = "generated" then
    if source.value ≠ .missing ∨ source.key ≠ none then
      .error (.invalid "generated source accepts no value")
    else if ["credential", "token", "key"].contains target.classification && !target.isSscKey then
      .ok source
    else .error (.invalid "generation is not allowed for this secret")
  else .error (.invalid "secret source type is not allowed")

/-- `_validate_source`. -/
def validateSource (target : SecretTarget) (source : SecretSource) :
    SecretProgram (Except SecretRaised SecretSource) :=
  if source.sourceType = "external-path" then validateExternal source
  else return checkSource settings target source

/-- `_current_state`. -/
def currentState (target : SecretTarget) : SecretProgram (Except SecretRaised String) := do
  match ← execute (.latestState target.identifier) with
  | .error _ => return .error (.failed "secret metadata state is unavailable")
  | .ok state => return .ok state

/-- `_authorization_plan` with the state it reads. -/
def authorizationPlan (target : SecretTarget) (sourceType state : String) : OperationPlan where
  operation := "replace-secret"
  targets := [target.identifier]
  currentState := [(target.identifier, state), ("sourceType", sourceType)]

def authorize (target : SecretTarget) (sourceType : String) (request : Replacement) :
    SecretProgram (Except SecretRaised Unit) := do
  match ← currentState target with
  | .error raised => return .error raised
  | .ok state =>
      ask (.authorize (authorizationPlan target sourceType state) request.identity
        request.approvalId)

/-! ## The record -/

def newUpdate (target : SecretTarget) (sourceType actor : String) (impact : SecretImpact)
    (now id : String) : SecretUpdate where
  id := id
  target := target.identifier
  actor := actor
  sourceType := sourceType
  state := .applying
  createdAt := now
  updatedAt := now
  impact := impact
  restartedConsumers := []
  error := none
  recovery := none

/-- The end of the block under the lock. -/
def released {α : Type} (result : Except SecretRaised α) :
    SecretProgram (Except SecretRaised α) := do
  ask .release
  return result

/-- The new record under the lock. -/
def createRecord (target : SecretTarget) (sourceType actor : String) (impact : SecretImpact) :
    SecretProgram (Except SecretRaised SecretUpdate) := do
  let now ← ask .now
  let id : String ← ask .newUuid
  let document := newUpdate target sourceType actor impact now id
  match ← execute (.create document) with
  | .error raised => released (.error raised)
  | .ok created =>
      match (created : Except SecretRaised Unit) with
      | .error raised => released (.error raised)
      | .ok _ => released (.ok document)

/-- The block under the lock: the conflict check and the new record. -/
def claim (target : SecretTarget) (sourceType actor : String) (impact : SecretImpact) :
    SecretProgram (Except SecretRaised SecretUpdate) := do
  ask .acquire
  match ← execute (.activeTarget target.identifier) with
  | .error raised => released (.error raised)
  | .ok active =>
      match (active : Bool) with
      | true => released (.error (.conflict "another update is active for this secret"))
      | false => createRecord target sourceType actor impact

/-! ## The update -/

/-- `_check_deadline`. -/
def checkDeadline (deadline : ℚ) (operationId : String) :
    SecretProgram (Option SecretRaised) := do
  let cancelled : Bool ← ask (.isCancelled operationId)
  if cancelled then return some (.failed "secret update was cancelled")
  else
    let time : ℚ ← ask .monotonic
    return if deadline ≤ time then some (.failed "secret update timed out") else none

/-- The health of a consumer that was restarted. -/
def verifyConsumer (deadline : ℚ) (consumer : ComponentId) (document : SecretUpdate) :
    SecretProgram (Option SecretRaised × SecretUpdate) := do
  let saved ← save { document with
    restartedConsumers := document.restartedConsumers ++ [consumer], state := .verifying }
  match saved.1 with
  | some raised => return (some raised, saved.2)
  | none => do
      match ← ask (.healthy consumer deadline) with
      | .error raised => return (some raised, saved.2)
      | .ok true => return (none, saved.2)
      | .ok false => return (some (.failed "consumer health verification failed"), saved.2)

def restartConsumer (deadline : ℚ) (consumer : ComponentId) (document : SecretUpdate) :
    SecretProgram (Option SecretRaised × SecretUpdate) := do
  match ← checkDeadline deadline document.id with
  | some raised => return (some raised, document)
  | none => do
      let saved ← save { document with state := .restarting }
      match saved.1 with
      | some raised => return (some raised, saved.2)
      | none => do
          match ← ask (.restart consumer deadline) with
          | .error raised => return (some raised, saved.2)
          | .ok _ => verifyConsumer deadline consumer saved.2

/-- The loop over the consumers. -/
def restartConsumers (deadline : ℚ) :
    List ComponentId → SecretUpdate → SecretProgram (Option SecretRaised × SecretUpdate)
  | [], document => return (none, document)
  | consumer :: rest, document => do
      let outcome ← restartConsumer deadline consumer document
      match outcome.1 with
      | some raised => return (some raised, outcome.2)
      | none => restartConsumers deadline rest outcome.2

/-- The inner `try` of the `except` block. -/
def rollBack (target : SecretTarget) (revision : String) (deadline : ℚ)
    (document : SecretUpdate) : SecretProgram SecretUpdate := do
  let saved ← save { document with state := .rollingBack }
  let failed : SecretUpdate := { saved.2 with
    state := .recoveryRequired
    recovery := some ("Automatic rollback failed; restore the authoritative source " ++
      "and verify every consumer") }
  match saved.1 with
  | some _ => return failed
  | none => do
      match ← ask (.adapterRollback target revision deadline) with
      | .error _ => return failed
      | .ok _ => return { saved.2 with
          state := .rolledBack
          recovery := some "Previous adapter revision restored; verify consumers" }

/-- The `except` block. An empty revision counts as none. -/
def recover (target : SecretTarget) (deadline : ℚ) (revision : Option String)
    (raised : SecretRaised) (document : SecretUpdate) : SecretProgram SecretUpdate :=
  let failed : SecretUpdate := { document with
    error := some (safeError raised)
    state := .failed
    recovery := some "Restore the authoritative source and submit a new replacement" }
  match revision with
  | none => return failed
  | some revision =>
      if revision = "" then return failed else rollBack target revision deadline failed

/-- The `try` and `except` blocks: the document that the `finally` block saves. -/
def applyUpdate (target : SecretTarget) (source : SecretSource) (deadline : ℚ)
    (document : SecretUpdate) : SecretProgram SecretUpdate := do
  match ← ask (.adapterReplace target source deadline) with
  | .error raised => recover target deadline none raised document
  | .ok revision => do
      let outcome ← restartConsumers deadline target.consumers document
      match outcome.1 with
      | some raised => recover target deadline revision raised outcome.2
      | none => return { outcome.2 with state := .succeeded }

/-- The `finally` block and the row that is returned. -/
def concludeUpdate (document : SecretUpdate) :
    SecretProgram (Except SecretRaised SecretUpdate) := do
  ask (.discardCancelled document.id)
  let saved ← save document
  match saved.1 with
  | some raised => return .error raised
  | none => do
      match ← execute (.get document.id) with
      | .error raised => return .error raised
      | .ok none => return .error (.notFound "secret update was not found")
      | .ok (some row) => return .ok row

def runUpdate (target : SecretTarget) (source : SecretSource) (document : SecretUpdate) :
    SecretProgram (Except SecretRaised SecretUpdate) := do
  let started : ℚ ← ask .monotonic
  let final ← applyUpdate target source (started + settings.timeout) document
  concludeUpdate final

/-- `replace` of an accepted source. -/
def replaceWith (target : SecretTarget) (source : SecretSource) (impact : SecretImpact)
    (request : Replacement) : SecretProgram (Except SecretRaised SecretUpdate) := do
  match ← authorize target source.sourceType request with
  | .error raised => return .error raised
  | .ok _ => do
      match ← claim target source.sourceType request.identity.actor impact with
      | .error raised => return .error raised
      | .ok document => runUpdate settings target source document

/-- `replace` of a declared target. -/
def replaceTarget (target : SecretTarget) (request : Replacement) :
    SecretProgram (Except SecretRaised SecretUpdate) := do
  match ← validateSource settings target request.source with
  | .error raised => return .error raised
  | .ok source =>
      match target.plan source.sourceType with
      | .error raised => return .error raised
      | .ok impact =>
          if target.isSscKey && (request.sscConfirmation ≠ some confirmSscKey ||
              !request.backupVerified) then
            return .error (.invalid ("SSC secret.key replacement requires verified " ++
              "persistent-data backup and typed confirmation"))
          else replaceWith settings target source impact request

/-- `replace`. -/
def replace (request : Replacement) : SecretProgram (Except SecretRaised SecretUpdate) :=
  match settings.registry.target request.componentId request.secretId with
  | .error raised => return .error raised
  | .ok target => replaceTarget settings target request

/-- `cancel`. -/
def cancel (operationId : String) (identity : ActorIdentity) :
    SecretProgram (Except SecretRaised SecretUpdate) := do
  match ← execute (.get operationId) with
  | .error raised => return .error raised
  | .ok none => return .error (.notFound "secret update was not found")
  | .ok (some document) =>
      if document.actor ≠ identity.actor then
        return .error (.invalid "authenticated actor does not own this update")
      else if [UpdateState.applying, .restarting, .verifying].contains document.state then do
        ask (.addCancelled operationId)
        return .ok document
      else return .error (.invalid "secret update is not cancellable")

/-- The constructor of the store. -/
def openStore : SecretProgram Unit := do
  let now ← ask .now
  match ← execute (.interruptActive now) with
  | .error _ => return ()
  | .ok _ => ask .serve

/-! ## The service -/

/-- The rows in the order of their creation, who has the lock, the cancelled updates, and
whether the service is there. -/
structure SecretState where
  rows : List SecretUpdate
  lock : Option Nat
  cancelled : List String
  serving : Bool

namespace SecretState

def empty : SecretState := ⟨[], none, [], false⟩

def taken (state : SecretState) (id : String) : Bool := state.rows.any (fun row => row.id = id)

/-- `create`: an id that is taken is refused. -/
def create (state : SecretState) (document : SecretUpdate) : SecretState :=
  if state.taken document.id then state else { state with rows := state.rows ++ [document] }

def createAnswer (state : SecretState) (document : SecretUpdate) : Except SecretRaised Unit :=
  if state.taken document.id then .error .other else .ok ()

def update (state : SecretState) (document : SecretUpdate) : SecretState :=
  { state with rows := state.rows.map (fun row => if row.id = document.id then document else row) }

def activeTarget (state : SecretState) (target : String) : Bool :=
  state.rows.any (fun row => row.state.active && row.target = target)

/-- The state of the newest row of a target. -/
def latestState (state : SecretState) (target : String) : String :=
  match (state.rows.filter (fun row => row.target = target)).getLast? with
  | some row => row.state.name
  | none => "unmanaged"

def interruptRow (now : String) (row : SecretUpdate) : SecretUpdate :=
  if row.state.active then { row with
    state := .interrupted
    error := some "Manager restarted before secret update completion"
    recovery := some "Inspect consumer health and submit a new replacement"
    updatedAt := now }
  else row

end SecretState

inductive Call where
  | openStore
  | replace (request : Replacement)
  | cancel (operationId : String) (identity : ActorIdentity)

def Call.outside : Call → Bool
  | .openStore => false
  | _ => true

inductive Outcome where
  | opened
  | answered (result : Except SecretRaised SecretUpdate)
  | killed

/-- The outside world's part of an answer. -/
structure Offer where
  resolved : Option String
  authorized : Except SecretRaised Unit
  now : String
  uuid : String
  monotonic : ℚ
  statement : Except SecretRaised Unit
  revision : Except SecretRaised (Option String)
  done : Except SecretRaised Unit
  healthy : Except SecretRaised Bool

/-- A lock that another thread has keeps the caller waiting. -/
def reply (state : SecretState) (offer : Offer) :
    (request : SecretRequest) → Option (SecretAnswer request)
  | .resolveExternal _ => some offer.resolved
  | .authorize _ _ _ => some offer.authorized
  | .acquire => if state.lock = none then some () else none
  | .release => some ()
  | .now => some offer.now
  | .newUuid => some offer.uuid
  | .monotonic => some offer.monotonic
  | .statement => some offer.statement
  | .latestState target => some (state.latestState target)
  | .activeTarget target => some (state.activeTarget target)
  | .create document => some (state.createAnswer document)
  | .update _ => some ()
  | .get operationId => some (state.rows.find? (fun row => row.id = operationId))
  | .interruptActive _ => some ()
  | .serve => some ()
  | .isCancelled operationId => some (decide (operationId ∈ state.cancelled))
  | .addCancelled _ => some ()
  | .discardCancelled _ => some ()
  | .adapterReplace _ _ _ => some offer.revision
  | .adapterRollback _ _ _ => some offer.done
  | .restart _ _ => some offer.done
  | .healthy _ _ => some offer.healthy

def effect (state : SecretState) (thread : Nat) : SecretRequest → SecretState
  | .acquire => { state with lock := some thread }
  | .release => { state with lock := none }
  | .create document => state.create document
  | .update document => state.update document
  | .interruptActive now => { state with rows := state.rows.map (SecretState.interruptRow now) }
  | .serve => { state with serving := true }
  | .addCancelled operationId => { state with cancelled := operationId :: state.cancelled }
  | .discardCancelled operationId =>
      { state with cancelled := state.cancelled.filter (fun other => other ≠ operationId) }
  | _ => state

def body : Call → SecretProgram Outcome
  | .openStore => do
      openStore
      return .opened
  | .replace request => do
      let result ← replace settings request
      return .answered result
  | .cancel operationId identity => do
      let result ← cancel operationId identity
      return .answered result

def workflow : Machine SecretState Call Offer SecretRequest SecretAnswer Outcome where
  body := body settings
  reply := fun state _ offer request => reply state offer request
  effect := effect
  spawned := fun _ => none
  admits := fun state call => call.outside && state.serving
  lost := fun state => { state with lock := none, cancelled := [], serving := false }
  boot := .openStore
  killed := .killed
  fresh := .empty

abbrev SecretPool := Pool SecretState Call SecretRequest SecretAnswer Outcome

abbrev SecretAction := Action Call Offer

end FortifyLab.Secrets
