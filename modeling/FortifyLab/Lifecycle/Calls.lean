import FortifyLab.Authorization.Service
import FortifyLab.Lifecycle.Run

/-! The calls of the operation engine, statement by statement, and the constructor
of its store. -/

namespace FortifyLab.Lifecycle

open Registry Authorization

/-- What the constructor of the engine fixes. A provider may be missing. -/
structure Settings where
  engine : Engine
  profileId : String
  authorization : Option AuthorizationService
  stateProvider : Bool
  preflightProvider : Bool
  footprintProvider : Bool

/-- Who calls, and with which approval. -/
structure Caller where
  actor : String
  identity : Option ActorIdentity
  approvalId : Option ApprovalId

/-- `OperationStore.get`. -/
def storedOperation (operationId : OperationId) : Attempt Document := do
  match ← ask (.getRow operationId) with
  | some document => return document
  | none => throw (.operation .operationNotFound "operation was not found")

variable (settings : Settings)

/-- The part of `_prepare_steps` that asks the authorization service. -/
def authorizeSteps (operation : Operation) (components : List ComponentId) (caller : Caller) :
    Attempt Unit :=
  match settings.authorization, caller.identity with
  | none, _ => return ()
  | some _, none => throw (.invalidOperation
      "authenticated identity and current-state provider are required")
  | some service, some identity =>
      if identity.actor ≠ caller.actor ∨ settings.stateProvider = false then
        throw (.invalidOperation
          "authenticated identity and current-state provider are required")
      else do
        match ← ask (.currentState components) with
        | none => throw (.operation .operationFailed "current target state is unavailable")
        | some currentState =>
            service.authorize ⟨operation.name, components, currentState⟩ identity
              caller.approvalId (some components)

/-- The document of a newly accepted operation. -/
def queuedDocument (id : OperationId) (now : Timestamp) (operation : Operation)
    (requested : List ComponentId) (steps : List Step) (actor : String)
    (retryOf : Option OperationId) (workflow : Option Workflow) (boundary : RecoveryClass) :
    Document where
  id := id
  operation := operation
  components := affected steps
  requestedTargets := requested
  actor := actor
  state := .queued
  createdAt := now
  updatedAt := now
  currentStep := none
  completedSteps := 0
  totalSteps := steps.length
  retryOf := retryOf
  error := none
  recovery := { required := false, boundary := boundary, nextAction := none }
  workflow := workflow
  profileId := if workflow.isSome then some settings.profileId else none
  labAction := none
  selectedComponent := none

/-- `_prepare_steps`. -/
def prepareSteps (operation : Operation) (requested : List ComponentId) (steps : List Step)
    (caller : Caller) (retryOf : Option OperationId) (workflow : Option Workflow) :
    Attempt Document := withLock do
  let active ← ask .activeComponents
  if (affected steps).any (fun item => decide (item ∈ active)) then
    throw (.operation .operationConflict
      "another operation is active for an affected component")
  else do
    authorizeSteps settings operation (affected steps) caller
    let now ← ask .now
    let id ← ask .newId
    match planRecoveryBoundary steps with
    | none => throw .emptySequence
    | some boundary => do
        let document := queuedDocument settings id now operation requested steps caller.actor
          retryOf workflow boundary
        if ← ask (.createRow document) then return document
        else throw .integrityError

/-- `_prepare`: the document and the steps. -/
def prepare (order : SetOrder) (operation : String) (componentIds : List ComponentId)
    (caller : Caller) (retryOf : Option OperationId) (workflow : Option Workflow) :
    Attempt (Document × List Step) :=
  match requestOperation operation with
  | none => throw (.invalidOperation "operation is not an allowed lifecycle action")
  | some operation =>
      let components := componentIds.eraseDups
      if components = [] ∨ ¬ components.all isIdentifier ∨ caller.actor = "" ∨
          128 < caller.actor.length then
        throw (.invalidOperation "components and actor are required")
      else do
        let steps ← lift (settings.engine.planSteps order operation components)
        let document ← prepareSteps settings operation components steps caller retryOf workflow
        return (document, steps)

def submit (order : SetOrder) (operation : String) (componentIds : List ComponentId)
    (caller : Caller) (retryOf : Option OperationId) : Attempt Document := do
  let (document, steps) ← prepare settings order operation componentIds caller retryOf none
  run document steps
  storedOperation document.id

def submitAsync (order : SetOrder) (operation : String) (componentIds : List ComponentId)
    (caller : Caller) (retryOf : Option OperationId) : Attempt Document := do
  let (document, steps) ← prepare settings order operation componentIds caller retryOf none
  startWorker document steps
  storedOperation document.id

/-- What `clean_install_plan` observes: the preflight report, the components that
are not absent, and the requested targets of the plan. -/
def cleanInstallPlan (order : SetOrder) :
    Attempt (PreflightReport × List ComponentId × List ComponentId) :=
  if settings.preflightProvider = false ∨ settings.footprintProvider = false then
    throw (.preflightBlocked "clean-install observation is unavailable")
  else do
    let components ← lift (liftRegistry (settings.engine.registry.dependencyOrder order []))
    match ← ask .preflight with
    | none => throw (.preflightBlocked "clean-install evidence is unavailable")
    | some preflight => do
        match ← ask (.footprint components) with
        | none => throw (.preflightBlocked "clean-install evidence is unavailable")
        | some footprint =>
            if ¬ (footprint.map Prod.fst ⊆ components ∧ components ⊆ footprint.map Prod.fst) then
              throw (.preflightBlocked "clean-install footprint evidence is incomplete")
            else do
              let existing := (footprint.filter (fun item => decide (item.2 ≠ "absent"))).map Prod.fst
              let plan ← lift (settings.engine.plan order "install" components)
              return (preflight, existing, plan.requestedTargets)

def submitCleanInstallAsync (order : SetOrder) (actor : String)
    (identity : Option ActorIdentity) : Attempt Document := do
  let (preflight, existing, requested) ← cleanInstallPlan settings order
  if preflight.ready = false then
    throw (.preflightBlocked "deployment preflight has blocking checks")
  else if existing ≠ [] then
    throw (.operation .existingInstallation
      "existing installation or retained data requires operator review")
  else do
    let (document, steps) ← prepare settings order "install" requested ⟨actor, identity, none⟩ none
      (some .cleanInstall)
    startWorker document steps
    storedOperation document.id

/-- `_require_action_ready`; a missing provider and a failing one are refused alike. -/
def checkActionReady (action : String) : Attempt Unit :=
  if settings.preflightProvider then do
    let report ← ask .preflight
    lift (requireActionReady report action)
  else lift (requireActionReady none action)

/-- One `step-resumed` event for every step of the list. -/
def recordResumed (operationId : OperationId) : List Step → Act Unit
  | [] => return ()
  | step :: rest => do
      let now ← ask .now
      ask (.addEvent operationId (.stepResumed step.componentId step.operation now))
      recordResumed operationId rest

def submitLabAsync (order : SetOrder) (action : String) (componentId : Option ComponentId)
    (caller : Caller) (retryOf : Option OperationId) : Attempt Document := do
  checkActionReady settings action
  let (operation, requested, steps) ← lift (settings.engine.labSteps order action componentId)
  match labAction action with
  | none => throw (.invalidOperation "lab action is not supported")
  | some action => do
      let document ← prepareSteps settings operation requested steps caller retryOf
        (some (.lab action))
      let document := { document with labAction := some action, selectedComponent := componentId }
      match retryOf with
      | none => do
          ask (.updateRow document)
          startWorker document steps
          storedOperation document.id
      | some parent => do
          let completed := completedKeys (← ask (.listEvents parent))
          let remaining := remainingSteps steps completed
          let document := { document with completedSteps := steps.length - remaining.length }
          recordResumed document.id (resumedSteps steps completed)
          ask (.updateRow document)
          startWorker document remaining
          storedOperation document.id

/-- The check both retries start with. -/
def retryable (operationId : OperationId) : Attempt Document := do
  let previous ← storedOperation operationId
  if previous.state.retryable then return previous
  else throw (.invalidOperation "only a failed, timed-out, or interrupted operation can retry")

def retry (order : SetOrder) (operationId : OperationId) (caller : Caller) :
    Attempt Document := do
  let previous ← retryable operationId
  submit settings order previous.operation.name previous.requestedTargets caller (some operationId)

/-- The clean-install part of `retry_async`. -/
def retryCleanInstall (order : SetOrder) (operationId : OperationId) (previous : Document)
    (caller : Caller) : Attempt Document :=
  if settings.preflightProvider = false then
    throw (.preflightBlocked "clean-install preflight is unavailable")
  else do
    match ← ask .preflight with
    | none => throw (.preflightBlocked "clean-install preflight is unavailable")
    | some preflight =>
        if preflight.ready = false then
          throw (.preflightBlocked "deployment preflight has blocking checks")
        else do
          let completed := completedKeys (← ask (.listEvents operationId))
          let (document, steps) ← prepare settings order previous.operation.name
            previous.requestedTargets caller (some operationId) (some .cleanInstall)
          let remaining := remainingSteps steps completed
          let document := { document with completedSteps := steps.length - remaining.length }
          ask (.updateRow document)
          recordResumed document.id (resumedSteps steps completed)
          startWorker document remaining
          storedOperation document.id

def retryAsync (order : SetOrder) (operationId : OperationId) (caller : Caller) :
    Attempt Document := do
  let previous ← retryable operationId
  match previous.workflow with
  | some (.lab _) =>
      match previous.labAction with
      | none => throw (.missingKey "labAction")
      | some action =>
          submitLabAsync settings order action.name previous.selectedComponent caller
            (some operationId)
  | some .cleanInstall => retryCleanInstall settings order operationId previous caller
  | none =>
      submitAsync settings order previous.operation.name previous.requestedTargets caller
        (some operationId)

def cancel (operationId : OperationId) (actor : String) (identity : Option ActorIdentity) :
    Attempt Document :=
  if actor = "" then throw (.invalidOperation "actor is required")
  else if settings.authorization.isSome ∧ identity.map ActorIdentity.actor ≠ some actor then
    throw (.invalidOperation "authenticated identity is required")
  else withLock do
    let document ← storedOperation operationId
    if document.state.terminal then return document
    else do
      ask (.addCancelled operationId)
      let now ← ask .now
      let document := { document with state := .cancelling, updatedAt := now }
      ask (.updateRow document)
      ask (.addEvent operationId (.cancellationRequested actor now))
      return document

/-- The loop of the store's constructor over the interrupted rows. -/
def recoverRows : List Document → Act Unit
  | [] => return ()
  | document :: rest =>
      if document.recovery.required then recoverRows rest
      else do
        let document := document.setInterruptedRecovery
        ask (.updatePayload document)
        ask (.addEvent document.id (.managerRestarted document.updatedAt))
        recoverRows rest

/-- `OperationStore.__init__` on an existing database; calls are served after it. -/
def openStore : Act Unit := do
  let now ← ask .now
  ask (.interruptActive now)
  recoverRows (← ask .interruptedRows)
  ask .serve

end FortifyLab.Lifecycle
