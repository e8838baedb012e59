import FortifyLab.Lifecycle.Operation
import FortifyLab.Registry.DependencyOrder

/-! Planning: how the engine resolves an operation or a lab action to steps. -/

namespace FortifyLab.Lifecycle

open Registry

/-- What the engine's constructor fixes; it refuses bounds that are not positive. -/
structure Engine where
  registry : ComponentRegistry
  maxAttempts : Nat
  maxStepTimeout : ℚ
  attempts_pos : 0 < maxAttempts
  timeout_pos : 0 < maxStepTimeout

/-- The part of a preflight report that the engine reads. -/
structure PreflightReport where
  ready : Bool
  readiness : String → Bool

structure PlannedStep where
  number : Nat
  component : ComponentId
  operation : Operation
  timeoutSeconds : ℚ
  maxAttempts : Nat
  verificationChecks : List String
  recoveryClass : RecoveryClass
  deriving DecidableEq, Repr

structure PlanDocument where
  operation : Operation
  requestedTargets : List ComponentId
  components : List ComponentId
  steps : List PlannedStep
  deriving DecidableEq, Repr

structure LabPlanDocument where
  action : LabAction
  selectedComponent : Option ComponentId
  plan : PlanDocument
  automaticExpansion : List ComponentId
  estimatedDurationSeconds : ℚ
  deriving DecidableEq, Repr

/-- The components a step list works on, each once. -/
def affected (steps : List Step) : List ComponentId :=
  (steps.map Step.componentId).eraseDups

/-- `_describe_plan`. -/
def describePlan (operation : Operation) (components : List ComponentId) (steps : List Step) :
    PlanDocument where
  operation := operation
  requestedTargets := components
  components := affected steps
  steps := steps.zipIdx.map (fun (step, index) =>
    { number := index + 1
      component := step.componentId
      operation := step.operation
      timeoutSeconds := step.timeoutSeconds
      maxAttempts := step.maxAttempts
      verificationChecks := step.verify
      recoveryClass := step.recoveryClass })

def liftRegistry {α : Type} : Except RegistryError α → Except Failure α
  | .ok value => .ok value
  | .error error => .error (.registry error)

namespace Engine

variable (engine : Engine) (order : SetOrder)

/-- `_step`. Of two capabilities with one id the dictionary keeps the later. -/
def step (componentId : ComponentId) (operation : Operation) : Except Failure Step := do
  let component ← liftRegistry (engine.registry.component componentId)
  match component.operations.reverse.find? (fun item => item.id == operation.name) with
  | none => .error (.invalidOperation
      (componentId ++ " does not declare the requested operation"))
  | some capability =>
      let timeout := min (capability.timeoutSeconds : ℚ) engine.maxStepTimeout
      if timeout ≤ 0 then .error (.registry .timeoutNotBounded)
      else .ok {
        componentId := componentId
        operation := operation
        adapter := capability.adapter
        timeoutSeconds := timeout
        verify := capability.verify
        maxAttempts := if capability.idempotent then engine.maxAttempts else 1
        recoveryClass := operation.recoveryClass
        attempts_pos := by
          split
          · exact engine.attempts_pos
          · exact Nat.one_pos }

def stepsFor (operation : Operation) : List ComponentId → Except Failure (List Step)
  | [] => .ok []
  | componentId :: rest => do
      let first ← engine.step componentId operation
      let others ← stepsFor operation rest
      .ok (first :: others)

/-- `_transitive_dependencies`: the closure of the component without itself. -/
def transitiveDependencies (componentId : ComponentId) : Except Failure (List ComponentId) := do
  let ordered ← liftRegistry (engine.registry.dependencyOrder order [componentId])
  .ok (ordered.filter (fun other => decide (other ≠ componentId)))

/-- The components outside the selection that need one of its members. -/
def missingConsumers (selected : List ComponentId) :
    List ComponentId → Except Failure (List ComponentId)
  | [] => .ok []
  | componentId :: rest =>
      if componentId ∈ selected then missingConsumers selected rest
      else do
        let needs ← engine.transitiveDependencies order componentId
        let others ← missingConsumers selected rest
        .ok (if needs.any (fun other => decide (other ∈ selected)) then componentId :: others
          else others)

/-- `_ordered_steps`. -/
def orderedSteps (operation : Operation) (requested : List ComponentId)
    (includeDependencies : Bool) : Except Failure (List Step) :=
  if includeDependencies then do
    let ordered ← liftRegistry (engine.registry.dependencyOrder order requested)
    engine.stepsFor operation ordered
  else do
    let missing ← engine.missingConsumers order requested engine.registry.componentIds
    if missing ≠ [] then .error .dependencyBlocked
    else do
      let ordered ← liftRegistry (engine.registry.dependencyOrder order requested)
      engine.stepsFor operation
        (ordered.reverse.filter (fun item => decide (item ∈ requested)))

/-- The loop that resolves every requested component before planning. -/
def requireDeclared : List ComponentId → Except Failure Unit
  | [] => .ok ()
  | componentId :: rest => do
      let _ ← liftRegistry (engine.registry.component componentId)
      requireDeclared rest

/-- `_plan`. -/
def planSteps (operation : Operation) (requested : List ComponentId) :
    Except Failure (List Step) := do
  engine.requireDeclared requested
  if operation = .restart then do
    let stop ← engine.orderedSteps order .stop requested false
    let start ← engine.orderedSteps order .start requested true
    .ok (stop ++ start)
  else engine.orderedSteps order operation requested (decide (operation ∈ startOperations))

/-- `plan`. -/
def plan (operation : String) (componentIds : List ComponentId) :
    Except Failure PlanDocument :=
  match requestOperation operation with
  | none => .error (.invalidOperation "operation is not an allowed lifecycle action")
  | some operation =>
      let components := componentIds.eraseDups
      if components = [] ∨ ¬ components.all isIdentifier then
        .error (.invalidOperation "components are required")
      else do
        let steps ← engine.planSteps order operation components
        .ok (describePlan operation components steps)

/-- The candidates whose transitive dependencies hold the component. -/
def consumersOf (componentId : ComponentId) :
    List ComponentId → Except Failure (List ComponentId)
  | [] => .ok []
  | candidate :: rest => do
      let needs ← engine.transitiveDependencies order candidate
      let others ← consumersOf componentId rest
      .ok (if componentId ∈ needs then candidate :: others else others)

/-- The first part of `_lab_steps`: what the action was asked for. -/
def labRequested (componentId : Option ComponentId) : Except Failure (List ComponentId) :=
  match componentId with
  | none => liftRegistry (engine.registry.dependencyOrder order [])
  | some componentId =>
      if ¬ isIdentifier componentId then
        .error (.invalidOperation "selected component is invalid")
      else do
        let _ ← liftRegistry (engine.registry.component componentId)
        .ok [componentId]

/-- `_lab_steps`. -/
def labSteps (action : String) (componentId : Option ComponentId) :
    Except Failure (Operation × List ComponentId × List Step) :=
  match labAction action with
  | none => .error (.invalidOperation "lab action is not supported")
  | some action => do
      let requested ← engine.labRequested order componentId
      match action with
      | .suspend => do
          let consumers ← match componentId with
            | none => .ok []
            | some componentId =>
                engine.consumersOf order componentId engine.registry.componentIds
          let ordered ← liftRegistry (engine.registry.dependencyOrder order [])
          let steps ← engine.stepsFor action.operation (ordered.reverse.filter
            (fun item => decide (item ∈ requested ++ consumers)))
          .ok (action.operation, requested, steps)
      | _ => do
          let steps ← engine.orderedSteps order action.operation requested true
          .ok (action.operation, requested, steps)

end Engine

/-- `_require_action_ready`; no report stands for a missing or failing provider. -/
def requireActionReady (report : Option PreflightReport) (action : String) :
    Except Failure Unit :=
  match report with
  | none => .error (.preflightBlocked "selected action readiness is unavailable")
  | some report =>
      if report.readiness (if action = "deploy" then "deployment" else action) then .ok ()
      else .error (.preflightBlocked "selected action has blocking prerequisites")

/-- `lab_plan`. -/
def Engine.labPlan (engine : Engine) (order : SetOrder) (report : Option PreflightReport)
    (action : String) (componentId : Option ComponentId) : Except Failure LabPlanDocument := do
  requireActionReady report action
  let (operation, requested, steps) ← engine.labSteps order action componentId
  match labAction action with
  | none => .error (.invalidOperation "lab action is not supported")
  | some action =>
      let plan := describePlan operation requested steps
      .ok {
        action := action
        selectedComponent := componentId
        plan := plan
        automaticExpansion := plan.components.filter (fun item => decide (item ∉ requested))
        estimatedDurationSeconds := (steps.map Step.timeoutSeconds).sum }

end FortifyLab.Lifecycle
