import FortifyLab.Library.Trace
import FortifyLab.Lifecycle.CanonicalPlans
import FortifyLab.Lifecycle.Conformance
import FortifyLab.Lifecycle.Consented
import FortifyLab.Lifecycle.PlanViews

/-! The recovery boundary an operator is shown and the one the operation records. -/

namespace FortifyLab.Lifecycle

open Registry DependencyGraph Authorization Program

/-! ## The classes of a plan's steps -/

section Classes

variable {engine : Engine} {order : SetOrder}

theorem step_class {componentId : ComponentId} {operation : Operation} {step : Step}
    (resolved : engine.step componentId operation = .ok step) :
    step.recoveryClass = operation.recoveryClass := by
  simp only [Engine.step, bind_eq_ok] at resolved
  obtain ⟨component, _, rest⟩ := resolved
  split at rest
  · cases rest
  · split at rest
    · cases rest
    · cases rest
      rfl

theorem stepsFor_class {operation : Operation} {componentIds : List ComponentId}
    {steps : List Step} (resolved : engine.stepsFor operation componentIds = .ok steps) :
    ∀ step ∈ steps, step.recoveryClass = operation.recoveryClass := by
  intro step member
  have found := ((stepsFor_spec resolved).2 step).mp member
  exact step_class found.2

theorem orderedSteps_class {operation : Operation} {requested : List ComponentId}
    {includeDependencies : Bool} {steps : List Step}
    (planned : engine.orderedSteps order operation requested includeDependencies = .ok steps) :
    ∀ step ∈ steps, step.recoveryClass = operation.recoveryClass := by
  obtain ⟨_, ordered, _, resolved⟩ := orderedSteps_eq_ok.mp planned
  exact stepsFor_class resolved

theorem planSteps_class {operation : Operation} {requested : List ComponentId}
    {steps : List Step} (planned : engine.planSteps order operation requested = .ok steps) :
    ∀ step ∈ steps, step.recoveryClass = operation.recoveryClass := by
  obtain ⟨_, ⟨rfl, stop, start, stopped, started, rfl⟩ | ⟨_, whole⟩⟩ := planSteps_eq_ok planned
  · intro step member
    rcases List.mem_append.mp member with stops | starts
    · exact orderedSteps_class stopped step stops
    · exact orderedSteps_class started step starts
  · exact orderedSteps_class whole

theorem labSteps_class {name : String} {component : Option ComponentId}
    {operation : Operation} {requested : List ComponentId} {steps : List Step}
    (planned : engine.labSteps order name component = .ok (operation, requested, steps)) :
    ∃ action, labAction name = some action ∧ operation = action.operation ∧
      ∀ step ∈ steps, step.recoveryClass = operation.recoveryClass := by
  unfold Engine.labSteps at planned
  split at planned
  · cases planned
  · next action known =>
    simp only [bind_eq_ok] at planned
    obtain ⟨asked, _, rest⟩ := planned
    refine ⟨action, known, ?_⟩
    cases action with
    | suspend =>
        cases component <;> simp only [bind_eq_ok, Except.ok.injEq, Prod.mk.injEq] at rest
        all_goals
          obtain ⟨consumers, _, ordered, _, stops, resolved, rfl, _, rfl⟩ := rest
          exact ⟨rfl, stepsFor_class resolved⟩
    | deploy =>
        simp only [bind_eq_ok, Except.ok.injEq, Prod.mk.injEq] at rest
        obtain ⟨installs, resolved, rfl, _, rfl⟩ := rest
        exact ⟨rfl, orderedSteps_class resolved⟩
    | start =>
        simp only [bind_eq_ok, Except.ok.injEq, Prod.mk.injEq] at rest
        obtain ⟨starts, resolved, rfl, _, rfl⟩ := rest
        exact ⟨rfl, orderedSteps_class resolved⟩

/-- Every component asked for is worked on. -/
theorem orderedSteps_covers {operation : Operation} {requested : List ComponentId}
    {includeDependencies : Bool} {steps : List Step}
    (planned : engine.orderedSteps order operation requested includeDependencies = .ok steps)
    {componentId : ComponentId} (asked : componentId ∈ requested) :
    componentId ∈ steps.map Step.componentId := by
  obtain ⟨_, ordered, run, resolved⟩ := orderedSteps_eq_ok.mp planned
  have inside : componentId ∈ ordered := by
    rw [ComponentRegistry.dependencyOrder_mem run]
    apply Closure.of_mem
    simpa [ComponentRegistry.selection, List.ne_nil_of_mem asked] using asked
  rw [(stepsFor_spec resolved).1]
  unfold phaseComponents
  split
  · exact inside
  · simp [inside, asked]

theorem planSteps_covers {operation : Operation} {requested : List ComponentId}
    {steps : List Step} (planned : engine.planSteps order operation requested = .ok steps)
    {componentId : ComponentId} (asked : componentId ∈ requested) :
    componentId ∈ steps.map Step.componentId := by
  obtain ⟨_, ⟨rfl, stop, start, stopped, started, rfl⟩ | ⟨_, whole⟩⟩ := planSteps_eq_ok planned
  · rw [List.map_append, List.mem_append]
    exact .inl (orderedSteps_covers stopped asked)
  · exact orderedSteps_covers whole asked

/-- What a lab action was asked for, and that it is declared. -/
theorem labRequested_spec (populated : engine.registry.componentIds ≠ [])
    {component : Option ComponentId} {requested : List ComponentId}
    (asked : engine.labRequested order component = .ok requested) :
    ∃ componentId ∈ requested, componentId ∈ engine.registry.componentIds := by
  unfold Engine.labRequested at asked
  split at asked
  · rw [liftRegistry_eq_ok] at asked
    obtain ⟨componentId, member⟩ := List.exists_mem_of_ne_nil _ populated
    refine ⟨componentId, ?_, member⟩
    rw [ComponentRegistry.dependencyOrder_mem asked]
    exact Closure.of_mem member
  · next componentId =>
    split at asked
    · cases asked
    · simp only [bind_eq_ok, liftRegistry_eq_ok, Except.ok.injEq] at asked
      obtain ⟨entry, found, rfl⟩ := asked
      exact ⟨componentId, by simp, engine.registry.component_declared found⟩

theorem labSteps_ne_nil (populated : engine.registry.componentIds ≠ []) {name : String}
    {component : Option ComponentId} {operation : Operation} {requested : List ComponentId}
    {steps : List Step}
    (planned : engine.labSteps order name component = .ok (operation, requested, steps)) :
    steps ≠ [] := by
  unfold Engine.labSteps at planned
  split at planned
  · cases planned
  · next action known =>
    simp only [bind_eq_ok] at planned
    obtain ⟨asked, chosen, rest⟩ := planned
    obtain ⟨componentId, member, declared⟩ := labRequested_spec populated chosen
    suffices covered : componentId ∈ steps.map Step.componentId by
      rintro rfl
      cases covered
    cases action with
    | suspend =>
        cases component <;>
          simp only [bind_eq_ok, liftRegistry_eq_ok, Except.ok.injEq, Prod.mk.injEq] at rest
        all_goals
          obtain ⟨consumers, _, ordered, run, stops, resolved, _, _, rfl⟩ := rest
          have inside : componentId ∈ ordered := by
            rw [ComponentRegistry.dependencyOrder_mem run]
            exact Closure.of_mem declared
          rw [(stepsFor_spec resolved).1]
          simp [inside, member]
    | deploy =>
        simp only [bind_eq_ok, Except.ok.injEq, Prod.mk.injEq] at rest
        obtain ⟨installs, resolved, _, _, rfl⟩ := rest
        exact orderedSteps_covers resolved member
    | start =>
        simp only [bind_eq_ok, Except.ok.injEq, Prod.mk.injEq] at rest
        obtain ⟨starts, resolved, _, _, rfl⟩ := rest
        exact orderedSteps_covers resolved member

/-- Steps of one class have that class as their strictest. -/
theorem strictestClass_uniform {classes : List RecoveryClass} {recoveryClass : RecoveryClass}
    (uniform : ∀ other ∈ classes, other = recoveryClass) :
    strictestClass classes = none ∧ classes = [] ∨ strictestClass classes = some recoveryClass := by
  induction classes using List.reverseRecOn with
  | nil => exact .inl ⟨rfl, rfl⟩
  | append_singleton front last ih =>
      right
      have same : last = recoveryClass := uniform last (by simp)
      have before := ih (fun other member => uniform other (by simp [member]))
      simp only [strictestClass, List.foldl_append, List.foldl_cons, List.foldl_nil] at before ⊢
      rcases before with ⟨none, _⟩ | found
      · rw [none, same]
      · simp [found, same]

end Classes

/-! ## What is shown and what is recorded -/

inductive Surface where
  | web | telegram
  deriving DecidableEq, Repr

/-- What an operator may ask a plan for, and then submit. -/
inductive PlanRequest where
  | lifecycle (operation : String) (components : List ComponentId)
  | lab (action : String) (component : Option ComponentId)

def PlanRequest.operation : PlanRequest → Option Operation
  | .lifecycle name _ => requestOperation name
  | .lab name _ => (labAction name).map LabAction.operation

/-- The steps that planning may resolve a request to. -/
inductive Plans (engine : Engine) : PlanRequest → List Step → Prop
  | lifecycle {order : SetOrder} {name : String} {components : List ComponentId}
      {operation : Operation} {steps : List Step} (named : requestOperation name = some operation)
      (asked : components ≠ [])
      (planned : engine.planSteps order operation components.eraseDups = .ok steps) :
      Plans engine (.lifecycle name components) steps
  | lab {order : SetOrder} {name : String} {component : Option ComponentId}
      {operation : Operation} {requested : List ComponentId} {steps : List Step}
      (planned : engine.labSteps order name component = .ok (operation, requested, steps)) :
      Plans engine (.lab name component) steps

/-- The class of some step, and no step has a stricter one. -/
structure Strictest (steps : List Step) (recoveryClass : RecoveryClass) : Prop where
  reached : ∃ step ∈ steps, step.recoveryClass = recoveryClass
  bounds : ∀ step ∈ steps, step.recoveryClass.precedence ≤ recoveryClass.precedence

variable (settings : Settings) (service : RemoteActionService)

/-- Some run of a surface's plan for the request shows this boundary. -/
inductive Shows : Surface → PlanRequest → RecoveryClass → Prop
  | webPlan {order : SetOrder} {operation : String} {components : List ComponentId}
      {exchanges : List (Exchange Request Answer)} {view : LifecyclePlanView}
      (run : Reaches (WebOperationAPI.plan settings order operation components).run exchanges
        (.done (.ok view))) :
      Shows .web (.lifecycle operation components) view.recoveryBoundary
  | webLabPlan {order : SetOrder} {fields : List String} {action : String}
      {component : Option ComponentId} {exchanges : List (Exchange Request Answer)}
      {view : LabPlanView}
      (run : Reaches (WebOperationAPI.labPlan settings order fields action component).run exchanges
        (.done (.ok view))) :
      Shows .web (.lab action component) view.recoveryBoundary
  | telegramPlan {order : SetOrder} {operation : String} {targets : List ComponentId}
      {identity : ActorIdentity} {exchanges : List (Exchange RemoteRequest RemoteAnswer)}
      {rest : RemoteAct (Except ViewFailure RemoteMessage)} {snapshot : PlanSnapshot} {saved : Bool}
      (run : Reaches (service.lifecyclePlan settings order operation targets identity).run exchanges
        rest)
      (saves : ⟨.savePlan snapshot, saved⟩ ∈ exchanges) :
      Shows .telegram (.lifecycle operation targets) snapshot.recoveryClass
  | telegramLabPlan {order : SetOrder} {action : String} {component : Option ComponentId}
      {identity : ActorIdentity} {exchanges : List (Exchange RemoteRequest RemoteAnswer)}
      {rest : RemoteAct (Except ViewFailure RemoteMessage)} {snapshot : PlanSnapshot} {saved : Bool}
      (run : Reaches (service.labPlan settings order action component identity).run exchanges rest)
      (saves : ⟨.savePlan snapshot, saved⟩ ∈ exchanges) :
      Shows .telegram (.lab action component) snapshot.recoveryClass

/-- The calls that submit a request; the last one is the approval of a lab plan that
was sent through Telegram. -/
inductive Submits : PlanRequest → Attempt Document → Prop
  | blocking (order : SetOrder) (operation : String) (components : List ComponentId)
      (caller : Caller) (retryOf : Option OperationId) :
      Submits (.lifecycle operation components)
        (submit settings order operation components caller retryOf)
  | queued (order : SetOrder) (operation : String) (components : List ComponentId)
      (caller : Caller) (retryOf : Option OperationId) :
      Submits (.lifecycle operation components)
        (submitAsync settings order operation components caller retryOf)
  | lab (order : SetOrder) (action : String) (component : Option ComponentId) (caller : Caller)
      (retryOf : Option OperationId) :
      Submits (.lab action component)
        (submitLabAsync settings order action component caller retryOf)
  | approved {order : SetOrder} {report : Option PreflightReport} {action : String}
      {component : Option ComponentId} {plan : LabPlanDocument}
      (planned : settings.engine.labPlan order report action component = .ok plan)
      (again : SetOrder) (caller : Caller) :
      Submits (.lab action component)
        (submitAsync settings again plan.plan.operation.name plan.plan.components caller none)

/-- Some submission of the request creates an operation that records this boundary. -/
inductive RecordsBoundary : PlanRequest → RecoveryClass → Prop
  | created {request : PlanRequest} {call : Attempt Document}
      {exchanges : List (Exchange Request Answer)} {rest : Act (Except Failure Document)}
      {document : Document} (submits : Submits settings request call)
      (run : Reaches call.run exchanges rest) (created : ⟨.createRow document, true⟩ ∈ exchanges) :
      RecordsBoundary request document.recovery.boundary

variable {settings service} {order : SetOrder}

theorem Plans.ne_nil {request : PlanRequest} {steps : List Step}
    (populated : settings.engine.registry.componentIds ≠ [])
    (plans : Plans settings.engine request steps) : steps ≠ [] := by
  cases plans with
  | lifecycle named asked planned =>
      obtain ⟨componentId, member⟩ := List.exists_mem_of_ne_nil _ asked
      have covered := planSteps_covers planned (List.mem_eraseDups.mpr member)
      rintro rfl
      cases covered
  | lab planned => exact labSteps_ne_nil populated planned

theorem Plans.classes {request : PlanRequest} {steps : List Step}
    (plans : Plans settings.engine request steps) :
    ∃ operation, request.operation = some operation ∧
      ∀ step ∈ steps, step.recoveryClass = operation.recoveryClass := by
  cases plans with
  | lifecycle named asked planned => exact ⟨_, named, planSteps_class planned⟩
  | lab planned =>
      obtain ⟨action, known, rfl, classes⟩ := labSteps_class planned
      exact ⟨action.operation, by simp [PlanRequest.operation, known], classes⟩

/-- Where every step has the class of the operation, it is the strictest. -/
theorem Plans.strictest {request : PlanRequest} {steps : List Step}
    (populated : settings.engine.registry.componentIds ≠ [])
    (plans : Plans settings.engine request steps) {operation : Operation}
    (named : request.operation = some operation) : Strictest steps operation.recoveryClass := by
  obtain ⟨other, same, classes⟩ := plans.classes
  rw [named] at same
  cases same
  obtain ⟨step, member⟩ := List.exists_mem_of_ne_nil _ (plans.ne_nil populated)
  exact ⟨⟨step, member, classes step member⟩, fun step member => by rw [classes step member]⟩

/-! ## What the views show -/

theorem describePlan_classes (operation : Operation) (components : List ComponentId)
    (steps : List Step) :
    (describePlan operation components steps).steps.map PlannedStep.recoveryClass =
      steps.map Step.recoveryClass := by
  simp only [describePlan, List.map_map]
  calc
    _ = steps.zipIdx.map (Step.recoveryClass ∘ Prod.fst) := rfl
    _ = (steps.zipIdx.map Prod.fst).map Step.recoveryClass := by rw [List.map_map]
    _ = steps.map Step.recoveryClass := by rw [List.zipIdx_map_fst]

/-- The strictest class of a plan document is the class of its operation. -/
theorem plan_class {name : String} {components : List ComponentId} {document : PlanDocument}
    {recoveryClass : RecoveryClass}
    (made : settings.engine.plan order name components = .ok document)
    (strictest : strictestClass (document.steps.map PlannedStep.recoveryClass) =
      some recoveryClass) :
    requestOperation name = some document.operation ∧
      recoveryClass = document.operation.recoveryClass := by
  obtain ⟨operation, steps, named, _, planned, rfl⟩ := plan_eq_ok made
  refine ⟨named, ?_⟩
  rw [describePlan_classes] at strictest
  have uniform : ∀ other ∈ steps.map Step.recoveryClass, other = operation.recoveryClass := by
    simpa using planSteps_class planned
  rcases strictestClass_uniform uniform with ⟨none, _⟩ | found
  · rw [none] at strictest
    cases strictest
  · rw [found] at strictest
    exact (Option.some.inj strictest).symm

/-- A call of the manager inside a view, followed by the rest of the view. -/
theorem ends_attempt {α β : Type} (holds : α → Prop) {attempt : Attempt α} {rest : α → View β}
    {post : List (Exchange Request Answer) → Except ViewFailure β → Prop}
    (first : Ends (fun _ result => ∀ value, result = .ok value → holds value) attempt.run)
    (next : ∀ early value, holds value → Ends (fun late => post (early ++ late)) (rest value).run)
    (raises : ∀ exchanges failure, post exchanges (.error failure)) :
    Ends post (View.attempt attempt >>= rest).run := by
  have mapped : Ends (fun _ result => ∀ value, result = .ok value → holds value)
      (View.attempt attempt).run := by
    refine ends_bind first ?_
    intro early result outcome
    cases result with
    | error error => exact ends_done nofun
    | ok value =>
        apply ends_done
        rintro other same
        cases same
        exact outcome value rfl
  refine ends_bind mapped ?_
  intro early result outcome
  cases result with
  | error failure => exact ends_done (raises _ failure)
  | ok value => exact next early value (outcome value rfl)

theorem error_shows {α : Type} {failure : ViewFailure} {holds : α → Prop} (view : α)
    (shown : (.error failure : Except ViewFailure α) = .ok view) : holds view := by
  cases shown

theorem ends_any {α : Type} {program : Act α} : Ends (fun _ _ => True) program :=
  fun _ _ _ => trivial

theorem webPlan_shows (name : String) (components : List ComponentId) :
    Ends (fun _ result => ∀ view, result = .ok view → ∃ operation,
        requestOperation name = some operation ∧
          view.recoveryBoundary = operation.recoveryClass)
      (WebOperationAPI.plan settings order name components).run := by
  unfold WebOperationAPI.plan
  cases made : settings.engine.plan order name components with
  | error error => exact ends_done error_shows
  | ok document =>
      apply ends_perform
      intro current
      cases current with
      | none => exact ends_done error_shows
      | some current =>
          refine ends_attempt (fun _ => True) (ends_any.mono (fun _ _ _ _ _ => trivial)) ?_
            (fun _ _ => error_shows)
          intro early risk _
          cases strictest : strictestClass (document.steps.map PlannedStep.recoveryClass) with
          | none => exact ends_done error_shows
          | some recoveryClass =>
              apply ends_done
              rintro view shown
              cases shown
              exact ⟨document.operation, plan_class made strictest⟩

theorem engineLabPlan_ends (name : String) (component : Option ComponentId) :
    Ends (fun _ result => ∀ plan, result = .ok plan → ∃ report,
        settings.engine.labPlan order report name component = .ok plan)
      (WebOperationAPI.engineLabPlan settings order name component).run := by
  unfold WebOperationAPI.engineLabPlan
  split
  · apply ends_perform
    intro report
    exact ends_done (fun plan made => ⟨report, made⟩)
  · exact ends_done (fun plan made => ⟨none, made⟩)

theorem labPlan_operation {report : Option PreflightReport} {name : String}
    {component : Option ComponentId} {document : LabPlanDocument}
    (made : settings.engine.labPlan order report name component = .ok document) :
    ∃ action, labAction name = some action ∧ document.plan.operation = action.operation := by
  simp only [Engine.labPlan, bind_eq_ok] at made
  obtain ⟨_, _, ⟨operation, requested, steps⟩, planned, rest⟩ := made
  obtain ⟨action, known, rfl, _⟩ := labSteps_class planned
  simp only [known, Except.ok.injEq] at rest
  exact ⟨action, known, by rw [← rest]; rfl⟩

theorem webLabPlan_shows (fields : List String) (name : String)
    (component : Option ComponentId) :
    Ends (fun _ result => ∀ view, result = .ok view → ∃ action,
        labAction name = some action ∧ view.recoveryBoundary = .reversible)
      (WebOperationAPI.labPlan settings order fields name component).run := by
  unfold WebOperationAPI.labPlan
  split
  · exact ends_done error_shows
  · refine ends_attempt (fun plan => ∃ report,
      settings.engine.labPlan order report name component = .ok plan)
      (engineLabPlan_ends name component) ?_ (fun _ _ => error_shows)
    intro early plan planned
    apply ends_perform
    intro current
    cases current with
    | none => exact ends_done error_shows
    | some current =>
        refine ends_attempt (fun _ => True) (ends_any.mono (fun _ _ _ _ _ => trivial)) ?_
          (fun _ _ => error_shows)
        intro more risk _
        apply ends_done
        rintro view shown
        cases shown
        obtain ⟨report, made⟩ := planned
        obtain ⟨action, known, _⟩ := labPlan_operation made
        exact ⟨action, known, rfl⟩

/-! ## What Telegram shows -/

/-- A plan that is saved carries the class of the operation asked for. -/
def SavesClass (request : PlanRequest) : RemoteRequest → Prop
  | .savePlan snapshot => ∃ operation, request.operation = some operation ∧
      snapshot.recoveryClass = operation.recoveryClass
  | _ => True

theorem manager_only {α : Type} {request : PlanRequest} (attempt : Attempt α) :
    OnlyAsks (SavesClass request) (RemoteAttempt.manager attempt).run := by
  refine onlyAsks_bind (onlyAsks_expand ?_ attempt.run) (fun _ => trivial)
  intro asked
  exact ⟨trivial, fun _ => trivial⟩

theorem offerPlan_only {request : PlanRequest} {snapshot : PlanSnapshot}
    (carries : SavesClass request (.savePlan snapshot)) (identity : ActorIdentity) :
    OnlyAsks (SavesClass request) (service.offerPlan snapshot identity).run := by
  refine ⟨carries, fun saved => ?_⟩
  cases saved with
  | false => trivial
  | true => exact ⟨trivial, fun _ => ⟨trivial, fun _ => trivial⟩⟩

theorem lifecyclePlan_only (name : String) (targets : List ComponentId)
    (identity : ActorIdentity) :
    OnlyAsks (SavesClass (.lifecycle name targets))
      (service.lifecyclePlan settings order name targets identity).run := by
  unfold RemoteActionService.lifecyclePlan
  cases made : settings.engine.plan order name targets with
  | error error => trivial
  | ok document =>
      refine ⟨trivial, fun current => ?_⟩
      cases current with
      | none => trivial
      | some current =>
          apply onlyAsks_bindExcept (manager_only _)
          intro risk
          split
          · trivial
          · apply onlyAsks_bindExcept (manager_only _)
            intro approval
            cases strictest : strictestClass (document.steps.map PlannedStep.recoveryClass) with
            | none => trivial
            | some recoveryClass =>
                apply offerPlan_only
                exact ⟨document.operation, plan_class made strictest⟩

theorem plannedLab_only {report : Option PreflightReport} (name : String)
    (component : Option ComponentId) (identity : ActorIdentity) :
    OnlyAsks (SavesClass (.lab name component))
      (RemoteAttempt.manager (lift (settings.engine.labPlan order report name component)) >>=
        fun plan => service.lifecyclePlan settings order plan.plan.operation.name
          plan.plan.components identity).run := by
  cases made : settings.engine.labPlan order report name component with
  | error error => trivial
  | ok plan =>
      obtain ⟨action, known, same⟩ := labPlan_operation made
      refine (lifecyclePlan_only plan.plan.operation.name plan.plan.components identity).mono ?_
      intro request carries
      cases request with
      | savePlan snapshot =>
          obtain ⟨operation, named, shown⟩ := carries
          refine ⟨operation, ?_, shown⟩
          rw [PlanRequest.operation, requestOperation_name, same] at named
          simpa [PlanRequest.operation, known] using named
      | manager request => trivial
      | issue action reference identity expiresAt => trivial

theorem remoteLabPlan_only (name : String) (component : Option ComponentId)
    (identity : ActorIdentity) :
    OnlyAsks (SavesClass (.lab name component))
      (service.labPlan settings order name component identity).run := by
  unfold RemoteActionService.labPlan WebOperationAPI.engineLabPlan
  split
  · exact ⟨trivial, fun report => plannedLab_only name component identity⟩
  · exact plannedLab_only name component identity

/-- What a surface shows for a request of an operation. -/
def shownClass (operation : Operation) : Surface → PlanRequest → RecoveryClass
  | .web, .lab _ _ => .reversible
  | _, _ => operation.recoveryClass

theorem Shows.classes {surface : Surface} {request : PlanRequest} {shown : RecoveryClass}
    (shows : Shows settings service surface request shown) :
    ∃ operation, request.operation = some operation ∧
      shown = shownClass operation surface request := by
  cases shows with
  | webPlan run => exact webPlan_shows _ _ _ _ run _ rfl
  | webLabPlan run =>
      obtain ⟨action, known, same⟩ := webLabPlan_shows _ _ _ _ _ run _ rfl
      exact ⟨action.operation, by simp [PlanRequest.operation, known], same⟩
  | telegramPlan run saves => exact (lifecyclePlan_only _ _ _).reached run _ saves
  | telegramLabPlan run saves => exact (remoteLabPlan_only _ _ _).reached run _ saves

/-! ## What is recorded -/

/-- A row that is created records this boundary. -/
def CreatesWith (boundary : RecoveryClass) : Request → Prop
  | .createRow document => document.recovery.boundary = boundary
  | _ => True

theorem neutral_only {α : Type} {program : Act α} {boundary : RecoveryClass}
    (only : OnlyAsks Neutral program) : OnlyAsks (CreatesWith boundary) program :=
  only.mono (fun request neutral => by cases request <;> trivial)

theorem plain_only {α : Type} {program : Act α} {boundary : RecoveryClass}
    (only : OnlyAsks Plain program) : OnlyAsks (CreatesWith boundary) program :=
  only.mono (fun request plain => by cases request <;> trivial)

variable {operation : Operation} {requested : List ComponentId} {steps : List Step}
  {caller : Caller} {retryOf : Option OperationId} {workflow : Option Workflow}
  {boundary : RecoveryClass}

theorem prepareSteps_only (classes : ∀ step ∈ steps, step.recoveryClass = boundary) :
    OnlyAsks (CreatesWith boundary)
      (prepareSteps settings operation requested steps caller retryOf workflow).run := by
  apply onlyAsks_perform trivial
  intro _
  refine onlyAsks_bind (onlyAsks_askExcept trivial ?_) (fun _ => ⟨trivial, fun _ => trivial⟩)
  intro active
  split
  · trivial
  · apply onlyAsks_bindExcept (neutral_only (authorizeSteps_neutral settings _ _ _))
    intro _
    refine ⟨trivial, fun now => ⟨trivial, fun id => ?_⟩⟩
    have uniform : ∀ other ∈ steps.map Step.recoveryClass, other = boundary := by
      simpa using classes
    cases strictest : planRecoveryBoundary steps with
    | none => trivial
    | some found =>
        have same : found = boundary := by
          rcases strictestClass_uniform uniform with ⟨absent, _⟩ | present
          · exact absurd (strictest.symm.trans absent) (by simp)
          · exact Option.some.inj (strictest.symm.trans present)
        refine ⟨same, fun created => ?_⟩
        cases created <;> trivial

theorem submit_only {order : SetOrder} {name : String} {components : List ComponentId}
    (named : requestOperation name = some operation) :
    OnlyAsks (CreatesWith operation.recoveryClass)
        (submit settings order name components caller retryOf).run ∧
      OnlyAsks (CreatesWith operation.recoveryClass)
        (submitAsync settings order name components caller retryOf).run := by
  have prepared : OnlyAsks (CreatesWith operation.recoveryClass)
      (prepare settings order name components caller retryOf none).run := by
    unfold prepare
    rw [named]
    dsimp only
    split
    · trivial
    · cases planned : settings.engine.planSteps order operation components.eraseDups with
      | error error => trivial
      | ok steps =>
          change OnlyAsks _ (ExceptT.run (prepareSteps settings operation components.eraseDups
            steps caller retryOf none >>= fun document => pure (document, steps)))
          exact onlyAsks_bindExcept (prepareSteps_only (planSteps_class planned)) (fun _ => trivial)
  constructor
  · apply onlyAsks_bindExcept prepared
    rintro ⟨document, steps⟩
    exact plain_only (onlyAsks_bindExcept (onlyAsks_liftExcept (run_plain document steps))
      (fun _ => storedOperation_plain document.id))
  · apply onlyAsks_bindExcept prepared
    rintro ⟨document, steps⟩
    exact plain_only (onlyAsks_bindExcept (onlyAsks_liftExcept (startWorker_plain document steps))
      (fun _ => storedOperation_plain document.id))

theorem startLab_only (document : Document) (steps : List Step) :
    OnlyAsks Plain (do
      ask (.updateRow document)
      startWorker document steps
      storedOperation document.id : Attempt Document).run :=
  ⟨trivial, fun _ => onlyAsks_bindExcept (onlyAsks_liftExcept (startWorker_plain document steps))
    (fun _ => storedOperation_plain document.id)⟩

theorem submitLab_only {order : SetOrder} {name : String} {component : Option ComponentId}
    {action : LabAction} (known : labAction name = some action) :
    OnlyAsks (CreatesWith action.operation.recoveryClass)
      (submitLabAsync settings order name component caller retryOf).run := by
  apply onlyAsks_bindExcept (plain_only (checkActionReady_plain settings name))
  intro _
  cases planned : settings.engine.labSteps order name component with
  | error error => trivial
  | ok result =>
      obtain ⟨operation, requested, steps⟩ := result
      obtain ⟨other, same, rfl, classes⟩ := labSteps_class planned
      rw [known] at same
      cases same
      rw [known]
      apply onlyAsks_bindExcept (prepareSteps_only classes)
      intro document
      cases retryOf with
      | none => exact plain_only (startLab_only _ steps)
      | some parent =>
          refine ⟨trivial, fun events => ?_⟩
          exact plain_only (onlyAsks_bindExcept (onlyAsks_liftExcept (recordResumed_plain _ _))
            (fun _ => startLab_only _ _))

/-- Every submission of a request records the class of its operation. -/
theorem RecordsBoundary.classes {request : PlanRequest} {recorded : RecoveryClass}
    (records : RecordsBoundary settings request recorded) {operation : Operation}
    (named : request.operation = some operation) : recorded = operation.recoveryClass := by
  obtain ⟨submits, run, created⟩ := records
  cases submits with
  | blocking order name components caller retryOf =>
      exact (submit_only named).1.reached run _ created
  | queued order name components caller retryOf =>
      exact (submit_only named).2.reached run _ created
  | lab order name component caller retryOf =>
      obtain ⟨action, known, rfl⟩ := Option.map_eq_some_iff.mp named
      exact (submitLab_only known).reached run _ created
  | approved planned again caller =>
      obtain ⟨action, known, rfl⟩ := Option.map_eq_some_iff.mp named
      obtain ⟨other, same, planned⟩ := labPlan_operation planned
      rw [known] at same
      cases same
      have renamed := requestOperation_name action.operation
      rw [← planned] at renamed
      rw [← planned]
      exact (submit_only renamed).2.reached run _ created

/-- Every view shows the recorded boundary, the strictest class of the plan's steps, but
for the web interface's plan of a lab deployment. -/
theorem shown_boundary_iff (populated : settings.engine.registry.componentIds ≠ [])
    {surface : Surface} {request : PlanRequest} {shown : RecoveryClass}
    (shows : Shows settings service surface request shown) :
    ∃ strictest,
      (∀ steps, Plans settings.engine request steps → Strictest steps strictest) ∧
      (∀ recorded, RecordsBoundary settings request recorded → recorded = strictest) ∧
      (shown = strictest ↔
        ¬ (surface = .web ∧ ∃ component, request = .lab "deploy" component)) := by
  obtain ⟨operation, named, rfl⟩ := shows.classes
  refine ⟨operation.recoveryClass, fun steps plans => plans.strictest populated named,
    fun recorded records => records.classes named, ?_⟩
  cases surface with
  | telegram => simp [shownClass]
  | web =>
      cases request with
      | lifecycle name components => simp [shownClass]
      | lab name component =>
          obtain ⟨action, known, rfl⟩ := Option.map_eq_some_iff.mp named
          rw [eq_name_of_labAction known]
          cases action <;> simp [shownClass, LabAction.operation, Operation.recoveryClass,
            LabAction.name]

/-! ## The shipped registry -/

/-- What a manager is told when nothing goes wrong. -/
def calmAnswer : (request : Request) → Answer request
  | .isCancelled _ => false
  | .createRow _ => true
  | .getRow _ => none
  | .listEvents _ => []
  | .activeComponents => []
  | .interruptedRows => []
  | .now => "2026-01-01T00:00:00Z"
  | .newId => "operation-1"
  | .monotonic => (0 : ℚ)
  | .execute _ _ _ => .ok ()
  | .verify _ _ _ _ => .ok true
  | .preflight => some { ready := true, readiness := fun _ => true }
  | .footprint _ => some []
  | .currentState _ => some []
  | .authorizationNow => (0 : Int)
  | .insertApproval _ => true
  | .findApproval _ => none
  | .transition _ _ _ _ => true
  | .acquire | .release | .addCancelled _ | .discardCancelled _ | .addWorker _
  | .discardWorker _ | .startWorker _ _ | .updateRow _ | .addEvent _ _ | .interruptActive _
  | .updatePayload _ | .serve | .record _ => ()

def telegramService : RemoteActionService where
  authorization := {
    approvalTtl := 600000000
    reauthenticationAge := 300000000
    sha256 := String.ofList }
  webBase := "https://manager.fortifylab.internal"
  timestamp := fun _ => "2026-01-01T00:00:00Z"

/-- The boundary of the first row that some exchanges created. -/
def recordedBoundary (exchanges : List (Exchange Request Answer)) : Option RecoveryClass :=
  exchanges.findSome? (fun exchange => match exchange with
    | ⟨.createRow document, true⟩ => some document.recovery.boundary
    | _ => none)

theorem created_of_recordedBoundary {exchanges : List (Exchange Request Answer)}
    {boundary : RecoveryClass} (found : recordedBoundary exchanges = some boundary) :
    ∃ document, ⟨.createRow document, true⟩ ∈ exchanges ∧ document.recovery.boundary = boundary := by
  obtain ⟨exchange, member, made⟩ := List.exists_of_findSome?_eq_some found
  split at made
  · next document => exact ⟨document, member, Option.some.inj made⟩
  · cases made

/-- The boundary of the view that a run returned. -/
def returnedBoundary {α : Type} (boundary : α → RecoveryClass) :
    Except ViewFailure α → Option RecoveryClass
  | .ok view => some (boundary view)
  | .error _ => none

theorem view_of_returnedBoundary {α : Type} {boundary : α → RecoveryClass}
    {result : Except ViewFailure α} {recoveryClass : RecoveryClass}
    (returned : returnedBoundary boundary result = some recoveryClass) :
    ∃ view, result = .ok view ∧ boundary view = recoveryClass := by
  cases result with
  | error failure => cases returned
  | ok view => exact ⟨view, rfl, Option.some.inj returned⟩

/-- The plan to install one component shows what installing it records. -/
theorem shown_boundary_iff_install :
    Shows shippedSettings telegramService .web (.lifecycle "install" ["mysql"])
      .compensatingAction ∧
    ∃ strictest,
      (∀ steps, Plans shippedEngine (.lifecycle "install" ["mysql"]) steps →
        Strictest steps strictest) ∧
      (∀ recorded, RecordsBoundary shippedSettings (.lifecycle "install" ["mysql"]) recorded →
        recorded = strictest) ∧
      (RecoveryClass.compensatingAction = strictest ↔ ¬ (Surface.web = .web ∧
        ∃ component, PlanRequest.lifecycle "install" ["mysql"] = .lab "deploy" component)) := by
  have shows : Shows shippedSettings telegramService .web (.lifecycle "install" ["mysql"])
      .compensatingAction := by
    have ran := play_reaches calmAnswer
      (WebOperationAPI.plan shippedSettings .insertion "install" ["mysql"]).run
    have returned : returnedBoundary LifecyclePlanView.recoveryBoundary
        ((WebOperationAPI.plan shippedSettings .insertion "install" ["mysql"]).run.play
          calmAnswer).2 = some .compensatingAction := by decide +kernel
    obtain ⟨view, result, same⟩ := view_of_returnedBoundary returned
    rw [result] at ran
    exact same ▸ .webPlan ran
  exact ⟨shows, shown_boundary_iff (by decide) shows⟩

/-- The web interface shows the deployment of the lab as reversible, and submitting it
records a compensating action. -/
theorem deployment_shown_reversible :
    Shows shippedSettings telegramService .web (.lab "deploy" none) .reversible ∧
      RecordsBoundary shippedSettings (.lab "deploy" none) .compensatingAction := by
  constructor
  · have ran := play_reaches calmAnswer
      (WebOperationAPI.labPlan shippedSettings .insertion ["action"] "deploy" none).run
    have returned : returnedBoundary LabPlanView.recoveryBoundary
        ((WebOperationAPI.labPlan shippedSettings .insertion ["action"] "deploy" none).run.play
          calmAnswer).2 = some .reversible := by decide +kernel
    obtain ⟨view, result, same⟩ := view_of_returnedBoundary returned
    rw [result] at ran
    exact same ▸ .webLabPlan ran
  · have ran := play_reaches calmAnswer
      (submitLabAsync shippedSettings .insertion "deploy" none ⟨"local:admin", none, none⟩ none).run
    have recorded : recordedBoundary ((submitLabAsync shippedSettings .insertion "deploy" none
        ⟨"local:admin", none, none⟩ none).run.play calmAnswer).1 = some .compensatingAction := by
      decide +kernel
    obtain ⟨document, created, same⟩ := created_of_recordedBoundary recorded
    exact same ▸ .created (.lab _ _ _ _ _) ran created

end FortifyLab.Lifecycle
