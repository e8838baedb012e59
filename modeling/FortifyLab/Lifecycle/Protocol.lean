import FortifyLab.Lifecycle.Manager

/-! The protocol the manager's threads keep to: who holds the engine lock, who owns
an operation and how far it is, and which writes that allows. -/

namespace FortifyLab.Lifecycle

open Registry Authorization

/-- How a document's plan was made; `focus` is the selected component of a lab action. -/
inductive Planned (engine : Engine) (document : Document) (focus : Option ComponentId) :
    List Step → Prop where
  | request {order : SetOrder} {plan : List Step}
      (notLab : document.workflow = none ∨ document.workflow = some .cleanInstall)
      (planned : engine.planSteps order document.operation document.requestedTargets = .ok plan) :
      Planned engine document focus plan
  | lab {order : SetOrder} {action : LabAction} {plan : List Step}
      (isLab : document.workflow = some (.lab action))
      (planned : engine.labSteps order action.name focus =
        .ok (document.operation, document.requestedTargets, plan)) :
      Planned engine document focus plan

/-- An accepted operation in the hands of the thread that will write its row until
the end: the document as last written, the plan, what a retry skips, and how far the
execution is. -/
structure Work where
  document : Document
  focus : Option ComponentId
  plan : List Step
  completed : List StepKey
  resumed : List StepKey
  finished : List Step
  rest : List Step
  registered : Bool
  deriving Inhabited

def Work.writes (work : Work) (document : Document) : Work :=
  { work with document := document }

/-- The work after its next step has succeeded. -/
def Work.advance (work : Work) (step : Step) (rest : List Step) : Work :=
  { work with finished := work.finished ++ [step], rest := rest }

/-- The work of a lab retry that has read what its parent completed. -/
def Work.learns (work : Work) (completed : List StepKey) : Work :=
  { work with completed := completed, rest := remainingSteps work.plan completed }

def Work.resumes (work : Work) (key : StepKey) : Work :=
  { work with resumed := work.resumed ++ [key] }

def Work.registers (work : Work) : Work :=
  { work with registered := true }

inductive Task where
  | idle
  | surveyed (active : List ComponentId)
  | cancelling (document : Document)
  | owns (work : Work)
  | recovering (documents : List Document)
  | opened

/-- What is known of a thread: its call, whether it holds the engine lock, the row it
has read (by which id) and what the events of that id report as completed, and its task. -/
structure Role where
  call : Option Call
  holds : Bool
  previous : Option (OperationId × Document)
  evidence : Option (List StepKey)
  task : Task

def Role.does (role : Role) (task : Task) : Role where
  call := role.call
  holds := role.holds
  previous := role.previous
  evidence := role.evidence
  task := task

def Role.locked (role : Role) (holds : Bool) : Role where
  call := role.call
  holds := holds
  previous := role.previous
  evidence := role.evidence
  task := role.task

/-- Documents of one operation: the fields no later write may change. -/
structure SameOperation (left right : Document) : Prop where
  id : left.id = right.id
  operation : left.operation = right.operation
  components : left.components = right.components
  requestedTargets : left.requestedTargets = right.requestedTargets
  totalSteps : left.totalSteps = right.totalSteps
  retryOf : left.retryOf = right.retryOf
  workflow : left.workflow = right.workflow

theorem SameOperation.refl (document : Document) : SameOperation document document :=
  ⟨rfl, rfl, rfl, rfl, rfl, rfl, rfl⟩

theorem SameOperation.symm {left right : Document} (same : SameOperation left right) :
    SameOperation right left :=
  ⟨same.id.symm, same.operation.symm, same.components.symm, same.requestedTargets.symm,
    same.totalSteps.symm, same.retryOf.symm, same.workflow.symm⟩

theorem SameOperation.trans {left middle right : Document} (first : SameOperation left middle)
    (second : SameOperation middle right) : SameOperation left right :=
  ⟨first.id.trans second.id, first.operation.trans second.operation,
    first.components.trans second.components,
    first.requestedTargets.trans second.requestedTargets,
    first.totalSteps.trans second.totalSteps, first.retryOf.trans second.retryOf,
    first.workflow.trans second.workflow⟩

/-- The lab fields are set by the owner, to the action and the component of its plan. -/
def LabFields (document : Document) (focus : Option ComponentId) : Prop :=
  match document.labAction with
  | none => document.selectedComponent = none
  | some action => document.workflow = some (.lab action) ∧ document.selectedComponent = focus

/-- What stays true of an owned operation. -/
structure Work.Sound (engine : Engine) (work : Work) : Prop where
  planned : Planned engine work.document work.focus work.plan
  components : work.document.components = affected work.plan
  totalSteps : work.document.totalSteps = work.plan.length
  split : remainingSteps work.plan work.completed = work.finished ++ work.rest
  resumed : ∀ key ∈ work.resumed, key ∈ work.completed
  labFields : LabFields work.document work.focus
  waits : work.document.state = .queued → work.finished = []

/-- What a retry takes from the parent it has read: the operation and its targets,
or the lab action and the selected component. -/
def Inherits (parent document : Document) (focus : Option ComponentId) : Prop :=
  parent.state.retryable = true ∧
    match parent.workflow with
    | some (.lab _) => ∃ action, parent.labAction = some action ∧
        document.workflow = some (.lab action) ∧ focus = parent.selectedComponent
    | workflow => document.workflow = workflow ∧ document.operation = parent.operation ∧
        document.requestedTargets = parent.requestedTargets.eraseDups

/-- Where a new operation comes from. Only a retry of a lab or clean-install operation
skips anything; a lab retry learns what once its row exists. -/
inductive Origin (role : Role) (document : Document) (work : Work) : Prop where
  | request (plain : document.workflow = none) (whole : work.completed = [])
  | cleanInstall (workflow : document.workflow = some .cleanInstall)
      (first : document.retryOf = none) (whole : work.completed = [])
  | lab {order : SetOrder} {action : String} {componentId : Option ComponentId}
      {caller : Caller} (called : role.call =
        some (.submitLab order action componentId caller document.retryOf))
      (workflow : ∃ action, document.workflow = some (.lab action)) (whole : work.completed = [])
  | retried {order : SetOrder} {operationId : OperationId} {parent : Document} {caller : Caller}
      (called : role.call = some (.retryAsync order operationId caller))
      (retries : document.retryOf = some operationId)
      (read : role.previous = some (operationId, parent))
      (inherits : Inherits parent document work.focus)
      (resumable : document.workflow ≠ none)
      (skips : match document.workflow with
        | some .cleanInstall => role.evidence = some work.completed
        | _ => work.completed = [])

/-- The row a thread may create, with the work it then owns. -/
structure Creates (engine : Engine) (role : Role) (document : Document) (work : Work) : Prop where
  sound : work.Sound engine
  written : work.document = document
  queued : document.state = .queued
  unstarted : work.finished = [] ∧ work.resumed = [] ∧ work.registered = false
  plain : document.labAction = none ∧ document.completedSteps = 0
  origin : Origin role document work

/-- The moves of the thread that opens the store. -/
def Opening (role : Role) : (request : Request) → Answer request → Role → Prop
  | .now, _, after => after = role
  | .interruptActive _, _, after =>
      role.task = .idle ∧ after = role.does (.recovering [])
  | .interruptedRows, documents, after =>
      (∃ before, role.task = .recovering before) ∧ after = role.does (.recovering documents)
  | .updatePayload document, _, after =>
      (∃ documents, role.task = .recovering documents ∧
        ∃ stored ∈ documents, document = stored.setInterruptedRecovery) ∧ after = role
  | .addEvent _ (.managerRestarted _), _, after => after = role
  | .serve, _, after =>
      (∃ documents, role.task = .recovering documents) ∧ after = role.does .opened
  | _, _, _ => False

/-- The lab fields of the document are those of the work. -/
def KeepsLab (document : Document) (work : Work) : Prop :=
  document.labAction = work.document.labAction ∧
    document.selectedComponent = work.document.selectedComponent

/-- The write of a row by the thread that owns it. -/
def Saves (role : Role) (work : Work) (document : Document) (after : Role) : Prop :=
  SameOperation document work.document ∧
    ((document.state = .queued ∧ work.document.state = .queued ∧
        LabFields document work.focus ∧
        after = role.does (.owns (work.writes document))) ∨
      (document.state = .running ∧ KeepsLab document work ∧
        after = role.does (.owns (work.writes document))) ∨
      (document.state.terminal = true ∧ document.state ≠ .interrupted ∧
        KeepsLab document work ∧ work.document.state = .running ∧
        (document.state = .succeeded → work.rest = []) ∧ after = role.does .idle))

/-- A call reads a row. -/
def Role.reads (role : Role) (operationId : OperationId) (answer : Option Document) : Role where
  call := role.call
  holds := role.holds
  previous := answer.map (fun document => (operationId, document))
  evidence := none
  task := role.task

/-- A retry reads the events of its parent. -/
def Role.hears (role : Role) (operationId : OperationId) (events : List Event) : Role where
  call := role.call
  holds := role.holds
  previous := role.previous
  evidence := if role.previous.map Prod.fst = some operationId
    then some (completedKeys events) else none
  task := role.task

/-- What `cancel` does with the row that it has read. -/
def cancelTask : Option Document → Task
  | none => .idle
  | some document => if document.state.terminal then .idle else .cancelling document

/-- The moves of every other thread. Between the read and the write of a row that is
being cancelled nothing else is asked than what leads to the write. -/
def Serving (engine : Engine) (role : Role) : (request : Request) → Answer request → Role → Prop
  | .acquire, _, after =>
      role.holds = false ∧ after = role.locked true
  | .release, _, after =>
      role.holds = true ∧
      match role.task with
      | .owns _ => after = role.locked false
      | .cancelling _ => False
      | _ => after = (role.does .idle).locked false
  | .activeComponents, active, after =>
      role.holds = true ∧ role.task = .idle ∧ after = role.does (.surveyed active)
  | .getRow operationId, answer, after =>
      role.task = .idle ∧
      if role.holds then
        (∃ actor identity, role.call = some (.cancel operationId actor identity)) ∧
        after = role.does (cancelTask answer)
      else after = role.reads operationId answer
  | .listEvents operationId, events, after =>
      match role.task with
      | .idle => after = role.hears operationId events
      | .owns work =>
          work.document.state = .queued ∧ work.document.retryOf = some operationId ∧
          work.resumed = [] ∧
          after = role.does (.owns (work.learns (completedKeys events))) ∧
          (∃ action, work.document.workflow = some (.lab action)) ∧
          work.completed = [] ∧ work.document.labAction = none
      | _ => False
  | .createRow document, created, after =>
      ∃ active work, role.task = .surveyed active ∧ role.holds = true ∧
        (∀ componentId ∈ document.components, componentId ∉ active) ∧
        Creates engine role document work ∧
        after = if created = true then role.does (.owns work) else role
  | .updateRow document, _, after =>
      match role.task with
      | .cancelling stored =>
          (∃ now, document = { stored with state := .cancelling, updatedAt := now }) ∧
          after = role.does .idle
      | .owns work => Saves role work document after
      | _ => False
  | .addEvent operationId (.stepSucceeded component operation _ _), _, after =>
      ∃ work step rest, role.task = .owns work ∧ work.document.id = operationId ∧
        work.document.state = .running ∧ work.rest = step :: rest ∧
        step.key = (component, operation) ∧
        after = role.does (.owns (work.advance step rest))
  | .addEvent operationId (.stepResumed component operation _), _, after =>
      ∃ work, role.task = .owns work ∧ work.document.id = operationId ∧
        work.document.state = .queued ∧
        (component, operation) ∈ (resumedSteps work.plan work.completed).map Step.key ∧
        after = role.does (.owns (work.resumes (component, operation)))
  | .startWorker document steps, _, after =>
      ∃ work, role.task = .owns work ∧ role.holds = false ∧ document = work.document ∧
        steps = work.rest ∧ work.document.state = .queued ∧ work.registered = true ∧
        work.resumed = (resumedSteps work.plan work.completed).map Step.key ∧
        document.completedSteps + steps.length = document.totalSteps ∧
        (∀ action, document.workflow = some (.lab action) → document.labAction = some action) ∧
        after = role.does .idle
  | .execute operationId step _, _, after =>
      (∃ work rest, role.task = .owns work ∧ work.document.id = operationId ∧
        work.document.state = .running ∧ work.rest = step :: rest) ∧ after = role
  | .addWorker operationId, _, after =>
      ∃ work, role.task = .owns work ∧ work.document.id = operationId ∧
        work.document.state = .queued ∧
        after = role.does (.owns work.registers)
  | .discardWorker operationId, _, after =>
      role.task = .idle ∧ (∃ document steps, role.call = some (.worker document steps) ∧
        document.id = operationId) ∧ after = role
  | .addCancelled _, _, after => after = role
  | .now, _, after => after = role
  | .interruptActive _, _, _ => False
  | .interruptedRows, _, _ => False
  | .updatePayload _, _, _ => False
  | .serve, _, _ => False
  | _, _, after => (∀ document, role.task ≠ .cancelling document) ∧ after = role

/-- What a thread in a role may ask, and the role an answer leaves it in. -/
def Moves (engine : Engine) (role : Role) (request : Request) (answer : Answer request)
    (after : Role) : Prop :=
  match role.call with
  | none => False
  | some .openStore => Opening role request answer after
  | some _ => Serving engine role request answer after

end FortifyLab.Lifecycle
