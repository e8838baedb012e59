import FortifyLab.Lifecycle.Conformance

/-! Every call keeps to the protocol, from its arrival to its end. -/

namespace FortifyLab.Lifecycle

open Registry Authorization Program

variable {engine : Engine} {settings : Settings}

/-- The thread owns an operation that nothing has been executed of yet. -/
structure Role.Starts (role : Role) (work : Work) : Prop where
  serves : role.Serves
  unlocked : role.holds = false
  owns : role.task = .owns work
  queued : work.document.state = .queued

theorem Role.Starts.does {role : Role} {work next : Work} (starts : role.Starts work)
    (queued : next.document.state = .queued) : (role.does (.owns next)).Starts next :=
  ⟨starts.serves.does _, starts.unlocked, rfl, queued⟩

theorem Role.Free.starts {role : Role} (free : role.Free) {work : Work}
    (queued : work.document.state = .queued) : (role.does (.owns work)).Starts work :=
  ⟨free.serves.does _, free.unlocked, rfl, queued⟩

theorem Role.Starts.stays {role : Role} {work : Work} (starts : role.Starts work)
    (request : Request) (answer : Answer request) (neutral : Neutral request) :
    Moves engine role request answer role := by
  refine neutral_moves starts.serves ?_ neutral
  intro document impossible
  rw [starts.owns] at impossible
  cases impossible

theorem Role.Free.does_idle {role : Role} (free : role.Free) (task : Task) :
    (role.does task).does .idle = role := by
  rw [does_does, does_same free.idle]

/-- Reading a row between other statements. -/
theorem Role.Free.gets {role : Role} (free : role.Free) (operationId : OperationId)
    (answer : Option Document) :
    Moves engine role (.getRow operationId) answer (role.reads operationId answer) := by
  rw [moves_iff free.serves]
  refine ⟨free.idle, ?_⟩
  rw [if_neg]
  rw [free.unlocked]
  exact Bool.false_ne_true

theorem Role.Free.reads {role : Role} (free : role.Free) (operationId : OperationId)
    (answer : Option Document) : (role.reads operationId answer).Free :=
  ⟨free.serves, free.unlocked, free.idle⟩

theorem Role.Free.hears {role : Role} (free : role.Free) (operationId : OperationId)
    (events : List Event) : (role.hears operationId events).Free :=
  ⟨free.serves, free.unlocked, free.idle⟩

theorem storedOperation_follows {role : Role} (free : role.Free) (operationId : OperationId) :
    Follows (Moves engine)
      (fun after result => match result with
        | .ok document => after = role.reads operationId (some document)
        | .error _ => after = role.reads operationId none)
      role (storedOperation operationId).run := by
  intro answer
  refine ⟨role.reads operationId answer, free.gets operationId answer, ?_⟩
  cases answer <;> exact rfl

/-- The last statement of a call that returns the stored operation. -/
theorem storedOperation_ends {role : Role} (free : role.Free) (operationId : OperationId) :
    Follows (Moves engine) (fun after _ => after.Ended) role (storedOperation operationId).run := by
  apply (storedOperation_follows free operationId).mono
  intro after result reached
  cases result <;> exact reached ▸ (free.reads _ _).ended

/-- What `_start_worker` needs of the work it hands over. -/
structure Work.Complete (work : Work) : Prop where
  resumed : work.resumed = (resumedSteps work.plan work.completed).map Step.key
  total : work.document.completedSteps + work.rest.length = work.document.totalSteps
  lab : ∀ action, work.document.workflow = some (.lab action) →
    work.document.labAction = some action

theorem startWorker_follows {role : Role} {work : Work} (starts : role.Starts work)
    (complete : work.Complete) {steps : List Step} (rest : work.rest = steps) :
    Follows (Moves engine) (fun after _ => after = role.does .idle) role
      (startWorker work.document steps) := by
  subst rest
  let started : Work := work.registers
  intro _
  refine ⟨role.locked true, ?_, ?_⟩
  · rw [moves_iff starts.serves]
    exact ⟨starts.unlocked, rfl⟩
  intro _
  refine ⟨(role.does (.owns started)).locked true, ?_, ?_⟩
  · rw [moves_iff (starts.serves.locked true)]
    exact ⟨work, starts.owns, rfl, starts.queued, rfl⟩
  intro _
  refine ⟨role.does (.owns started), ?_, ?_⟩
  · have same : (role.does (.owns started)).locked false = role.does (.owns started) :=
      locked_same starts.unlocked
    rw [← same]
    exact releaseOwned_moves (starts.serves.locked true) rfl rfl
  intro _
  refine ⟨role.does .idle, ?_, rfl⟩
  rw [moves_iff (starts.serves.does _)]
  exact ⟨started, rfl, starts.unlocked, rfl, rfl, starts.queued, rfl, complete.resumed,
    complete.total, complete.lab, rfl⟩

/-- Starting the worker and reading the row back. -/
theorem started_follows {role : Role} {work : Work} (starts : role.Starts work)
    (complete : work.Complete) {steps : List Step} (rest : work.rest = steps) :
    Follows (Moves engine) (fun after _ => after.Ended) role
      (do
        liftM (startWorker work.document steps)
        storedOperation work.document.id : Attempt Document).run := by
  apply follows_liftBind (startWorker_follows starts complete rest)
  intro after _ idle
  subst idle
  have free : (role.does .idle).Free := ⟨starts.serves.does _, starts.unlocked, rfl⟩
  exact storedOperation_ends free _

theorem recordResumed_follows (steps : List Step) {role : Role} {work : Work}
    (starts : role.Starts work)
    (skipped : ∀ step ∈ steps, step ∈ resumedSteps work.plan work.completed) :
    Follows (Moves engine)
      (fun after _ => after =
        role.does (.owns { work with resumed := work.resumed ++ steps.map Step.key }))
      role (recordResumed work.document.id steps) := by
  induction steps generalizing role work with
  | nil =>
      show role = _
      rw [List.map_nil, List.append_nil]
      exact (does_same starts.owns).symm
  | cons step steps ih =>
      intro now
      refine ⟨role, starts.stays _ _ trivial, ?_⟩
      intro _
      let recorded : Work := { work with resumed := work.resumed ++ [step.key] }
      refine ⟨role.does (.owns recorded), ?_, ?_⟩
      · rw [moves_iff starts.serves]
        exact ⟨work, starts.owns, rfl, starts.queued,
          List.mem_map_of_mem (skipped step List.mem_cons_self), rfl⟩
      · have onward : (role.does (.owns recorded)).Starts recorded := starts.does starts.queued
        apply (ih onward (fun other member => skipped other (List.mem_cons_of_mem _ member))).mono
        intro after _ same
        rw [same, does_does]
        dsimp only [recorded]
        rw [List.append_assoc, List.map_cons]
        rfl

/-! ## Requested operations -/

/-- What `_prepare` leads to. -/
def PreparedPlan (role : Role) (retryOf : Option OperationId) (workflow : Option Workflow)
    (completed : List StepKey) (after : Role) :
    Except Failure (Document × List Step) → Prop
  | .ok (document, steps) => Fresh document steps retryOf workflow ∧
      after = role.does (.owns (accepted document none steps completed))
  | .error _ => after = role

theorem prepare_follows {role : Role} (free : role.Free) {order : SetOrder} {operation : String}
    {componentIds : List ComponentId} {caller : Caller} {retryOf : Option OperationId}
    {workflow : Option Workflow} (completed : List StepKey)
    (notLab : workflow = none ∨ workflow = some .cleanInstall)
    (origin : ∀ document steps, document.workflow = workflow → document.retryOf = retryOf →
      requestOperation operation = some document.operation →
      document.requestedTargets = componentIds.eraseDups →
      Origin role document (accepted document none steps completed)) :
    Follows (Moves settings.engine) (PreparedPlan role retryOf workflow completed) role
      (prepare settings order operation componentIds caller retryOf workflow).run := by
  unfold prepare
  split
  · exact rfl
  · next requested known =>
    dsimp only
    split
    · exact rfl
    · cases planned : settings.engine.planSteps order requested componentIds.eraseDups with
      | error error => exact rfl
      | ok steps =>
          apply follows_bindExcept (prepareSteps_follows free none completed
            (fun id now boundary => .request notLab planned)
            (fun id now boundary => origin _ _ rfl rfl known rfl))
          · intro after document outcome
            exact ⟨outcome.2 document rfl, outcome.1⟩
          · intro after error outcome
            exact outcome.1

theorem remainingSteps_nil (steps : List Step) : remainingSteps steps [] = steps := by
  apply List.filter_eq_self.mpr
  intro step _
  exact decide_eq_true List.not_mem_nil

theorem resumedSteps_nil (steps : List Step) : resumedSteps steps [] = [] := by
  apply List.filter_eq_nil_iff.mpr
  intro step _ impossible
  exact absurd (of_decide_eq_true impossible) List.not_mem_nil

/-- An operation that skips nothing can be started as it is. -/
theorem Fresh.complete {document : Document} {steps : List Step} {retryOf : Option OperationId}
    {workflow : Option Workflow} (fresh : Fresh document steps retryOf workflow)
    (notLab : workflow = none ∨ workflow = some .cleanInstall) (focus : Option ComponentId) :
    (accepted document focus steps []).Complete where
  resumed := by
    show [] = (resumedSteps steps []).map Step.key
    rw [resumedSteps_nil]
    rfl
  total := by
    show document.completedSteps + (remainingSteps steps []).length = document.totalSteps
    rw [fresh.completedSteps, fresh.totalSteps, remainingSteps_nil]
    exact Nat.zero_add _
  lab action isLab := by
    have workflow_eq := fresh.workflow.symm.trans isLab
    rcases notLab with rfl | rfl
    · cases workflow_eq
    · cases workflow_eq

theorem submit_follows {role : Role} (free : role.Free) (order : SetOrder) (operation : String)
    (componentIds : List ComponentId) (caller : Caller) (retryOf : Option OperationId) :
    Follows (Moves settings.engine) (fun after _ => after.Ended) role
      (submit settings order operation componentIds caller retryOf).run := by
  apply follows_bindExcept (prepare_follows free [] (.inl rfl)
    (fun document steps plain _ _ _ => .request plain rfl))
  · intro after prepared outcome
    rcases prepared with ⟨document, steps⟩
    rcases outcome with ⟨fresh, rfl⟩
    apply follows_liftBind (run_follows (free.serves.does _) rfl (remainingSteps_nil steps))
    intro after _ idle
    have reached : after = role := idle.trans (free.does_idle _)
    subst reached
    exact storedOperation_ends free _
  · intro after error same
    have reached : after = role := same
    subst reached
    exact free.ended

theorem submitAsync_follows {role : Role} (free : role.Free) (order : SetOrder)
    (operation : String) (componentIds : List ComponentId) (caller : Caller)
    (retryOf : Option OperationId) :
    Follows (Moves settings.engine) (fun after _ => after.Ended) role
      (submitAsync settings order operation componentIds caller retryOf).run := by
  apply follows_bindExcept (prepare_follows free [] (.inl rfl)
    (fun document steps plain _ _ _ => .request plain rfl))
  · intro after prepared outcome
    rcases prepared with ⟨document, steps⟩
    rcases outcome with ⟨fresh, rfl⟩
    exact started_follows (free.starts fresh.queued) (fresh.complete (.inl rfl) none)
      (remainingSteps_nil steps)
  · intro after error same
    have reached : after = role := same
    subst reached
    exact free.ended

/-- What `clean_install_plan` does not change. -/
theorem cleanInstallPlan_neutral (order : SetOrder) :
    OnlyAsks Neutral (cleanInstallPlan settings order).run := by
  unfold cleanInstallPlan
  split
  · trivial
  · cases liftRegistry (settings.engine.registry.dependencyOrder order []) with
    | error error => trivial
    | ok components =>
        apply onlyAsks_askExcept trivial
        intro preflight
        split
        · trivial
        · apply onlyAsks_askExcept trivial
          intro footprint
          split
          · trivial
          · split
            · trivial
            · cases settings.engine.plan order "install" components <;> trivial

theorem submitCleanInstallAsync_follows {role : Role} (free : role.Free) (order : SetOrder)
    (actor : String) (identity : Option ActorIdentity) :
    Follows (Moves settings.engine) (fun after _ => after.Ended) role
      (submitCleanInstallAsync settings order actor identity).run := by
  apply follows_bindExcept ((cleanInstallPlan_neutral order).follows free.stays)
  · intro after plan same
    subst same
    rcases plan with ⟨preflight, existing, requested⟩
    dsimp only
    split
    · exact free.ended
    · split
      · exact free.ended
      · apply follows_bindExcept (prepare_follows free [] (.inr rfl)
          (fun document steps clean first _ _ => .cleanInstall clean first rfl))
        · intro after prepared outcome
          rcases prepared with ⟨document, steps⟩
          rcases outcome with ⟨fresh, rfl⟩
          exact started_follows (free.starts fresh.queued) (fresh.complete (.inr rfl) none)
            (remainingSteps_nil steps)
        · intro after error same
          have reached : after = _ := same
          subst reached
          exact free.ended
  · intro after error same
    subst same
    exact free.ended

/-! ## Lab actions -/

theorem checkActionReady_neutral (action : String) :
    OnlyAsks Neutral (checkActionReady settings action).run := by
  unfold checkActionReady
  split
  · apply onlyAsks_askExcept trivial
    intro report
    trivial
  · trivial

/-- The owner of a queued row writes it again. -/
theorem Role.Starts.saves {role : Role} {work : Work} (starts : role.Starts work)
    {document : Document} (same : SameOperation document work.document)
    (queued : document.state = .queued) (lab : LabFields document work.focus) :
    Moves engine role (.updateRow document) ()
      (role.does (.owns (work.writes document))) := by
  rw [moves_iff starts.serves]
  unfold Serving
  rw [starts.owns]
  exact ⟨same, .inl ⟨queued, starts.queued, lab, rfl⟩⟩

theorem remaining_add_completed (steps : List Step) (completed : List StepKey) :
    steps.length - (remainingSteps steps completed).length +
      (remainingSteps steps completed).length = steps.length := by
  have bound : (remainingSteps steps completed).length ≤ steps.length :=
    List.length_filter_le _ steps
  omega

/-- The document of a lab operation with its action and its selected component. -/
def Document.withLab (document : Document) (action : LabAction) (focus : Option ComponentId) :
    Document :=
  { document with labAction := some action, selectedComponent := focus }

/-- A new lab operation: its row gets the lab fields, then its worker starts. -/
theorem startLab_follows {role : Role} (free : role.Free) {document : Document}
    {steps : List Step} {action : LabAction} {retryOf : Option OperationId}
    (fresh : Fresh document steps retryOf (some (.lab action))) (focus : Option ComponentId) :
    Follows (Moves engine) (fun after _ => after.Ended)
      (role.does (.owns (accepted document focus steps [])))
      (do
        liftM (ask (.updateRow (document.withLab action focus)))
        liftM (startWorker (document.withLab action focus) steps)
        storedOperation document.id : Attempt Document).run := by
  have starts : (role.does (.owns (accepted document focus steps []))).Starts
      (accepted document focus steps []) := free.starts fresh.queued
  apply follows_askExcept
  intro _
  refine ⟨_, starts.saves ⟨rfl, rfl, rfl, rfl, rfl, rfl, rfl⟩ fresh.queued
    ⟨fresh.workflow, rfl⟩, ?_⟩
  have updated : (role.does (.owns (accepted (document.withLab action focus) focus steps []))).Starts
      (accepted (document.withLab action focus) focus steps []) := free.starts fresh.queued
  apply started_follows updated _ (remainingSteps_nil steps)
  exact {
    resumed := by
      show [] = (resumedSteps steps []).map Step.key
      rw [resumedSteps_nil]
      rfl
    total := by
      show document.completedSteps + (remainingSteps steps []).length = document.totalSteps
      rw [fresh.completedSteps, fresh.totalSteps, remainingSteps_nil]
      exact Nat.zero_add _
    lab := by
      intro other isLab
      have workflow_eq := fresh.workflow.symm.trans isLab
      cases workflow_eq
      rfl }

/-- A retried lab operation: what its parent completed is recorded as resumed first. -/
theorem resumeLab_follows {role : Role} (free : role.Free) {document : Document}
    {steps : List Step} {action : LabAction} {parent : OperationId}
    (fresh : Fresh document steps (some parent) (some (.lab action)))
    (focus : Option ComponentId) :
    Follows (Moves engine) (fun after _ => after.Ended)
      (role.does (.owns (accepted document focus steps [])))
      (do
        let events ← liftM (ask (.listEvents parent))
        liftM (recordResumed document.id (resumedSteps steps (completedKeys events)))
        liftM (ask (.updateRow { document.withLab action focus with
          completedSteps := steps.length - (remainingSteps steps (completedKeys events)).length }))
        liftM (startWorker { document.withLab action focus with
          completedSteps := steps.length - (remainingSteps steps (completedKeys events)).length }
          (remainingSteps steps (completedKeys events)))
        storedOperation document.id : Attempt Document).run := by
  have starts : (role.does (.owns (accepted document focus steps []))).Starts
      (accepted document focus steps []) := free.starts fresh.queued
  apply follows_askExcept
  intro events
  let completed := completedKeys events
  have heard : (role.does (.owns (accepted document focus steps completed))).Starts
      (accepted document focus steps completed) := free.starts fresh.queued
  refine ⟨role.does (.owns (accepted document focus steps completed)), ?_, ?_⟩
  · rw [moves_iff starts.serves]
    exact ⟨fresh.queued, fresh.retryOf, rfl, rfl, ⟨action, fresh.workflow⟩, rfl, fresh.labAction⟩
  let resumed : Work := { accepted document focus steps completed with
    resumed := (resumedSteps steps completed).map Step.key }
  apply follows_liftBind (recordResumed_follows (resumedSteps steps completed) heard
    (fun step member => member))
  intro after _ recorded
  have reached : after = role.does (.owns resumed) := recorded
  subst reached
  have resumes : (role.does (.owns resumed)).Starts resumed := free.starts fresh.queued
  apply follows_askExcept
  intro _
  refine ⟨_, resumes.saves ⟨rfl, rfl, rfl, rfl, rfl, rfl, rfl⟩ fresh.queued
    ⟨fresh.workflow, rfl⟩, ?_⟩
  let updated : Work := { resumed with document := { document.withLab action focus with
    completedSteps := steps.length - (remainingSteps steps completed).length } }
  have updates : (role.does (.owns updated)).Starts updated := free.starts fresh.queued
  apply started_follows updates _ rfl
  exact {
    resumed := rfl
    total := by
      show steps.length - (remainingSteps steps completed).length +
        (remainingSteps steps completed).length = document.totalSteps
      rw [remaining_add_completed, fresh.totalSteps]
    lab := by
      intro other isLab
      have workflow_eq := fresh.workflow.symm.trans isLab
      cases workflow_eq
      rfl }

theorem submitLabAsync_follows {role : Role} (free : role.Free) (order : SetOrder)
    (action : String) (componentId : Option ComponentId) (caller : Caller)
    (retryOf : Option OperationId)
    (origin : ∀ document steps known, labAction action = some known →
      document.workflow = some (.lab known) → document.retryOf = retryOf →
      Origin role document (accepted document componentId steps [])) :
    Follows (Moves settings.engine) (fun after _ => after.Ended) role
      (submitLabAsync settings order action componentId caller retryOf).run := by
  apply follows_bindExcept ((checkActionReady_neutral action).follows free.stays)
  · intro after _ same
    subst same
    cases planned : settings.engine.labSteps order action componentId with
    | error error => exact free.ended
    | ok result =>
      rcases result with ⟨operation, requested, steps⟩
      cases isLab : labAction action with
      | none => exact free.ended
      | some known =>
        have named := eq_name_of_labAction isLab
        subst named
        apply follows_bindExcept (prepareSteps_follows free componentId []
          (fun id now boundary => .lab rfl planned)
          (fun id now boundary => origin _ _ known isLab rfl rfl))
        · intro reached document outcome
          rcases outcome with ⟨prepared, fresh⟩
          have reached_eq : reached = _ := prepared
          subst reached_eq
          cases retryOf with
          | none => exact startLab_follows free (fresh document rfl) componentId
          | some parent => exact resumeLab_follows free (fresh document rfl) componentId
        · intro reached error outcome
          have reached_eq : reached = after := outcome.1
          subst reached_eq
          exact free.ended
  · intro after error same
    subst same
    exact free.ended

/-! ## Retries -/

theorem retryable_follows {role : Role} (free : role.Free) (operationId : OperationId) :
    Follows (Moves engine)
      (fun after result => match result with
        | .ok previous => after = role.reads operationId (some previous) ∧
            previous.state.retryable = true
        | .error _ => after.Ended)
      role (retryable operationId).run := by
  apply follows_bindExcept (storedOperation_follows free operationId)
  · intro after previous read
    have reached : after = role.reads operationId (some previous) := read
    subst reached
    split
    · next isRetryable => exact ⟨rfl, isRetryable⟩
    · exact (free.reads _ _).ended
  · intro after error read
    have reached : after = role.reads operationId none := read
    subst reached
    exact (free.reads _ _).ended

theorem retry_follows {role : Role} (free : role.Free) (order : SetOrder)
    (operationId : OperationId) (caller : Caller) :
    Follows (Moves settings.engine) (fun after _ => after.Ended) role
      (retry settings order operationId caller).run := by
  apply follows_bindExcept (retryable_follows free operationId)
  · intro after previous outcome
    rcases outcome with ⟨rfl, _⟩
    exact submit_follows (free.reads _ _) _ _ _ _ _
  · intro after error ended
    exact ended

/-- A call that retries an operation has read the operation's row. -/
structure Role.Retries (role : Role) (order : SetOrder) (operationId : OperationId)
    (caller : Caller) (previous : Document) : Prop where
  free : role.Free
  called : role.call = some (.retryAsync order operationId caller)
  read : role.previous = some (operationId, previous)
  retryable : previous.state.retryable = true

theorem Role.Retries.hears {role : Role} {order : SetOrder} {operationId : OperationId}
    {caller : Caller} {previous : Document}
    (retries : role.Retries order operationId caller previous) (events : List Event) :
    (role.hears operationId events).Retries order operationId caller previous :=
  ⟨retries.free.hears _ _, retries.called, retries.read, retries.retryable⟩

/-- A retried clean installation: its row, the resumed steps, then its worker. -/
theorem resumeCleanInstall_follows {role : Role} (free : role.Free) {document : Document}
    {steps : List Step} {retryOf : Option OperationId}
    (fresh : Fresh document steps retryOf (some .cleanInstall)) (completed : List StepKey) :
    Follows (Moves engine) (fun after _ => after.Ended)
      (role.does (.owns (accepted document none steps completed)))
      (do
        liftM (ask (.updateRow { document with
          completedSteps := steps.length - (remainingSteps steps completed).length }))
        liftM (recordResumed document.id (resumedSteps steps completed))
        liftM (startWorker { document with
          completedSteps := steps.length - (remainingSteps steps completed).length }
          (remainingSteps steps completed))
        storedOperation document.id : Attempt Document).run := by
  have starts : (role.does (.owns (accepted document none steps completed))).Starts
      (accepted document none steps completed) := free.starts fresh.queued
  let counted : Document := { document with
    completedSteps := steps.length - (remainingSteps steps completed).length }
  have labFields : LabFields counted none := by
    show LabFields document none
    unfold LabFields
    rw [fresh.labAction]
    exact fresh.selectedComponent
  apply follows_askExcept
  intro _
  refine ⟨_, starts.saves ⟨rfl, rfl, rfl, rfl, rfl, rfl, rfl⟩ fresh.queued labFields, ?_⟩
  have updated : (role.does (.owns (accepted counted none steps completed))).Starts
      (accepted counted none steps completed) := free.starts fresh.queued
  apply follows_liftBind (recordResumed_follows (resumedSteps steps completed) updated
    (fun step member => member))
  intro after _ recorded
  let resumed : Work := { accepted counted none steps completed with
    resumed := (resumedSteps steps completed).map Step.key }
  have reached : after = role.does (.owns resumed) := recorded
  subst reached
  have resumes : (role.does (.owns resumed)).Starts resumed := free.starts fresh.queued
  apply started_follows resumes _ rfl
  exact {
    resumed := rfl
    total := by
      show steps.length - (remainingSteps steps completed).length +
        (remainingSteps steps completed).length = document.totalSteps
      rw [remaining_add_completed, fresh.totalSteps]
    lab := by
      intro other isLab
      have workflow_eq := fresh.workflow.symm.trans isLab
      cases workflow_eq }

theorem retryCleanInstall_follows {role : Role} {order : SetOrder} {operationId : OperationId}
    {caller : Caller} {previous : Document}
    (retries : role.Retries order operationId caller previous)
    (clean : previous.workflow = some .cleanInstall) :
    Follows (Moves settings.engine) (fun after _ => after.Ended) role
      (retryCleanInstall settings order operationId previous caller).run := by
  unfold retryCleanInstall
  split
  · exact retries.free.ended
  · apply follows_askExcept
    intro report
    refine ⟨role, retries.free.stays _ _ trivial, ?_⟩
    split
    · exact retries.free.ended
    · split
      · exact retries.free.ended
      · apply follows_askExcept
        intro events
        have heard := retries.hears events
        have evidence : (role.hears operationId events).evidence = some (completedKeys events) := by
          unfold Role.hears
          dsimp only
          rw [retries.read]
          exact if_pos rfl
        refine ⟨role.hears operationId events, ?_, ?_⟩
        · rw [moves_iff retries.free.serves]
          unfold Serving
          dsimp only
          rw [retries.free.idle]
        · apply follows_bindExcept (prepare_follows heard.free (completedKeys events) (.inr rfl)
            ?_)
          · intro after prepared outcome
            rcases prepared with ⟨document, steps⟩
            rcases outcome with ⟨fresh, rfl⟩
            exact resumeCleanInstall_follows heard.free fresh (completedKeys events)
          · intro after error same
            have reached : after = role.hears operationId events := same
            subst reached
            exact heard.free.ended
          · intro document steps workflow retryOf known targets
            rw [requestOperation_name] at known
            refine .retried heard.called retryOf heard.read ⟨heard.retryable, ?_⟩ ?_ ?_
            · rw [clean]
              exact ⟨workflow, (Option.some.inj known).symm, targets⟩
            · rw [workflow]
              exact Option.some_ne_none _
            · rw [workflow]
              exact evidence

theorem retryAsync_follows {role : Role} (free : role.Free) {order : SetOrder}
    {operationId : OperationId} {caller : Caller}
    (called : role.call = some (.retryAsync order operationId caller)) :
    Follows (Moves settings.engine) (fun after _ => after.Ended) role
      (retryAsync settings order operationId caller).run := by
  apply follows_bindExcept (retryable_follows free operationId)
  · intro after previous outcome
    rcases outcome with ⟨rfl, isRetryable⟩
    have retries : (role.reads operationId (some previous)).Retries order operationId caller
        previous := ⟨free.reads _ _, called, rfl, isRetryable⟩
    split
    · next action isLab =>
      split
      · exact retries.free.ended
      · next known labelled =>
        apply submitLabAsync_follows retries.free
        intro document steps other found workflow retryOf
        rw [labAction_name] at found
        have same := Option.some.inj found
        subst same
        refine .retried retries.called retryOf retries.read ⟨isRetryable, ?_⟩ ?_ ?_
        · rw [isLab]
          exact ⟨known, labelled, workflow, rfl⟩
        · rw [workflow]
          exact Option.some_ne_none _
        · rw [workflow]
          rfl
    · next clean => exact retryCleanInstall_follows retries clean
    · exact submitAsync_follows retries.free _ _ _ _ _
  · intro after error ended
    exact ended

/-! ## Cancelling, opening the store, approvals -/

/-- Cancelling a row that is not terminal, after the read. -/
theorem markCancelling_follows {role : Role} (serves : role.Serves) {document : Document}
    (cancelling : role.task = .cancelling document) (operationId : OperationId) (actor : String) :
    Follows (Moves engine) (fun after _ => after = role.does .idle) role
      (do
        liftM (ask (.addCancelled operationId))
        let now ← liftM (ask .now)
        liftM (ask (.updateRow { document with state := .cancelling, updatedAt := now }))
        liftM (ask (.addEvent operationId (.cancellationRequested actor now)))
        return { document with state := .cancelling, updatedAt := now } : Attempt Document).run := by
  apply follows_askExcept
  intro _
  refine ⟨role, (moves_iff serves).mpr rfl, ?_⟩
  apply follows_askExcept
  intro now
  refine ⟨role, (moves_iff serves).mpr rfl, ?_⟩
  apply follows_askExcept
  intro _
  refine ⟨role.does .idle, ?_, ?_⟩
  · rw [moves_iff serves]
    unfold Serving
    rw [cancelling]
    exact ⟨⟨now, rfl⟩, rfl⟩
  · apply follows_askExcept
    intro _
    refine ⟨role.does .idle, neutral_moves (serves.does _) ?_ trivial, rfl⟩
    intro other impossible
    cases impossible

theorem cancel_follows {role : Role} (free : role.Free) {operationId : OperationId}
    {actor : String} {identity : Option ActorIdentity}
    (called : role.call = some (.cancel operationId actor identity)) :
    Follows (Moves engine) (fun after _ => after.Ended) role
      (cancel settings operationId actor identity).run := by
  unfold cancel
  split
  · exact free.ended
  · split
    · exact free.ended
    · have serves : (role.locked true).Serves := free.serves.locked true
      apply withLock_follows (fun after _ => after = (role.locked true).does .idle) free.acquires
      · intro answer
        refine ⟨(role.locked true).does (cancelTask answer), ?_, ?_⟩
        · rw [moves_iff serves]
          refine ⟨free.idle, ?_⟩
          rw [if_pos (locked_holds role true)]
          exact ⟨⟨actor, identity, called⟩, rfl⟩
        · cases answer with
          | none => exact rfl
          | some document =>
              show Follows _ _ _ (ExceptT.run (if document.state.terminal = true then _ else _))
              by_cases terminal : document.state.terminal = true
              · have task : cancelTask (some document) = .idle := if_pos terminal
                rw [task, if_pos terminal]
                exact rfl
              · have task : cancelTask (some document) = .cancelling document := if_neg terminal
                rw [task, if_neg terminal]
                exact markCancelling_follows (serves.does _) rfl operationId actor
      · intro after result reached
        subst reached
        have released : Moves engine ((role.locked true).does .idle) .release ()
            ((role.does .idle).locked false) := by
          apply release_moves (serves.does _) rfl
          · intro work impossible
            cases impossible
          · intro document impossible
            cases impossible
        rw [free.locked_idle] at released
        exact ⟨role, released, free.ended⟩

theorem recoverRows_follows (documents : List Document) {role : Role} {known : List Document}
    (opens : role.call = some .openStore) (recovering : role.task = .recovering known)
    (read : ∀ document ∈ documents, document ∈ known) :
    Follows (Moves engine) (fun after _ => after = role) role (recoverRows documents) := by
  induction documents with
  | nil => exact rfl
  | cons document rest ih =>
      have others := ih (fun other member => read other (List.mem_cons_of_mem _ member))
      unfold recoverRows
      split
      · exact others
      · intro _
        refine ⟨role, ?_, ?_⟩
        · unfold Moves
          rw [opens]
          exact ⟨⟨known, recovering, document, read document List.mem_cons_self, rfl⟩, rfl⟩
        · intro _
          refine ⟨role, ?_, others⟩
          unfold Moves
          rw [opens]
          exact rfl

theorem openStore_follows {role : Role} (opens : role.call = some .openStore)
    (unlocked : role.holds = false) (idle : role.task = .idle) :
    Follows (Moves engine) (fun after _ => after.Ended) role openStore := by
  intro now
  refine ⟨role, ?_, ?_⟩
  · unfold Moves
    rw [opens]
    exact rfl
  intro _
  refine ⟨role.does (.recovering []), ?_, ?_⟩
  · unfold Moves
    rw [opens]
    exact ⟨idle, rfl⟩
  intro documents
  refine ⟨role.does (.recovering documents), ?_, ?_⟩
  · unfold Moves
    rw [does_call, opens]
    exact ⟨⟨[], rfl⟩, rfl⟩
  have recovers : Follows (Moves engine)
      (fun after _ => after = role.does (.recovering documents)) (role.does (.recovering documents))
      (recoverRows documents) :=
    recoverRows_follows documents opens rfl (fun document member => member)
  apply follows_bind recovers
  intro after _ same
  subst same
  intro _
  refine ⟨role.does .opened, ?_, unlocked, .inr rfl⟩
  unfold Moves
  rw [does_call, opens]
  exact ⟨⟨documents, rfl⟩, rfl⟩

/-- Calls of the authorization service leave everything else alone. -/
theorem service_follows {α : Type} {role : Role} (free : role.Free)
    {body : AuthorizationService → Attempt α}
    (neutral : ∀ service, OnlyAsks Neutral (body service).run) (outcome : Except Failure α → Outcome) :
    Follows (Moves engine) (fun after _ => after.Ended) role
      (do return outcome (← (withService settings body).run)) := by
  have only : OnlyAsks Neutral (withService settings body).run := by
    unfold withService
    split
    · exact neutral _
    · trivial
  apply follows_bind (only.follows free.stays)
  intro after result same
  subst same
  exact free.ended

/-- What a call ends in, whatever it returns. -/
theorem ended_follows {role : Role} {program : Attempt Document}
    (follows : Follows (Moves engine) (fun after _ => after.Ended) role program.run) :
    Follows (Moves engine) (fun after _ => after.Ended) role
      (do return Outcome.operation (← program.run)) :=
  follows_bind follows (fun _ _ ended => ended)

theorem body_follows {role : Role} (free : role.Free) {call : Call}
    (called : role.call = some call) (arrives : call.arrives = true) :
    Follows (Moves settings.engine) (fun after _ => after.Ended) role (call.body settings) := by
  cases call with
  | openStore => cases arrives
  | worker document steps => cases arrives
  | submit order operation componentIds caller retryOf =>
      exact ended_follows (submit_follows free order operation componentIds caller retryOf)
  | submitAsync order operation componentIds caller retryOf =>
      exact ended_follows (submitAsync_follows free order operation componentIds caller retryOf)
  | submitCleanInstall order actor identity =>
      exact ended_follows (submitCleanInstallAsync_follows free order actor identity)
  | submitLab order action componentId caller retryOf =>
      apply ended_follows
      apply submitLabAsync_follows free
      intro document steps known _ workflow retries
      subst retries
      exact .lab called ⟨known, workflow⟩ rfl
  | retry order operationId caller => exact ended_follows (retry_follows free order operationId caller)
  | retryAsync order operationId caller => exact ended_follows (retryAsync_follows free called)
  | cancel operationId actor identity => exact ended_follows (cancel_follows free called)
  | request plan identity =>
      exact service_follows free (fun service => request_neutral service plan identity) .approval
  | approve approvalId identity confirmation =>
      exact service_follows free
        (fun service => approve_neutral service approvalId identity confirmation) .approval
  | revoke approvalId identity =>
      exact service_follows free (fun _ => revoke_neutral approvalId identity) .approval
  | authorize plan identity approvalId provider =>
      exact service_follows free
        (fun service => authorize_neutral service plan identity approvalId provider) .authorized

/-! ## The protocol of the manager -/

theorem opening_call {role after : Role} {request : Request} {answer : Answer request}
    (opening : Opening role request answer after) : after.call = role.call := by
  cases request with
  | now =>
      cases opening
      rfl
  | addEvent operationId event =>
      cases event with
      | managerRestarted at_ =>
          cases opening
          rfl
      | _ => exact opening.elim
  | interruptActive now => exact opening.2 ▸ rfl
  | interruptedRows => exact opening.2 ▸ rfl
  | updatePayload document => exact opening.2 ▸ rfl
  | serve => exact opening.2 ▸ rfl
  | _ => exact opening.elim

theorem serving_call {role after : Role} {request : Request} {answer : Answer request}
    (serving : Serving engine role request answer after) : after.call = role.call := by
  cases request with
  | acquire => exact serving.2 ▸ rfl
  | release =>
      rcases serving with ⟨_, ends⟩
      split at ends
      · exact ends ▸ rfl
      · exact ends.elim
      · exact ends ▸ rfl
  | activeComponents => exact serving.2.2 ▸ rfl
  | getRow operationId =>
      rcases serving with ⟨_, reads⟩
      split at reads
      · exact reads.2 ▸ rfl
      · exact reads ▸ rfl
  | listEvents operationId =>
      unfold Serving at serving
      dsimp only at serving
      split at serving
      · exact serving ▸ rfl
      · exact serving.2.2.2.1 ▸ rfl
      · exact serving.elim
  | createRow document =>
      rcases serving with ⟨_, _, _, _, _, _, rfl⟩
      split <;> rfl
  | updateRow document =>
      unfold Serving at serving
      dsimp only at serving
      split at serving
      · exact serving.2 ▸ rfl
      · rcases serving.2 with ⟨_, _, _, rfl⟩ | ⟨_, _, rfl⟩ | ⟨_, _, _, _, _, rfl⟩ <;> rfl
      · exact serving.elim
  | addEvent operationId event =>
      cases event with
      | stepSucceeded component operation attempt at_ =>
          rcases serving with ⟨_, _, _, _, _, _, _, _, rfl⟩
          rfl
      | stepResumed component operation at_ =>
          rcases serving with ⟨_, _, _, _, _, rfl⟩
          rfl
      | _ => exact serving.2 ▸ rfl
  | startWorker document steps =>
      rcases serving with ⟨_, _, _, _, _, _, _, _, _, _, rfl⟩
      rfl
  | execute operationId step deadline => exact serving.2 ▸ rfl
  | addWorker operationId =>
      rcases serving with ⟨_, _, _, _, rfl⟩
      rfl
  | discardWorker operationId => exact serving.2.2 ▸ rfl
  | addCancelled operationId => exact congrArg Role.call serving
  | now => exact congrArg Role.call serving
  | interruptActive now => exact serving.elim
  | interruptedRows => exact serving.elim
  | updatePayload document => exact serving.elim
  | serve => exact serving.elim
  | _ => exact serving.2 ▸ rfl

theorem moves_call {role after : Role} {request : Request} {answer : Answer request}
    (moved : Moves engine role request answer after) : after.call = role.call := by
  unfold Moves at moved
  split at moved
  · exact moved.elim
  · exact opening_call moved
  · exact serving_call moved

/-- The role of a thread that has just been given its call. -/
def Role.begins (call : Option Call) (task : Task) : Role where
  call := call
  holds := false
  previous := none
  evidence := none
  task := task

/-- The manager's threads with their roles; a worker takes over the work of its starter. -/
def managerProtocol (settings : Settings) : Protocol (manager settings) Role where
  move := Moves settings.engine
  final role _ := role.Ended
  nobody := .begins none .idle
  enter call := .begins (some call) .idle
  child role
    | .startWorker document steps => .begins (some (.worker document steps)) role.task
    | _ => .begins none .idle
  call := Role.call
  nobody_final := ⟨rfl, .inl rfl⟩
  nobody_call := rfl
  boot_follows := follows_bind (openStore_follows rfl rfl rfl) (fun _ _ ended => ended)
  enter_follows := by
    intro state call admitted
    have arrives : call.arrives = true := (Bool.and_eq_true_iff.mp admitted).2
    apply body_follows ⟨⟨call, rfl, ?_⟩, rfl, rfl⟩ rfl arrives
    intro impossible
    subst impossible
    cases arrives
  child_follows := by
    intro role request answer after call moved started
    cases request with
    | startWorker document steps =>
        cases started
        have serves : role.Serves := by
          unfold Moves at moved
          split at moved
          · exact moved.elim
          · exact moved.elim
          · next call notOpening called => exact ⟨call, called, notOpening⟩
        rw [moves_iff serves] at moved
        rcases moved with ⟨work, owns, unlocked, rfl, rfl, _⟩
        have starts : (Role.begins (some (.worker work.document work.rest)) role.task).Serves :=
          ⟨_, rfl, nofun⟩
        exact follows_bind
          (runWorker_follows starts rfl owns rfl ⟨_, _, rfl, rfl⟩) (fun _ _ ended => ended)
    | _ => cases started
  enter_call _ := rfl
  move_call _ _ _ _ := moves_call
  child_call := by
    intro role request answer after call moved started
    cases request with
    | startWorker document steps =>
        cases started
        rfl
    | _ => cases started

end FortifyLab.Lifecycle
