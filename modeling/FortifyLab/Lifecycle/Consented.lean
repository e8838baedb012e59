import FortifyLab.Authorization.Consent
import FortifyLab.Lifecycle.Manager

/-! Every call of the manager asks of the approval store only what it may, and creates
a row of a risky operation only after it has consumed an approval of that operation. -/

namespace FortifyLab.Lifecycle

open Registry Authorization Program

/-! ## Parts of the calls that touch no approval and create no row -/

theorem withLock_plain {α : Type} {body : Attempt α} (only : OnlyAsks Plain body.run) :
    OnlyAsks Plain (withLock body).run := by
  apply onlyAsks_perform trivial
  intro _
  apply onlyAsks_bind only
  intro result
  exact ⟨trivial, fun _ => trivial⟩

theorem storedOperation_plain (operationId : OperationId) :
    OnlyAsks Plain (storedOperation operationId).run := by
  apply onlyAsks_askExcept trivial
  intro answer
  cases answer <;> trivial

theorem save_plain (document : Document) : OnlyAsks Plain (save document) :=
  ⟨trivial, fun _ => ⟨trivial, fun _ => trivial⟩⟩

theorem checkBoundary_plain (operationId : OperationId) (deadline : ℚ) :
    OnlyAsks Plain (checkBoundary operationId deadline).run := by
  apply onlyAsks_askExcept trivial
  intro cancelled
  split
  · trivial
  · apply onlyAsks_askExcept trivial
    intro now
    split <;> trivial

theorem verifyChecks_plain (operationId : OperationId) (step : Step) (deadline : ℚ)
    (checks : List String) : OnlyAsks Plain (verifyChecks operationId step deadline checks).run := by
  induction checks with
  | nil => trivial
  | cons check rest ih =>
      apply onlyAsks_bindExcept (checkBoundary_plain operationId deadline)
      intro _
      refine ⟨trivial, fun answer => ?_⟩
      match answer with
      | .ok true => exact ih
      | .ok false => trivial
      | .error raised => trivial

theorem tryStep_plain (operationId : OperationId) (step : Step) (attempt : Nat) (deadline : ℚ) :
    OnlyAsks Plain (tryStep operationId step attempt deadline).run := by
  apply onlyAsks_bindExcept (checkBoundary_plain operationId deadline)
  intro _
  refine ⟨trivial, fun answer => ?_⟩
  match answer with
  | .error raised => trivial
  | .ok _ =>
      apply onlyAsks_bindExcept (verifyChecks_plain operationId step deadline step.verify)
      intro _
      exact ⟨trivial, fun _ => ⟨trivial, fun _ => trivial⟩⟩

theorem executeAttempts_plain (step : Step) (remaining attempt : Nat) (document : Document) :
    OnlyAsks Plain (executeAttempts step remaining attempt document) := by
  induction remaining generalizing attempt document with
  | zero => trivial
  | succ remaining ih =>
      apply onlyAsks_bind (save_plain _)
      intro saved
      refine ⟨trivial, fun started => ?_⟩
      apply onlyAsks_bind (tryStep_plain saved.id step attempt (started + step.timeoutSeconds))
      intro tried
      match tried with
      | .ok _ => trivial
      | .error .stepCancelled => trivial
      | .error .stepTimedOut => trivial
      | .error .other =>
          refine ⟨trivial, fun now => ⟨trivial, fun _ => ?_⟩⟩
          split
          · trivial
          · exact ih (attempt + 1) saved

theorem runSteps_plain (index : Nat) (steps : List Step) (document : Document) :
    OnlyAsks Plain (runSteps index steps document) := by
  induction steps generalizing index document with
  | nil => trivial
  | cons step rest ih =>
      apply onlyAsks_bind (save_plain _)
      intro saved
      apply onlyAsks_bind (executeAttempts_plain step step.maxAttempts 1 saved)
      intro executed
      rcases executed with ⟨after, raised⟩
      cases raised with
      | some raised => trivial
      | none =>
          apply onlyAsks_bind (save_plain _)
          intro written
          exact ih (index + 1) written

theorem run_plain (document : Document) (steps : List Step) : OnlyAsks Plain (run document steps) := by
  apply onlyAsks_bind (save_plain _)
  intro saved
  apply onlyAsks_bind (runSteps_plain (saved.completedSteps + 1) steps saved)
  intro result
  exact ⟨trivial, fun _ => ⟨trivial, fun _ => ⟨trivial, fun _ => trivial⟩⟩⟩

theorem runWorker_plain (document : Document) (steps : List Step) :
    OnlyAsks Plain (runWorker document steps) :=
  onlyAsks_bind (run_plain document steps)
    (fun _ => ⟨trivial, fun _ => ⟨trivial, fun _ => ⟨trivial, fun _ => trivial⟩⟩⟩)

theorem startWorker_plain (document : Document) (steps : List Step) :
    OnlyAsks Plain (startWorker document steps) :=
  ⟨trivial, fun _ => ⟨trivial, fun _ => ⟨trivial, fun _ => ⟨trivial, fun _ => trivial⟩⟩⟩⟩

theorem recordResumed_plain (operationId : OperationId) (steps : List Step) :
    OnlyAsks Plain (recordResumed operationId steps) := by
  induction steps with
  | nil => trivial
  | cons step rest ih => exact ⟨trivial, fun _ => ⟨trivial, fun _ => ih⟩⟩

theorem cleanInstallPlan_plain (settings : Settings) (order : SetOrder) :
    OnlyAsks Plain (cleanInstallPlan settings order).run := by
  unfold cleanInstallPlan
  split
  · trivial
  · cases liftRegistry (settings.engine.registry.dependencyOrder order []) with
    | error error => trivial
    | ok components =>
        apply onlyAsks_askExcept trivial
        intro preflight
        split
        · trivial
        · apply onlyAsks_askExcept trivial
          intro footprint
          split
          · trivial
          · split
            · trivial
            · cases settings.engine.plan order "install" components <;> trivial

theorem checkActionReady_plain (settings : Settings) (action : String) :
    OnlyAsks Plain (checkActionReady settings action).run := by
  unfold checkActionReady
  split
  · exact onlyAsks_askExcept trivial (fun _ => trivial)
  · trivial

theorem retryable_plain (operationId : OperationId) : OnlyAsks Plain (retryable operationId).run := by
  apply onlyAsks_bindExcept (storedOperation_plain operationId)
  intro previous
  split <;> trivial

theorem cancel_plain (settings : Settings) (operationId : OperationId) (actor : String)
    (identity : Option ActorIdentity) :
    OnlyAsks Plain (cancel settings operationId actor identity).run := by
  unfold cancel
  split
  · trivial
  · split
    · trivial
    · apply withLock_plain
      apply onlyAsks_bindExcept (storedOperation_plain operationId)
      intro document
      split
      · trivial
      · exact ⟨trivial, fun _ => ⟨trivial, fun _ => ⟨trivial, fun _ => ⟨trivial, fun _ => trivial⟩⟩⟩⟩

theorem recoverRows_plain (documents : List Document) : OnlyAsks Plain (recoverRows documents) := by
  induction documents with
  | nil => trivial
  | cons document rest ih =>
      unfold recoverRows
      split
      · exact ih
      · exact ⟨trivial, fun _ => ⟨trivial, fun _ => ih⟩⟩

theorem openStore_plain : OnlyAsks Plain openStore := by
  apply onlyAsks_perform trivial
  intro now
  apply onlyAsks_perform trivial
  intro _
  apply onlyAsks_perform trivial
  intro documents
  apply onlyAsks_bind (recoverRows_plain documents)
  intro _
  exact ⟨trivial, fun _ => trivial⟩

/-! ## Calls -/

/-- What a caller of the engine may ask `authorize`: for its own approval, and the
targets it plans are those whose state is read. -/
def Caller.acts (caller : Caller) : Acts where
  requests _ _ := False
  approves _ _ _ := False
  revokes _ _ := False
  authorizes approvalId identity plan provider := caller.approvalId = some approvalId ∧
    caller.identity = some identity ∧ provider = some plan.targets ∧
    ∃ operation : Operation, plan.operation = operation.name

def Acts.none : Acts where
  requests _ _ := False
  approves _ _ _ := False
  revokes _ _ := False
  authorizes _ _ _ _ := False

/-- What a call of the manager set out to do. -/
def Call.acts : Call → Acts
  | .submit _ _ _ caller _ => caller.acts
  | .submitAsync _ _ _ caller _ => caller.acts
  | .submitCleanInstall _ actor identity => (⟨actor, identity, none⟩ : Caller).acts
  | .submitLab _ _ _ caller _ => caller.acts
  | .retry _ _ caller => caller.acts
  | .retryAsync _ _ caller => caller.acts
  | .request plan identity => { Acts.none with
      requests := fun asked by_ => asked = plan ∧ by_ = identity }
  | .approve approvalId identity confirmation => { Acts.none with
      approves := fun asked by_ phrase => asked = approvalId ∧ by_ = identity ∧ phrase = confirmation }
  | .revoke approvalId identity => { Acts.none with
      revokes := fun asked by_ => asked = approvalId ∧ by_ = identity }
  | .authorize plan identity approvalId provider => { Acts.none with
      authorizes := fun asked by_ submitted read => approvalId = some asked ∧ by_ = identity ∧
        submitted = plan ∧ read = provider }
  | _ => Acts.none

/-- Whoever may do all that a caller of the engine may. -/
def Caller.Within (caller : Caller) (acts : Acts) : Prop :=
  ∀ approvalId identity plan provider,
    caller.acts.authorizes approvalId identity plan provider →
      acts.authorizes approvalId identity plan provider

variable {settings : Settings} {service : AuthorizationService} {caller : Caller} {acts : Acts}

/-- Nothing is known of how a call ends. -/
abbrev Anyhow {α : Type} : History → α → Prop := fun _ _ => True

/-- No row has been created so far. -/
def RowLess (history : History) : Prop := ∀ exchange ∈ history, ¬ MakesRow exchange

theorem RowLess.append {first second : History} (before : RowLess first) (after : RowLess second) :
    RowLess (first ++ second) :=
  List.forall_mem_append.mpr ⟨before, after⟩

theorem Plain.notMakesRow {exchange : Exchange Request Answer} (plain : Plain exchange.1) :
    ¬ MakesRow exchange := by
  rcases exchange with ⟨request, answer⟩
  cases request <;> first | exact fun impossible => impossible | cases plain

/-- A part of a call that touches no approval adds no row either. -/
theorem plain_follows {α : Type} {program : Act α} (only : OnlyAsks Plain program)
    {told : History} (rowLess : RowLess told) :
    Follows (Records (Lawful service acts)) (fun after _ => RowLess after) told program := by
  apply (only.records lawful_of_plain told).mono
  intro after result grown
  rcases grown with ⟨more, rfl, plain⟩
  exact rowLess.append (fun exchange member => Plain.notMakesRow (plain exchange member))

theorem plain_ends {α : Type} {program : Act α} {told : History} (only : OnlyAsks Plain program) :
    Follows (Records (Lawful service acts)) Anyhow told program :=
  (only.records lawful_of_plain told).mono (fun _ _ _ => trivial)

theorem authorizeSteps_runs (configured : settings.authorization = some service)
    (within : caller.Within acts) (operation : Operation) (components : List ComponentId) :
    Runs (Lawful service acts)
      (fun more result => RowLess more ∧
        (result = .ok () → ∀ risk, riskByOperation.lookup operation.name = some risk →
          risk.approvalRequired = true → ∃ id document,
            Consumes service more operation.name components id document)) []
      (authorizeSteps settings operation components caller).run := by
  unfold authorizeSteps
  rw [configured]
  cases known : caller.identity with
  | none => exact runs_done ⟨by simp [RowLess], by simp⟩
  | some identity =>
      dsimp only
      split
      · exact runs_done ⟨by simp [RowLess], by simp⟩
      · apply runs_askExcept (fun _ => trivial)
        intro observed
        split
        · exact runs_done ⟨by simp [RowLess, MakesRow], by simp⟩
        · next state =>
          refine (authorize_runs ?_).last ?_
          · intro id same
            exact within _ _ _ _ ⟨same, known, rfl, operation, rfl⟩
          · intro more result authorized
            constructor
            · exact RowLess.append (by simp [RowLess, MakesRow]) authorized.noRow
            · intro returned risk policy required
              rcases authorized.returned returned with ⟨found, same, consumes⟩
              have equal : found = risk := Option.some.inj (same.symm.trans policy)
              subst equal
              rcases consumes required with ⟨id, document, _, consumed⟩
              exact ⟨id, document, List.mem_append_right _ consumed.accepted, consumed.bound⟩

theorem withLock_lawful {α : Type} {body : Attempt α} {told : History}
    (follows : Follows (Records (Lawful service acts)) Anyhow (told ++ [⟨.acquire, ()⟩]) body.run) :
    Follows (Records (Lawful service acts)) Anyhow told (withLock body).run := by
  apply follows_perform
  intro _
  refine ⟨_, ⟨trivial, rfl⟩, ?_⟩
  apply follows_bind follows
  intro after result _ _
  exact ⟨_, ⟨trivial, rfl⟩, trivial⟩

/-- The one row of a call is created with an approval where its risk requires one. -/
theorem prepareSteps_licensed (configured : settings.authorization = some service)
    (within : caller.Within acts) (operation : Operation) (requested : List ComponentId)
    (steps : List Step) (retryOf : Option OperationId) (workflow : Option Workflow)
    {told : History} (rowLess : RowLess told) :
    Follows (Records (Lawful service acts)) Anyhow told
      (prepareSteps settings operation requested steps caller retryOf workflow).run := by
  apply withLock_lawful
  apply follows_askExcept
  intro active
  refine ⟨_, ⟨trivial, rfl⟩, ?_⟩
  split
  · trivial
  · apply follows_bindExcept
      ((authorizeSteps_runs configured within operation (affected steps)).follows _)
    · intro after _ outcome
      rcases outcome with ⟨more, rfl, quiet, approved⟩
      apply follows_askExcept
      intro now
      refine ⟨_, ⟨trivial, rfl⟩, ?_⟩
      apply follows_askExcept
      intro id
      refine ⟨_, ⟨trivial, rfl⟩, ?_⟩
      split
      · trivial
      · next boundary _ =>
        apply follows_askExcept
        intro created
        refine ⟨_, ⟨?_, rfl⟩, ?_⟩
        · constructor
          · intro other answer member
            have before : RowLess (told ++ [⟨.acquire, ()⟩] ++ [⟨.activeComponents, active⟩] ++ more ++
                [⟨.now, now⟩] ++ [⟨.newId, id⟩]) := by
              apply RowLess.append _ (by simp [RowLess, MakesRow])
              apply RowLess.append _ (by simp [RowLess, MakesRow])
              apply RowLess.append _ quiet
              apply RowLess.append _ (by simp [RowLess, MakesRow])
              exact rowLess.append (by simp [RowLess, MakesRow])
            exact before _ member trivial
          · intro risk policy required
            rcases approved rfl risk policy required with ⟨approvalId, document, consumes⟩
            exact ⟨approvalId, document, consumes.mono (fun _ member => by simp [member])⟩
        · split <;> trivial
    · intro after error outcome
      trivial

theorem prepare_licensed (configured : settings.authorization = some service)
    (within : caller.Within acts) (order : SetOrder) (operation : String)
    (componentIds : List ComponentId) (retryOf : Option OperationId) (workflow : Option Workflow)
    {told : History} (rowLess : RowLess told) :
    Follows (Records (Lawful service acts)) Anyhow told
      (prepare settings order operation componentIds caller retryOf workflow).run := by
  unfold prepare
  split
  · trivial
  · next operation _ =>
    dsimp only
    split
    · trivial
    · cases settings.engine.planSteps order operation componentIds.eraseDups with
      | error error => trivial
      | ok steps =>
          apply follows_bindExcept (prepareSteps_licensed configured within operation _ steps
            retryOf workflow rowLess)
          · intro after document _
            trivial
          · intro after error _
            trivial

theorem started_lawful (document : Document) (steps : List Step) (told : History) :
    Follows (Records (Lawful service acts)) Anyhow told
      (do
        startWorker document steps
        storedOperation document.id : Attempt Document).run :=
  plain_ends (onlyAsks_bindExcept (onlyAsks_liftExcept (startWorker_plain document steps))
    (fun _ => storedOperation_plain document.id))

theorem submit_licensed (configured : settings.authorization = some service)
    (within : caller.Within acts) (order : SetOrder) (operation : String)
    (componentIds : List ComponentId) (retryOf : Option OperationId)
    {told : History} (rowLess : RowLess told) :
    Follows (Records (Lawful service acts)) Anyhow told
      (submit settings order operation componentIds caller retryOf).run := by
  apply follows_bindExcept (prepare_licensed configured within order operation componentIds
    retryOf none rowLess)
  · intro after prepared _
    rcases prepared with ⟨document, steps⟩
    exact plain_ends (onlyAsks_bindExcept (onlyAsks_liftExcept (run_plain document steps))
      (fun _ => storedOperation_plain document.id))
  · intro after error _
    trivial

theorem submitAsync_licensed (configured : settings.authorization = some service)
    (within : caller.Within acts) (order : SetOrder) (operation : String)
    (componentIds : List ComponentId) (retryOf : Option OperationId)
    {told : History} (rowLess : RowLess told) :
    Follows (Records (Lawful service acts)) Anyhow told
      (submitAsync settings order operation componentIds caller retryOf).run := by
  apply follows_bindExcept (prepare_licensed configured within order operation componentIds
    retryOf none rowLess)
  · intro after prepared _
    rcases prepared with ⟨document, steps⟩
    exact started_lawful document steps after
  · intro after error _
    trivial

theorem submitCleanInstallAsync_licensed (configured : settings.authorization = some service)
    (order : SetOrder) (actor : String) (identity : Option ActorIdentity)
    (within : (⟨actor, identity, none⟩ : Caller).Within acts) {told : History}
    (rowLess : RowLess told) :
    Follows (Records (Lawful service acts)) Anyhow told
      (submitCleanInstallAsync settings order actor identity).run := by
  apply follows_bindExcept (plain_follows (cleanInstallPlan_plain settings order) rowLess)
  · intro after plan rowLess
    rcases plan with ⟨preflight, existing, requested⟩
    dsimp only
    split
    · trivial
    · split
      · trivial
      · apply follows_bindExcept (prepare_licensed configured within order "install" requested
          none (some .cleanInstall) rowLess)
        · intro after prepared _
          rcases prepared with ⟨document, steps⟩
          exact started_lawful document steps after
        · intro after error _
          trivial
  · intro after error _
    trivial

theorem submitLabAsync_licensed (configured : settings.authorization = some service)
    (within : caller.Within acts) (order : SetOrder) (action : String)
    (componentId : Option ComponentId) (retryOf : Option OperationId)
    {told : History} (rowLess : RowLess told) :
    Follows (Records (Lawful service acts)) Anyhow told
      (submitLabAsync settings order action componentId caller retryOf).run := by
  apply follows_bindExcept (plain_follows (checkActionReady_plain settings action) rowLess)
  · intro after _ rowLess
    cases settings.engine.labSteps order action componentId with
    | error error => trivial
    | ok planned =>
        rcases planned with ⟨operation, requested, steps⟩
        dsimp only
        cases labAction action with
        | none => trivial
        | some action =>
            apply follows_bindExcept (prepareSteps_licensed configured within operation requested
              steps retryOf (some (.lab action)) rowLess)
            · intro after document _
              apply plain_ends
              split
              · exact ⟨trivial, fun _ => onlyAsks_bindExcept
                  (onlyAsks_liftExcept (startWorker_plain _ _))
                  (fun _ => storedOperation_plain _)⟩
              · next parent =>
                apply onlyAsks_askExcept trivial
                intro events
                apply onlyAsks_bindExcept (onlyAsks_liftExcept (recordResumed_plain _ _))
                intro _
                exact ⟨trivial, fun _ => onlyAsks_bindExcept
                  (onlyAsks_liftExcept (startWorker_plain _ _))
                  (fun _ => storedOperation_plain _)⟩
            · intro after error _
              trivial
  · intro after error _
    trivial

theorem retry_licensed (configured : settings.authorization = some service)
    (within : caller.Within acts) (order : SetOrder) (operationId : OperationId)
    {told : History} (rowLess : RowLess told) :
    Follows (Records (Lawful service acts)) Anyhow told
      (retry settings order operationId caller).run := by
  apply follows_bindExcept (plain_follows (retryable_plain operationId) rowLess)
  · intro after previous rowLess
    exact submit_licensed configured within order _ _ _ rowLess
  · intro after error _
    trivial

theorem retryCleanInstall_licensed (configured : settings.authorization = some service)
    (within : caller.Within acts) (order : SetOrder) (operationId : OperationId)
    (previous : Document) {told : History} (rowLess : RowLess told) :
    Follows (Records (Lawful service acts)) Anyhow told
      (retryCleanInstall settings order operationId previous caller).run := by
  unfold retryCleanInstall
  split
  · trivial
  · apply follows_askExcept
    intro report
    refine ⟨_, ⟨trivial, rfl⟩, ?_⟩
    have asked : RowLess (told ++ [⟨.preflight, report⟩]) :=
      rowLess.append (by simp [RowLess, MakesRow])
    split
    · trivial
    · split
      · trivial
      · apply follows_askExcept
        intro events
        refine ⟨_, ⟨trivial, rfl⟩, ?_⟩
        apply follows_bindExcept (prepare_licensed configured within order _ _ (some operationId)
          (some .cleanInstall) (asked.append (by simp [RowLess, MakesRow])))
        · intro after prepared _
          rcases prepared with ⟨document, steps⟩
          apply plain_ends
          apply onlyAsks_askExcept trivial
          intro _
          apply onlyAsks_bindExcept (onlyAsks_liftExcept (recordResumed_plain _ _))
          intro _
          exact onlyAsks_bindExcept (onlyAsks_liftExcept (startWorker_plain _ _))
            (fun _ => storedOperation_plain _)
        · intro after error _
          trivial

theorem retryAsync_licensed (configured : settings.authorization = some service)
    (within : caller.Within acts) (order : SetOrder) (operationId : OperationId)
    {told : History} (rowLess : RowLess told) :
    Follows (Records (Lawful service acts)) Anyhow told
      (retryAsync settings order operationId caller).run := by
  apply follows_bindExcept (plain_follows (retryable_plain operationId) rowLess)
  · intro after previous rowLess
    split
    · split
      · trivial
      · exact submitLabAsync_licensed configured within order _ _ _ rowLess
    · exact retryCleanInstall_licensed configured within order operationId previous rowLess
    · exact submitAsync_licensed configured within order _ _ _ rowLess
  · intro after error _
    trivial

/-! ## The discipline of the manager -/

/-- How a call of the authorization service ends. -/
def Call.Ends (service : AuthorizationService) : Call → History → Outcome → Prop
  | .approve approvalId _ _, history, .approval result => Approved approvalId history result
  | .authorize plan _ approvalId _, history, .authorized result =>
      Authorized service plan approvalId history result
  | .revoke _ _, history, .approval result => ∀ error, result = .error error →
      ∀ exchange ∈ history, ¬ Writes exchange
  | .approve _ _ _, _, _ => False
  | .authorize _ _ _ _, _, _ => False
  | _, _, _ => True

theorem ended_lawful {told : History} {post : History → Outcome → Prop}
    {program : Attempt Document}
    (follows : Follows (Records (Lawful service acts)) Anyhow told program.run)
    (anyhow : ∀ history result, post history (.operation result)) :
    Follows (Records (Lawful service acts)) post told
      (do return Outcome.operation (← program.run)) :=
  follows_bind follows (fun after result _ => anyhow after result)

theorem served_lawful {α : Type} (configured : settings.authorization = some service)
    {body : AuthorizationService → Attempt α} {middle : History → Except Failure α → Prop}
    {post : History → Outcome → Prop} {outcome : Except Failure α → Outcome}
    (runs : Runs (Lawful service acts) middle [] (body service).run)
    (ends : ∀ more result, middle more result → post more (outcome result)) :
    Follows (Records (Lawful service acts)) post []
      (do return outcome (← (withService settings body).run)) := by
  unfold withService
  rw [configured]
  apply follows_bind (runs.follows [])
  intro after result ended
  rcases ended with ⟨_, rfl, holds⟩
  exact ends _ result holds

theorem body_lawful (configured : settings.authorization = some service) (call : Call) :
    Follows (Records (Lawful service call.acts)) (call.Ends service) [] (call.body settings) := by
  have none : RowLess [] := by simp [RowLess]
  cases call with
  | openStore => exact follows_bind (plain_ends openStore_plain) (fun _ _ _ => trivial)
  | worker document steps =>
      exact follows_bind (plain_ends (runWorker_plain document steps)) (fun _ _ _ => trivial)
  | submit order operation componentIds caller retryOf =>
      exact ended_lawful (submit_licensed configured (fun _ _ _ _ may => may) order operation
        componentIds retryOf none) (fun _ _ => trivial)
  | submitAsync order operation componentIds caller retryOf =>
      exact ended_lawful (submitAsync_licensed configured (fun _ _ _ _ may => may) order operation
        componentIds retryOf none) (fun _ _ => trivial)
  | submitCleanInstall order actor identity =>
      exact ended_lawful (submitCleanInstallAsync_licensed configured order actor identity
        (fun _ _ _ _ may => may) none) (fun _ _ => trivial)
  | submitLab order action componentId caller retryOf =>
      exact ended_lawful (submitLabAsync_licensed configured (fun _ _ _ _ may => may) order action
        componentId retryOf none) (fun _ _ => trivial)
  | retry order operationId caller =>
      exact ended_lawful (retry_licensed configured (fun _ _ _ _ may => may) order operationId none)
        (fun _ _ => trivial)
  | retryAsync order operationId caller =>
      exact ended_lawful (retryAsync_licensed configured (fun _ _ _ _ may => may) order operationId
        none) (fun _ _ => trivial)
  | cancel operationId actor identity =>
      exact ended_lawful (plain_ends (cancel_plain settings operationId actor identity))
        (fun _ _ => trivial)
  | request plan identity =>
      exact served_lawful configured (request_runs ⟨rfl, rfl⟩) (fun _ _ _ => trivial)
  | approve approvalId identity confirmation =>
      exact served_lawful configured (approve_runs ⟨rfl, rfl, rfl⟩) (fun _ _ approved => approved)
  | revoke approvalId identity =>
      exact served_lawful configured (revoke_runs ⟨rfl, rfl⟩) (fun _ _ revoked => revoked.2.2)
  | authorize plan identity approvalId provider =>
      exact served_lawful configured (authorize_runs (fun id same => ⟨same, rfl, rfl, rfl⟩))
        (fun _ _ authorized => authorized)

/-- With an authorization service every thread of the manager is lawful. -/
def consent (configured : settings.authorization = some service) : Discipline (manager settings) where
  legal call := Lawful service call.acts
  ends call := call.Ends service
  keeps call := body_lawful configured call

end FortifyLab.Lifecycle
