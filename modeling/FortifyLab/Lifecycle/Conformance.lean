import FortifyLab.Lifecycle.Protocol

/-! Every call of the manager keeps to the protocol. -/

namespace FortifyLab.Lifecycle

open Registry Authorization Program

variable {engine : Engine}

/-- The role of a call that arrived after the store was opened. -/
def Role.Serves (role : Role) : Prop := ∃ call, role.call = some call ∧ call ≠ .openStore

theorem moves_iff {role after : Role} (serves : role.Serves) {request : Request}
    {answer : Answer request} :
    Moves engine role request answer after ↔ Serving engine role request answer after := by
  obtain ⟨call, called, notOpening⟩ := serves
  unfold Moves
  rw [called]
  cases call <;> first | rfl | exact absurd rfl notOpening

@[simp] theorem does_call (role : Role) (task : Task) : (role.does task).call = role.call := rfl

@[simp] theorem does_holds (role : Role) (task : Task) : (role.does task).holds = role.holds := rfl

@[simp] theorem does_task (role : Role) (task : Task) : (role.does task).task = task := rfl

@[simp] theorem does_previous (role : Role) (task : Task) :
    (role.does task).previous = role.previous := rfl

@[simp] theorem does_evidence (role : Role) (task : Task) :
    (role.does task).evidence = role.evidence := rfl

@[simp] theorem does_does (role : Role) (first second : Task) :
    (role.does first).does second = role.does second := rfl

theorem does_same {role : Role} {task : Task} (same : role.task = task) :
    role.does task = role := by
  cases role
  subst same
  rfl

@[simp] theorem locked_call (role : Role) (holds : Bool) :
    (role.locked holds).call = role.call := rfl

@[simp] theorem locked_holds (role : Role) (holds : Bool) :
    (role.locked holds).holds = holds := rfl

@[simp] theorem locked_task (role : Role) (holds : Bool) :
    (role.locked holds).task = role.task := rfl

@[simp] theorem locked_previous (role : Role) (holds : Bool) :
    (role.locked holds).previous = role.previous := rfl

@[simp] theorem locked_evidence (role : Role) (holds : Bool) :
    (role.locked holds).evidence = role.evidence := rfl

@[simp] theorem locked_locked (role : Role) (first second : Bool) :
    (role.locked first).locked second = role.locked second := rfl

@[simp] theorem locked_does (role : Role) (holds : Bool) (task : Task) :
    (role.locked holds).does task = (role.does task).locked holds := rfl

theorem locked_same {role : Role} {holds : Bool} (same : role.holds = holds) :
    role.locked holds = role := by
  cases role
  subst same
  rfl

theorem Role.Serves.locked {role : Role} (serves : role.Serves) (holds : Bool) :
    (role.locked holds).Serves := serves

theorem Role.Serves.does {role : Role} (serves : role.Serves) (task : Task) :
    (role.does task).Serves := serves

/-- Requests that change neither the rows nor what a role knows. -/
def Neutral : Request → Prop
  | .isCancelled _ => True
  | .discardCancelled _ => True
  | .addEvent _ (.attemptFailed _ _ _ _ _) => True
  | .addEvent _ (.cancellationRequested _ _) => True
  | .now => True
  | .newId => True
  | .monotonic => True
  | .verify _ _ _ _ => True
  | .preflight => True
  | .footprint _ => True
  | .currentState _ => True
  | .authorizationNow => True
  | .insertApproval _ => True
  | .findApproval _ => True
  | .transition _ _ _ _ => True
  | .record _ => True
  | _ => False

theorem neutral_moves {role : Role} (serves : role.Serves)
    (notCancelling : ∀ document, role.task ≠ .cancelling document) {request : Request}
    {answer : Answer request} (neutral : Neutral request) :
    Moves engine role request answer role := by
  rw [moves_iff serves]
  cases request with
  | addEvent operationId event => cases event <;> first | exact ⟨notCancelling, rfl⟩ | cases neutral
  | now => rfl
  | _ => first | exact ⟨notCancelling, rfl⟩ | cases neutral

/-! ## The authorization service -/

theorem audit_neutral (approvalId : Option ApprovalId) (action actor outcome reason : String) :
    OnlyAsks Neutral (audit approvalId action actor outcome reason) :=
  ⟨trivial, fun _ => ⟨trivial, fun _ => trivial⟩⟩

theorem storedApproval_neutral (approvalId : ApprovalId) :
    OnlyAsks Neutral (storedApproval approvalId).run := by
  refine ⟨trivial, fun answer => ?_⟩
  cases answer <;> trivial

theorem planRisk_neutral (plan : OperationPlan) : OnlyAsks Neutral (planRisk plan).run := by
  unfold planRisk
  split <;> trivial

theorem request_neutral (service : AuthorizationService) (plan : OperationPlan)
    (identity : ActorIdentity) : OnlyAsks Neutral (service.request plan identity).run := by
  apply onlyAsks_askExcept trivial
  intro now
  apply onlyAsks_askExcept trivial
  intro id
  apply onlyAsks_bindExcept (planRisk_neutral plan)
  intro risk
  apply onlyAsks_askExcept trivial
  intro inserted
  split
  · exact onlyAsks_bindExcept (onlyAsks_liftExcept (audit_neutral _ _ _ _ _)) (fun _ => trivial)
  · trivial

/-- Recording a decision and then returning or raising. -/
theorem audited_neutral {α : Type} (approvalId : Option ApprovalId)
    (action actor outcome reason : String) {ending : Attempt α}
    (only : OnlyAsks Neutral ending.run) :
    OnlyAsks Neutral (do
      liftM (audit approvalId action actor outcome reason)
      ending : Attempt α).run :=
  onlyAsks_bindExcept (onlyAsks_liftExcept (audit_neutral _ _ _ _ _)) (fun _ => only)

theorem approve_neutral (service : AuthorizationService) (approvalId : ApprovalId)
    (identity : ActorIdentity) (confirmation : Option String) :
    OnlyAsks Neutral (service.approve approvalId identity confirmation).run := by
  apply onlyAsks_bindExcept (storedApproval_neutral approvalId)
  intro document
  apply onlyAsks_askExcept trivial
  intro now
  split
  · exact audited_neutral _ _ _ _ _ trivial
  · apply onlyAsks_askExcept trivial
    intro changed
    split
    · exact audited_neutral _ _ _ _ _ trivial
    · exact audited_neutral _ _ _ _ _ trivial

theorem revoke_neutral (approvalId : ApprovalId) (identity : ActorIdentity) :
    OnlyAsks Neutral (AuthorizationService.revoke approvalId identity).run := by
  apply onlyAsks_bindExcept (storedApproval_neutral approvalId)
  intro document
  dsimp only
  split
  · exact audited_neutral _ _ _ _ _ trivial
  · split
    · trivial
    · apply onlyAsks_askExcept trivial
      intro now
      apply onlyAsks_askExcept trivial
      intro changed
      split
      · exact audited_neutral _ _ _ _ _ trivial
      · trivial

theorem consume_neutral (service : AuthorizationService) (plan : OperationPlan) (risk : Risk)
    (identity : ActorIdentity) (approvalId : ApprovalId) (document : Approval)
    (observed : Option (List (String × String))) :
    OnlyAsks Neutral (service.consume plan risk identity approvalId document observed).run := by
  unfold AuthorizationService.consume
  split
  · exact audited_neutral _ _ _ _ _ trivial
  · apply onlyAsks_askExcept trivial
    intro now
    split
    · exact audited_neutral _ _ _ _ _ trivial
    · apply onlyAsks_askExcept trivial
      intro consumed
      apply onlyAsks_askExcept trivial
      intro changed
      split
      · exact onlyAsks_liftExcept (audit_neutral _ _ _ _ _)
      · exact audited_neutral _ _ _ _ _ trivial

theorem authorize_neutral (service : AuthorizationService) (plan : OperationPlan)
    (identity : ActorIdentity) (approvalId : Option ApprovalId)
    (provider : Option (List ComponentId)) :
    OnlyAsks Neutral (service.authorize plan identity approvalId provider).run := by
  apply onlyAsks_bindExcept (planRisk_neutral plan)
  intro risk
  split
  · exact onlyAsks_liftExcept (audit_neutral _ _ _ _ _)
  · split
    · exact audited_neutral _ _ _ _ _ trivial
    · apply onlyAsks_bindExcept (storedApproval_neutral _)
      intro document
      split
      · apply onlyAsks_askExcept trivial
        intro observed
        exact consume_neutral _ _ _ _ _ _ _
      · exact consume_neutral _ _ _ _ _ _ _

theorem authorizeSteps_neutral (settings : Settings) (operation : Operation)
    (components : List ComponentId) (caller : Caller) :
    OnlyAsks Neutral (authorizeSteps settings operation components caller).run := by
  unfold authorizeSteps
  split
  · trivial
  · trivial
  · split
    · trivial
    · apply onlyAsks_askExcept trivial
      intro observed
      split
      · trivial
      · exact authorize_neutral _ _ _ _ _

/-! ## Execution -/

theorem checkBoundary_neutral (operationId : OperationId) (deadline : ℚ) :
    OnlyAsks Neutral (checkBoundary operationId deadline).run := by
  apply onlyAsks_askExcept trivial
  intro cancelled
  split
  · trivial
  · apply onlyAsks_askExcept trivial
    intro now
    split <;> trivial

theorem verifyChecks_neutral (operationId : OperationId) (step : Step) (deadline : ℚ)
    (checks : List String) : OnlyAsks Neutral (verifyChecks operationId step deadline checks).run := by
  induction checks with
  | nil => trivial
  | cons check rest ih =>
      apply onlyAsks_bindExcept (checkBoundary_neutral operationId deadline)
      intro _
      refine ⟨trivial, fun answer => ?_⟩
      match answer with
      | .ok true => exact ih
      | .ok false => trivial
      | .error raised => trivial

/-- The thread owns the operation and its row is running. -/
structure Role.Runs (role : Role) (work : Work) : Prop where
  serves : role.Serves
  owns : role.task = .owns work
  running : work.document.state = .running

theorem Role.Runs.notCancelling {role : Role} {work : Work} (runs : role.Runs work) :
    ∀ document, role.task ≠ .cancelling document := by
  intro document impossible
  rw [runs.owns] at impossible
  cases impossible

theorem Role.Runs.stays {role : Role} {work : Work} (runs : role.Runs work) (request : Request)
    (answer : Answer request) (neutral : Neutral request) :
    Moves engine role request answer role :=
  neutral_moves runs.serves runs.notCancelling neutral

theorem Role.Runs.does {role : Role} {work : Work} (runs : role.Runs work) {next : Work}
    (running : next.document.state = .running) : (role.does (.owns next)).Runs next :=
  ⟨runs.serves.does _, rfl, running⟩

theorem save_follows {role : Role} (serves : role.Serves) {document : Document}
    {post : Role → Document → Prop}
    (saves : ∀ now, ∃ after, Moves engine role
      (.updateRow { document with updatedAt := now }) () after ∧
      post after { document with updatedAt := now }) :
    Follows (Moves engine) post role (save document) := by
  intro now
  refine ⟨role, ?_, fun _ => saves now⟩
  rw [moves_iff serves]
  rfl

/-- How the `try` block of a step ends. -/
def Tried (role : Role) (work : Work) (step : Step) (rest : List Step) (after : Role) :
    Except Raised Unit → Prop
  | .ok _ => after = role.does (.owns (work.advance step rest))
  | .error _ => after = role

theorem tryStep_follows {role : Role} {work : Work} (runs : role.Runs work) {step : Step}
    {rest : List Step} (next : work.rest = step :: rest) (attempt : Nat) (deadline : ℚ) :
    Follows (Moves engine) (Tried role work step rest) role
      (tryStep work.document.id step attempt deadline).run := by
  apply follows_bindExcept ((checkBoundary_neutral _ _).follows runs.stays)
  · intro after _ same
    subst same
    intro executed
    refine ⟨after, ?_, ?_⟩
    · rw [moves_iff runs.serves]
      exact ⟨⟨work, rest, runs.owns, rfl, runs.running, next⟩, rfl⟩
    · cases executed with
      | error raised => exact rfl
      | ok _ =>
          apply follows_bindExcept ((verifyChecks_neutral _ _ _ _).follows runs.stays)
          · intro after _ same
            subst same
            apply follows_askExcept
            intro now
            refine ⟨after, runs.stays _ _ trivial, ?_⟩
            intro _
            refine ⟨after.does (.owns (work.advance step rest)), ?_, rfl⟩
            rw [moves_iff runs.serves]
            exact ⟨work, step, rest, runs.owns, rfl, runs.running, next, rfl, rfl⟩
          · intro after _ same
            exact same
  · intro after _ same
    exact same

/-- A write of the owner's row that changes neither the operation nor its state. -/
theorem Role.Runs.saves {role : Role} {work : Work} (runs : role.Runs work)
    {document : Document} (same : SameOperation document work.document)
    (running : document.state = .running) (lab : KeepsLab document work) :
    Moves engine role (.updateRow document) ()
      (role.does (.owns (work.writes document))) := by
  rw [moves_iff runs.serves]
  unfold Serving
  rw [runs.owns]
  exact ⟨same, .inr (.inl ⟨running, lab, rfl⟩)⟩

/-- The thread carries on with the document that it wrote last. -/
def Carries (role : Role) (document : Document) (rest : List Step) (after : Role) : Prop :=
  ∃ work, after = role.does (.owns work) ∧ work.document = document ∧
    work.document.state = .running ∧ work.rest = rest

/-- How an execution of steps ends: with nothing left, or where something was raised. -/
def Executed (role : Role) (rest : List Step) (after : Role)
    (result : Document × Option Raised) : Prop :=
  ∃ left, Carries role result.1 left after ∧ (result.2 = none → left = rest)

theorem saveRunning_follows {role : Role} {work : Work} (runs : role.Runs work)
    (document : Document) (same : SameOperation document work.document)
    (running : document.state = .running) (lab : KeepsLab document work) :
    Follows (Moves engine)
      (fun after saved => saved.state = .running ∧ SameOperation saved work.document ∧
        KeepsLab saved work ∧ after = role.does (.owns (work.writes saved)))
      role (save document) := by
  apply save_follows runs.serves
  intro now
  have sameNow : SameOperation { document with updatedAt := now } work.document :=
    ⟨same.id, same.operation, same.components, same.requestedTargets, same.totalSteps,
      same.retryOf, same.workflow⟩
  exact ⟨_, runs.saves sameNow running lab, running, sameNow, lab, rfl⟩

theorem executeAttempts_follows {step : Step} {rest : List Step} (remaining attempt : Nat)
    (count : attempt + remaining = step.maxAttempts + 1) (more : 0 < remaining) {role : Role}
    {work : Work} (runs : role.Runs work) (next : work.rest = step :: rest) :
    Follows (Moves engine) (Executed role rest) role
      (executeAttempts step remaining attempt work.document) := by
  induction remaining generalizing attempt role work with
  | zero => omega
  | succ remaining ih =>
      unfold executeAttempts
      apply follows_bind (saveRunning_follows runs (work.document.withAttempt attempt)
        ⟨rfl, rfl, rfl, rfl, rfl, rfl, rfl⟩ runs.running ⟨rfl, rfl⟩)
      intro after saved outcome
      rcases outcome with ⟨running, same, lab, rfl⟩
      have carried : (role.does (.owns (work.writes saved))).Runs
          (work.writes saved) := runs.does running
      apply follows_perform
      intro started
      refine ⟨_, carried.stays _ _ trivial, ?_⟩
      apply follows_bind (tryStep_follows carried next attempt _)
      intro after result tried
      match result with
      | .ok () =>
          subst tried
          exact ⟨rest, ⟨_, rfl, rfl, running, rfl⟩, fun _ => rfl⟩
      | .error .stepCancelled =>
          subst tried
          exact ⟨_, ⟨_, rfl, rfl, running, rfl⟩, fun impossible => nomatch impossible⟩
      | .error .stepTimedOut =>
          subst tried
          exact ⟨_, ⟨_, rfl, rfl, running, rfl⟩, fun impossible => nomatch impossible⟩
      | .error .other =>
          subst tried
          apply follows_perform
          intro now
          refine ⟨_, carried.stays _ _ trivial, ?_⟩
          apply follows_perform
          intro _
          refine ⟨_, carried.stays _ _ trivial, ?_⟩
          split
          · exact ⟨_, ⟨_, rfl, rfl, running, rfl⟩, fun impossible => nomatch impossible⟩
          · next last => exact ih (attempt + 1) (by omega) (by omega) carried next

/-- `_run` up to its final save. -/
theorem runSteps_follows (index : Nat) (steps : List Step) {role : Role} {work : Work}
    (runs : role.Runs work) (rest : work.rest = steps) :
    Follows (Moves engine) (Executed role []) role (runSteps index steps work.document) := by
  induction steps generalizing index role work with
  | nil => exact ⟨[], ⟨work, (does_same runs.owns).symm, rfl, runs.running, rest⟩, fun _ => rfl⟩
  | cons step steps ih =>
      unfold runSteps
      apply follows_bind (saveRunning_follows runs
        { work.document with
          currentStep := some ⟨index, step.componentId, step.operation, 0⟩ }
        ⟨rfl, rfl, rfl, rfl, rfl, rfl, rfl⟩ runs.running ⟨rfl, rfl⟩)
      intro after saved outcome
      rcases outcome with ⟨running, _, _, rfl⟩
      have carried : (role.does (.owns (work.writes saved))).Runs
          (work.writes saved) := runs.does running
      apply follows_bind
        (executeAttempts_follows step.maxAttempts 1 (by omega) step.attempts_pos carried rest)
      intro after result executed
      rcases executed with ⟨left, ⟨reached, rfl, written, running, left_eq⟩, complete⟩
      rcases result with ⟨document, _ | raised⟩
      · have reachedRuns : (role.does (.owns reached)).Runs reached := runs.does running
        dsimp only at written
        subst written
        apply follows_bind (saveRunning_follows reachedRuns
          { reached.document with completedSteps := index }
          ⟨rfl, rfl, rfl, rfl, rfl, rfl, rfl⟩ running ⟨rfl, rfl⟩)
        intro after saved outcome
        rcases outcome with ⟨running, _, _, rfl⟩
        have onward : (role.does (.owns (reached.writes saved))).Runs
            (reached.writes saved) := runs.does running
        exact ih (index + 1) onward (left_eq.trans (complete rfl))
      · exact ⟨_, ⟨reached, rfl, written, running, rfl⟩, fun impossible => nomatch impossible⟩

theorem conclude_same (document : Document) (raised : Option Raised) :
    SameOperation (conclude document raised) document := by
  rcases raised with _ | raised
  · exact ⟨rfl, rfl, rfl, rfl, rfl, rfl, rfl⟩
  · cases raised <;> exact ⟨rfl, rfl, rfl, rfl, rfl, rfl, rfl⟩

theorem conclude_terminal (document : Document) (raised : Option Raised) :
    (conclude document raised).state.terminal = true ∧
      (conclude document raised).state ≠ .interrupted := by
  rcases raised with _ | raised
  · exact ⟨rfl, nofun⟩
  · cases raised <;> exact ⟨rfl, nofun⟩

theorem conclude_lab (document : Document) (raised : Option Raised) :
    (conclude document raised).labAction = document.labAction ∧
      (conclude document raised).selectedComponent = document.selectedComponent := by
  rcases raised with _ | raised
  · exact ⟨rfl, rfl⟩
  · cases raised <;> exact ⟨rfl, rfl⟩

theorem conclude_succeeded {document : Document} {raised : Option Raised} :
    (conclude document raised).state = .succeeded ↔ raised = none := by
  rcases raised with _ | raised
  · exact ⟨fun _ => rfl, fun _ => rfl⟩
  · cases raised <;> exact ⟨fun succeeded => (by cases succeeded), fun none_ => (by cases none_)⟩

theorem saveFinal_follows {role : Role} {work : Work} (runs : role.Runs work)
    (raised : Option Raised) (complete : raised = none → work.rest = []) :
    Follows (Moves engine) (fun after _ => after = role.does .idle) role
      (save (conclude work.document raised)) := by
  apply save_follows runs.serves
  intro now
  have same := conclude_same work.document raised
  have terminal := conclude_terminal work.document raised
  refine ⟨role.does .idle, ?_, rfl⟩
  rw [moves_iff runs.serves]
  unfold Serving
  rw [runs.owns]
  refine ⟨⟨same.id, same.operation, same.components, same.requestedTargets, same.totalSteps,
    same.retryOf, same.workflow⟩, .inr (.inr ⟨terminal.1, terminal.2, conclude_lab _ _,
    runs.running, ?_, rfl⟩)⟩
  intro succeeded
  exact complete (conclude_succeeded.mp succeeded)

theorem run_follows {role : Role} {work : Work} (serves : role.Serves)
    (owns : role.task = .owns work) {steps : List Step} (rest : work.rest = steps) :
    Follows (Moves engine) (fun after _ => after = role.does .idle) role
      (run work.document steps) := by
  have begins : Follows (Moves engine) (fun after saved => saved.state = .running ∧
      after = role.does (.owns (work.writes saved))) role
      (save { work.document with state := .running }) := by
    apply save_follows serves
    intro now
    refine ⟨role.does (.owns (work.writes
      { work.document with state := .running, updatedAt := now })), ?_, rfl, rfl⟩
    rw [moves_iff serves]
    unfold Serving
    rw [owns]
    exact ⟨⟨rfl, rfl, rfl, rfl, rfl, rfl, rfl⟩, .inr (.inl ⟨rfl, ⟨rfl, rfl⟩, rfl⟩)⟩
  unfold run
  apply follows_bind begins
  · intro after saved outcome
    rcases outcome with ⟨running, rfl⟩
    have runs : (role.does (.owns (work.writes saved))).Runs
        (work.writes saved) := ⟨serves.does _, rfl, running⟩
    apply follows_bind (runSteps_follows _ steps runs rest)
    intro after result executed
    rcases executed with ⟨left, ⟨reached, rfl, written, running, left_eq⟩, complete⟩
    rcases result with ⟨document, raised⟩
    dsimp only at written
    subst written
    have reachedRuns : (role.does (.owns reached)).Runs reached := ⟨serves.does _, rfl, running⟩
    apply follows_perform
    intro _
    refine ⟨_, reachedRuns.stays _ _ trivial, ?_⟩
    apply follows_bind (saveFinal_follows reachedRuns raised
      (fun none_ => left_eq.trans (complete none_)))
    intro after _ idle
    subst idle
    rfl

/-- The thread neither holds the engine lock nor is in the middle of anything. -/
structure Role.Free (role : Role) : Prop where
  serves : role.Serves
  unlocked : role.holds = false
  idle : role.task = .idle

/-- A thread has ended outside the engine lock with nothing left to do. -/
def Role.Ended (role : Role) : Prop :=
  role.holds = false ∧ (role.task = .idle ∨ role.task = .opened)

theorem Role.Free.ended {role : Role} (free : role.Free) : role.Ended :=
  ⟨free.unlocked, .inl free.idle⟩

theorem Role.Free.notCancelling {role : Role} (free : role.Free) :
    ∀ document, role.task ≠ .cancelling document := by
  intro document impossible
  rw [free.idle] at impossible
  cases impossible

theorem Role.Free.stays {role : Role} (free : role.Free) (request : Request)
    (answer : Answer request) (neutral : Neutral request) :
    Moves engine role request answer role :=
  neutral_moves free.serves free.notCancelling neutral

/-- A free thread may take the engine lock. -/
theorem Role.Free.acquires {role : Role} (free : role.Free) :
    Moves engine role .acquire () (role.locked true) := by
  rw [moves_iff free.serves]
  exact ⟨free.unlocked, rfl⟩

/-- What is neither an owned operation nor a row being cancelled ends with the lock. -/
theorem release_moves {role : Role} (serves : role.Serves) (holds : role.holds = true)
    (notOwns : ∀ work, role.task ≠ .owns work)
    (notCancelling : ∀ document, role.task ≠ .cancelling document) :
    Moves engine role .release () ((role.does .idle).locked false) := by
  rw [moves_iff serves]
  refine ⟨holds, ?_⟩
  split
  · next work owns => exact absurd owns (notOwns work)
  · next document cancelling => exact absurd cancelling (notCancelling document)
  · rfl

theorem releaseOwned_moves {role : Role} (serves : role.Serves) (holds : role.holds = true)
    {work : Work} (owns : role.task = .owns work) :
    Moves engine role .release () (role.locked false) := by
  rw [moves_iff serves]
  refine ⟨holds, ?_⟩
  rw [owns]

/-- A body under the engine lock. -/
theorem withLock_follows {α : Type} (middle : Role → Except Failure α → Prop)
    {post : Role → Except Failure α → Prop} {role : Role} {body : Attempt α}
    (acquires : Moves engine role .acquire () (role.locked true))
    (follows : Follows (Moves engine) middle (role.locked true) body.run)
    (releases : ∀ after result, middle after result →
      ∃ last, Moves engine after .release () last ∧ post last result) :
    Follows (Moves engine) post role (withLock body).run := by
  intro _
  refine ⟨_, acquires, ?_⟩
  apply follows_bind follows
  intro after result holds _
  rcases releases after result holds with ⟨last, released, ends⟩
  exact ⟨last, released, ends⟩

theorem Role.Free.locked_idle {role : Role} (free : role.Free) :
    (role.does .idle).locked false = role := by
  rw [does_same free.idle, locked_same free.unlocked]

theorem runWorker_follows {role : Role} {work : Work} (serves : role.Serves)
    (unlocked : role.holds = false) (owns : role.task = .owns work) {steps : List Step}
    (rest : work.rest = steps)
    (called : ∃ document steps, role.call = some (.worker document steps) ∧
      document.id = work.document.id) :
    Follows (Moves engine) (fun after _ => after.Ended) role (runWorker work.document steps) := by
  unfold runWorker
  apply follows_bind (run_follows serves owns rest)
  intro after _ idle
  subst idle
  have free : (role.does .idle).Free := ⟨serves.does _, unlocked, rfl⟩
  have locked : ((role.does .idle).locked true).Serves := free.serves.locked true
  apply follows_perform
  intro _
  refine ⟨_, free.acquires, ?_⟩
  apply follows_perform
  intro _
  refine ⟨(role.does .idle).locked true, ?_, ?_⟩
  · rw [moves_iff locked]
    exact ⟨rfl, called, rfl⟩
  · intro _
    refine ⟨_, release_moves locked rfl ?_ ?_, rfl, .inl rfl⟩
    · intro work impossible
      cases impossible
    · intro document impossible
      cases impossible

/-! ## Accepting an operation -/

/-- The work of a thread that has just accepted an operation. -/
def accepted (document : Document) (focus : Option ComponentId) (steps : List Step)
    (completed : List StepKey) : Work where
  document := document
  focus := focus
  plan := steps
  completed := completed
  resumed := []
  finished := []
  rest := remainingSteps steps completed
  registered := false

/-- Where an operation comes from does not depend on the lock or the task. -/
theorem Origin.of_same {role other : Role} {document : Document} {work : Work}
    (origin : Origin role document work) (call : other.call = role.call)
    (previous : other.previous = role.previous) (evidence : other.evidence = role.evidence) :
    Origin other document work := by
  cases origin with
  | request plain whole => exact .request plain whole
  | cleanInstall workflow first whole => exact .cleanInstall workflow first whole
  | lab called workflow whole => exact .lab (call.trans called) workflow whole
  | retried called retries read inherits resumable skips =>
      refine .retried (call.trans called) retries (previous.trans read) inherits resumable ?_
      rw [evidence]
      exact skips

/-- The thread owns the operation that it accepted, or is where it was before. -/
def Prepared (role : Role) (focus : Option ComponentId) (steps : List Step)
    (completed : List StepKey) (after : Role) : Except Failure Document → Prop
  | .ok document => after = role.does (.owns (accepted document focus steps completed))
  | .error _ => after = role

variable {settings : Settings}

/-- A document as `_prepare_steps` returns it. -/
structure Fresh (document : Document) (steps : List Step) (retryOf : Option OperationId)
    (workflow : Option Workflow) : Prop where
  queued : document.state = .queued
  completedSteps : document.completedSteps = 0
  totalSteps : document.totalSteps = steps.length
  retryOf : document.retryOf = retryOf
  workflow : document.workflow = workflow
  labAction : document.labAction = none
  selectedComponent : document.selectedComponent = none

theorem queuedDocument_fresh (settings : Settings) (id : OperationId) (now : Timestamp)
    (operation : Operation) (requested : List ComponentId) (steps : List Step) (actor : String)
    (retryOf : Option OperationId) (workflow : Option Workflow) (boundary : RecoveryClass) :
    Fresh (queuedDocument settings id now operation requested steps actor retryOf workflow
      boundary) steps retryOf workflow :=
  ⟨rfl, rfl, rfl, rfl, rfl, rfl, rfl⟩

/-- What the body of `_prepare_steps` leads to, inside the lock. -/
def Drafted (role : Role) (focus : Option ComponentId) (steps : List Step)
    (completed : List StepKey) (after : Role) : Except Failure Document → Prop
  | .ok document =>
      after = (role.does (.owns (accepted document focus steps completed))).locked true
  | .error _ => ∃ active, after = (role.does (.surveyed active)).locked true

theorem prepareSteps_follows {role : Role} (free : role.Free) {operation : Operation}
    {requested : List ComponentId} {steps : List Step} {caller : Caller}
    {retryOf : Option OperationId} {workflow : Option Workflow} (focus : Option ComponentId)
    (completed : List StepKey)
    (planned : ∀ id now boundary, Planned settings.engine (queuedDocument settings id now operation
      requested steps caller.actor retryOf workflow boundary) focus steps)
    (origin : ∀ id now boundary, Origin role (queuedDocument settings id now operation
      requested steps caller.actor retryOf workflow boundary)
      (accepted (queuedDocument settings id now operation
        requested steps caller.actor retryOf workflow boundary) focus steps completed)) :
    Follows (Moves settings.engine)
      (fun after result => Prepared role focus steps completed after result ∧
        ∀ document, result = .ok document → Fresh document steps retryOf workflow)
      role (prepareSteps settings operation requested steps caller retryOf workflow).run := by
  apply withLock_follows (fun after result => Drafted role focus steps completed after result ∧
    ∀ document, result = .ok document → Fresh document steps retryOf workflow) free.acquires
  · apply follows_askExcept
    intro active
    have serves : ((role.does (.surveyed active)).locked true).Serves := free.serves
    have notCancelling : ∀ document,
        ((role.does (.surveyed active)).locked true).task ≠ .cancelling document := by
      intro document impossible
      cases impossible
    refine ⟨(role.does (.surveyed active)).locked true, ?_, ?_⟩
    · rw [moves_iff (free.serves.locked true)]
      exact ⟨rfl, free.idle, rfl⟩
    split
    · exact ⟨⟨active, rfl⟩, fun _ impossible => nomatch impossible⟩
    · next disjoint =>
      apply follows_bindExcept ((authorizeSteps_neutral settings operation (affected steps)
        caller).follows (fun request answer neutral => neutral_moves serves notCancelling neutral))
      · intro after _ same
        subst same
        apply follows_askExcept
        intro now
        refine ⟨_, neutral_moves serves notCancelling trivial, ?_⟩
        apply follows_askExcept
        intro id
        refine ⟨_, neutral_moves serves notCancelling trivial, ?_⟩
        split
        · exact ⟨⟨active, rfl⟩, fun _ impossible => nomatch impossible⟩
        · next boundary _ =>
          let document := queuedDocument settings id now operation requested steps caller.actor
            retryOf workflow boundary
          have creates : Creates settings.engine ((role.does (.surveyed active)).locked true) document
              (accepted document focus steps completed) := {
            sound := {
              planned := planned id now boundary
              components := rfl
              totalSteps := rfl
              split := rfl
              resumed := nofun
              labFields := rfl
              waits := fun _ => rfl }
            written := rfl
            queued := rfl
            unstarted := ⟨rfl, rfl, rfl⟩
            plain := ⟨rfl, rfl⟩
            origin := (origin id now boundary).of_same rfl rfl rfl }
          have apart : ∀ componentId ∈ document.components, componentId ∉ active := by
            intro componentId member isActive
            apply disjoint
            rw [List.any_eq_true]
            exact ⟨componentId, member, decide_eq_true isActive⟩
          intro created
          cases created with
          | false =>
              refine ⟨(role.does (.surveyed active)).locked true, ?_, ?_⟩
              · rw [moves_iff serves]
                exact ⟨active, _, rfl, rfl, apart, creates, rfl⟩
              · exact ⟨⟨active, rfl⟩, fun _ impossible => nomatch impossible⟩
          | true =>
              refine ⟨_, ?_, rfl, ?_⟩
              · rw [moves_iff serves]
                exact ⟨active, _, rfl, rfl, apart, creates, rfl⟩
              · intro other written
                cases written
                exact queuedDocument_fresh _ _ _ _ _ _ _ _ _ _
      · intro after _ same
        subst same
        exact ⟨⟨active, rfl⟩, fun _ impossible => nomatch impossible⟩
  · intro after result outcome
    rcases outcome with ⟨drafted, written⟩
    cases result with
    | ok document =>
        cases drafted
        refine ⟨_, releaseOwned_moves (free.serves) rfl rfl, ?_, written⟩
        show _ = _
        rw [locked_locked, locked_same]
        exact free.unlocked
    | error error =>
        rcases drafted with ⟨active, rfl⟩
        refine ⟨_, release_moves (free.serves) rfl ?_ ?_, ?_, written⟩
        · intro work impossible
          cases impossible
        · intro document impossible
          cases impossible
        · exact free.locked_idle

end FortifyLab.Lifecycle
