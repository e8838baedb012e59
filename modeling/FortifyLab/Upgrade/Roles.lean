import FortifyLab.Upgrade.Replanning
import FortifyLab.Upgrade.Saves

/-! What every thread of the upgrade service may ask, and when: the role of a thread says
which row it creates or saves, and from which copy. -/

namespace FortifyLab.Upgrade.Roles

open Program Registry Authorization

inductive Task where
  | idle
  | opening (reviews : List UpgradeOperation)
  | filing (planId : String)
  | consumed (planId : String)
  | placing (operation : UpgradeOperation)
  | starting (operationId : String)
  | marking (row : UpgradeRow)
  | awaiting
  | working (held : UpgradeOperation)

structure Role where
  call : Option Call
  task : Task

def Role.does (role : Role) (task : Task) : Role := { role with task := task }

@[simp] theorem does_call (role : Role) (task : Task) : (role.does task).call = role.call := rfl

@[simp] theorem does_task (role : Role) (task : Task) : (role.does task).task = task := rfl

def nobody : Role := ⟨none, .idle⟩

/-- A queued operation of a plan, with its own identifier. -/
structure Fresh (uuid planId : String) (operation : UpgradeOperation) : Prop where
  id : operation.id = "upgrade-" ++ uuid
  planId : operation.planId = planId
  queued : operation.state = .queued

/-- The request changes no row. -/
def Unwritten : ServiceRequest → Bool
  | .survey | .now | .monotonic | .statement | .addCancelled _ | .isCancelled _
  | .rollbackCallable | .verifyLayer _ _ => true
  | _ => false

/-- The request is a mutating call of the adapter. -/
def Adapts : ServiceRequest → Bool
  | .upgrade _ _ _ | .rollback _ _ _ => true
  | _ => false

/-- The moves of the protocol. A statement that fails may be the end of a thread. -/
inductive Moves : Role → (request : ServiceRequest) → ServiceAnswer request → Role → Prop
  | free (role : Role) {request : ServiceRequest} (answer : ServiceAnswer request)
      (unwritten : Unwritten request = true) : Moves role request answer role
  | dropped (role : Role) :
      Moves role .statement (.error () : Except Unit Unit) (role.does .idle)
  | interrupted {role : Role} (call : role.call = some .openStore)
      (task : role.task = .opening []) : Moves role .interruptActive () role
  | selected {role : Role} (operations : List UpgradeOperation)
      (task : role.task = .opening []) :
      Moves role .interruptedOperations operations (role.does (.opening operations))
  | reviewed {role : Role} {operation : UpgradeOperation} {rest : List UpgradeOperation}
      (now : Instant) (task : role.task = .opening (operation :: rest)) :
      Moves role (.updatePayload (operation.review now)) () (role.does (.opening rest))
  | served {role : Role} (task : role.task = .opening []) :
      Moves role .serve () (role.does .idle)
  | named {role : Role} {target : String} (uuid : String)
      (call : role.call = some (.plan target)) (task : role.task = .idle) :
      Moves role .newUuid uuid (role.does (.filing ("upgrade-plan-" ++ uuid)))
  | filed {role : Role} {target : String} {row : PlanRow}
      (call : role.call = some (.plan target)) (task : role.task = .filing row.plan.id) :
      Moves role (.put (.plan row)) () (role.does .idle)
  | consumed {role : Role} {submitted : String} {identity : ActorIdentity}
      {confirmation : Option String} (planId : String)
      (call : role.call = some (.submit submitted identity confirmation))
      (task : role.task = .idle) :
      Moves role (.consumePlan planId) true (role.does (.consumed planId))
  | refused {role : Role} {submitted : String} {identity : ActorIdentity}
      {confirmation : Option String} (planId : String)
      (call : role.call = some (.submit submitted identity confirmation))
      (task : role.task = .idle) : Moves role (.consumePlan planId) false role
  | drew {role : Role} {uuid planId : String} {operation : UpgradeOperation}
      (task : role.task = .consumed planId) (fresh : Fresh uuid planId operation) :
      Moves role .newUuid uuid (role.does (.placing operation))
  | placed {role : Role} {submitted : String} {identity : ActorIdentity}
      {confirmation : Option String} {operation : UpgradeOperation}
      (call : role.call = some (.submit submitted identity confirmation))
      (task : role.task = .placing operation) :
      Moves role (.put (.operation operation)) () (role.does (.starting operation.id))
  | started {role : Role} {operationId : String} (plan : ProfileUpgradePlan)
      (target : PlatformProfile) (task : role.task = .starting operationId) :
      Moves role (.startWorker operationId plan target) () (role.does .idle)
  | read {role : Role} (documentId : String) (row : Option UpgradeRow)
      (task : role.task = .idle) : Moves role (.get documentId) row role
  | considered {role : Role} {operationId : String} {row : UpgradeRow}
      (call : role.call = some (.cancel operationId)) (task : role.task = .idle)
      (going : row.ended = some false) :
      Moves role (.get operationId) (some row : Option UpgradeRow) (role.does (.marking row))
  | marked {role : Role} {operationId : String} {row : UpgradeRow} (now : Instant)
      (call : role.call = some (.cancel operationId)) (task : role.task = .marking row) :
      Moves role (.put (row.cancelAt now)) () (role.does .idle)
  | missed {role : Role} (documentId : String) (row : Option UpgradeRow)
      (task : role.task = .awaiting) : Moves role (.get documentId) row (role.does .idle)
  | took {role : Role} {operationId : String} {plan : ProfileUpgradePlan}
      {target : PlatformProfile} {stored : UpgradeOperation}
      (call : role.call = some (.worker operationId plan target))
      (task : role.task = .awaiting) :
      Moves role (.get operationId) (some (.operation stored) : Option UpgradeRow)
        (role.does (.working stored))
  | acted {role : Role} {held : UpgradeOperation} {request : ServiceRequest}
      (answer : ServiceAnswer request) (task : role.task = .working held)
      (adapts : Adapts request = true) : Moves role request answer role
  | saved {role : Role} {held document : UpgradeOperation} (task : role.task = .working held)
      (continues : Continues held document) (running : document.state = .running) :
      Moves role (.put (.operation document)) () (role.does (.working document))
  | ended {role : Role} {held document : UpgradeOperation} (task : role.task = .working held)
      (continues : Continues held document) (terminal : document.state.terminal = true) :
      Moves role (.put (.operation document)) () (role.does .idle)

/-- A worker whose last save failed ends with the document it stored before. -/
def Task.Ends (task : Task) : Prop := task = .idle ∨ ∃ held, task = .working held

def finalRole (role : Role) (_ : Outcome) : Prop := role.task.Ends

/-- The role a thread starts in. -/
def startingTask : Call → Task
  | .openStore => .opening []
  | .worker _ _ _ => .awaiting
  | _ => .idle

def enter (call : Call) : Role := ⟨some call, startingTask call⟩

def child (_ : Role) (request : ServiceRequest) : Role :=
  match spawned request with
  | some call => enter call
  | none => nobody

abbrev EndsIdle {α : Type} (role : Role) (program : ServiceProgram α) : Prop :=
  Follows Moves (fun after _ => after.task = .idle) role program

variable {role : Role} {α : Type}

theorem moves_call {after : Role} {request : ServiceRequest} {answer : ServiceAnswer request}
    (moved : Moves role request answer after) : after.call = role.call := by
  cases moved <;> rfl

/-! ## Statements -/

/-- A statement that may end the thread, and what follows it. -/
theorem attempted_follows {request : ServiceRequest} {post : Role → α → Prop}
    {rest : Except Unit (ServiceAnswer request) → ServiceProgram α}
    (fails : Follows Moves post (role.does .idle) (rest (.error ())))
    (runs : ∀ answer, ∃ after, Moves role request answer after ∧
      Follows Moves post after (rest (.ok answer))) :
    Follows Moves post role (attempted request >>= rest) := by
  intro answer
  cases (answer : Except Unit Unit) with
  | error raised => exact ⟨_, .dropped role, fails⟩
  | ok _ => exact ⟨role, .free role _ rfl, runs⟩

/-- A request that changes no row. -/
theorem free_follows {request : ServiceRequest} {post : Role → α → Prop}
    {rest : ServiceAnswer request → ServiceProgram α} (unwritten : Unwritten request = true)
    (next : ∀ answer, Follows Moves post role (rest answer)) :
    Follows Moves post role (inquire request >>= rest) :=
  fun answer => ⟨role, .free role answer unwritten, next answer⟩

/-! ## The constructor of the store -/

theorem reviewEach_follows (operations : List UpgradeOperation)
    (task : role.task = .opening operations) :
    Follows Moves (fun after reviewed => after.task = if reviewed = true then .opening []
      else .idle) role (reviewEach operations) := by
  induction operations generalizing role with
  | nil => exact task
  | cons operation rest ih =>
      refine free_follows rfl fun now => attempted_follows rfl fun _ => ?_
      exact ⟨_, .reviewed now task, ih rfl⟩

theorem openStore_follows (call : role.call = some .openStore) (task : role.task = .opening []) :
    EndsIdle role openStore := by
  refine attempted_follows rfl fun _ => ⟨role, .interrupted call task, ?_⟩
  refine attempted_follows rfl fun operations => ⟨_, .selected operations task, ?_⟩
  refine follows_bind (reviewEach_follows operations rfl) ?_
  intro after reviewed ends
  cases reviewed with
  | false => exact ends
  | true =>
      intro _
      exact ⟨_, .served ends, rfl⟩

/-! ## The calls -/

section Calls

variable {service : ProfileUpgradeService} {planId : String} {identity : ActorIdentity}
  {confirmation : Option String}

theorem createPlan_follows {targetProfileId : String}
    (call : role.call = some (.plan targetProfileId)) (task : role.task = .idle) :
    EndsIdle role (service.createPlan targetProfileId) := by
  refine free_follows rfl fun surroundings => ?_
  cases service.plan surroundings "" targetProfileId with
  | error failure => exact task
  | ok plan =>
      intro uuid
      refine ⟨_, .named uuid call task, ?_⟩
      exact attempted_follows rfl fun _ => ⟨_, .filed call rfl, rfl⟩

theorem enqueue_follows (call : role.call = some (.submit planId identity confirmation))
    {operation : UpgradeOperation} (task : role.task = .consumed operation.planId)
    (queued : operation.state = .queued) (plan : ProfileUpgradePlan) (target : PlatformProfile) :
    EndsIdle role (ProfileUpgradeService.enqueue operation plan target) := by
  intro (uuid : String)
  have fresh : Fresh uuid operation.planId { operation with id := "upgrade-" ++ uuid } :=
    ⟨rfl, rfl, queued⟩
  refine ⟨_, .drew task fresh, ?_⟩
  refine attempted_follows rfl fun _ => ⟨_, .placed call rfl, ?_⟩
  intro _
  exact ⟨_, .started plan target rfl, rfl⟩

theorem submitPlan_follows (call : role.call = some (.submit planId identity confirmation))
    (task : role.task = .idle) :
    EndsIdle role (service.submitPlan planId identity confirmation) := by
  refine attempted_follows rfl fun row => ⟨role, .read planId row task, ?_⟩
  cases (row : Option UpgradeRow) with
  | none => exact task
  | some row =>
      refine free_follows rfl fun surroundings => ?_
      cases accepted : service.submit surroundings (some row.document) "" identity confirmation
        true with
      | error failure => exact task
      | ok result =>
          cases row with
          | operation stored => exact task
          | plan row =>
              have made := (ProfileUpgradeService.submit_ok accepted).2.1
              have planned : result.1.planId = row.plan.id := by rw [made]; rfl
              have queued : result.1.state = .queued := by rw [made]; rfl
              refine attempted_follows rfl fun consumed => ?_
              cases (consumed : Bool) with
              | false => exact ⟨role, .refused row.plan.id call task, task⟩
              | true =>
                  have submits : (role.does (.consumed row.plan.id)).call =
                      some (.submit planId identity confirmation) := call
                  refine ⟨_, .consumed row.plan.id call task, ?_⟩
                  refine enqueue_follows submits ?_ queued row.plan result.2
                  rw [planned]
                  rfl

end Calls

theorem cancel_follows {operationId : String} (call : role.call = some (.cancel operationId))
    (task : role.task = .idle) : EndsIdle role (cancel operationId) := by
  refine attempted_follows rfl fun row => ?_
  cases (row : Option UpgradeRow) with
  | none => exact ⟨role, .read operationId _ task, task⟩
  | some row =>
      cases ended : row.ended with
      | none =>
          refine ⟨role, .read operationId _ task, ?_⟩
          dsimp only
          rw [ended]
          exact task
      | some ended_ =>
          cases ended_ with
          | true =>
              refine ⟨role, .read operationId _ task, ?_⟩
              dsimp only
              rw [ended]
              exact task
          | false =>
              refine ⟨_, .considered call task ended, ?_⟩
              dsimp only
              rw [ended]
              refine free_follows rfl fun _ => free_follows rfl fun now => ?_
              have mine : (role.does (.marking row)).call = some (.cancel operationId) := call
              exact attempted_follows rfl fun _ => ⟨_, .marked now mine rfl, rfl⟩

/-! ## The workers -/

/-- What the thread of a worker is, by what it stored last. -/
def Stands (role : Role) : Option UpgradeOperation → Prop
  | some held => role.task = .working held
  | none => role.task = .idle

/-- The requests of a worker are moves of its thread. -/
theorem expand_follows {program : UpgradeProgram α} {held : Option UpgradeOperation}
    {post : Option UpgradeOperation → α → Prop} (saves : Follows Saves post held program)
    (stands : Stands role held) (operationId : String) :
    Follows Moves (fun after _ => ∃ last, Stands after last) role
      (program.expand (workerRequest operationId)) := by
  induction program generalizing role held with
  | done result => exact ⟨held, stands⟩
  | ask request next ih =>
      have passes : ∀ (asked : ServiceRequest) (answer : ServiceAnswer asked)
          (reply : UpgradeAnswer request), (∀ document, request ≠ .put document) →
          (∀ copy, role.task = .working copy → Moves role asked answer role) →
          ∃ after, Moves role asked answer after ∧
            Follows Moves (fun after _ => ∃ last, Stands after last) after
              ((next reply).expand (workerRequest operationId)) := by
        intro asked answer reply quiet moves
        rcases saves reply with ⟨after, saved, follows⟩
        cases saved with
        | silent copy _ _ => exact ⟨role, moves copy stands, ih reply follows stands⟩
        | saved _ _ => exact absurd rfl (quiet _)
        | failed => exact absurd rfl (quiet _)
        | ended _ _ _ => exact absurd rfl (quiet _)
      cases request with
      | put document =>
          intro answer
          cases (answer : Except Unit Unit) with
          | error raised =>
              rcases saves (.error () : Except Unit Unit) with ⟨after, saved, follows⟩
              cases saved with
              | silent _ _ quiet => exact absurd rfl (quiet _)
              | failed => exact ⟨role, .free role _ rfl, ih _ follows stands⟩
              | ended _ _ _ => exact ⟨_, .dropped role, ih _ follows rfl⟩
          | ok _ =>
              refine ⟨role, .free role _ rfl, ?_⟩
              intro _
              rcases saves (.ok () : Except Unit Unit) with ⟨after, saved, follows⟩
              cases saved with
              | silent _ _ quiet => exact absurd rfl (quiet _)
              | saved continues running =>
                  exact ⟨_, .saved stands continues running, ih _ follows rfl⟩
              | ended continues terminal _ =>
                  exact ⟨_, .ended stands continues terminal, ih _ follows rfl⟩
      | upgrade component version deadline =>
          exact fun answer => passes _ answer answer (by simp) fun _ task => .acted answer task rfl
      | rollback component version deadline =>
          exact fun answer => passes _ answer answer (by simp) fun _ task => .acted answer task rfl
      | _ => exact fun answer => passes _ answer answer (by simp) fun _ _ => .free role answer rfl

theorem runWorker_follows {operationId : String} {plan : ProfileUpgradePlan}
    {target : PlatformProfile} (call : role.call = some (.worker operationId plan target))
    (task : role.task = .awaiting) :
    Follows Moves (fun after _ => after.task.Ends) role (runWorker operationId plan target) := by
  refine attempted_follows (.inl rfl) fun row => ?_
  rcases (row : Option UpgradeRow) with _ | row
  · exact ⟨_, .missed operationId _ task, .inl rfl⟩
  · cases row with
    | plan row => exact ⟨_, .missed operationId _ task, .inl rfl⟩
    | operation stored =>
        refine ⟨_, .took call task, ?_⟩
        refine (expand_follows (run_saves stored) ?_ operationId).mono ?_
        · exact rfl
        · rintro after _ ⟨last, stands⟩
          cases last with
          | none => exact .inl stands
          | some held => exact .inr ⟨held, stands⟩

/-! ## The protocol -/

theorem body_follows (service : ProfileUpgradeService) (call : Call) :
    Follows Moves finalRole (enter call) (body service call) := by
  cases call with
  | openStore => exact follows_bind (openStore_follows rfl rfl) fun _ _ idle => .inl idle
  | plan targetProfileId =>
      exact follows_bind (createPlan_follows rfl rfl) fun _ _ idle => .inl idle
  | submit planId identity confirmation =>
      exact follows_bind (submitPlan_follows rfl rfl) fun _ _ idle => .inl idle
  | cancel operationId => exact follows_bind (cancel_follows rfl rfl) fun _ _ idle => .inl idle
  | worker operationId plan target =>
      exact follows_bind (runWorker_follows rfl rfl) fun _ _ ends => ends

theorem child_spawned (role : Role) {request : ServiceRequest} {call : Call}
    (spawns : spawned request = some call) : child role request = enter call := by
  unfold child
  rw [spawns]

def upgradeProtocol (service : ProfileUpgradeService) (identifiers : Identifiers) :
    Protocol (machine service identifiers) Role where
  move := Moves
  final := finalRole
  nobody := nobody
  enter := enter
  child := child
  call := Role.call
  nobody_final := .inl rfl
  nobody_call := rfl
  boot_follows := body_follows service _
  enter_follows _ label _ := body_follows service label
  child_follows role _ _ _ label _ spawns := child_spawned role spawns ▸ body_follows service label
  enter_call _ := rfl
  move_call _ _ _ _ moved := moves_call moved
  child_call role _ _ _ _ _ spawns := child_spawned role spawns ▸ rfl

end FortifyLab.Upgrade.Roles
