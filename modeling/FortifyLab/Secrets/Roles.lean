import FortifyLab.Secrets.Workflow

/-! What every thread of the workflow may ask, and when: whether it holds the lock, what it
has seen under it, and the record that is its own. -/

namespace FortifyLab.Secrets

open Program

inductive Task where
  | idle
  | opening
  | locked
  | clear (target : String)
  | created (id target : String)
  | running (id target : String)
  deriving DecidableEq

structure Role where
  call : Option Call
  task : Task

def Role.does (role : Role) (task : Task) : Role := { role with task := task }

def nobody : Role := ⟨none, .idle⟩

def Task.holdsLock : Task → Bool
  | .locked | .clear _ | .created _ _ => true
  | _ => false

/-- The record that only this thread updates. -/
def Task.record : Task → Option (String × String)
  | .created id target | .running id target => some (id, target)
  | _ => none

/-- Requests that change no row and no lock. -/
def Neutral : SecretRequest → Prop
  | .resolveExternal _ | .authorize _ _ _ | .now | .newUuid | .monotonic | .statement
  | .latestState _ | .get _ | .isCancelled _ | .addCancelled _ | .discardCancelled _
  | .restart _ _ | .healthy _ _ => True
  | _ => False

/-- The document is a version of the record. -/
structure Of (id target : String) (document : SecretUpdate) : Prop where
  id : document.id = id
  target : document.target = target

def Declared (settings : WorkflowSettings) (target : SecretTarget) : Prop :=
  target.kubernetesSecret ∈ settings.registry.kubernetesSecrets target.identifier

inductive Moves (settings : WorkflowSettings) :
    Role → (request : SecretRequest) → SecretAnswer request → Role → Prop
  | quiet (role : Role) {request : SecretRequest} (answer : SecretAnswer request)
      (neutral : Neutral request) : Moves settings role request answer role
  | interrupted {role : Role} (now : String) (task : role.task = .opening) :
      Moves settings role (.interruptActive now) () role
  | served {role : Role} (task : role.task = .opening) :
      Moves settings role .serve () (role.does .idle)
  | acquired {role : Role} {call : Call} (called : role.call = some call)
      (outside : call.outside = true) (task : role.task = .idle) :
      Moves settings role .acquire () (role.does .locked)
  | busy {role : Role} (target : String) (task : role.task = .locked) :
      Moves settings role (.activeTarget target) true role
  | cleared {role : Role} (target : String) (task : role.task = .locked) :
      Moves settings role (.activeTarget target) false (role.does (.clear target))
  | created {role : Role} {document : SecretUpdate} (task : role.task = .clear document.target)
      (active : document.state.active = true) :
      Moves settings role (.create document) (.ok () : Except SecretRaised Unit)
        (role.does (.created document.id document.target))
  | refused {role : Role} {document : SecretUpdate} (raised : SecretRaised)
      (task : role.task = .clear document.target) :
      Moves settings role (.create document) (.error raised : Except SecretRaised Unit) role
  | released {role : Role} (holds : role.task.holdsLock = true)
      (without : role.task.record = none) : Moves settings role .release () (role.does .idle)
  | handedOver {role : Role} {id target : String} (task : role.task = .created id target) :
      Moves settings role .release () (role.does (.running id target))
  | updated {role : Role} {id target : String} {document : SecretUpdate}
      (task : role.task = .running id target) (version : Of id target document)
      (active : document.state.active = true) : Moves settings role (.update document) () role
  | ended {role : Role} {id target : String} {document : SecretUpdate}
      (task : role.task = .running id target) (version : Of id target document)
      (terminal : document.state.active = false) :
      Moves settings role (.update document) () (role.does .idle)
  | replaces {role : Role} {id : String} {target : SecretTarget}
      (task : role.task = .running id target.identifier) (declared : Declared settings target)
      (source : SecretSource) (deadline : ℚ) (answer : Except SecretRaised (Option String)) :
      Moves settings role (.adapterReplace target source deadline) answer role
  | rollsBack {role : Role} {id : String} {target : SecretTarget}
      (task : role.task = .running id target.identifier) (declared : Declared settings target)
      (revision : String) (deadline : ℚ) (answer : Except SecretRaised Unit) :
      Moves settings role (.adapterRollback target revision deadline) answer role

/-- A thread never ends with the lock. -/
def finalRole (role : Role) (_ : Outcome) : Prop := role.task.holdsLock = false

def startingTask : Call → Task
  | .openStore => .opening
  | _ => .idle

def enter (call : Call) : Role := ⟨some call, startingTask call⟩

/-- The role after the program, whatever the result, is without the lock. -/
abbrev EndsUnlocked (settings : WorkflowSettings) {α : Type} (role : Role)
    (program : SecretProgram α) : Prop :=
  Follows (Moves settings) (fun after _ => after.task.holdsLock = false) role program

variable {settings : WorkflowSettings} {role : Role}

theorem moves_call {after : Role} {request : SecretRequest} {answer : SecretAnswer request}
    (moved : Moves settings role request answer after) : after.call = role.call := by
  cases moved <;> rfl

theorem neutral_follows {α : Type} {program : SecretProgram α}
    (only : OnlyAsks Neutral program) :
    Follows (Moves settings) (fun after _ => after = role) role program :=
  only.follows (fun _ answer neutral => .quiet role answer neutral)

theorem execute_neutral {request : SecretRequest} (neutral : Neutral request) :
    OnlyAsks Neutral (execute request) := by
  refine ⟨trivial, ?_⟩
  intro answer
  cases (answer : Except SecretRaised Unit) with
  | error raised => trivial
  | ok _ => exact ⟨neutral, fun _ => trivial⟩

theorem openStore_follows (task : role.task = .opening) :
    EndsUnlocked settings role openStore := by
  have unlocked : role.task.holdsLock = false := by rw [task]; rfl
  intro now
  refine ⟨role, .quiet role now trivial, ?_⟩
  intro answer
  refine ⟨role, .quiet role answer trivial, ?_⟩
  cases (answer : Except SecretRaised Unit) with
  | error raised => exact unlocked
  | ok _ =>
      intro _
      refine ⟨role, .interrupted now task, ?_⟩
      intro _
      exact ⟨_, .served task, rfl⟩

/-! ## Before the record -/

theorem validateSource_neutral (target : SecretTarget) (source : SecretSource) :
    OnlyAsks Neutral (validateSource settings target source) := by
  unfold validateSource
  split
  · unfold validateExternal
    split
    · refine ⟨trivial, ?_⟩
      intro resolved
      cases (resolved : Option String) <;> trivial
    · trivial
  · trivial

theorem authorize_neutral (target : SecretTarget) (sourceType : String) (request : Replacement) :
    OnlyAsks Neutral (authorize target sourceType request) := by
  refine onlyAsks_bind (onlyAsks_bind (execute_neutral trivial) ?_) ?_
  · intro state
    cases state <;> trivial
  · intro state
    cases state with
    | error raised => trivial
    | ok state => exact ⟨trivial, fun _ => trivial⟩

/-! ## The record -/

/-- The thread has its record, or nothing. -/
def Claimed (role : Role) (target : SecretTarget) (after : Role) :
    Except SecretRaised SecretUpdate → Prop
  | .ok document => after = role.does (.running document.id target.identifier) ∧
      document.target = target.identifier
  | .error _ => after.task = .idle

theorem released_follows {α : Type} {post : Role → Except SecretRaised α → Prop}
    {result : Except SecretRaised α} (holds : role.task.holdsLock = true)
    (without : role.task.record = none) (ends : post (role.does .idle) result) :
    Follows (Moves settings) post role (released result) := by
  intro _
  exact ⟨_, .released holds without, ends⟩

theorem createRecord_follows {target : SecretTarget}
    (task : role.task = .clear target.identifier) (sourceType actor : String)
    (impact : SecretImpact) :
    Follows (Moves settings) (Claimed role target) role
      (createRecord target sourceType actor impact) := by
  have holds : role.task.holdsLock = true := by rw [task]; rfl
  have without : role.task.record = none := by rw [task]; rfl
  intro now
  refine ⟨role, .quiet role now trivial, ?_⟩
  intro id
  refine ⟨role, .quiet role id trivial, ?_⟩
  intro answer
  refine ⟨role, .quiet role answer trivial, ?_⟩
  cases (answer : Except SecretRaised Unit) with
  | error raised => exact released_follows holds without rfl
  | ok _ =>
      intro created
      cases (created : Except SecretRaised Unit) with
      | error raised =>
          exact ⟨role, .refused raised task, released_follows holds without rfl⟩
      | ok _ =>
          refine ⟨_, .created task rfl, ?_⟩
          intro _
          exact ⟨_, .handedOver rfl, rfl, rfl⟩

theorem claim_follows {call : Call} (called : role.call = some call)
    (outside : call.outside = true) (task : role.task = .idle) (target : SecretTarget)
    (sourceType actor : String) (impact : SecretImpact) :
    Follows (Moves settings) (Claimed role target) role
      (claim target sourceType actor impact) := by
  intro _
  refine ⟨_, .acquired called outside task, ?_⟩
  intro answer
  refine ⟨_, .quiet _ answer trivial, ?_⟩
  cases (answer : Except SecretRaised Unit) with
  | error raised => exact released_follows rfl rfl rfl
  | ok _ =>
      intro active
      cases (active : Bool) with
      | true => exact ⟨_, .busy _ rfl, released_follows rfl rfl rfl⟩
      | false =>
          refine ⟨(role.does .locked).does (.clear target.identifier), .cleared _ rfl, ?_⟩
          exact @createRecord_follows settings _ target rfl sourceType actor impact

/-! ## The update -/

variable {id : String} {target : SecretTarget}

/-- A save of an active version leaves the role alone, whether the statement fails or not. -/
theorem save_follows {key : String} (task : role.task = .running id key)
    {document : SecretUpdate} (version : Of id key document)
    (active : document.state.active = true) :
    Follows (Moves settings) (fun after result => after = role ∧ Of id key result.2) role
      (save document) := by
  intro now
  refine ⟨role, .quiet role now trivial, ?_⟩
  have dated : Of id key { document with updatedAt := now } := ⟨version.id, version.target⟩
  intro answer
  refine ⟨role, .quiet role answer trivial, ?_⟩
  cases (answer : Except SecretRaised Unit) with
  | error raised => exact ⟨rfl, dated⟩
  | ok _ =>
      intro _
      exact ⟨role, .updated task dated active, rfl, dated⟩

theorem checkDeadline_neutral (deadline : ℚ) (operationId : String) :
    OnlyAsks Neutral (checkDeadline deadline operationId) := by
  refine ⟨trivial, ?_⟩
  intro cancelled
  cases (cancelled : Bool) with
  | true => trivial
  | false => exact ⟨trivial, fun _ => trivial⟩

theorem verifyConsumer_follows {key : String} (task : role.task = .running id key)
    (deadline : ℚ) (consumer : Registry.ComponentId) {document : SecretUpdate}
    (version : Of id key document) :
    Follows (Moves settings) (fun after result => after = role ∧ Of id key result.2) role
      (verifyConsumer deadline consumer document) := by
  have verifying : Of id key { document with
      restartedConsumers := document.restartedConsumers ++ [consumer], state := .verifying } :=
    ⟨version.id, version.target⟩
  refine follows_bind (save_follows task verifying rfl) ?_
  rintro after ⟨raised, saved⟩ ⟨same, kept⟩
  subst same
  cases raised with
  | some raised => exact ⟨rfl, kept⟩
  | none =>
      intro answer
      refine ⟨after, .quiet after answer trivial, ?_⟩
      rcases (answer : Except SecretRaised Bool) with raised | healthy
      · exact ⟨rfl, kept⟩
      · cases healthy <;> exact ⟨rfl, kept⟩

theorem restartConsumer_follows {key : String} (task : role.task = .running id key)
    (deadline : ℚ) (consumer : Registry.ComponentId) {document : SecretUpdate}
    (version : Of id key document) :
    Follows (Moves settings) (fun after result => after = role ∧ Of id key result.2) role
      (restartConsumer deadline consumer document) := by
  refine follows_bind (neutral_follows (checkDeadline_neutral deadline document.id)) ?_
  rintro after checked same
  subst same
  cases checked with
  | some raised => exact ⟨rfl, version⟩
  | none =>
      have restarting : Of id key { document with state := .restarting } :=
        ⟨version.id, version.target⟩
      refine follows_bind (save_follows task restarting rfl) ?_
      rintro again ⟨raised, saved⟩ ⟨same, kept⟩
      subst same
      cases raised with
      | some raised => exact ⟨rfl, kept⟩
      | none =>
          intro answer
          refine ⟨again, .quiet again answer trivial, ?_⟩
          cases (answer : Except SecretRaised Unit) with
          | error raised => exact ⟨rfl, kept⟩
          | ok _ => exact verifyConsumer_follows task deadline consumer kept

theorem restartConsumers_follows {key : String} (task : role.task = .running id key)
    (deadline : ℚ) (consumers : List Registry.ComponentId) {document : SecretUpdate}
    (version : Of id key document) :
    Follows (Moves settings) (fun after result => after = role ∧ Of id key result.2) role
      (restartConsumers deadline consumers document) := by
  induction consumers generalizing document with
  | nil => exact ⟨rfl, version⟩
  | cons consumer rest ih =>
      refine follows_bind (restartConsumer_follows task deadline consumer version) ?_
      rintro after ⟨raised, onward⟩ ⟨same, kept⟩
      subst same
      cases raised with
      | some raised => exact ⟨rfl, kept⟩
      | none => exact ih kept

/-- A version of the record that has ended. -/
structure Final (id key : String) (document : SecretUpdate) : Prop extends
    Of id key document where
  terminal : document.state.active = false

theorem rollBack_follows (task : role.task = .running id target.identifier)
    (declared : Declared settings target) (revision : String) (deadline : ℚ)
    {document : SecretUpdate} (version : Of id target.identifier document) :
    Follows (Moves settings) (fun after result => after = role ∧
      Final id target.identifier result) role (rollBack target revision deadline document) := by
  have rolling : Of id target.identifier { document with state := .rollingBack } :=
    ⟨version.id, version.target⟩
  refine follows_bind (save_follows task rolling rfl) ?_
  rintro after ⟨raised, saved⟩ ⟨same, kept⟩
  subst same
  cases raised with
  | some raised => exact ⟨rfl, ⟨kept.id, kept.target⟩, rfl⟩
  | none =>
      intro answer
      refine ⟨after, .rollsBack task declared revision deadline answer, ?_⟩
      cases (answer : Except SecretRaised Unit) <;> exact ⟨rfl, ⟨kept.id, kept.target⟩, rfl⟩

theorem recover_follows (task : role.task = .running id target.identifier)
    (declared : Declared settings target) (deadline : ℚ) (revision : Option String)
    (raised : SecretRaised) {document : SecretUpdate}
    (version : Of id target.identifier document) :
    Follows (Moves settings) (fun after result => after = role ∧
      Final id target.identifier result) role
      (recover target deadline revision raised document) := by
  unfold recover
  cases revision with
  | none => exact ⟨rfl, ⟨version.id, version.target⟩, rfl⟩
  | some revision =>
      dsimp only
      split
      · exact ⟨rfl, ⟨version.id, version.target⟩, rfl⟩
      · exact rollBack_follows task declared revision deadline ⟨version.id, version.target⟩

theorem applyUpdate_follows (task : role.task = .running id target.identifier)
    (declared : Declared settings target) (source : SecretSource) (deadline : ℚ)
    {document : SecretUpdate} (version : Of id target.identifier document) :
    Follows (Moves settings) (fun after result => after = role ∧
      Final id target.identifier result) role
      (applyUpdate target source deadline document) := by
  intro answer
  refine ⟨role, .replaces task declared source deadline answer, ?_⟩
  cases (answer : Except SecretRaised (Option String)) with
  | error raised => exact recover_follows task declared deadline none raised version
  | ok revision =>
      show Follows _ _ role (restartConsumers deadline target.consumers document >>= _)
      refine follows_bind (restartConsumers_follows task deadline target.consumers version) ?_
      rintro after ⟨raised, onward⟩ ⟨same, kept⟩
      subst same
      cases raised with
      | some raised => exact recover_follows task declared deadline revision raised kept
      | none => exact ⟨rfl, ⟨kept.id, kept.target⟩, rfl⟩

theorem concludeUpdate_follows {key : String} (task : role.task = .running id key)
    {document : SecretUpdate} (final : Final id key document) :
    EndsUnlocked settings role (concludeUpdate document) := by
  have unlocked : role.task.holdsLock = false := by rw [task]; rfl
  intro _
  refine ⟨role, .quiet role _ trivial, ?_⟩
  intro now
  refine ⟨role, .quiet role now trivial, ?_⟩
  intro answer
  refine ⟨role, .quiet role answer trivial, ?_⟩
  cases (answer : Except SecretRaised Unit) with
  | error raised => exact unlocked
  | ok _ =>
      intro _
      have dated : Of id key { document with updatedAt := now } := ⟨final.id, final.target⟩
      refine ⟨role.does .idle, .ended task dated final.terminal, ?_⟩
      show Follows _ _ _ (execute (.get document.id) >>= _)
      refine follows_bind (neutral_follows (execute_neutral trivial)) ?_
      rintro after row same
      subst same
      rcases row with raised | _ | row <;> exact rfl

theorem runUpdate_follows (task : role.task = .running id target.identifier)
    (declared : Declared settings target) (source : SecretSource) {document : SecretUpdate}
    (version : Of id target.identifier document) :
    EndsUnlocked settings role (runUpdate settings target source document) := by
  intro (started : ℚ)
  refine ⟨role, @Moves.quiet settings role .monotonic started trivial, ?_⟩
  show Follows _ _ role (applyUpdate target source (started + settings.timeout) document >>= _)
  refine follows_bind (applyUpdate_follows task declared source _ version) ?_
  rintro after result ⟨same, final⟩
  subst same
  exact concludeUpdate_follows task final

/-! ## The calls -/

theorem replace_follows {call : Call} (called : role.call = some call)
    (outside : call.outside = true) (task : role.task = .idle) (request : Replacement) :
    EndsUnlocked settings role (replace settings request) := by
  have unlocked : role.task.holdsLock = false := by rw [task]; rfl
  unfold replace
  cases known : settings.registry.target request.componentId request.secretId with
  | error raised => exact unlocked
  | ok target =>
      have declared : Declared settings target := settings.registry.target_declared known
      refine follows_bind (neutral_follows (validateSource_neutral target request.source)) ?_
      rintro after source same
      subst same
      cases source with
      | error raised => exact unlocked
      | ok source =>
          dsimp only
          cases target.plan source.sourceType with
          | error raised => exact unlocked
          | ok impact =>
              dsimp only
              split
              · exact unlocked
              · refine follows_bind (neutral_follows (authorize_neutral target _ request)) ?_
                rintro again authorized same
                subst same
                cases authorized with
                | error raised => exact unlocked
                | ok _ =>
                    refine follows_bind (claim_follows called outside task target _ _ impact) ?_
                    rintro last (raised | document) claimed
                    · have idle : last.task = .idle := claimed
                      show last.task.holdsLock = false
                      rw [idle]
                      rfl
                    · rcases claimed with ⟨rfl, same⟩
                      exact runUpdate_follows rfl declared source ⟨rfl, same⟩

theorem cancel_neutral (operationId : String) (identity : Authorization.ActorIdentity) :
    OnlyAsks Neutral (cancel operationId identity) := by
  refine onlyAsks_bind (execute_neutral trivial) ?_
  rintro (raised | _ | document)
  · trivial
  · trivial
  · dsimp only
    split
    · trivial
    · split
      · exact ⟨trivial, fun _ => trivial⟩
      · trivial

theorem body_follows (call : Call) :
    Follows (Moves settings) finalRole (enter call) (body settings call) := by
  cases call with
  | openStore => exact follows_bind (openStore_follows rfl) (fun _ _ unlocked => unlocked)
  | replace request =>
      exact follows_bind (replace_follows rfl rfl rfl request) (fun _ _ unlocked => unlocked)
  | cancel operationId identity =>
      refine follows_bind (neutral_follows (cancel_neutral operationId identity)) ?_
      rintro after result same
      subst same
      exact rfl

def workflowProtocol (settings : WorkflowSettings) : Protocol (workflow settings) Role where
  move := Moves settings
  final := finalRole
  nobody := nobody
  enter := enter
  child := fun _ _ => nobody
  call := Role.call
  nobody_final := rfl
  nobody_call := rfl
  boot_follows := body_follows _
  enter_follows _ label _ := body_follows label
  child_follows _ _ _ _ _ _ spawns := nomatch spawns
  enter_call _ := rfl
  move_call _ _ _ _ moved := moves_call moved
  child_call _ _ _ _ _ _ spawns := nomatch spawns

end FortifyLab.Secrets
