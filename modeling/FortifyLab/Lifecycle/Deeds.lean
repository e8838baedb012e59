import FortifyLab.Lifecycle.ManagerProtocol

/-! What one action does to the stores and the roles: every way a thread can move,
and the ways threads come and go. -/

namespace FortifyLab.Lifecycle

open Registry Authorization

/-- Nothing changes but the cancelled set, the approvals and the audit. -/
structure SameStore (before after : ManagerState) : Prop where
  rows : after.rows = before.rows
  events : after.events = before.events
  workers : after.workers = before.workers
  lock : after.lock = before.lock
  serving : after.serving = before.serving

namespace ManagerState

def withRows (state : ManagerState) (rows : List Row) : ManagerState :=
  { state with rows := rows }

def withEvent (state : ManagerState) (operationId : OperationId) (event : Event) : ManagerState :=
  { state with events := state.events ++ [(operationId, event)] }

def withLock (state : ManagerState) (lock : Option Nat) : ManagerState :=
  { state with lock := lock }

def withWorkers (state : ManagerState) (workers : List OperationId) : ManagerState :=
  { state with workers := workers }

/-- The stored documents that a restart has interrupted. -/
def interrupted (state : ManagerState) : List Document :=
  (state.rows.filter (fun row => decide (row.state = .interrupted))).map Row.payload

/-- The store after a write of a document. -/
def write (state : ManagerState) (document : Document) : ManagerState :=
  state.withRows (state.rows.map (updateRow document))

end ManagerState

/-- One step of the thread that opens the store. -/
inductive OpeningDeed (state : ManagerState) (role : Role) :
    Request → ManagerState → Role → Prop where
  | waited : OpeningDeed state role .now state role
  | noted (operationId : OperationId) (at_ : Timestamp) :
      OpeningDeed state role (.addEvent operationId (.managerRestarted at_))
        (state.withEvent operationId (.managerRestarted at_)) role
  | interrupts (now : Timestamp) (idle : role.task = .idle) :
      OpeningDeed state role (.interruptActive now)
        (state.withRows (state.rows.map (ManagerState.interruptRow now)))
        (role.does (.recovering []))
  | lists {documents : List Document} (recovering : role.task = .recovering documents) :
      OpeningDeed state role .interruptedRows state (role.does (.recovering state.interrupted))
  | recovers {documents : List Document} {stored : Document}
      (recovering : role.task = .recovering documents) (known : stored ∈ documents) :
      OpeningDeed state role (.updatePayload stored.setInterruptedRecovery)
        (state.withRows (state.rows.map
          (ManagerState.updatePayload stored.setInterruptedRecovery))) role
  | serves {documents : List Document} (recovering : role.task = .recovering documents) :
      OpeningDeed state role .serve { state with serving := true } (role.does .opened)

/-- How the owner of an operation may write its row and go on. -/
inductive Saved (work : Work) (document : Document) : Prop where
  | queued (queued : document.state = .queued) (before : work.document.state = .queued)
      (lab : LabFields document work.focus)
  | running (running : document.state = .running) (lab : KeepsLab document work)

/-- The request that starts a worker. -/
def Request.starts : Request → Bool
  | .startWorker _ _ => true
  | _ => false

/-- One step of any other thread. -/
inductive Deed (engine : Engine) (index : Nat) (state : ManagerState) (role : Role) :
    Request → ManagerState → Role → Prop where
  | quiet {request : Request} {after : ManagerState} (same : SameStore state after)
      (ordinary : request.starts = false) :
      Deed engine index state role request after role
  | noted (operationId : OperationId) {event : Event} (plain : event.completedKey = none) :
      Deed engine index state role (.addEvent operationId event)
        (state.withEvent operationId event) role
  | acquired (free : state.lock = none) (unlocked : role.holds = false) :
      Deed engine index state role .acquire (state.withLock (some index)) (role.locked true)
  | released (holds : role.holds = true) (notOwns : ∀ work, role.task ≠ .owns work)
      (notCancelling : ∀ document, role.task ≠ .cancelling document) :
      Deed engine index state role .release (state.withLock none) ((role.does .idle).locked false)
  | releasedOwner {work : Work} (holds : role.holds = true) (owns : role.task = .owns work) :
      Deed engine index state role .release (state.withLock none) (role.locked false)
  | surveyed (holds : role.holds = true) (idle : role.task = .idle) :
      Deed engine index state role .activeComponents state
        (role.does (.surveyed state.activeComponents))
  | considered {operationId : OperationId} {actor : String} {identity : Option ActorIdentity}
      (holds : role.holds = true) (idle : role.task = .idle)
      (called : role.call = some (.cancel operationId actor identity)) :
      Deed engine index state role (.getRow operationId) state
        (role.does (cancelTask (state.row? operationId)))
  | read (operationId : OperationId) (idle : role.task = .idle) :
      Deed engine index state role (.getRow operationId) state
        (role.reads operationId (state.row? operationId))
  | heard (operationId : OperationId) (idle : role.task = .idle) :
      Deed engine index state role (.listEvents operationId) state
        (role.hears operationId (state.eventsOf operationId))
  | learned {work : Work} {operationId : OperationId} (owns : role.task = .owns work)
      (queued : work.document.state = .queued) (retries : work.document.retryOf = some operationId)
      (unresumed : work.resumed = []) (isLab : ∃ action, work.document.workflow = some (.lab action))
      (whole : work.completed = []) (unlabelled : work.document.labAction = none) :
      Deed engine index state role (.listEvents operationId) state
        (role.does (.owns (work.learns (completedKeys (state.eventsOf operationId)))))
  | created {document : Document} {active : List ComponentId} {work : Work}
      (surveyed : role.task = .surveyed active) (holds : role.holds = true)
      (apart : ∀ componentId ∈ document.components, componentId ∉ active)
      (creates : Creates engine role document work)
      (fresh : ∀ row ∈ state.rows, row.payload.id ≠ document.id) :
      Deed engine index state role (.createRow document)
        (state.withRows (state.rows ++ [⟨document.state, document⟩])) (role.does (.owns work))
  | marked {stored : Document} (now : Timestamp) (cancelling : role.task = .cancelling stored) :
      Deed engine index state role
        (.updateRow { stored with state := .cancelling, updatedAt := now })
        (state.write { stored with state := .cancelling, updatedAt := now }) (role.does .idle)
  | saved {work : Work} {document : Document} (owns : role.task = .owns work)
      (same : SameOperation document work.document) (saved : Saved work document) :
      Deed engine index state role (.updateRow document) (state.write document)
        (role.does (.owns (work.writes document)))
  | concluded {work : Work} {document : Document} (owns : role.task = .owns work)
      (same : SameOperation document work.document) (terminal : document.state.terminal = true)
      (uninterrupted : document.state ≠ .interrupted) (lab : KeepsLab document work)
      (running : work.document.state = .running)
      (complete : document.state = .succeeded → work.rest = []) :
      Deed engine index state role (.updateRow document) (state.write document) (role.does .idle)
  | succeeded {work : Work} {step : Step} {rest : List Step} {attempt : Nat} {at_ : Timestamp}
      (owns : role.task = .owns work) (running : work.document.state = .running)
      (next : work.rest = step :: rest) :
      Deed engine index state role
        (.addEvent work.document.id (.stepSucceeded step.componentId step.operation attempt at_))
        (state.withEvent work.document.id
          (.stepSucceeded step.componentId step.operation attempt at_))
        (role.does (.owns (work.advance step rest)))
  | resumed {work : Work} {key : StepKey} {at_ : Timestamp} (owns : role.task = .owns work)
      (queued : work.document.state = .queued)
      (skipped : key ∈ (resumedSteps work.plan work.completed).map Step.key) :
      Deed engine index state role (.addEvent work.document.id (.stepResumed key.1 key.2 at_))
        (state.withEvent work.document.id (.stepResumed key.1 key.2 at_))
        (role.does (.owns (work.resumes key)))
  | registered {work : Work} (owns : role.task = .owns work)
      (queued : work.document.state = .queued) :
      Deed engine index state role (.addWorker work.document.id)
        (state.withWorkers (work.document.id :: state.workers)) (role.does (.owns work.registers))
  | unregistered {document : Document} {steps : List Step} (idle : role.task = .idle)
      (called : role.call = some (.worker document steps)) :
      Deed engine index state role (.discardWorker document.id)
        (state.withWorkers (state.workers.filter (fun id => decide (id ≠ document.id)))) role
  | handed {work : Work} (owns : role.task = .owns work) (unlocked : role.holds = false)
      (queued : work.document.state = .queued) (registered : work.registered = true)
      (resumed : work.resumed = (resumedSteps work.plan work.completed).map Step.key)
      (total : work.document.completedSteps + work.rest.length = work.document.totalSteps)
      (lab : ∀ action, work.document.workflow = some (.lab action) →
        work.document.labAction = some action) :
      Deed engine index state role (.startWorker work.document work.rest) state (role.does .idle)

variable {engine : Engine} {settings : Settings}

theorem sameStore_refl (state : ManagerState) : SameStore state state := ⟨rfl, rfl, rfl, rfl, rfl⟩

theorem opening_deed {state : ManagerState} {role after : Role} {index : Nat} (offer : Offer)
    {request : Request} {answer : Answer request} (opening : Opening role request answer after)
    (replied : state.reply index offer request = some answer) :
    OpeningDeed state role request (state.effect index request) after := by
  cases request with
  | now =>
      cases opening
      exact .waited
  | interruptActive now =>
      rcases opening with ⟨idle, rfl⟩
      exact .interrupts now idle
  | interruptedRows =>
      rcases opening with ⟨⟨documents, recovering⟩, rfl⟩
      cases replied
      exact .lists recovering
  | updatePayload document =>
      rcases opening with ⟨⟨documents, recovering, stored, known, rfl⟩, rfl⟩
      exact .recovers recovering known
  | addEvent operationId event =>
      cases event with
      | managerRestarted at_ =>
          cases opening
          exact .noted operationId at_
      | _ => exact opening.elim
  | serve =>
      rcases opening with ⟨⟨documents, recovering⟩, rfl⟩
      exact .serves recovering
  | _ => exact opening.elim

theorem serving_deed {state : ManagerState} {role after : Role} {index : Nat} (offer : Offer)
    {request : Request} {answer : Answer request} (serving : Serving engine role request answer after)
    (replied : state.reply index offer request = some answer) :
    Deed engine index state role request (state.effect index request) after := by
  cases request with
  | acquire =>
      rcases serving with ⟨unlocked, rfl⟩
      have granted : (if state.lock = none then some () else none) = some answer := replied
      split at granted
      · next free => exact .acquired free unlocked
      · cases granted
  | release =>
      rcases serving with ⟨holds, ends⟩
      split at ends
      · next work owns =>
        subst ends
        exact .releasedOwner holds owns
      · exact ends.elim
      · next notOwns notCancelling =>
        subst ends
        exact .released holds notOwns notCancelling
  | activeComponents =>
      rcases serving with ⟨holds, idle, rfl⟩
      cases replied
      exact .surveyed holds idle
  | getRow operationId =>
      rcases serving with ⟨idle, reads⟩
      cases replied
      split at reads
      · next holds =>
        rcases reads with ⟨⟨actor, identity, called⟩, rfl⟩
        exact .considered holds idle called
      · subst reads
        exact .read operationId idle
  | listEvents operationId =>
      cases replied
      unfold Serving at serving
      dsimp only at serving
      split at serving
      · next idle =>
        subst serving
        exact .heard operationId idle
      · next work owns =>
        rcases serving with ⟨queued, retries, unresumed, rfl, isLab, whole, unlabelled⟩
        exact .learned owns queued retries unresumed isLab whole unlabelled
      · exact serving.elim
  | createRow document =>
      rcases serving with ⟨active, work, surveyed, holds, apart, creates, rfl⟩
      cases replied
      unfold ManagerState.effect
      dsimp only
      cases taken : state.rows.any (fun row => decide (row.payload.id = document.id)) with
      | true => exact .quiet (sameStore_refl state) rfl
      | false =>
          refine .created surveyed holds apart creates ?_
          intro row member same
          have found := List.any_eq_false.mp taken row member
          exact found (decide_eq_true same)
  | updateRow document =>
      unfold Serving at serving
      dsimp only at serving
      split at serving
      · next stored cancelling =>
        rcases serving with ⟨⟨now, rfl⟩, rfl⟩
        exact .marked now cancelling
      · next work owns =>
        rcases serving with ⟨same, saves⟩
        rcases saves with ⟨queued, before, lab, rfl⟩ | ⟨running, lab, rfl⟩ |
          ⟨terminal, uninterrupted, lab, running, complete, rfl⟩
        · exact .saved owns same (.queued queued before lab)
        · exact .saved owns same (.running running lab)
        · exact .concluded owns same terminal uninterrupted lab running complete
      · exact serving.elim
  | addEvent operationId event =>
      cases event with
      | stepSucceeded component operation attempt at_ =>
          rcases serving with ⟨work, step, rest, owns, rfl, running, next, same, rfl⟩
          cases same
          exact .succeeded owns running next
      | stepResumed component operation at_ =>
          rcases serving with ⟨work, owns, rfl, queued, skipped, rfl⟩
          exact .resumed owns queued skipped
      | attemptFailed component operation attempt retrying at_ =>
          rcases serving with ⟨_, rfl⟩
          exact .noted operationId rfl
      | cancellationRequested actor at_ =>
          rcases serving with ⟨_, rfl⟩
          exact .noted operationId rfl
      | managerRestarted at_ =>
          rcases serving with ⟨_, rfl⟩
          exact .noted operationId rfl
  | startWorker document steps =>
      rcases serving with ⟨work, owns, unlocked, rfl, rfl, queued, registered, resumed, total, lab, rfl⟩
      exact .handed owns unlocked queued registered resumed total lab
  | execute operationId step deadline =>
      rcases serving with ⟨_, rfl⟩
      exact .quiet (sameStore_refl state) rfl
  | addWorker operationId =>
      rcases serving with ⟨work, owns, rfl, queued, rfl⟩
      exact .registered owns queued
  | discardWorker operationId =>
      rcases serving with ⟨idle, ⟨document, steps, called, rfl⟩, rfl⟩
      exact .unregistered idle called
  | addCancelled operationId =>
      cases serving
      exact .quiet ⟨rfl, rfl, rfl, rfl, rfl⟩ rfl
  | now =>
      cases serving
      exact .quiet (sameStore_refl state) rfl
  | interruptActive now => exact serving.elim
  | interruptedRows => exact serving.elim
  | updatePayload document => exact serving.elim
  | serve => exact serving.elim
  | insertApproval document =>
      rcases serving with ⟨_, rfl⟩
      refine .quiet ?_ rfl
      unfold ManagerState.effect
      dsimp only
      split <;> exact ⟨rfl, rfl, rfl, rfl, rfl⟩
  | _ =>
      rcases serving with ⟨_, rfl⟩
      exact .quiet ⟨rfl, rfl, rfl, rfl, rfl⟩ rfl

/-- One action of the manager, on the stores and the roles; the request is the one
that was answered, and by which thread. -/
inductive Turn (settings : Settings) (state : ManagerState) (roles : Nat → Role) :
    Option (Nat × Request) → ManagerState → (Nat → Role) → Prop where
  | opening {index : Nat} {request : Request} {after : ManagerState} {role : Role}
      (opens : (roles index).call = some .openStore)
      (deed : OpeningDeed state (roles index) request after role) :
      Turn settings state roles (some (index, request)) after (Function.update roles index role)
  | serving {index : Nat} {request : Request} {after : ManagerState} {role : Role}
      (serves : (roles index).Serves)
      (deed : Deed settings.engine index state (roles index) request after role)
      (alone : (manager settings).spawned request = none) :
      Turn settings state roles (some (index, request)) after (Function.update roles index role)
  | started {index worker : Nat} {document : Document} {steps : List Step}
      {after : ManagerState} {role : Role} (serves : (roles index).Serves)
      (deed : Deed settings.engine index state (roles index) (.startWorker document steps) after role)
      (absent : roles worker = .begins none .idle) (other : worker ≠ index) :
      Turn settings state roles (some (index, .startWorker document steps)) after
        (Function.update (Function.update roles index role) worker
          (.begins (some (.worker document steps)) (roles index).task))
  | arrived {index : Nat} {call : Call} (serving : state.serving = true)
      (arrives : call.arrives = true) (absent : roles index = .begins none .idle) :
      Turn settings state roles none state
        (Function.update roles index (.begins (some call) .idle))
  | crashed (index : Nat) :
      Turn settings state roles none state.afterCrash
        (Function.update (fun _ => .begins none .idle) index (.begins (some .openStore) .idle))

theorem moves_serves_or_opens {role after : Role} {request : Request} {answer : Answer request}
    (moved : Moves engine role request answer after) :
    (role.call = some .openStore ∧ Opening role request answer after) ∨
      (role.Serves ∧ Serving engine role request answer after) := by
  unfold Moves at moved
  split at moved
  · exact moved.elim
  · next opens => exact .inl ⟨opens, moved⟩
  · next call notOpening called => exact .inr ⟨⟨call, called, notOpening⟩, moved⟩

/-- Every action of annotated threads is a turn. -/
theorem evolves_turn {pool next : ManagerPool} {roles after : Nat → Role}
    {action : ManagerAction} {entries : List (Entry Call Request Answer)}
    (annotated : (managerProtocol settings).Annotated pool roles)
    (evolves : (managerProtocol settings).Evolves pool roles action entries next after) :
    ∃ asked, Turn settings pool.shared roles asked next.shared after ∧
      ∀ index request, asked = some (index, request) →
        (∃ offer, action = .advance index offer) ∧
        ∃ label rest, pool.threads[index]? = some ⟨label, .ask request rest⟩ := by
  cases evolves with
  | @advanced index offer label request rest answer after found replied moved alone =>
      refine ⟨some (index, request), ?_, ?_⟩
      · rcases moves_serves_or_opens moved with ⟨opens, opening⟩ | ⟨serves, serving⟩
        · exact .opening opens (opening_deed offer opening replied)
        · exact .serving serves (serving_deed offer serving replied) alone
      · intro other asked same
        cases same
        exact ⟨⟨offer, rfl⟩, label, rest, found⟩
  | @spawned index offer label request rest answer after started found replied moved spawns =>
      refine ⟨some (index, request), ?_, ?_⟩
      · cases request with
        | startWorker document steps =>
            rcases moves_serves_or_opens moved with ⟨opens, opening⟩ | ⟨serves, serving⟩
            · exact opening.elim
            · have inside := (List.getElem?_eq_some_iff.mp found).1
              exact .started serves (serving_deed offer serving replied)
                (annotated.absent _ (le_refl _)) (by omega)
        | _ => cases spawns
      · intro other asked same
        cases same
        exact ⟨⟨offer, rfl⟩, label, rest, found⟩
  | admitted admits =>
      have both := Bool.and_eq_true_iff.mp admits
      exact ⟨none, .arrived both.1 both.2 (annotated.absent _ (le_refl _)),
        fun _ _ impossible => nomatch impossible⟩
  | restarted => exact ⟨none, .crashed _, fun _ _ impossible => nomatch impossible⟩

end FortifyLab.Lifecycle
