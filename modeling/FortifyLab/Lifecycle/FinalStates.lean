import FortifyLab.Lifecycle.NoOverlap

/-! Ended operations stay ended. Only a cancellation that is written over a row which has
ended since it was read can break this; and once no worker is registered, every operation
that a worker was started for has ended. -/

namespace FortifyLab.Lifecycle

open Registry Authorization Program

variable {settings : Settings} {engine : Engine} {state after : ManagerState} {books : Books}
  {role other : Role} {roles : Nat → Role} {index : Nat} {request : Request}

/-- The operation is stored with a terminal state. -/
def ManagerState.Ended (state : ManagerState) (id : OperationId) : Prop :=
  ∃ row ∈ state.rows, row.payload.id = id ∧ row.state.terminal = true

/-- No operation that has ended is revived. -/
def EndedKept (state after : ManagerState) : Prop := ∀ id, state.Ended id → after.Ended id

/-- The action is no write of a cancellation over a row that has ended. -/
def cancelsInTime (pool : ManagerPool) : ManagerAction → Bool
  | .advance index _ =>
      match pool.threads[index]? with
      | some ⟨_, .ask (.updateRow document) _⟩ =>
          decide (document.state ≠ .cancelling) || pool.shared.rows.all (fun row =>
            decide (row.payload.id ≠ document.id) || !row.state.terminal)
      | _ => true
  | _ => true

def CancelsInTime (pool : ManagerPool) (action : ManagerAction) : Prop :=
  cancelsInTime pool action = true

/-! ## Rows -/

theorem endedKept_of_rows (rows : after.rows = state.rows) : EndedKept state after := by
  rintro id ⟨row, member, same, terminal⟩
  exact ⟨row, by rw [rows]; exact member, same, terminal⟩

theorem endedKept_write {document : Document}
    (kept : ∀ row ∈ state.rows, row.payload.id = document.id → row.state.terminal = true →
      document.state.terminal = true) : EndedKept state (state.write document) := by
  rintro id ⟨row, member, same, terminal⟩
  by_cases own : row.payload.id = document.id
  · refine ⟨⟨document.state, document⟩, ?_, own.symm.trans same, kept row member own terminal⟩
    exact ManagerState.mem_write.mpr (.inr ⟨rfl, row, member, own⟩)
  · exact ⟨row, ManagerState.mem_write.mpr (.inl ⟨member, own⟩), same, terminal⟩

theorem endedKept_map {change : Row → Row}
    (kept : ∀ row ∈ state.rows, row.state.terminal = true →
      (change row).payload.id = row.payload.id ∧ (change row).state.terminal = true) :
    EndedKept state (state.withRows (state.rows.map change)) := by
  rintro id ⟨row, member, same, terminal⟩
  rcases kept row member terminal with ⟨stays, ends⟩
  exact ⟨change row, List.mem_map_of_mem member, stays.trans same, ends⟩

theorem endedKept_interrupt (state : ManagerState) (now : Timestamp) :
    EndedKept state (state.withRows (state.rows.map (ManagerState.interruptRow now))) := by
  apply endedKept_map
  intro row _ terminal
  have inactive : row.state.active = false := by
    rw [OperationState.active_eq_not_terminal, terminal]
    rfl
  unfold ManagerState.interruptRow
  rw [if_neg (by simp [inactive])]
  exact ⟨rfl, terminal⟩

theorem endedKept_updatePayload (state : ManagerState) (document : Document) :
    EndedKept state (state.withRows (state.rows.map (ManagerState.updatePayload document))) := by
  apply endedKept_map
  intro row _ terminal
  unfold ManagerState.updatePayload
  split
  · next same => exact ⟨same.symm, terminal⟩
  · exact ⟨rfl, terminal⟩

theorem not_ended_of_active {row : Row} (kept : Kept engine state books)
    (member : row ∈ state.rows) (active : row.state.active = true) :
    ¬ state.Ended row.payload.id := by
  rintro ⟨other, known, same, terminal⟩
  rw [ManagerState.eq_of_id kept.ids known member same] at terminal
  rw [OperationState.active_eq_not_terminal, terminal] at active
  cases active

/-- What a thread owns has not ended. -/
theorem owned_not_ended (kept : Kept engine state books) (mine : role.Kept state books)
    {work : Work} (owns : role.task = .owns work) : ¬ state.Ended work.document.id := by
  rcases (mine.owned work owns).active with ⟨row, member, same, active⟩
  exact same ▸ not_ended_of_active kept member active

/-! ## One turn -/

theorem OpeningDeed.endedKept (deed : OpeningDeed state role request after other) :
    EndedKept state after := by
  cases deed with
  | interrupts now idle => exact endedKept_interrupt state now
  | recovers recovering known => exact endedKept_updatePayload state _
  | _ => exact endedKept_of_rows rfl

/-- Where the owner of the row writes it, the row has not ended. -/
theorem endedKept_owner (kept : Kept engine state books) (mine : role.Kept state books)
    {work : Work} {document : Document} (owns : role.task = .owns work)
    (same : SameOperation document work.document) : EndedKept state (state.write document) := by
  apply endedKept_write
  intro row member own terminal
  have ended : state.Ended work.document.id := ⟨row, member, own.trans same.id, terminal⟩
  exact absurd ended (owned_not_ended kept mine owns)

theorem Deed.endedKept (deed : Deed engine index state role request after other)
    (kept : Kept engine state books) (mine : role.Kept state books)
    (inTime : ∀ document, request = .updateRow document → document.state = .cancelling →
      ¬ state.Ended document.id) : EndedKept state after := by
  cases deed with
  | quiet same ordinary => exact endedKept_of_rows same.rows
  | created surveyed holds apart creates fresh =>
      rintro id ⟨row, member, same, terminal⟩
      exact ⟨row, List.mem_append_left _ member, same, terminal⟩
  | marked now cancelling =>
      apply endedKept_write
      intro row member own terminal
      exact absurd ⟨row, member, own, terminal⟩ (inTime _ rfl rfl)
  | saved owns same saved => exact endedKept_owner kept mine owns same
  | concluded owns same terminal uninterrupted lab running complete =>
      exact endedKept_owner kept mine owns same
  | _ => exact endedKept_of_rows rfl

theorem not_ended_of_cancelsInTime {pool : ManagerPool} {offer : Offer} {document : Document}
    (meets : CancelsInTime pool (.advance index offer)) (cancelling : document.state = .cancelling)
    {label : Call} {rest : Unit → Act Outcome}
    (found : pool.threads[index]? = some ⟨label, .ask (.updateRow document) rest⟩) :
    ¬ pool.shared.Ended document.id := by
  rintro ⟨row, member, same, terminal⟩
  unfold CancelsInTime cancelsInTime at meets
  dsimp only at meets
  rw [found] at meets
  dsimp only at meets
  rw [cancelling] at meets
  have checked := List.all_eq_true.mp meets row member
  rw [same, terminal] at checked
  simp at checked

theorem turn_endedKept {pool : ManagerPool} {action : ManagerAction}
    {asked : Option (Nat × Request)} {next : Nat → Role} (meets : CancelsInTime pool action)
    (consistent : Consistent settings pool.shared roles books)
    (turn : Turn settings pool.shared roles asked after next) (asks : Asks pool action asked) :
    EndedKept pool.shared after := by
  have inTime : ∀ index request, asked = some (index, request) → ∀ document,
      request = .updateRow document → document.state = .cancelling →
      ¬ pool.shared.Ended document.id := by
    rintro index request same document rfl cancelling
    rcases asks index _ same with ⟨⟨offer, rfl⟩, label, rest, found⟩
    exact not_ended_of_cancelsInTime meets cancelling found
  have kept := consistent.booked.kept
  cases turn with
  | opening opens deed => exact deed.endedKept
  | @serving index request after role serves deed alone =>
      exact deed.endedKept kept (consistent.booked.each index) (inTime _ _ rfl)
  | @started index worker document steps after role serves deed absent other =>
      exact deed.endedKept kept (consistent.booked.each index) (inTime _ _ rfl)
  | arrived serving arrives absent => exact endedKept_of_rows rfl
  | crashed index => exact endedKept_of_rows rfl

/-! ## Every run -/

/-- In every run in which no cancellation is written over a row that has ended, an operation
that has ended stays ended. -/
theorem ended_stays_ended {pool next : ManagerPool}
    (later : (manager settings).Later CancelsInTime pool next) :
    EndedKept pool.shared next.shared := by
  induction later with
  | refl => exact endedKept_of_rows rfl
  | tail _ becomes ih =>
      rcases becomes with ⟨log, action, reached, meets, acted⟩
      rcases reachable_consistent reached with ⟨roles, books, annotated, consistent⟩
      rcases annotated.evolves acted with ⟨nextRoles, evolves, _⟩
      rcases evolves_turn annotated evolves with ⟨asked, turn, asks⟩
      exact fun id ended => turn_endedKept meets consistent turn asks id (ih id ended)

/-- An operation is cancelled while it runs, and its worker ends it. -/
def cancelledStart : List (ManagerPool → ManagerAction) :=
  goOn 0 4 "" ++ arrive (.submitAsync .insertion "start" ["mysql"] ⟨"operator", none, none⟩ none) ++
    goOn 1 11 "first" ++ goOn 2 8 "" ++ arrive (.cancel "first" "operator" none) ++ goOn 3 7 "" ++
    goOn 2 9 ""

/-- Another start of the same component, and a cancellation of the ended one. -/
def startAgain : List (ManagerPool → ManagerAction) :=
  arrive (.submitAsync .insertion "start" ["mysql"] ⟨"operator", none, none⟩ none) ++
    arrive (.cancel "first" "operator" none) ++ goOn 5 3 "" ++ goOn 4 11 "second"

theorem ended_stays_ended_shipped :
    ∃ pool next, playShipped cancelsInTime cancelledStart = some pool ∧
      pool.shared.rows.map Row.state = [.cancelled] ∧
      (manager shippedSettings).play cancelsInTime pool startAgain = some next ∧
      next.shared.rows.map Row.state = [.cancelled, .queued] ∧
      EndedKept pool.shared next.shared := by
  have played : (playShipped cancelsInTime cancelledStart).any (fun pool =>
      decide (pool.shared.rows.map Row.state = [.cancelled]) &&
        ((manager shippedSettings).play cancelsInTime pool startAgain).any (fun next =>
          decide (next.shared.rows.map Row.state = [.cancelled, .queued]))) = true := by
    decide +kernel
  rcases (Option.any_eq_true _ _).mp played with ⟨pool, isPlayed, both⟩
  rcases Bool.and_eq_true_iff.mp both with ⟨rows, second⟩
  rcases (Option.any_eq_true _ _).mp second with ⟨next, goesOn, later⟩
  have sound : ∀ pool action, cancelsInTime pool action = true → CancelsInTime pool action :=
    fun _ _ permitted => permitted
  rcases Machine.reachable_play sound cancelledStart .initial isPlayed with ⟨log, reached⟩
  exact ⟨pool, next, isPlayed, of_decide_eq_true rows, goesOn, of_decide_eq_true later,
    ended_stays_ended (Machine.later_play sound startAgain reached goesOn)⟩

/-! ## Workers take on nothing new -/

/-- The request creates a row or starts a worker. -/
def Request.engages : Request → Bool
  | .createRow _ => true
  | .startWorker _ _ => true
  | _ => false

abbrev EngagesNone (request : Request) : Prop := request.engages = false

theorem starts_of_engagesNone (none : EngagesNone request) : request.starts = false := by
  cases request <;> first | rfl | cases none

theorem save_engages_none (document : Document) : OnlyAsks EngagesNone (save document) :=
  ⟨rfl, fun _ => ⟨rfl, fun _ => trivial⟩⟩

theorem checkBoundary_engages_none (operationId : OperationId) (deadline : ℚ) :
    OnlyAsks EngagesNone (checkBoundary operationId deadline).run := by
  apply onlyAsks_askExcept (show EngagesNone (.isCancelled operationId) from rfl)
  intro cancelled
  split
  · trivial
  · apply onlyAsks_askExcept (show EngagesNone .monotonic from rfl)
    intro now
    split <;> trivial

theorem verifyChecks_engages_none (operationId : OperationId) (step : Step) (deadline : ℚ)
    (checks : List String) :
    OnlyAsks EngagesNone (verifyChecks operationId step deadline checks).run := by
  induction checks with
  | nil => trivial
  | cons check rest ih =>
      apply onlyAsks_bindExcept (checkBoundary_engages_none operationId deadline)
      intro _
      refine ⟨rfl, fun answer => ?_⟩
      match answer with
      | .ok true => exact ih
      | .ok false => trivial
      | .error raised => trivial

theorem tryStep_engages_none (operationId : OperationId) (step : Step) (attempt : Nat)
    (deadline : ℚ) : OnlyAsks EngagesNone (tryStep operationId step attempt deadline).run := by
  apply onlyAsks_bindExcept (checkBoundary_engages_none operationId deadline)
  intro _
  refine ⟨rfl, fun answer => ?_⟩
  match answer with
  | .error raised => trivial
  | .ok _ =>
      apply onlyAsks_bindExcept (verifyChecks_engages_none operationId step deadline step.verify)
      intro _
      exact ⟨rfl, fun _ => ⟨rfl, fun _ => trivial⟩⟩

theorem executeAttempts_engages_none (step : Step) (remaining attempt : Nat)
    (document : Document) :
    OnlyAsks EngagesNone (executeAttempts step remaining attempt document) := by
  induction remaining generalizing attempt document with
  | zero => trivial
  | succ remaining ih =>
      apply onlyAsks_bind (save_engages_none _)
      intro saved
      refine ⟨rfl, fun started => ?_⟩
      apply onlyAsks_bind
        (tryStep_engages_none saved.id step attempt (started + step.timeoutSeconds))
      intro tried
      match tried with
      | .ok _ => trivial
      | .error .stepCancelled => trivial
      | .error .stepTimedOut => trivial
      | .error .other =>
          refine ⟨rfl, fun now => ⟨rfl, fun _ => ?_⟩⟩
          split
          · trivial
          · exact ih (attempt + 1) saved

theorem runSteps_engages_none (index : Nat) (steps : List Step) (document : Document) :
    OnlyAsks EngagesNone (runSteps index steps document) := by
  induction steps generalizing index document with
  | nil => trivial
  | cons step rest ih =>
      apply onlyAsks_bind (save_engages_none _)
      intro saved
      apply onlyAsks_bind (executeAttempts_engages_none step step.maxAttempts 1 saved)
      intro executed
      rcases executed with ⟨after, raised⟩
      cases raised with
      | some raised => trivial
      | none =>
          apply onlyAsks_bind (save_engages_none _)
          intro written
          exact ih (index + 1) written

theorem runWorker_engages_none (document : Document) (steps : List Step) :
    OnlyAsks EngagesNone (runWorker document steps) := by
  have ran : OnlyAsks EngagesNone (run document steps) := by
    apply onlyAsks_bind (save_engages_none _)
    intro saved
    apply onlyAsks_bind (runSteps_engages_none (saved.completedSteps + 1) steps saved)
    intro result
    exact ⟨rfl, fun _ => save_engages_none _⟩
  exact onlyAsks_bind ran (fun _ => ⟨rfl, fun _ => ⟨rfl, fun _ => ⟨rfl, fun _ => trivial⟩⟩⟩)

theorem worker_engages_none {call : Call} {document : Document} {steps : List Step}
    (called : call = .worker document steps) : OnlyAsks EngagesNone (call.body settings) := by
  subst called
  exact onlyAsks_bind (runWorker_engages_none document steps) (fun _ => trivial)

/-! ## Registered workers -/

/-- A thread of a worker takes on nothing new, and one that was not killed has its call as
its role. -/
structure Manned (thread : Thread Call Request Answer Outcome) (role : Role) : Prop where
  worker : ∀ document steps, thread.label = .worker document steps →
    OnlyAsks EngagesNone thread.program
  alive : thread.program = .done .killed ∨ role.call = some thread.label

theorem manned_enters (call : Call) :
    Manned ((manager settings).thread call) ((managerProtocol settings).enter call) where
  worker _ _ called := worker_engages_none called
  alive := .inr rfl

/-- Every thread of a pool is manned, after any action. -/
theorem manned_evolves {pool next : ManagerPool} {after : Nat → Role} {action : ManagerAction}
    {entries : List (Entry Call Request Answer)}
    (each : Protocol.Each Manned pool.threads roles)
    (evolves : (managerProtocol settings).Evolves pool roles action entries next after) :
    Protocol.Each Manned next.threads after := by
  refine evolves.each each ?_ ?_ manned_enters ?_
  · intro label role request rest answer moved manned step
    rcases manned.alive with killed | called
    · cases killed
    · exact ⟨fun document steps same => (manned.worker document steps same).2 answer,
        .inr (((managerProtocol settings).move_call _ _ _ _ step).trans called)⟩
  · intro label role request rest answer moved started manned step spawns
    exact ⟨fun document steps same => worker_engages_none same,
      .inr ((managerProtocol settings).child_call _ _ _ _ _ step spawns)⟩
  · intro thread
    exact ⟨fun _ _ _ => trivial, .inl rfl⟩

/-- The worker of an operation either owns it or has ended it and owns nothing. -/
def Holds (state : ManagerState) (role : Role) (document : Document) : Prop :=
  (∃ work, role.task = .owns work ∧ work.document.id = document.id ∧ work.registered = true) ∨
    (state.Ended document.id ∧ ∀ work, role.task ≠ .owns work)

/-- A registered operation is in the set of workers as long as its thread owns it, and
every worker owns its operation or has ended it. -/
structure Worked (state : ManagerState) (roles : Nat → Role) : Prop where
  registered : ∀ index work, (roles index).task = .owns work → work.registered = true →
    work.document.id ∈ state.workers
  worked : ∀ index document steps, (roles index).call = some (.worker document steps) →
    Holds state (roles index) document

/-- The thread is registered for what it owns, once it has registered. -/
def Registered (state : ManagerState) (role : Role) : Prop :=
  ∀ work, role.task = .owns work → work.registered = true → work.document.id ∈ state.workers

theorem cancelTask_owns_nothing (answer : Option Document) (work : Work) :
    cancelTask answer ≠ .owns work := by
  unfold cancelTask
  cases answer with
  | none => exact fun owns => Task.noConfusion owns
  | some document =>
      dsimp only
      split <;> exact fun owns => Task.noConfusion owns

theorem registered_of_task (free : ∀ work, role.task ≠ .owns work) : Registered state role :=
  fun work owns _ => absurd owns (free work)

theorem Deed.keeps_registered (mine : Registered state role)
    (deed : Deed engine index state role request after other) : Registered after other := by
  intro work owns registered
  cases deed with
  | quiet same ordinary =>
      rw [same.workers]
      exact mine work owns registered
  | noted operationId plain => exact mine work owns registered
  | acquired free unlocked => exact mine work owns registered
  | releasedOwner holds before => exact mine work owns registered
  | read operationId idle => exact mine work owns registered
  | heard operationId idle => exact mine work owns registered
  | considered holds idle called => exact absurd owns (cancelTask_owns_nothing _ work)
  | learned before queued retries unresumed isLab whole unlabelled =>
      cases owns
      have known := mine _ before registered
      exact known
  | created surveyed holds apart creates fresh =>
      cases owns
      rw [creates.unstarted.2.2] at registered
      cases registered
  | saved before same saved =>
      cases owns
      have known := mine _ before registered
      rw [← same.id] at known
      exact known
  | succeeded before running next =>
      cases owns
      have known := mine _ before registered
      exact known
  | resumed before queued skipped =>
      cases owns
      have known := mine _ before registered
      exact known
  | registered before queued =>
      cases owns
      exact List.mem_cons_self
  | unregistered idle called =>
      rw [idle] at owns
      cases owns
  | _ => cases owns

/-- Only a worker that has ended its operation is taken from the set. -/
theorem Deed.workers_kept (mine : ∀ document steps, role.call = some (.worker document steps) →
      Holds state role document) (deed : Deed engine index state role request after other)
    {id : OperationId} (member : id ∈ state.workers) (running : ¬ state.Ended id) :
    id ∈ after.workers := by
  cases deed with
  | quiet same ordinary =>
      rw [same.workers]
      exact member
  | registered owns queued => exact List.mem_cons_of_mem _ member
  | @unregistered document steps idle called =>
      refine List.mem_filter.mpr ⟨member, decide_eq_true ?_⟩
      rintro rfl
      rcases mine document steps called with ⟨work, owns, _⟩ | ended
      · cases idle.symm.trans owns
      · exact running ended.1
  | _ => exact member

/-- Only a new row is a new operation in the hands of a thread. -/
theorem Deed.owns_nothing (nothing : ∀ work, role.task ≠ .owns work)
    (ordinary : EngagesNone request) (deed : Deed engine index state role request after other) :
    ∀ work, other.task ≠ .owns work := by
  intro work owns
  cases deed with
  | quiet same plain => exact nothing work owns
  | noted operationId plain => exact nothing work owns
  | acquired free unlocked => exact nothing work owns
  | releasedOwner holds before => exact nothing work owns
  | read operationId idle => exact nothing work owns
  | heard operationId idle => exact nothing work owns
  | unregistered idle called => exact nothing work owns
  | considered holds idle called => exact absurd owns (cancelTask_owns_nothing _ work)
  | learned before queued retries unresumed isLab whole unlabelled => exact nothing _ before
  | created surveyed holds apart creates fresh => cases ordinary
  | saved before same saved => exact nothing _ before
  | succeeded before running next => exact nothing _ before
  | resumed before queued skipped => exact nothing _ before
  | registered before queued => exact nothing _ before
  | _ => cases owns

theorem Deed.holds {document : Document} (mine : role.Kept state books)
    (holds : Holds state role document) (kept : EndedKept state after)
    (ordinary : EngagesNone request)
    (deed : Deed engine index state role request after other) : Holds after other document := by
  rcases holds with ⟨work, owns, same, registered⟩ | ended
  · cases deed with
    | quiet sameStore plain => exact .inl ⟨work, owns, same, registered⟩
    | noted operationId plain => exact .inl ⟨work, owns, same, registered⟩
    | acquired free unlocked => exact .inl ⟨work, owns, same, registered⟩
    | releasedOwner holds before => exact .inl ⟨work, owns, same, registered⟩
    | released holds notOwns notCancelling => exact absurd owns (notOwns work)
    | learned before queued retries unresumed isLab whole unlabelled =>
        cases before.symm.trans owns
        exact .inl ⟨_, rfl, same, registered⟩
    | saved before sameOperation saved =>
        cases before.symm.trans owns
        exact .inl ⟨_, rfl, sameOperation.id.trans same, registered⟩
    | @concluded work written before sameOperation terminal uninterrupted lab running complete =>
        cases before.symm.trans owns
        rcases (mine.owned work before).active with ⟨row, member, own, _⟩
        have inside : (⟨written.state, written⟩ : Row) ∈ (state.write written).rows :=
          ManagerState.mem_write.mpr (.inr ⟨rfl, row, member, own.trans sameOperation.id.symm⟩)
        exact .inr ⟨⟨_, inside, sameOperation.id.trans same, terminal⟩,
          fun _ owns => Task.noConfusion owns⟩
    | succeeded before running next =>
        cases before.symm.trans owns
        exact .inl ⟨_, rfl, same, registered⟩
    | resumed before queued skipped =>
        cases before.symm.trans owns
        exact .inl ⟨_, rfl, same, registered⟩
    | registered before queued =>
        cases before.symm.trans owns
        exact .inl ⟨_, rfl, same, rfl⟩
    | read operationId idle => cases idle.symm.trans owns
    | heard operationId idle => cases idle.symm.trans owns
    | surveyed holds idle => cases idle.symm.trans owns
    | considered holds idle called => cases idle.symm.trans owns
    | unregistered idle called => cases idle.symm.trans owns
    | created surveyed holds apart creates fresh => cases surveyed.symm.trans owns
    | marked now cancelling => cases cancelling.symm.trans owns
    | handed before unlocked queued registered resumed total lab => cases ordinary
  · exact .inr ⟨kept _ ended.1, deed.owns_nothing ended.2 ordinary⟩

/-- The opener has nothing in hand that a worker could own. -/
theorem OpeningDeed.keeps_registered (mine : Registered state role)
    (deed : OpeningDeed state role request after other) : Registered after other := by
  intro work owns registered
  cases deed with
  | waited => exact mine work owns registered
  | noted operationId at_ => exact mine work owns registered
  | recovers recovering known => cases recovering.symm.trans owns
  | _ => cases owns

theorem OpeningDeed.workers_eq (deed : OpeningDeed state role request after other) :
    after.workers = state.workers := by
  cases deed <;> rfl

theorem OpeningDeed.call_eq (deed : OpeningDeed state role request after other) :
    other.call = role.call := by
  cases deed <;> rfl

/-- What one turn does to the registered operations, given what it ends. -/
theorem turn_worked {asked : Option (Nat × Request)} {next : Nat → Role}
    (consistent : Consistent settings state roles books) (worked : Worked state roles)
    (ended : EndedKept state after)
    (starters : ∀ index document steps request, asked = some (index, request) →
      (roles index).call = some (.worker document steps) → EngagesNone request)
    (turn : Turn settings state roles asked after next) : Worked after next := by
  have kept := consistent.booked.kept
  have holdsOn : ∀ index document steps, (roles index).call = some (.worker document steps) →
      Holds after (roles index) document := by
    intro index document steps called
    rcases worked.worked index document steps called with mine | finished
    · exact .inl mine
    · exact .inr ⟨ended _ finished.1, finished.2⟩
  cases turn with
  | @opening index request after role opens deed =>
      constructor
      · refine forall_update (fun _ role => Registered after role)
          (deed.keeps_registered (worked.registered index)) ?_
        intro other _ work owns registered
        rw [deed.workers_eq]
        exact worked.registered other work owns registered
      · intro other document steps called
        by_cases same : other = index
        · subst same
          rw [Function.update_self, deed.call_eq, opens] at called
          cases called
        · rw [Function.update_of_ne same] at called ⊢
          exact holdsOn other document steps called
  | @serving index request after role serves deed alone =>
      constructor
      · refine forall_update (fun _ role => Registered after role)
          (deed.keeps_registered (worked.registered index)) ?_
        intro other _ work owns registered
        exact deed.workers_kept (worked.worked index) (worked.registered other work owns registered)
          (owned_not_ended kept (consistent.booked.each other) owns)
      · intro other document steps called
        by_cases same : other = index
        · subst same
          rw [Function.update_self] at called ⊢
          rw [deed.call_eq] at called
          exact deed.holds (consistent.booked.each other)
            (worked.worked other document steps called) ended
            (starters other document steps request rfl called)
        · rw [Function.update_of_ne same] at called ⊢
          exact holdsOn other document steps called
  | @started index worker document steps after role serves deed absent other =>
      have notWorker : ∀ document steps, (roles index).call ≠ some (.worker document steps) := by
        intro document steps called
        cases starters index document steps _ rfl called
      have registered := deed.keeps_registered (worked.registered index)
      have called := deed.call_eq
      cases deed with
      | quiet same ordinary => cases ordinary
      | @handed work owns unlocked queued known resumed total lab =>
          constructor
          · refine forall_update (fun _ role => Registered state role) ?_ ?_
            · intro other same known
              exact worked.registered index other same known
            · intro thread _
              exact forall_update (fun _ role => Registered state role) registered
                (fun other _ => worked.registered other) thread
          · intro thread document steps isWorker
            by_cases fresh : thread = worker
            · subst fresh
              rw [Function.update_self] at isWorker ⊢
              cases isWorker
              exact .inl ⟨work, owns, rfl, known⟩
            · rw [Function.update_of_ne fresh] at isWorker ⊢
              by_cases same : thread = index
              · subst same
                rw [Function.update_self, called] at isWorker
                exact absurd isWorker (notWorker document steps)
              · rw [Function.update_of_ne same] at isWorker ⊢
                exact holdsOn thread document steps isWorker
  | @arrived index call serving arrives absent =>
      constructor
      · exact forall_update (fun _ role => Registered state role)
          (registered_of_task (fun _ owns => Task.noConfusion owns))
          (fun other _ => worked.registered other)
      · intro thread document steps called
        by_cases same : thread = index
        · subst same
          rw [Function.update_self] at called
          cases called
          cases arrives
        · rw [Function.update_of_ne same] at called ⊢
          exact holdsOn thread document steps called
  | crashed index =>
      constructor
      · exact forall_update (fun _ role => Registered state.afterCrash role)
          (registered_of_task (fun _ owns => Task.noConfusion owns))
          (fun _ _ => registered_of_task (fun _ owns => Task.noConfusion owns))
      · intro thread document steps called
        by_cases same : thread = index
        · subst same
          rw [Function.update_self] at called
          cases called
        · rw [Function.update_of_ne same] at called
          cases called

/-! ## Every reachable state -/

theorem initial_worked (settings : Settings) :
    Worked (manager settings).initial.shared (managerProtocol settings).initialRoles where
  registered := forall_update (fun _ role => Registered _ role)
    (registered_of_task (fun _ owns => Task.noConfusion owns))
    (fun _ _ => registered_of_task (fun _ owns => Task.noConfusion owns))
  worked index document steps called := by
    rcases index with _ | index
    · cases called
    · cases called

theorem initial_manned (settings : Settings) :
    Protocol.Each Manned (manager settings).initial.threads
      (managerProtocol settings).initialRoles := by
  intro index thread found
  rcases index with _ | index
  · cases found
    exact manned_enters .openStore
  · cases found

theorem reachable_worked {log : List (Entry Call Request Answer)} {pool : ManagerPool}
    (reached : (manager settings).Reachable CancelsInTime log pool) :
    ∃ roles books, (managerProtocol settings).Annotated pool roles ∧
      Consistent settings pool.shared roles books ∧ Worked pool.shared roles ∧
      Protocol.Each Manned pool.threads roles := by
  let invariant (_ : List (Entry Call Request Answer)) (pool : ManagerPool) (roles : Nat → Role) :
      Prop := ∃ books, Consistent settings pool.shared roles books ∧ Worked pool.shared roles ∧
        Protocol.Each Manned pool.threads roles
  have kept : ∃ roles, (managerProtocol settings).Annotated pool roles ∧
      invariant log pool roles := by
    refine Protocol.reachable_invariant ?_ ?_ reached
    · exact ⟨blankBooks, initial_consistent settings, initial_worked settings,
        initial_manned settings⟩
    · intro log pool roles action entries next after meets annotated known evolves
      rcases known with ⟨books, consistent, worked, manned⟩
      rcases evolves_turn annotated evolves with ⟨asked, turn, asks⟩
      refine ⟨books.follow asked after, turn_consistent consistent turn, ?_,
        manned_evolves manned evolves⟩
      apply turn_worked consistent worked (turn_endedKept meets consistent turn asks) _ turn
      intro index document steps request same called
      rcases asks index request same with ⟨_, label, rest, found⟩
      have mine := manned index _ found
      rcases mine.alive with killed | known
      · cases killed
      · have isWorker : label = .worker document steps := Option.some.inj (known.symm.trans called)
        exact (mine.worker document steps isWorker).1
  rcases kept with ⟨roles, annotated, books, consistent, worked, manned⟩
  exact ⟨roles, books, annotated, consistent, worked, manned⟩

/-- In every run in which no cancellation is written over a row that has ended: once no
worker is registered, every operation that a worker was started for since the last restart
has ended, its components are no longer taken on its account, and its worker executes nothing
more. -/
theorem idle_manager_has_ended {log : List (Entry Call Request Answer)} {pool : ManagerPool}
    (reached : (manager settings).Reachable CancelsInTime log pool)
    (idle : pool.shared.workers = []) (index : Nat) (thread : Thread Call Request Answer Outcome)
    (found : pool.threads[index]? = some thread) (alive : thread.program ≠ .done .killed)
    (document : Document) (steps : List Step) (called : thread.label = .worker document steps) :
    (∃ row ∈ pool.shared.rows, row.payload.id = document.id ∧ row.state.terminal = true) ∧
      (∀ row ∈ pool.shared.rows, row.payload.id = document.id → row.state.active = false) ∧
      ∀ operationId step deadline,
        thread.program.asks ≠ some (.execute operationId step deadline) := by
  rcases reachable_worked reached with ⟨roles, books, annotated, consistent, worked, manned⟩
  have kept := consistent.booked.kept
  have role : (roles index).call = some (.worker document steps) := by
    rcases (manned index thread found).alive with killed | known
    · exact absurd killed alive
    · exact known.trans (congrArg some called)
  have unowned : ∀ work, (roles index).task = .owns work → work.registered = true → False := by
    intro work owns registered
    have member := worked.registered index work owns registered
    rw [idle] at member
    cases member
  rcases worked.worked index document steps role with ⟨work, owns, _, registered⟩ | ended
  · exact (unowned work owns registered).elim
  · refine ⟨ended.1, ?_, ?_⟩
    · intro row member same
      rcases Bool.eq_false_or_eq_true row.state.active with active | inactive
      · exact absurd (same ▸ ended.1) (not_ended_of_active kept member active)
      · exact inactive
    · intro operationId step deadline asks
      rcases executes_own annotated found asks with ⟨work, rest, owns, _⟩
      exact ended.2 work owns

/-- The program has ended, and was not killed. -/
def isFinished : Act Outcome → Bool
  | .done .finished => true
  | _ => false

def Call.isWorker : Call → Bool
  | .worker _ _ => true
  | _ => false

theorem Call.worker_of {call : Call} (isWorker : call.isWorker = true) :
    ∃ document steps, call = .worker document steps := by
  cases call with
  | worker document steps => exact ⟨document, steps, rfl⟩
  | _ => cases isWorker

theorem idle_manager_has_ended_shipped :
    ∃ pool thread document steps, playShipped cancelsInTime cancelledStart = some pool ∧
      pool.threads[2]? = some thread ∧ thread.label = .worker document steps ∧
      ∃ row ∈ pool.shared.rows, row.payload.id = document.id ∧ row.state.terminal = true := by
  have played : (playShipped cancelsInTime cancelledStart).any (fun pool =>
      decide (pool.shared.workers = []) && (pool.threads[2]?).any (fun thread =>
        thread.label.isWorker && isFinished thread.program)) = true := by decide +kernel
  rcases (Option.any_eq_true _ _).mp played with ⟨pool, isPlayed, both⟩
  rcases Bool.and_eq_true_iff.mp both with ⟨idle, second⟩
  rcases (Option.any_eq_true _ _).mp second with ⟨thread, found, checked⟩
  rcases Bool.and_eq_true_iff.mp checked with ⟨isWorker, finished⟩
  rcases Call.worker_of isWorker with ⟨document, steps, called⟩
  have alive : thread.program ≠ .done .killed := by
    intro killed
    rw [killed] at finished
    cases finished
  have sound : ∀ pool action, cancelsInTime pool action = true → CancelsInTime pool action :=
    fun _ _ permitted => permitted
  rcases Machine.reachable_play sound cancelledStart .initial isPlayed with ⟨log, reached⟩
  have ended := idle_manager_has_ended reached (of_decide_eq_true idle) 2 thread found alive
    document steps called
  exact ⟨pool, thread, document, steps, isPlayed, found, called, ended.1⟩

end FortifyLab.Lifecycle
