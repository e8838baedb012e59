import FortifyLab.Library.Execution
import FortifyLab.Lifecycle.Stored

/-! The constructor of the operation store on any content, cut off at any statement and
started again any number of times. -/

namespace FortifyLab.Lifecycle

open Program

/-- One start of the manager: the time the constructor reads, and the number of requests it
gets to make. -/
structure Startup where
  now : Timestamp
  requests : Nat

/-- What the constructor is told. -/
def startupAnswer (now : Timestamp) (state : ManagerState) : (request : Request) → Answer request
  | .isCancelled _ => false
  | .createRow _ => false
  | .getRow operationId => state.row? operationId
  | .listEvents operationId => state.eventsOf operationId
  | .activeComponents => state.activeComponents
  | .interruptedRows =>
      (state.rows.filter (fun row => decide (row.state = .interrupted))).map Row.payload
  | .now => now
  | .newId => ""
  | .monotonic => 0
  | .execute _ _ _ => .ok ()
  | .verify _ _ _ _ => .ok true
  | .preflight => none
  | .footprint _ => none
  | .currentState _ => none
  | .authorizationNow => 0
  | .insertApproval _ => false
  | .findApproval _ => none
  | .transition _ _ _ _ => false
  | .acquire | .release | .addCancelled _ | .discardCancelled _ | .addWorker _
  | .discardWorker _ | .startWorker _ _ | .updateRow _ | .addEvent _ _ | .interruptActive _
  | .updatePayload _ | .serve | .record _ => ()

def atStartup (now : Timestamp) (state : ManagerState) (request : Request) :
    Answer request × ManagerState :=
  (startupAnswer now state request, state.effect 0 request)

namespace Startup

/-- The run of the constructor; no result means that it was cut off. -/
def run (startup : Startup) (state : ManagerState) : Option Unit × ManagerState :=
  evalFor (atStartup startup.now) startup.requests openStore state

end Startup

/-- The state after some starts, each of which ends the one before. -/
def reopened (startups : List Startup) (state : ManagerState) : ManagerState :=
  startups.foldl (fun state startup => (startup.run state.afterCrash).2) state

/-- Rows as the engine writes them: ids are unique, and an operation that has not ended needs
no recovery. -/
structure EngineWritten (rows : List Row) : Prop where
  unique : (rows.map (fun row => row.payload.id)).Nodup
  unended : ∀ row ∈ rows, row.state.active = true → row.payload.recovery.required = false

/-- How often the events report a restart of the operation. -/
def restartsNoted (events : List (OperationId × Event)) (operationId : OperationId) : Nat :=
  events.countP (fun entry => decide (entry.1 = operationId))

/-! ## One row -/

/-- A row whose recovery the constructor has not written yet. -/
def Unmarked (row : Row) : Prop :=
  row.state = .interrupted ∧ row.payload.recovery.required = false

def markRow (row : Row) : Row := ⟨.interrupted, row.payload.setInterruptedRecovery⟩

/-- What starts may have made of a row, with the number of events they added for it. -/
inductive Stage (start : Row) : Nat → Row → Prop
  | kept : Stage start 0 start
  | interrupted (now : Timestamp) (active : start.state.active = true) :
      Stage start 0 (ManagerState.interruptRow now start)
  | marked {row : Row} {noted : Nat} (before : Stage start 0 row) (unmarked : Unmarked row)
      (once : noted ≤ 1) : Stage start noted (markRow row)

variable {start row : Row} {noted : Nat}

theorem interruptRow_id (now : Timestamp) (row : Row) :
    (ManagerState.interruptRow now row).payload.id = row.payload.id := by
  unfold ManagerState.interruptRow
  split <;> rfl

theorem Stage.id (stage : Stage start noted row) : row.payload.id = start.payload.id := by
  induction stage with
  | kept => rfl
  | interrupted now active => exact interruptRow_id now start
  | marked before unmarked once ih => exact ih

theorem Stage.once (stage : Stage start noted row) : noted ≤ 1 := by
  cases stage with
  | kept => exact Nat.zero_le 1
  | interrupted now active => exact Nat.zero_le 1
  | marked before unmarked once => exact once

theorem interruptRow_active {now : Timestamp} (active : row.state.active = true) :
    (ManagerState.interruptRow now row).state = .interrupted ∧
      (ManagerState.interruptRow now row).payload.recovery = row.payload.recovery := by
  unfold ManagerState.interruptRow
  rw [if_pos active]
  exact ⟨rfl, rfl⟩

theorem interruptRow_inactive {now : Timestamp} (inactive : row.state.active = false) :
    ManagerState.interruptRow now row = row := by
  unfold ManagerState.interruptRow
  rw [if_neg (by simp [inactive])]

/-- The first statement of the constructor keeps the stage. -/
theorem Stage.interrupt (stage : Stage start noted row) (now : Timestamp) :
    Stage start noted (ManagerState.interruptRow now row) := by
  cases stage with
  | kept =>
      cases active : start.state.active with
      | true => exact .interrupted now active
      | false =>
          rw [interruptRow_inactive active]
          exact .kept
  | interrupted before active =>
      have ended : (ManagerState.interruptRow before _).state = .interrupted :=
        (interruptRow_active active).1
      rw [interruptRow_inactive (by rw [ended]; rfl)]
      exact .interrupted before active
  | marked before unmarked once => exact .marked before unmarked once

theorem markRow_marked (row : Row) : ¬ Unmarked (markRow row) :=
  fun unmarked => Bool.noConfusion unmarked.2

theorem Stage.zero (stage : Stage start noted row) (unmarked : Unmarked row) : noted = 0 := by
  cases stage with
  | kept => rfl
  | interrupted now active => rfl
  | marked before _ once => exact absurd unmarked (markRow_marked _)

/-! ## The store -/

/-- What starts have made of the content, with the events they added. -/
structure Recovering (content state : ManagerState) (added : List (OperationId × Event)) :
    Prop where
  events : state.events = content.events ++ added
  ids : state.rows.map (fun row => row.payload.id) = content.rows.map (fun row => row.payload.id)
  stages : ∀ row ∈ state.rows, ∃ start ∈ content.rows,
    Stage start (restartsNoted added start.payload.id) row
  kinds : ∀ entry ∈ added, entry.1 ∈ content.rows.map (fun row => row.payload.id) ∧
    ∃ at_, entry.2 = .managerRestarted at_

def NoneActive (state : ManagerState) : Prop := ∀ row ∈ state.rows, row.state.active = false

def NoneUnmarked (state : ManagerState) : Prop := ∀ row ∈ state.rows, ¬ Unmarked row

variable {content state : ManagerState} {added : List (OperationId × Event)}

theorem recovering_refl (content : ManagerState) : Recovering content content [] where
  events := (List.append_nil _).symm
  ids := rfl
  stages row member := ⟨row, member, .kept⟩
  kinds := nofun

theorem Recovering.unique (recovering : Recovering content state added)
    (written : EngineWritten content.rows) :
    (state.rows.map (fun row => row.payload.id)).Nodup := recovering.ids ▸ written.unique

/-- The first statement of the constructor. -/
theorem Recovering.interrupt (recovering : Recovering content state added) (now : Timestamp) :
    Recovering content (state.effect 0 (.interruptActive now)) added ∧
      NoneActive (state.effect 0 (.interruptActive now)) := by
  refine ⟨⟨recovering.events, (ManagerState.ids_interrupt now).trans recovering.ids, ?_,
    recovering.kinds⟩, ?_⟩
  · intro row member
    rcases List.mem_map.mp member with ⟨old, known, rfl⟩
    rcases recovering.stages old known with ⟨start, found, stage⟩
    exact ⟨start, found, stage.interrupt now⟩
  · intro row member
    rcases List.mem_map.mp member with ⟨old, known, rfl⟩
    cases active : old.state.active with
    | true =>
        rw [(interruptRow_active active).1]
        rfl
    | false =>
        rw [interruptRow_inactive active]
        exact active

theorem setInterruptedRecovery_id (document : Document) :
    document.setInterruptedRecovery.id = document.id := rfl

/-- The rows after the payload of an unmarked one was written. -/
theorem mem_marked (unique : (state.rows.map (fun row => row.payload.id)).Nodup) {row : Row}
    (member : row ∈ state.rows) (unmarked : Unmarked row) (other : Row) :
    other ∈ (state.effect 0 (.updatePayload row.payload.setInterruptedRecovery)).rows ↔
      other = markRow row ∨ (other ∈ state.rows ∧ other.payload.id ≠ row.payload.id) := by
  have self : ManagerState.updatePayload row.payload.setInterruptedRecovery row = markRow row := by
    unfold ManagerState.updatePayload markRow
    rw [setInterruptedRecovery_id, if_pos rfl, unmarked.1]
  constructor
  · intro written
    rcases List.mem_map.mp written with ⟨old, known, rfl⟩
    by_cases same : old.payload.id = row.payload.id
    · rw [ManagerState.eq_of_id unique known member same]
      exact .inl self
    · unfold ManagerState.updatePayload
      rw [setInterruptedRecovery_id, if_neg same]
      exact .inr ⟨known, same⟩
  · rintro (rfl | ⟨known, different⟩)
    · exact List.mem_map.mpr ⟨row, member, self⟩
    · exact List.mem_map.mpr ⟨other, known, if_neg different⟩

/-- The two statements for one row: its payload, then its event. -/
theorem Recovering.mark (recovering : Recovering content state added)
    (written : EngineWritten content.rows) {row : Row} (member : row ∈ state.rows)
    (unmarked : Unmarked row) (at_ : Timestamp) :
    Recovering content (state.effect 0 (.updatePayload row.payload.setInterruptedRecovery)) added ∧
      Recovering content ((state.effect 0
          (.updatePayload row.payload.setInterruptedRecovery)).effect 0
            (.addEvent row.payload.id (.managerRestarted at_)))
        (added ++ [(row.payload.id, .managerRestarted at_)]) := by
  have rows := mem_marked (recovering.unique written) member unmarked
  rcases recovering.stages row member with ⟨start, found, stage⟩
  have none := stage.zero unmarked
  have before : Stage start 0 row := none ▸ stage
  have same : start.payload.id = row.payload.id := stage.id.symm
  have ids := (ManagerState.ids_updatePayload row.payload.setInterruptedRecovery).trans
    recovering.ids
  constructor
  · refine ⟨recovering.events, ids, ?_, recovering.kinds⟩
    intro other known
    rcases (rows _).mp known with rfl | ⟨known, _⟩
    · exact ⟨start, found, none ▸ .marked before unmarked (Nat.zero_le 1)⟩
    · exact recovering.stages other known
  · refine ⟨?_, ids, ?_, ?_⟩
    · change state.events ++ _ = _
      rw [recovering.events, List.append_assoc]
    · intro other known
      rcases (rows _).mp known with rfl | ⟨known, different⟩
      · refine ⟨start, found, .marked before unmarked ?_⟩
        have counted : restartsNoted (added ++ [(row.payload.id, Event.managerRestarted at_)])
            start.payload.id = restartsNoted added start.payload.id + 1 := by
          simp [restartsNoted, List.countP_append, same]
        rw [counted, none]
      · rcases recovering.stages other known with ⟨origin, there, past⟩
        have apart : row.payload.id ≠ origin.payload.id := fun equal =>
          different (past.id.trans equal.symm)
        have counted : restartsNoted (added ++ [(row.payload.id, Event.managerRestarted at_)])
            origin.payload.id = restartsNoted added origin.payload.id := by
          simp [restartsNoted, List.countP_append, apart]
        exact ⟨origin, there, counted ▸ past⟩
    · intro entry known
      rcases List.mem_append.mp known with known | last
      · exact recovering.kinds entry known
      · rw [List.mem_singleton.mp last]
        exact ⟨same ▸ List.mem_map_of_mem found, at_, rfl⟩

/-! ## The constructor -/

/-- Somewhere in the recovery of the content. -/
def Midway (content state : ManagerState) : Prop := ∃ added, Recovering content state added

/-- The rows of the documents are interrupted, and they hold every unmarked one. -/
structure Listed (state : ManagerState) (documents : List Document) : Prop where
  distinct : (documents.map Document.id).Nodup
  rows : ∀ document ∈ documents, ⟨.interrupted, document⟩ ∈ state.rows
  unmarked : ∀ row ∈ state.rows, Unmarked row → row.payload ∈ documents

theorem listed_all (unique : (state.rows.map (fun row => row.payload.id)).Nodup) :
    Listed state ((state.rows.filter (fun row => decide (row.state = .interrupted))).map
      Row.payload) := by
  refine ⟨?_, ?_, ?_⟩
  · rw [List.map_map]
    exact unique.sublist (List.filter_sublist.map _)
  · intro document member
    rcases List.mem_map.mp member with ⟨⟨ended, payload⟩, known, rfl⟩
    rcases List.mem_filter.mp known with ⟨there, interrupted⟩
    have same : ended = .interrupted := of_decide_eq_true interrupted
    exact same ▸ there
  · intro row member unmarked
    exact List.mem_map_of_mem (List.mem_filter.mpr ⟨member, decide_eq_true unmarked.1⟩)

/-- Every row is left as recovery leaves it, wherever the loop is cut off. -/
theorem recoverRows_always (written : EngineWritten content.rows) (now : Timestamp)
    (documents : List Document) {state : ManagerState} (midway : Midway content state)
    (settled : NoneActive state) (listed : Listed state documents) :
    Always (atStartup now) (Midway content)
      (fun _ after => Midway content after ∧ NoneActive after ∧ NoneUnmarked after)
      (recoverRows documents) state := by
  induction documents generalizing state with
  | nil =>
      refine ⟨midway, midway, settled, ?_⟩
      intro row member unmarked
      cases listed.unmarked row member unmarked
  | cons document rest ih =>
      have distinct := List.nodup_cons.mp listed.distinct
      have there := listed.rows document List.mem_cons_self
      unfold recoverRows
      cases required : document.recovery.required with
      | true =>
          refine ih midway settled ⟨distinct.2, fun other member => listed.rows other
            (List.mem_cons_of_mem _ member), fun row member unmarked => ?_⟩
          rcases List.mem_cons.mp (listed.unmarked row member unmarked) with same | later
          · rw [← same, unmarked.2] at required
            cases required
          · exact later
      | false =>
          rcases midway with ⟨added, recovering⟩
          have unmarked : Unmarked ⟨.interrupted, document⟩ := ⟨rfl, required⟩
          have steps := recovering.mark written there unmarked document.updatedAt
          have rows := mem_marked (recovering.unique written) there unmarked
          refine ⟨⟨added, recovering⟩, ⟨added, steps.1⟩, ih ⟨_, steps.2⟩ ?_ ⟨distinct.2, ?_, ?_⟩⟩
          · intro row member
            rcases (rows _).mp member with rfl | ⟨known, _⟩
            · rfl
            · exact settled row known
          · intro other member
            refine (rows _).mpr (.inr ⟨listed.rows other
              (List.mem_cons_of_mem _ member), fun same => ?_⟩)
            exact distinct.1 (same ▸ List.mem_map_of_mem member)
          · intro row member still
            rcases (rows _).mp member with rfl | ⟨known, different⟩
            · exact absurd still (markRow_marked _)
            · rcases List.mem_cons.mp (listed.unmarked row known still) with same | later
              · exact absurd (congrArg Document.id same) different
              · exact later

theorem openStore_always (written : EngineWritten content.rows) (now : Timestamp)
    {state : ManagerState} (midway : Midway content state) :
    Always (atStartup now) (Midway content)
      (fun _ after => Midway content after ∧ NoneActive after ∧ NoneUnmarked after)
      openStore state := by
  rcases midway with ⟨added, recovering⟩
  have interrupted := recovering.interrupt now
  refine ⟨⟨added, recovering⟩, ⟨added, recovering⟩, ⟨added, interrupted.1⟩, ?_⟩
  change Always _ _ _ (recoverRows _ >>= fun _ => ask .serve) _
  refine always_bind (recoverRows_always written now _ ⟨added, interrupted.1⟩ interrupted.2
    (listed_all (interrupted.1.unique written))) ?_
  intro _ after settled
  rcases settled with ⟨⟨more, done⟩, settled⟩
  have serving : Recovering content (after.effect 0 .serve) more :=
    ⟨done.events, done.ids, done.stages, done.kinds⟩
  exact ⟨⟨more, done⟩, ⟨more, serving⟩, ⟨more, serving⟩, settled⟩

theorem Midway.afterCrash (midway : Midway content state) : Midway content state.afterCrash := by
  rcases midway with ⟨added, recovering⟩
  exact ⟨added, recovering.events, recovering.ids, recovering.stages, recovering.kinds⟩

theorem reopened_midway (written : EngineWritten content.rows) (startups : List Startup)
    {state : ManagerState} (midway : Midway content state) :
    Midway content (reopened startups state) := by
  induction startups generalizing state with
  | nil => exact midway
  | cons startup rest ih =>
      exact ih ((openStore_always written startup.now midway.afterCrash).evalFor
        startup.requests).1

/-! ## What is recovered -/

/-- Each operation got at most one event, and nothing else was added. -/
def NotedOnce (content state : ManagerState) : Prop :=
  ∃ added, state.events = content.events ++ added ∧
    (∀ operationId, restartsNoted added operationId ≤ 1) ∧
    ∀ entry ∈ added, ∃ at_, entry.2 = .managerRestarted at_

/-- The content after a constructor that completed. -/
structure Recovered (content state : ManagerState) : Prop where
  ids : state.rows.map (fun row => row.payload.id) = content.rows.map (fun row => row.payload.id)
  ended : ∀ row ∈ state.rows, row.state.active = false
  interrupted : ∀ start ∈ content.rows, start.state.active = true →
    ∃ row ∈ state.rows, row.payload.id = start.payload.id ∧ row.state = .interrupted ∧
      row.payload.state = .interrupted ∧ row.payload.recovery.required = true ∧
      row.payload.recovery.boundary = start.payload.currentOperation.recoveryClass
  kept : ∀ start ∈ content.rows, start.state.active = false → ¬ Unmarked start →
    start ∈ state.rows

theorem Midway.notedOnce (midway : Midway content state) : NotedOnce content state := by
  rcases midway with ⟨added, recovering⟩
  refine ⟨added, recovering.events, ?_, fun entry member => (recovering.kinds entry member).2⟩
  intro operationId
  by_cases known : operationId ∈ content.rows.map (fun row => row.payload.id)
  · rw [← recovering.ids] at known
    rcases List.mem_map.mp known with ⟨row, member, rfl⟩
    rcases recovering.stages row member with ⟨start, _, stage⟩
    exact stage.id ▸ stage.once
  · have none : restartsNoted added operationId = 0 := by
      refine List.countP_eq_zero.mpr (fun entry member same => known ?_)
      exact of_decide_eq_true same ▸ (recovering.kinds entry member).1
    exact none ▸ Nat.zero_le 1

/-- The version of a row of the content. -/
theorem Recovering.version (recovering : Recovering content state added)
    (written : EngineWritten content.rows) {start : Row} (member : start ∈ content.rows) :
    ∃ row ∈ state.rows, Stage start (restartsNoted added start.payload.id) row := by
  have known : start.payload.id ∈ state.rows.map (fun row => row.payload.id) :=
    recovering.ids ▸ List.mem_map_of_mem member
  rcases List.mem_map.mp known with ⟨row, there, same⟩
  rcases recovering.stages row there with ⟨origin, found, stage⟩
  have equal : origin = start :=
    ManagerState.eq_of_id written.unique found member (stage.id.symm.trans same)
  exact ⟨row, there, equal ▸ stage⟩

theorem Recovering.recovered (recovering : Recovering content state added)
    (written : EngineWritten content.rows) (none : NoneActive state) (all : NoneUnmarked state) :
    Recovered content state := by
  refine ⟨recovering.ids, none, ?_, ?_⟩
  · intro start member active
    rcases recovering.version written member with ⟨row, there, stage⟩
    have unended := written.unended start member active
    have inactive := none row there
    generalize restartsNoted added start.payload.id = noted at stage
    cases stage with
    | kept =>
        rw [active] at inactive
        cases inactive
    | interrupted now _ =>
        have facts := @interruptRow_active start now active
        exact absurd ⟨facts.1, facts.2 ▸ unended⟩ (all _ there)
    | @marked old noted before unmarked once =>
        refine ⟨_, there, before.id, rfl, ?_⟩
        cases before with
        | kept =>
            rw [unmarked.1] at active
            cases active
        | interrupted now _ =>
            unfold ManagerState.interruptRow
            rw [if_pos active]
            exact ⟨rfl, rfl, rfl⟩
        | marked _ _ _ => exact absurd unmarked (markRow_marked _)
  · intro start member inactive marked
    rcases recovering.version written member with ⟨row, there, stage⟩
    generalize restartsNoted added start.payload.id = noted at stage
    cases stage with
    | kept => exact there
    | interrupted now active =>
        rw [inactive] at active
        cases active
    | @marked old noted before unmarked once =>
        cases before with
        | kept => exact absurd unmarked marked
        | interrupted now active =>
            rw [inactive] at active
            cases active
        | marked _ again _ => exact absurd unmarked (markRow_marked _)

/-- On a recovered store, starts change no row and add no event. -/
theorem Recovering.settled (recovering : Recovering content state added)
    (written : EngineWritten content.rows) (none : NoneActive content)
    (all : NoneUnmarked content) : state.rows = content.rows ∧ state.events = content.events := by
  have same : ∀ start ∈ content.rows, ∀ noted row, Stage start noted row →
      noted = 0 ∧ row = start := by
    intro start member noted row stage
    cases stage with
    | kept => exact ⟨rfl, rfl⟩
    | interrupted now active =>
        rw [none start member] at active
        cases active
    | @marked old noted before unmarked once =>
        cases before with
        | kept => exact absurd unmarked (all start member)
        | interrupted now active =>
            rw [none start member] at active
            cases active
        | marked _ again _ => exact absurd unmarked (markRow_marked _)
  constructor
  · have length : state.rows.length = content.rows.length := by
      simpa using congrArg List.length recovering.ids
    apply List.ext_getElem length
    intro index inside within
    rcases recovering.stages _ (List.getElem_mem inside) with ⟨start, member, stage⟩
    rw [(same start member _ _ stage).2]
    apply ManagerState.eq_of_id written.unique member (List.getElem_mem within)
    have ids : (state.rows.map (fun row => row.payload.id))[index]? =
        (content.rows.map (fun row => row.payload.id))[index]? := by
      rw [recovering.ids]
    simpa [← stage.id, List.getElem?_eq_getElem inside, List.getElem?_eq_getElem within] using ids
  · cases added with
    | nil => exact recovering.events.trans (List.append_nil _)
    | cons entry rest =>
        have known := (recovering.kinds entry List.mem_cons_self).1
        rcases List.mem_map.mp known with ⟨start, member, id⟩
        rcases recovering.version written member with ⟨row, _, stage⟩
        have noted := (same start member _ _ stage).1
        rw [id] at noted
        exact absurd (decide_eq_true rfl) (List.countP_eq_zero.mp noted entry List.mem_cons_self)

/-- However often the constructor of the store is started, and wherever each start is cut
off: each operation gets at most one event; once a start completes, everything that was
active is interrupted with its recovery marked and the rest is kept; and further starts
change nothing. -/
theorem restart_recovers {content : ManagerState} (written : EngineWritten content.rows)
    (startups : List Startup) :
    NotedOnce content (reopened startups content) ∧
      ∀ (last : Startup) (state : ManagerState),
        last.run (reopened startups content).afterCrash = (some (), state) →
        Recovered content state ∧ NotedOnce content state ∧
          ∀ more, (reopened more state).rows = state.rows ∧
            (reopened more state).events = state.events := by
  have before : Midway content (reopened startups content) :=
    reopened_midway written startups ⟨[], recovering_refl content⟩
  refine ⟨before.notedOnce, ?_⟩
  intro last state run
  have always := (openStore_always written last.now before.afterCrash).evalFor last.requests
  have ended : evalFor (atStartup last.now) last.requests openStore
    (reopened startups content).afterCrash = (some (), state) := run
  rw [ended] at always
  rcases always.2 () rfl with ⟨⟨added, recovering⟩, none, all⟩
  have again : EngineWritten state.rows := by
    refine ⟨recovering.unique written, ?_⟩
    intro row member active
    rw [none row member] at active
    cases active
  refine ⟨recovering.recovered written none all, Midway.notedOnce ⟨added, recovering⟩, ?_⟩
  intro more
  rcases reopened_midway again more ⟨[], recovering_refl state⟩ with ⟨rest, later⟩
  exact later.settled again none all

/-- A store that a running operation was left in. -/
def runningContent : ManagerState :=
  { ManagerState.empty with rows :=
    [⟨.running, { (default : Document) with id := "operation", state := .running }⟩] }

/-- A start that is cut off after its first statement, and one that completes. -/
theorem restart_recovers_running :
    Recovered runningContent
      ((Startup.mk "12:01" 10).run (reopened [⟨"12:00", 2⟩] runningContent).afterCrash).2 := by
  have written : EngineWritten runningContent.rows :=
    ⟨List.nodup_singleton _, List.forall_mem_singleton.mpr (fun _ => rfl)⟩
  exact ((restart_recovers written [⟨"12:00", 2⟩]).2 ⟨"12:01", 10⟩ _ rfl).1

end FortifyLab.Lifecycle
