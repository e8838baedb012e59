import FortifyLab.Supervisor.RunnerHeartbeat
import Mathlib.Data.List.Chain
import Mathlib.Data.List.Find

/-! The runner processes that share one heartbeat directory. The directory lock makes every
call one step; the generation in the file fences the writers of earlier runs. -/

namespace FortifyLab.Supervisor

/-! ## A call as its statements -/

/-- What runs under the directory lock: it may raise, and keeps what it has written. -/
abbrev HeartbeatM := ExceptT HeartbeatError (StateM HeartbeatRecords)

def refuseUnless (condition : Prop) [Decidable condition] (error : HeartbeatError) :
    HeartbeatM Unit :=
  if condition then return () else throw error

variable (settings : HeartbeatSettings)

/-- The end of `start` and of `update`. -/
def storeHeartbeat (document : HeartbeatDocument) (now : ℚ) : HeartbeatM HeartbeatDocument := do
  modify (fun records => writeRecord records document)
  modify (fun records => cleanup settings records now)
  return document

def nextGeneration : Option HeartbeatDocument → Int
  | some previous => previous.generation + 1
  | none => 1

/-- The checks of `checkChange`, raised one by one. -/
def refuseChange (change : HeartbeatChange) : HeartbeatM Unit := do
  refuseUnless (∀ phase ∈ change.phase, (phases ++ terminalPhases).contains phase = true)
    .invalidPhase
  refuseUnless (∀ state ∈ change.validationState, validationStates.contains state = true)
    .invalidValidationState
  refuseUnless (∀ count ∈ change.changedFileCount, 0 ≤ count) .invalidCount
  refuseUnless (∀ reference ∈ change.prReference, isReference reference = true) .invalidReference

def raiseRefusal : Except HeartbeatError HeartbeatDocument → HeartbeatM HeartbeatDocument
  | .ok document => return document
  | .error error => throw error

/-- `start` and `update`, statement by statement. -/
def HeartbeatCall.body (now : ℚ) : HeartbeatCall → HeartbeatM HeartbeatDocument
  | .start issue milestone policyGeneration policyDigest writerId => do
      refuseUnless (1 ≤ issue ∧ milestone ≠ "" ∧ milestone.length ≤ 200) .invalidIdentity
      refuseUnless (0 ≤ policyGeneration ∧ isDigest policyDigest = true) .invalidPolicyIdentity
      let records ← get
      let generation := nextGeneration (findRecord records issue)
      storeHeartbeat settings
        (startDocument issue milestone policyGeneration policyDigest writerId generation now) now
  | .update issue writerId generation change => do
      refuseChange change
      let records ← get
      match findRecord records issue with
      | none => throw .missing
      | some current =>
          refuseUnless (current.writerId = writerId ∧ current.generation = generation) .staleWriter
          refuseUnless (current.isTerminal = false) .terminal
          let moved ← raiseRefusal (moveToPhase current change.phase now)
          storeHeartbeat settings (updatedDocument current moved change now) now

/-- What an answer leaves in the directory. -/
def answeredWith (records : HeartbeatRecords) :
    Except HeartbeatError (HeartbeatDocument × HeartbeatRecords) →
      Except HeartbeatError HeartbeatDocument × HeartbeatRecords
  | .ok (document, next) => (.ok document, next)
  | .error error => (.error error, records)

variable {settings}

theorem refuseUnless_run {condition : Prop} [Decidable condition] {error : HeartbeatError}
    {α : Type} {rest : Unit → HeartbeatM α} {records : HeartbeatRecords} :
    (refuseUnless condition error >>= rest).run.run records =
      if condition then (rest ()).run.run records else (.error error, records) := by
  unfold refuseUnless
  split <;> rfl

theorem refuseChange_run {change : HeartbeatChange} {rest : Unit → HeartbeatM HeartbeatDocument}
    {records : HeartbeatRecords} :
    (refuseChange change >>= rest).run.run records =
      match checkChange change with
      | .ok () => (rest ()).run.run records
      | .error error => (.error error, records) := by
  unfold refuseChange checkChange check
  simp only [bind_assoc, refuseUnless_run]
  repeat' split
  all_goals first | rfl | simp_all [bind, Except.bind]

theorem storeHeartbeat_run {document : HeartbeatDocument} {now : ℚ} {records : HeartbeatRecords} :
    (storeHeartbeat settings document now).run.run records =
      (.ok document, cleanup settings (writeRecord records document) now) := rfl

/-- Nothing is written before the last check has passed. -/
theorem body_run (call : HeartbeatCall) (now : ℚ) (records : HeartbeatRecords) :
    (call.body settings now).run.run records =
      answeredWith records (call.run settings records now) := by
  cases call with
  | start issue milestone policyGeneration policyDigest writerId =>
      unfold HeartbeatCall.body HeartbeatCall.run startHeartbeat check
      simp only [refuseUnless_run]
      split
      · split
        · rfl
        · rfl
      · rfl
  | update issue writerId generation change =>
      unfold HeartbeatCall.body HeartbeatCall.run updateHeartbeat
      simp only [refuseChange_run]
      cases checkChange change with
      | error error => rfl
      | ok checked =>
          show (StateT.run (ExceptT.run (match findRecord records issue with
            | none => _
            | some current => _)) records) = _
          cases found : findRecord records issue with
          | none => rfl
          | some current =>
              simp only [refuseUnless_run]
              show _ = answeredWith records (check _ _ >>= fun _ => check _ _ >>= fun _ => _)
              unfold check
              split
              · split
                · cases moveToPhase current change.phase now with
                  | error error => rfl
                  | ok moved => rfl
                · rfl
              · rfl

/-! ## Runs -/

def HeartbeatCall.issue : HeartbeatCall → Int
  | .start issue _ _ _ _ => issue
  | .update issue _ _ _ => issue

def HeartbeatCall.isStart : HeartbeatCall → Bool
  | .start _ _ _ _ _ => true
  | .update _ _ _ _ => false

/-- A call, with the directory before and after it. -/
structure HeartbeatStep where
  call : HeartbeatCall
  now : ℚ
  before : HeartbeatRecords
  answer : Except HeartbeatError HeartbeatDocument
  after : HeartbeatRecords

variable (settings) in
def HeartbeatCall.step (records : HeartbeatRecords) (now : ℚ) (call : HeartbeatCall) :
    HeartbeatStep where
  call := call
  now := now
  before := records
  answer := ((call.body settings now).run.run records).1
  after := ((call.body settings now).run.run records).2

variable (settings) in
/-- The calls of any processes one after the other, from an empty directory on. -/
inductive HeartbeatRun : List HeartbeatStep → HeartbeatRecords → Prop
  | empty : HeartbeatRun [] []
  | call {log : List HeartbeatStep} {records : HeartbeatRecords} (reached : HeartbeatRun log records)
      (call : HeartbeatCall) (now : ℚ) :
      HeartbeatRun (log ++ [call.step settings records now])
        (call.step settings records now).after

/-- The cleanup of a step does not remove the record of an issue. -/
def HeartbeatStep.KeepsRecord (issue : Int) (step : HeartbeatStep) : Prop :=
  ∀ document ∈ step.answer.toOption, ∀ record ∈ writeRecord step.before document,
    record.issue = issue → record ∈ step.after

instance (issue : Int) (step : HeartbeatStep) : Decidable (step.KeepsRecord issue) := by
  unfold HeartbeatStep.KeepsRecord
  infer_instance

/-- The document that a step stored for an issue. -/
def HeartbeatStep.stored (issue : Int) (step : HeartbeatStep) : Option HeartbeatDocument :=
  if step.call.issue = issue then step.answer.toOption else none

/-- The documents that were stored for an issue, in order. -/
def documents (issue : Int) (log : List HeartbeatStep) : List HeartbeatDocument :=
  log.filterMap (HeartbeatStep.stored issue)

/-- Those of the starts among them. -/
def starts (issue : Int) (log : List HeartbeatStep) : List HeartbeatDocument :=
  (log.filter (fun step => step.call.isStart)).filterMap (HeartbeatStep.stored issue)

/-! ## What one call does -/

/-- A document with only the fields changed that an update was given, and those it derives. -/
def ChangesOnly (change : HeartbeatChange) (current next : HeartbeatDocument) : Prop :=
  next = { current with
    phase := change.phase.getD current.phase
    changedFileCount := change.changedFileCount.getD current.changedFileCount
    validationState := change.validationState.getD current.validationState
    prReference := change.prReference <|> current.prReference
    revision := current.revision + 1
    phaseStartedAt := next.phaseStartedAt
    totalElapsedSeconds := next.totalElapsedSeconds
    lastActivityAt := next.lastActivityAt
    runnerHealth := next.runnerHealth
    lastCompletedSafeStep := next.lastCompletedSafeStep
    nextExpectedTransition := next.nextExpectedTransition }

/-- The document after an update of the same run. -/
structure Continues (current next : HeartbeatDocument) : Prop where
  writer : next.writerId = current.writerId
  generation : next.generation = current.generation
  revision : next.revision = current.revision + 1
  unfinished : current.isTerminal = false
  forward : next.isTerminal = true ∨ phases.idxOf current.phase ≤ phases.idxOf next.phase

/-- The document of a new run. -/
structure StartsAnew (current next : HeartbeatDocument) : Prop where
  generation : next.generation = current.generation + 1
  revision : next.revision = 1

/-- An update was accepted from the writer of the run that the file is of. -/
structure Accepted (records : HeartbeatRecords) (issue : Int) (writerId : String)
    (generation : Int) (change : HeartbeatChange) (current next : HeartbeatDocument) : Prop where
  found : findRecord records issue = some current
  writer : current.writerId = writerId
  generation : current.generation = generation
  continues : Continues current next
  changesOnly : ChangesOnly change current next

theorem moveToPhase_moves {current moved : HeartbeatDocument} {phase : Option String} {now : ℚ}
    (done : moveToPhase current phase now = .ok moved) :
    moved = { current with
      phase := phase.getD current.phase
      phaseStartedAt := moved.phaseStartedAt
      lastCompletedSafeStep := moved.lastCompletedSafeStep } ∧
    (moved.isTerminal = true ∨ phases.idxOf current.phase ≤ phases.idxOf moved.phase) := by
  cases phase with
  | none =>
      cases done
      exact ⟨rfl, .inr le_rfl⟩
  | some phase =>
      unfold moveToPhase at done
      dsimp only at done
      split at done
      · next same =>
        cases done
        subst same
        exact ⟨rfl, .inr le_rfl⟩
      · split at done
        · cases done
        · next forward =>
          cases done
          refine ⟨rfl, ?_⟩
          by_cases terminal : terminalPhases.contains phase = true
          · exact .inl terminal
          · have later : ¬ phases.idxOf phase < phases.idxOf current.phase := fun backwards =>
              forward ⟨eq_false_of_ne_true terminal, backwards⟩
            exact .inr (Nat.le_of_not_lt later)

theorem update_accepted {records next : HeartbeatRecords} {issue generation : Int}
    {writerId : String} {change : HeartbeatChange} {now : ℚ} {document : HeartbeatDocument}
    (updated : updateHeartbeat settings records issue writerId generation change now =
      .ok (document, next)) :
    (∃ current, Accepted records issue writerId generation change current document) ∧
      next = cleanup settings (writeRecord records document) now := by
  obtain ⟨_, _, rest⟩ := bind_ok.mp updated
  split at rest
  · cases rest
  · next current found =>
    obtain ⟨_, owner, rest⟩ := bind_ok.mp rest
    obtain ⟨_, going, rest⟩ := bind_ok.mp rest
    obtain ⟨moved, moves, rest⟩ := bind_ok.mp rest
    have owner := check_ok.mp owner
    have spec := moveToPhase_moves moves
    cases rest
    refine ⟨⟨current, found, owner.1, owner.2, ⟨?_, ?_, rfl, check_ok.mp going, spec.2⟩, ?_⟩, rfl⟩
    · rw [updatedDocument, spec.1]
    · rw [updatedDocument, spec.1]
    · unfold ChangesOnly updatedDocument
      rw [spec.1]

theorem start_accepted {records next : HeartbeatRecords} {issue policyGeneration : Int}
    {milestone policyDigest writerId : String} {now : ℚ} {document : HeartbeatDocument}
    (started : startHeartbeat settings records issue milestone policyGeneration policyDigest
      writerId now = .ok (document, next)) :
    document.issue = issue ∧ document.generation = nextGeneration (findRecord records issue) ∧
      document.revision = 1 ∧ next = cleanup settings (writeRecord records document) now := by
  obtain ⟨_, _, rest⟩ := bind_ok.mp started
  obtain ⟨_, _, rest⟩ := bind_ok.mp rest
  cases rest
  exact ⟨rfl, rfl, rfl, rfl⟩

/-! ## The record of one issue -/

theorem find_written (records : HeartbeatRecords) (document : HeartbeatDocument) :
    findRecord (writeRecord records document) document.issue = some document := by
  have others : (records.filter (fun record => record.issue ≠ document.issue)).find?
      (fun record => record.issue = document.issue) = none := by
    simp
  unfold findRecord writeRecord
  rw [List.find?_append, others]
  simp

theorem find_written_other {records : HeartbeatRecords} {document : HeartbeatDocument}
    {issue : Int} (other : document.issue ≠ issue) :
    findRecord (writeRecord records document) issue = findRecord records issue := by
  have kept : (records.filter (fun record => record.issue ≠ document.issue)).find?
      (fun record => record.issue = issue) = records.find? (fun record => record.issue = issue) := by
    rw [List.find?_filter]
    apply List.find?_congr
    intro record _
    by_cases own : record.issue = issue
    · simp [own, Ne.symm other]
    · simp [own]
  unfold findRecord writeRecord
  rw [List.find?_append, kept]
  simp [other]

theorem find_cleanup {records : HeartbeatRecords} {issue : Int} {now : ℚ}
    (kept : ∀ record ∈ records, record.issue = issue → record ∈ cleanup settings records now) :
    findRecord (cleanup settings records now) issue = findRecord records issue := by
  unfold cleanup at kept ⊢
  unfold findRecord
  rw [List.find?_filter]
  apply List.find?_congr
  intro record member
  by_cases own : record.issue = issue
  · have remains := (List.mem_filter.mp (kept record member own)).2
    rw [remains]
    simp
  · simp [own]

/-! ## The protocol of the writers -/

/-- What the log says of an issue's record, at any time. -/
structure Tracked (issue : Int) (log : List HeartbeatStep) (records : HeartbeatRecords) : Prop where
  latest : findRecord records issue = (documents issue log).getLast?
  fenced : ∀ current ∈ (documents issue log).getLast?,
    ∃ start ∈ (starts issue log).getLast?,
      start.writerId = current.writerId ∧ start.generation = current.generation
  first : ∀ document ∈ (documents issue log).head?,
    document.generation = 1 ∧ document.revision = 1
  chain : (documents issue log).IsChain
    (fun current next => Continues current next ∨ StartsAnew current next)
  generations : (starts issue log).IsChain
    (fun start next => next.generation = start.generation + 1)

theorem step_eq (records : HeartbeatRecords) (now : ℚ) (call : HeartbeatCall) :
    ((call.step settings records now).answer, (call.step settings records now).after) =
      answeredWith records (call.run settings records now) :=
  body_run call now records

/-- A rejected call leaves the directory as it is; an accepted one stores its document. -/
theorem step_cases (records : HeartbeatRecords) (now : ℚ) (call : HeartbeatCall) :
    (∃ error, (call.step settings records now).answer = .error error ∧
      (call.step settings records now).after = records) ∨
    (∃ document, (call.step settings records now).answer = .ok document ∧
      call.run settings records now =
        .ok (document, (call.step settings records now).after)) := by
  have both := @step_eq settings records now call
  cases ran : call.run settings records now with
  | error error =>
      rw [ran] at both
      exact .inl ⟨error, congrArg Prod.fst both, congrArg Prod.snd both⟩
  | ok result =>
      rw [ran] at both
      have after : (call.step settings records now).after = result.2 := congrArg Prod.snd both
      refine .inr ⟨result.1, congrArg Prod.fst both, ?_⟩
      rw [after]

/-- What an accepted call wrote, before the cleanup. -/
theorem run_writes {records next : HeartbeatRecords} {now : ℚ} {call : HeartbeatCall}
    {document : HeartbeatDocument}
    (ran : call.run settings records now = .ok (document, next)) :
    document.issue = call.issue ∧ next = cleanup settings (writeRecord records document) now := by
  cases call with
  | start issue milestone policyGeneration policyDigest writerId =>
      have spec := start_accepted ran
      exact ⟨spec.1, spec.2.2.2⟩
  | update issue writerId generation change =>
      rcases update_accepted ran with ⟨⟨current, accepted⟩, written⟩
      have found : findRecord records issue = some current := accepted.found
      unfold findRecord at found
      have own : current.issue = issue := by simpa using List.find?_some found
      have same : document.issue = current.issue := by
        rw [accepted.changesOnly]
      exact ⟨same.trans own, written⟩

theorem documents_append (issue : Int) (log : List HeartbeatStep) (step : HeartbeatStep) :
    documents issue (log ++ [step]) = documents issue log ++ (step.stored issue).toList := by
  unfold documents
  rw [List.filterMap_append]
  cases stored : step.stored issue <;> simp [stored]

theorem starts_append (issue : Int) (log : List HeartbeatStep) (step : HeartbeatStep) :
    starts issue (log ++ [step]) =
      starts issue log ++ if step.call.isStart then (step.stored issue).toList else [] := by
  unfold starts
  rw [List.filter_append, List.filterMap_append]
  cases isStart : step.call.isStart <;> cases stored : step.stored issue <;>
    simp [isStart, stored]

/-- A step that stores nothing for the issue leaves what is known of it. -/
theorem Tracked.unchanged {issue : Int} {log : List HeartbeatStep} {records : HeartbeatRecords}
    {step : HeartbeatStep} (tracked : Tracked issue log records)
    (stored : step.stored issue = none)
    (same : findRecord step.after issue = findRecord records issue) :
    Tracked issue (log ++ [step]) step.after := by
  have sameDocuments : documents issue (log ++ [step]) = documents issue log := by
    rw [documents_append, stored]
    simp
  have sameStarts : starts issue (log ++ [step]) = starts issue log := by
    rw [starts_append, stored]
    simp
  constructor
  · rw [same, sameDocuments]
    exact tracked.latest
  · rw [sameDocuments, sameStarts]
    exact tracked.fenced
  · rw [sameDocuments]
    exact tracked.first
  · rw [sameDocuments]
    exact tracked.chain
  · rw [sameStarts]
    exact tracked.generations

theorem head_append_singleton {α : Type} {items : List α} {last item : α}
    (member : item ∈ (items ++ [last]).head?) :
    item ∈ items.head? ∨ items.getLast? = none ∧ item = last := by
  cases items with
  | nil =>
      cases member
      exact .inr ⟨rfl, rfl⟩
  | cons first rest => exact .inl member

theorem Tracked.updated {issue generation : Int} {log : List HeartbeatStep}
    {records : HeartbeatRecords} {step : HeartbeatStep} {writerId : String}
    {change : HeartbeatChange} {current next : HeartbeatDocument}
    (tracked : Tracked issue log records)
    (accepted : Accepted records issue writerId generation change current next)
    (isUpdate : step.call.isStart = false) (stored : step.stored issue = some next)
    (found : findRecord step.after issue = some next) :
    Tracked issue (log ++ [step]) step.after := by
  have grown : documents issue (log ++ [step]) = documents issue log ++ [next] := by
    rw [documents_append, stored]
    rfl
  have sameStarts : starts issue (log ++ [step]) = starts issue log := by
    rw [starts_append, isUpdate]
    simp
  have latest : (documents issue log).getLast? = some current :=
    tracked.latest.symm.trans accepted.found
  constructor
  · rw [found, grown, List.getLast?_concat]
  · intro document last
    rw [grown, List.getLast?_concat] at last
    cases last
    rcases tracked.fenced current latest with ⟨start, lastStart, writer, generation⟩
    rw [sameStarts]
    exact ⟨start, lastStart, writer.trans accepted.continues.writer.symm,
      generation.trans accepted.continues.generation.symm⟩
  · intro document member
    rw [grown] at member
    rcases head_append_singleton member with old | ⟨none, _⟩
    · exact tracked.first document old
    · rw [latest] at none
      cases none
  · rw [grown]
    apply tracked.chain.append (List.isChain_singleton _)
    intro before last after head
    rw [latest] at last
    cases last
    cases head
    exact .inl accepted.continues
  · rw [sameStarts]
    exact tracked.generations

theorem starts_sublist (issue : Int) (log : List HeartbeatStep) :
    (starts issue log).Sublist (documents issue log) :=
  List.filter_sublist.filterMap _

theorem Tracked.started {issue : Int} {log : List HeartbeatStep} {records : HeartbeatRecords}
    {step : HeartbeatStep} {next : HeartbeatDocument} (tracked : Tracked issue log records)
    (isStart : step.call.isStart = true) (stored : step.stored issue = some next)
    (generation : next.generation = nextGeneration (findRecord records issue))
    (revision : next.revision = 1) (found : findRecord step.after issue = some next) :
    Tracked issue (log ++ [step]) step.after := by
  have grown : documents issue (log ++ [step]) = documents issue log ++ [next] := by
    rw [documents_append, stored]
    rfl
  have grownStarts : starts issue (log ++ [step]) = starts issue log ++ [next] := by
    rw [starts_append, isStart, stored]
    rfl
  rw [tracked.latest] at generation
  constructor
  · rw [found, grown, List.getLast?_concat]
  · intro document last
    rw [grown, List.getLast?_concat] at last
    cases last
    rw [grownStarts, List.getLast?_concat]
    exact ⟨next, rfl, rfl, rfl⟩
  · intro document member
    rw [grown] at member
    rcases head_append_singleton member with old | ⟨none, rfl⟩
    · exact tracked.first document old
    · rw [none] at generation
      exact ⟨generation, revision⟩
  · rw [grown]
    apply tracked.chain.append (List.isChain_singleton _)
    intro before last after head
    cases head
    rw [last] at generation
    exact .inr ⟨generation, revision⟩
  · rw [grownStarts]
    apply tracked.generations.append (List.isChain_singleton _)
    intro start lastStart after head
    cases head
    cases last : (documents issue log).getLast? with
    | none =>
        have nothing := starts_sublist issue log
        rw [List.getLast?_eq_none_iff.mp last, List.sublist_nil] at nothing
        rw [nothing] at lastStart
        cases lastStart
    | some current =>
        rcases tracked.fenced current last with ⟨other, lastOther, _, same⟩
        rw [lastStart] at lastOther
        cases lastOther
        rw [last] at generation
        rw [same]
        exact generation

theorem run_tracked {issue : Int} {log : List HeartbeatStep} {records : HeartbeatRecords}
    (run : HeartbeatRun settings log records) (kept : ∀ step ∈ log, step.KeepsRecord issue) :
    Tracked issue log records := by
  induction run with
  | empty => constructor <;> simp [findRecord, documents, starts]
  | @call log records reached call now ih =>
      have tracked := ih (fun step member => kept step (List.mem_append_left _ member))
      have keeps := kept _ (List.mem_append_right _ List.mem_cons_self)
      rcases @step_cases settings records now call with
        ⟨error, rejected, same⟩ | ⟨document, accepted, ran⟩
      · apply tracked.unchanged
        · unfold HeartbeatStep.stored
          rw [rejected]
          exact ite_self none
        · rw [same]
      · have writes := run_writes ran
        have found : findRecord (call.step settings records now).after issue =
            findRecord (writeRecord records document) issue := by
          rw [writes.2]
          apply find_cleanup
          rw [← writes.2]
          exact keeps document (by rw [accepted]; rfl)
        by_cases own : call.issue = issue
        · have stored : (call.step settings records now).stored issue = some document := by
            show (if call.issue = issue then _ else _) = _
            rw [if_pos own, accepted]
            rfl
          have sameIssue : document.issue = issue := writes.1.trans own
          rw [← sameIssue, find_written, sameIssue] at found
          cases call with
          | start issue' milestone policyGeneration policyDigest writerId =>
              cases own
              have spec := start_accepted ran
              exact tracked.started rfl stored spec.2.1 spec.2.2.1 found
          | update issue' writerId generation change =>
              cases own
              rcases update_accepted ran with ⟨⟨current, accepted⟩, _⟩
              exact tracked.updated accepted rfl stored found
        · have other : document.issue ≠ issue := fun same => own (writes.1.symm.trans same)
          rw [find_written_other other] at found
          apply tracked.unchanged _ found
          show (if call.issue = issue then _ else _) = none
          rw [if_neg own]

/-- Every step of a run is a call on the directory that the steps before it left. -/
theorem run_split {log : List HeartbeatStep} {records : HeartbeatRecords}
    (run : HeartbeatRun settings log records) {earlier later : List HeartbeatStep}
    {step : HeartbeatStep} (split : log = earlier ++ step :: later) :
    HeartbeatRun settings earlier step.before ∧
      step = step.call.step settings step.before step.now := by
  induction run generalizing later with
  | empty => simp at split
  | @call log records reached call now ih =>
      rcases List.eq_nil_or_concat later with rfl | ⟨later, last, rfl⟩
      · have both := List.append_inj' split rfl
        cases both.2
        rw [← both.1]
        exact ⟨reached, rfl⟩
      · have whole : log ++ [call.step settings records now] =
            (earlier ++ step :: later) ++ [last] := by
          rw [split]
          simp
        exact ih (List.append_inj' whole rfl).1

/-- In any order of calls in which the cleanup leaves an issue's record: the first document
is of generation 1, every later one continues its run or starts the next generation; an
update is accepted from the writer and generation of the latest start only, and changes
what it was given and what it derives; a rejected call leaves the directory as it is. -/
theorem heartbeat_writers {log : List HeartbeatStep} {records : HeartbeatRecords}
    (run : HeartbeatRun settings log records) (issue : Int)
    (kept : ∀ step ∈ log, step.KeepsRecord issue) :
    (∀ document ∈ (documents issue log).head?,
      document.generation = 1 ∧ document.revision = 1) ∧
    (documents issue log).IsChain
      (fun current next => Continues current next ∨ StartsAnew current next) ∧
    (starts issue log).IsChain (fun start next => next.generation = start.generation + 1) ∧
    ∀ earlier step later, log = earlier ++ step :: later →
      (∀ error, step.answer = .error error → step.after = step.before) ∧
      ∀ writerId generation change document,
        step.call = .update issue writerId generation change → step.answer = .ok document →
        ∃ start ∈ (starts issue earlier).getLast?, ∃ current ∈ (documents issue earlier).getLast?,
          start.writerId = writerId ∧ start.generation = generation ∧
          Continues current document ∧ ChangesOnly change current document := by
  have tracked := run_tracked run kept
  refine ⟨tracked.first, tracked.chain, tracked.generations, ?_⟩
  intro earlier step later split
  have spec := run_split run split
  constructor
  · intro error rejected
    rcases @step_cases settings step.before step.now step.call with
      ⟨_, _, same⟩ | ⟨document, accepted, _⟩
    · rw [← spec.2] at same
      exact same
    · rw [← spec.2, rejected] at accepted
      cases accepted
  · intro writerId generation change document isUpdate answered
    have before := run_tracked spec.1 (fun other member =>
      kept other (split ▸ List.mem_append_left _ member))
    rcases @step_cases settings step.before step.now step.call with
      ⟨error, rejected, _⟩ | ⟨other, accepted, ran⟩
    · rw [← spec.2, answered] at rejected
      cases rejected
    · rw [← spec.2, answered] at accepted
      cases accepted
      rw [isUpdate] at ran
      rcases update_accepted ran with ⟨⟨current, accepted⟩, _⟩
      have last : (documents issue earlier).getLast? = some current :=
        before.latest.symm.trans accepted.found
      rcases before.fenced current last with ⟨start, lastStart, writer, sameGeneration⟩
      exact ⟨start, lastStart, current, last, writer.trans accepted.writer,
        sameGeneration.trans accepted.generation, accepted.continues, accepted.changesOnly⟩

variable (settings) in
/-- The steps of some calls made one after the other. -/
def playHeartbeats : List (HeartbeatCall × ℚ) → HeartbeatRecords → List HeartbeatStep
  | [], _ => []
  | (call, now) :: rest, records =>
      call.step settings records now ::
        playHeartbeats rest (call.step settings records now).after

theorem run_play (calls : List (HeartbeatCall × ℚ)) {log : List HeartbeatStep}
    {records : HeartbeatRecords} (reached : HeartbeatRun settings log records) :
    ∃ last, HeartbeatRun settings (log ++ playHeartbeats settings calls records) last := by
  induction calls generalizing log records with
  | nil =>
      refine ⟨records, ?_⟩
      simpa [playHeartbeats] using reached
  | cons entry rest ih =>
      rcases ih (reached.call entry.1 entry.2) with ⟨last, run⟩
      refine ⟨last, ?_⟩
      simpa [playHeartbeats] using run

def shippedHeartbeats : HeartbeatSettings where
  thresholds := {}
  maxTerminalRecords := 100
  maxRecords := 200
  terminalMaxAgeDays := 30

/-- A restarted runner, and a delayed update of the run before. -/
def delayedUpdate : List (HeartbeatCall × ℚ) :=
  [(.start 4 "v1" 0 (String.ofList (List.replicate 64 'a')) "first", 100),
    (.update 4 "first" 1 ⟨some "testing", some 3, none, none⟩, 130),
    (.start 4 "v1" 0 (String.ofList (List.replicate 64 'a')) "second", 150),
    (.update 4 "first" 1 ⟨some "completed", none, none, none⟩, 160),
    (.update 4 "second" 2 ⟨some "failed", none, none, none⟩, 170)]

def delayedLog : List HeartbeatStep := playHeartbeats shippedHeartbeats delayedUpdate []

theorem heartbeat_writers_delayed :
    (documents 4 delayedLog).map (fun document =>
      (document.generation, document.revision, document.phase)) =
        [(1, 1, "preparing"), (1, 2, "testing"), (2, 1, "preparing"), (2, 2, "failed")] ∧
    (documents 4 delayedLog).IsChain
      (fun current next => Continues current next ∨ StartsAnew current next) := by
  have played : (documents 4 delayedLog).map (fun document =>
      (document.generation, document.revision, document.phase)) =
        [(1, 1, "preparing"), (1, 2, "testing"), (2, 1, "preparing"), (2, 2, "failed")] := by
    decide +kernel
  have kept : ∀ step ∈ delayedLog, step.KeepsRecord 4 := by decide +kernel
  rcases @run_play shippedHeartbeats delayedUpdate [] [] .empty with ⟨last, run⟩
  rw [List.nil_append] at run
  exact ⟨played, (heartbeat_writers run 4 kept).2.1⟩

end FortifyLab.Supervisor
