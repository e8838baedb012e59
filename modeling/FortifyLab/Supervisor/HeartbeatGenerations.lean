import FortifyLab.Library.Digits
import FortifyLab.Library.Ranks
import FortifyLab.Supervisor.HeartbeatWriters
import FortifyLab.Supervisor.Monitor
import Mathlib.Data.String.Basic

/-! The generation of an issue is kept in its record only, and the cleanup of any later write may
delete that record: what the fence of the starts rests on. -/

namespace FortifyLab.Supervisor

/-! ## The order of the cleanup -/

theorem recordName_toList (issue : Int) :
    (recordName issue).toList = "issue-".toList ++ (issue.repr.toList ++ ".json".toList) := by
  simp [recordName, toString]

theorem recordName_injective {left right : Int} (same : recordName left = recordName right) :
    left = right := by
  have letters := congrArg String.toList same
  rw [recordName_toList, recordName_toList] at letters
  have digits := List.append_cancel_right (List.append_cancel_left letters)
  exact intRepr_injective (String.toList_inj.mp digits)

theorem comesFirst_total (left right : HeartbeatDocument) :
    comesFirst left right ∨ comesFirst right left := by
  unfold comesFirst
  rcases lt_trichotomy left.lastActivityAt right.lastActivityAt with earlier | same | later
  · exact .inr (.inl earlier)
  · rcases le_total (recordName right.issue) (recordName left.issue) with name | name
    · exact .inl (.inr ⟨same.symm, name⟩)
    · exact .inr (.inr ⟨same, name⟩)
  · exact .inl (.inl later)

theorem comesFirst_trans {first second third : HeartbeatDocument}
    (left : comesFirst first second) (right : comesFirst second third) :
    comesFirst first third := by
  unfold comesFirst at left right ⊢
  rcases left with later | ⟨same, name⟩
  · rcases right with later' | ⟨same', _⟩
    · exact .inl (lt_trans later' later)
    · exact .inl (same' ▸ later)
  · rcases right with later' | ⟨same', name'⟩
    · exact .inl (same ▸ later')
    · exact .inr ⟨same'.trans same, le_trans name' name⟩

instance : Std.Total comesFirst := ⟨comesFirst_total⟩

instance : IsTrans HeartbeatDocument comesFirst := ⟨fun _ _ _ => comesFirst_trans⟩

/-- Only records of one issue tie. -/
theorem comesFirst_tie {left right : HeartbeatDocument} (forth : comesFirst left right)
    (back : comesFirst right left) : left.issue = right.issue := by
  unfold comesFirst at forth back
  rcases forth with later | ⟨same, name⟩
  · rcases back with earlier | ⟨same, _⟩
    · omega
    · omega
  · rcases back with earlier | ⟨_, name'⟩
    · omega
    · exact recordName_injective (le_antisymm name' name)

/-! ## What the cleanup leaves -/

/-- One record for an issue. -/
abbrev OnePerIssue (records : HeartbeatRecords) : Prop :=
  (records.map HeartbeatDocument.issue).Nodup

theorem OnePerIssue.same {records : HeartbeatRecords} (one : OnePerIssue records)
    {left right : HeartbeatDocument} (leftMember : left ∈ records) (rightMember : right ∈ records)
    (issue : left.issue = right.issue) : left = right :=
  List.inj_on_of_nodup_map one leftMember rightMember issue

variable {settings : HeartbeatSettings}

theorem mem_outdatedRecords {records : HeartbeatRecords} (one : OnePerIssue records)
    {record : HeartbeatDocument} (member : record ∈ records) (now : ℚ) :
    record ∈ outdatedRecords settings records now ↔
      record.isTerminal = true ∧
        (settings.maxTerminalRecords ≤
            rank comesFirst (records.filter HeartbeatDocument.isTerminal) record ∨
          ((settings.terminalMaxAgeDays * 86400 : Int) : ℚ) < now - record.lastActivityAt) := by
  have distinct : (records.filter HeartbeatDocument.isTerminal).Nodup :=
    (List.Nodup.of_map _ one).filter _
  have strict : ∀ other ∈ records.filter HeartbeatDocument.isTerminal,
      comesFirst record other → comesFirst other record → other = record :=
    fun other kept forth back =>
      one.same (List.mem_of_mem_filter kept) member (comesFirst_tie back forth)
  unfold outdatedRecords
  simp only [List.mem_map, List.mem_filter, Prod.exists, Bool.or_eq_true,
    decide_eq_true_eq]
  constructor
  · intro ⟨other, index, ⟨placed, beyond⟩, same⟩
    cases same
    have terminal : record ∈ records.filter HeartbeatDocument.isTerminal :=
      (List.mem_insertionSort comesFirst).mp (List.fst_mem_of_mem_zipIdx placed)
    have place := (mem_zipIdx_insertionSort terminal strict distinct index).mp placed
    rw [← place]
    exact ⟨(List.mem_filter.mp terminal).2, beyond⟩
  · intro ⟨isTerminal, beyond⟩
    have terminal : record ∈ records.filter HeartbeatDocument.isTerminal :=
      List.mem_filter.mpr ⟨member, isTerminal⟩
    exact ⟨record, _, ⟨(mem_zipIdx_insertionSort terminal strict distinct _).mpr rfl, beyond⟩, rfl⟩

theorem outdatedRecords_subset {records : HeartbeatRecords} {record : HeartbeatDocument} {now : ℚ}
    (outdated : record ∈ outdatedRecords settings records now) : record ∈ records := by
  rcases List.mem_map.mp outdated with ⟨⟨other, index⟩, entry, rfl⟩
  have sorted := List.fst_mem_of_mem_zipIdx (List.mem_filter.mp entry).1
  exact List.mem_of_mem_filter ((List.mem_insertionSort comesFirst).mp sorted)

/-- A record stays that ranks within the limits and, once terminal, within the age. -/
theorem mem_cleanup {records : HeartbeatRecords} (one : OnePerIssue records)
    {record : HeartbeatDocument} (member : record ∈ records) (now : ℚ) :
    record ∈ cleanup settings records now ↔
      rank comesFirst records record < settings.maxRecords ∧
        (record.isTerminal = true →
          rank comesFirst (records.filter HeartbeatDocument.isTerminal) record <
              settings.maxTerminalRecords ∧
            now - record.lastActivityAt ≤ ((settings.terminalMaxAgeDays * 86400 : Int) : ℚ)) := by
  have strict : ∀ other ∈ records, comesFirst record other → comesFirst other record →
      other = record :=
    fun other kept forth back => one.same kept member (comesFirst_tie back forth)
  have overflow := mem_drop_insertionSort member strict (List.Nodup.of_map _ one)
    settings.maxRecords
  have outdated := @mem_outdatedRecords settings records one record member now
  have own : (∃ other ∈ outdatedRecords settings records now ++
        (records.insertionSort comesFirst).drop settings.maxRecords, other.issue = record.issue) ↔
      record ∈ outdatedRecords settings records now ∨
        record ∈ (records.insertionSort comesFirst).drop settings.maxRecords := by
    rw [← List.mem_append]
    constructor
    · intro ⟨other, removed, issue⟩
      have known : other ∈ records := by
        rcases List.mem_append.mp removed with outdated | overflow
        · exact outdatedRecords_subset outdated
        · exact (List.mem_insertionSort comesFirst).mp (List.mem_of_mem_drop overflow)
      rw [← one.same known member issue]
      exact removed
    · intro removed
      exact ⟨record, removed, rfl⟩
  have stays : record ∈ cleanup settings records now ↔
      ¬ (record ∈ outdatedRecords settings records now ∨
        record ∈ (records.insertionSort comesFirst).drop settings.maxRecords) := by
    rw [← own]
    simp [cleanup, member, or_imp, forall_and]
  rw [stays, outdated, overflow]
  constructor
  · intro kept
    refine ⟨by omega, fun terminal => ⟨?_, ?_⟩⟩
    · by_contra beyond
      exact kept (.inl ⟨terminal, .inl (by omega)⟩)
    · by_contra old
      exact kept (.inl ⟨terminal, .inr (not_le.mp old)⟩)
  · rintro ⟨within, recent⟩ (⟨terminal, many | old⟩ | beyond)
    · exact absurd many (not_le.mpr (recent terminal).1)
    · exact absurd old (not_lt.mpr (recent terminal).2)
    · omega

/-! ## What a call is accepted for -/

/-- The checks of `start` and `update`. -/
def HeartbeatCall.Passes (records : HeartbeatRecords) : HeartbeatCall → Prop
  | .start issue milestone policyGeneration policyDigest _ =>
      (1 ≤ issue ∧ milestone ≠ "" ∧ milestone.length ≤ 200) ∧
        0 ≤ policyGeneration ∧ isDigest policyDigest = true
  | .update issue writerId generation change =>
      checkChange change = .ok () ∧ ∃ current ∈ findRecord records issue,
        (current.writerId = writerId ∧ current.generation = generation) ∧
          current.isTerminal = false ∧ ∀ phase ∈ change.phase, phase = current.phase ∨
            (terminalPhases.contains phase = false → phases.idxOf current.phase ≤ phases.idxOf phase)

/-- The call moves its record to a terminal phase. -/
def HeartbeatCall.Ends : HeartbeatCall → Prop
  | .start _ _ _ _ _ => False
  | .update _ _ _ change => ∃ phase ∈ change.phase, terminalPhases.contains phase = true

theorem moveToPhase_ok {current : HeartbeatDocument} {phase : Option String} {now : ℚ} :
    (∃ moved, moveToPhase current phase now = .ok moved) ↔
      ∀ requested ∈ phase, requested = current.phase ∨
        (terminalPhases.contains requested = false →
          phases.idxOf current.phase ≤ phases.idxOf requested) := by
  cases phase with
  | none => simp [moveToPhase]
  | some requested =>
      by_cases same : requested = current.phase
      · simp [moveToPhase, same]
      · by_cases back : terminalPhases.contains requested = false ∧
            phases.idxOf requested < phases.idxOf current.phase
        · have going : requested ∉ terminalPhases := by simpa using back.1
          have late : ¬ phases.idxOf current.phase ≤ phases.idxOf requested := not_le.mpr back.2
          simp [moveToPhase, same, going, late, back.2]
        · simp only [moveToPhase, same, back, if_false]
          simpa [same] using fun going => Nat.le_of_not_lt fun late => back ⟨going, late⟩

theorem passes_iff {records : HeartbeatRecords} {now : ℚ} {call : HeartbeatCall} :
    call.Passes records ↔ ∃ result, call.run settings records now = .ok result := by
  cases call with
  | start issue milestone policyGeneration policyDigest writerId =>
      unfold HeartbeatCall.run startHeartbeat check
      by_cases named : 1 ≤ issue ∧ milestone ≠ "" ∧ milestone.length ≤ 200
      · by_cases policy : 0 ≤ policyGeneration ∧ isDigest policyDigest = true
        · simp [HeartbeatCall.Passes, named, policy, bind, Except.bind, pure, Except.pure]
        · simp [HeartbeatCall.Passes, named, policy, bind, Except.bind]
      · simp [HeartbeatCall.Passes, named, bind, Except.bind]
  | update issue writerId generation change =>
      constructor
      · rintro ⟨checked, current, found, own, going, forward⟩
        rcases (@moveToPhase_ok current change.phase now).mpr forward with ⟨moved, moves⟩
        have found : findRecord records issue = some current := found
        let document := updatedDocument current moved change now
        refine ⟨(document, cleanup settings (writeRecord records document) now), ?_⟩
        simp [HeartbeatCall.run, updateHeartbeat, checked, found, check, own, going, moves, bind,
          Except.bind, pure, Except.pure, document]
      · rintro ⟨result, ran⟩
        obtain ⟨_, checked, rest⟩ := bind_ok.mp ran
        split at rest
        · cases rest
        · next current found =>
          obtain ⟨_, own, rest⟩ := bind_ok.mp rest
          obtain ⟨_, going, rest⟩ := bind_ok.mp rest
          obtain ⟨moved, moves, _⟩ := bind_ok.mp rest
          exact ⟨checked, current, found, check_ok.mp own, check_ok.mp going,
            moveToPhase_ok.mp ⟨moved, moves⟩⟩

/-- What an accepted call stamps its record with. -/
theorem run_stamps {records next : HeartbeatRecords} {now : ℚ} {call : HeartbeatCall}
    {document : HeartbeatDocument}
    (ran : call.run settings records now = .ok (document, next)) :
    document.lastActivityAt = timestamp now ∧ (document.isTerminal = true ↔ call.Ends) := by
  cases call with
  | start issue milestone policyGeneration policyDigest writerId =>
      obtain ⟨_, _, rest⟩ := bind_ok.mp ran
      obtain ⟨_, _, rest⟩ := bind_ok.mp rest
      cases rest
      refine ⟨rfl, ?_⟩
      simp [HeartbeatDocument.isTerminal, startDocument, HeartbeatCall.Ends, terminalPhases]
  | update issue writerId generation change =>
      obtain ⟨_, _, rest⟩ := bind_ok.mp ran
      split at rest
      · cases rest
      · next current found =>
        obtain ⟨_, _, rest⟩ := bind_ok.mp rest
        obtain ⟨_, going, rest⟩ := bind_ok.mp rest
        obtain ⟨moved, moves, rest⟩ := bind_ok.mp rest
        have going := check_ok.mp going
        have spec := (moveToPhase_moves moves).1
        cases rest
        refine ⟨rfl, ?_⟩
        have phase : (updatedDocument current moved change now).phase =
            change.phase.getD current.phase := by
          rw [updatedDocument, spec]
        unfold HeartbeatDocument.isTerminal at going ⊢
        rw [phase]
        cases requested : change.phase with
        | none => simpa [HeartbeatCall.Ends, requested] using going
        | some requested' => simp [HeartbeatCall.Ends, requested]

/-! ## The place of the record that a call writes -/

/-- The records of other issues of the same second whose files come before its own. -/
def rivals (records : HeartbeatRecords) (issue : Int) (now : ℚ) : HeartbeatRecords :=
  records.filter (fun other => decide (other.issue ≠ issue ∧
    other.lastActivityAt = timestamp now ∧ recordName issue < recordName other.issue))

variable (settings) in
/-- The limits leave room for the record that a call writes. -/
structure LeavesRoom (records : HeartbeatRecords) (call : HeartbeatCall) (now : ℚ) : Prop where
  within : (rivals records call.issue now).length < settings.maxRecords
  terminal : call.Ends →
    ((rivals records call.issue now).filter HeartbeatDocument.isTerminal).length <
        settings.maxTerminalRecords ∧
      now - timestamp now ≤ ((settings.terminalMaxAgeDays * 86400 : Int) : ℚ)

theorem rank_written {records : HeartbeatRecords} {document : HeartbeatDocument} {now : ℚ}
    (stamped : document.lastActivityAt = timestamp now)
    (earlier : ∀ record ∈ records, record.lastActivityAt ≤ timestamp now)
    (kind : HeartbeatDocument → Bool) (own : kind document = true) :
    rank comesFirst ((writeRecord records document).filter kind) document =
      ((rivals records document.issue now).filter kind).length := by
  have self : comesFirst document document := (comesFirst_total document document).elim id id
  have others : records.countP (fun other => !decide (comesFirst document other) && kind other &&
        decide (other.issue ≠ document.issue)) =
      records.countP (fun other => kind other && decide (other.issue ≠ document.issue ∧
        other.lastActivityAt = timestamp now ∧
          recordName document.issue < recordName other.issue)) := by
    apply List.countP_congr
    intro other member
    have before := earlier other member
    have strictly : ¬ comesFirst document other ↔ other.lastActivityAt = timestamp now ∧
        recordName document.issue < recordName other.issue := by
      unfold comesFirst
      rw [stamped, not_or, not_and, not_le, not_lt]
      constructor
      · intro ⟨late, name⟩
        have same : other.lastActivityAt = timestamp now := le_antisymm before late
        exact ⟨same, name same⟩
      · intro ⟨same, name⟩
        exact ⟨same.ge, fun _ => name⟩
    simp only [Bool.and_eq_true, Bool.not_eq_true', decide_eq_true_eq, decide_eq_false_iff_not,
      strictly]
    tauto
  calc
    rank comesFirst ((writeRecord records document).filter kind) document
      = records.countP (fun other => !decide (comesFirst document other) && kind other &&
          decide (other.issue ≠ document.issue)) := by
        simp [rank, writeRecord, List.filter_append, List.countP_append, List.countP_filter, own,
          self, Bool.and_assoc]
    _ = ((rivals records document.issue now).filter kind).length := by
        rw [others, rivals, List.filter_filter, List.countP_eq_length_filter]

theorem onePerIssue_write {records : HeartbeatRecords} (one : OnePerIssue records)
    (document : HeartbeatDocument) : OnePerIssue (writeRecord records document) := by
  unfold OnePerIssue writeRecord
  rw [List.map_append, List.nodup_append]
  refine ⟨one.sublist (List.filter_sublist.map _), List.nodup_singleton _, ?_⟩
  intro issue member other last
  rcases List.mem_map.mp member with ⟨record, kept, rfl⟩
  cases List.mem_singleton.mp last
  simpa using (List.mem_filter.mp kept).2

/-- Whether a call's own record outlives its own cleanup. -/
theorem own_kept_iff {records next : HeartbeatRecords} {now : ℚ} {call : HeartbeatCall}
    {document : HeartbeatDocument} (one : OnePerIssue records)
    (earlier : ∀ record ∈ records, record.lastActivityAt ≤ timestamp now)
    (ran : call.run settings records now = .ok (document, next)) :
    document ∈ next ↔ LeavesRoom settings records call now := by
  have spec := run_writes ran
  rcases run_stamps ran with ⟨stamped, ends⟩
  have written : document ∈ writeRecord records document := by simp [writeRecord]
  have all := rank_written stamped earlier (fun _ => true) rfl
  simp only [List.filter_true] at all
  rw [spec.2, mem_cleanup (onePerIssue_write one document) written, all, stamped, spec.1]
  constructor
  · intro ⟨within, recent⟩
    refine ⟨within, fun ending => ?_⟩
    rw [← spec.1, ← rank_written stamped earlier _ (ends.mpr ending)]
    exact recent (ends.mpr ending)
  · intro room
    refine ⟨room.within, fun ending => ?_⟩
    rw [rank_written stamped earlier _ ending, spec.1]
    exact room.terminal (ends.mp ending)

/-! ## Runs -/

/-- What the directory of any run tells of the documents that were stored. -/
structure Consistent (log : List HeartbeatStep) (records : HeartbeatRecords) : Prop where
  onePerIssue : OnePerIssue records
  dated : ∀ record ∈ records, ∃ step ∈ log, record.lastActivityAt = timestamp step.now
  latest : ∀ issue, ∀ record ∈ findRecord records issue,
    (documents issue log).getLast? = some record
  fenced : ∀ issue, ∀ current ∈ (documents issue log).getLast?,
    ∃ start ∈ (starts issue log).getLast?, start.generation = current.generation
  positive : ∀ issue, ∀ document ∈ documents issue log, 1 ≤ document.generation

theorem stored_of_rejected {step : HeartbeatStep} {error : HeartbeatError}
    (rejected : step.answer = .error error) (issue : Int) : step.stored issue = none := by
  simp [HeartbeatStep.stored, rejected, Except.toOption]

/-- A step that stores nothing for an issue leaves its documents. -/
theorem documents_quiet {issue : Int} {log : List HeartbeatStep} {step : HeartbeatStep}
    (stored : step.stored issue = none) :
    documents issue (log ++ [step]) = documents issue log ∧
      starts issue (log ++ [step]) = starts issue log := by
  rw [documents_append, starts_append, stored]
  simp

theorem findRecord_cleanup {records : HeartbeatRecords} (one : OnePerIssue records) {now : ℚ}
    {issue : Int} {record : HeartbeatDocument}
    (found : findRecord (cleanup settings records now) issue = some record) :
    findRecord records issue = some record := by
  have member := cleanup_subset (findRecord_mem found)
  cases known : findRecord records issue with
  | none =>
      have other : record.issue ≠ issue := by
        simpa using List.find?_eq_none.mp known record member
      exact absurd (findRecord_issue found) other
  | some other =>
      have same := (findRecord_issue known).trans (findRecord_issue found).symm
      rw [one.same (findRecord_mem known) member same]

/-- What an accepted call's document takes its generation from. -/
theorem accepted_generation {records next : HeartbeatRecords} {now : ℚ} {call : HeartbeatCall}
    {document : HeartbeatDocument}
    (ran : call.run settings records now = .ok (document, next)) :
    if call.isStart then document.generation = nextGeneration (findRecord records call.issue)
    else ∃ current ∈ findRecord records call.issue, document.generation = current.generation := by
  cases call with
  | start issue milestone policyGeneration policyDigest writerId => exact (start_accepted ran).2.1
  | update issue writerId generation change =>
      rcases update_accepted ran with ⟨⟨current, accepted⟩, _⟩
      exact ⟨current, accepted.found, accepted.continues.generation⟩

theorem documents_stored {step : HeartbeatStep} {document : HeartbeatDocument}
    (accepted : step.answer = .ok document) (issue : Int) (log : List HeartbeatStep) :
    documents issue (log ++ [step]) =
        documents issue log ++ (if step.call.issue = issue then [document] else []) ∧
      starts issue (log ++ [step]) = starts issue log ++
        (if step.call.isStart = true ∧ step.call.issue = issue then [document] else []) := by
  have stored : step.stored issue = if step.call.issue = issue then some document else none := by
    unfold HeartbeatStep.stored
    rw [accepted]
    rfl
  rw [documents_append, starts_append, stored]
  constructor
  · split <;> rfl
  · cases step.call.isStart <;> by_cases own : step.call.issue = issue <;> simp [own]

/-- An accepted call keeps what the log tells. -/
theorem Consistent.stored {log : List HeartbeatStep} {records : HeartbeatRecords}
    (known : Consistent log records) {call : HeartbeatCall} {now : ℚ}
    {document : HeartbeatDocument}
    (accepted : (call.step settings records now).answer = .ok document)
    (ran : call.run settings records now = .ok (document, (call.step settings records now).after)) :
    Consistent (log ++ [call.step settings records now])
      (call.step settings records now).after := by
  have spec := run_writes ran
  have one := onePerIssue_write known.onePerIssue document
  have lists : ∀ issue, documents issue (log ++ [call.step settings records now]) =
        documents issue log ++ (if call.issue = issue then [document] else []) ∧
      starts issue (log ++ [call.step settings records now]) = starts issue log ++
        (if call.isStart = true ∧ call.issue = issue then [document] else []) :=
    fun issue => documents_stored accepted issue log
  have generation := accepted_generation ran
  constructor
  · rw [spec.2]
    exact one.sublist (List.filter_sublist.map _)
  · intro record member
    rw [spec.2] at member
    rcases mem_writeRecord (cleanup_subset member) with old | rfl
    · rcases known.dated record old with ⟨step, earlier, stamped⟩
      exact ⟨step, List.mem_append_left _ earlier, stamped⟩
    · exact ⟨_, List.mem_append_right _ List.mem_cons_self, (run_stamps ran).1⟩
  · intro issue record found
    rw [spec.2] at found
    have found := findRecord_cleanup one found
    rw [(lists issue).1]
    by_cases own : call.issue = issue
    · rw [← own, ← spec.1, find_written] at found
      simp [own, Option.some.inj found]
    · rw [find_written_other (spec.1.symm ▸ own)] at found
      simpa [own] using known.latest issue record found
  · intro issue current last
    rw [(lists issue).1] at last
    rw [(lists issue).2]
    by_cases own : call.issue = issue
    · simp only [own, if_true, List.getLast?_concat, Option.mem_some_iff] at last
      subst last
      cases starts : call.isStart with
      | true => exact ⟨document, by simp [own], rfl⟩
      | false =>
          rw [starts] at generation
          rcases generation with ⟨current, found, same⟩
          rcases known.fenced issue current (own ▸ known.latest _ current found) with
            ⟨start, lastStart, fenced⟩
          exact ⟨start, by simpa using lastStart, fenced.trans same.symm⟩
    · simp only [own, if_false, List.append_nil, and_false] at last ⊢
      exact known.fenced issue current last
  · intro issue other member
    rw [(lists issue).1] at member
    rcases List.mem_append.mp member with old | new
    · exact known.positive issue other old
    · have same : other = document := by
        split at new
        · exact List.mem_singleton.mp new
        · cases new
      subst same
      have before : ∀ current ∈ findRecord records call.issue, 1 ≤ current.generation :=
        fun current found => known.positive _ current
          (List.mem_of_getLast? (known.latest _ current found))
      split at generation
      · cases found : findRecord records call.issue with
        | none => simp [generation, found, nextGeneration]
        | some current =>
            have positive := before current found
            rw [generation, found]
            exact le_trans positive (by simp [nextGeneration])
      · rcases generation with ⟨current, found, same⟩
        rw [same]
        exact before current found

theorem run_consistent {log : List HeartbeatStep} {records : HeartbeatRecords}
    (run : HeartbeatRun settings log records) : Consistent log records := by
  induction run with
  | empty => constructor <;> simp [OnePerIssue, findRecord, documents]
  | @call log records reached call now ih =>
      rcases @step_cases settings records now call with
        ⟨error, rejected, same⟩ | ⟨document, accepted, ran⟩
      · have quiet := fun issue => @documents_quiet issue log _ (stored_of_rejected rejected issue)
        rw [same]
        constructor
        · exact ih.onePerIssue
        · intro record member
          rcases ih.dated record member with ⟨step, earlier, stamped⟩
          exact ⟨step, List.mem_append_left _ earlier, stamped⟩
        · intro issue
          rw [(quiet issue).1]
          exact ih.latest issue
        · intro issue
          rw [(quiet issue).1, (quiet issue).2]
          exact ih.fenced issue
        · intro issue
          rw [(quiet issue).1]
          exact ih.positive issue
      · exact ih.stored accepted ran

/-! ## The fence -/

/-- The documents that the starts of all issues have stored. -/
def issued (log : List HeartbeatStep) : List HeartbeatDocument :=
  (log.filter (fun step => step.call.isStart)).filterMap (fun step => step.answer.toOption)

/-- The keys under which the monitor keeps what it has announced of a run. -/
def runnerKey (document : HeartbeatDocument) : String :=
  runnerPrefix (toString document.issue) document.generation

/-- No two runs of an issue share a generation, and no call loses its own record. -/
structure KeepsFence (log : List HeartbeatStep) : Prop where
  increasing : ∀ issue,
    (starts issue log).Pairwise (fun start next => start.generation < next.generation)
  unmixed : ((issued log).map runnerKey).Nodup
  own : ∀ step ∈ log, ∀ document ∈ step.answer.toOption, document ∈ step.after

/-- A start of an issue that was started before finds its record. -/
def FindsRecord (earlier : List HeartbeatStep) (step : HeartbeatStep) : Prop :=
  step.call.isStart = true → starts step.call.issue earlier ≠ [] →
    (findRecord step.before step.call.issue).isSome = true

/-- The clock does not go back. -/
def Forward (log : List HeartbeatStep) : Prop :=
  (log.map HeartbeatStep.now).Pairwise (fun earlier later => earlier ≤ later)

theorem runnerPrefix_toList (issue generation : Int) :
    (runnerPrefix (toString issue) generation).toList =
      "runner:".toList ++ (issue.repr.toList ++ ':' :: generation.repr.toList) := by
  simp [runnerPrefix, toString]

theorem runnerPrefix_injective {issue issue' generation generation' : Int}
    (same : runnerPrefix (toString issue) generation = runnerPrefix (toString issue') generation') :
    issue = issue' ∧ generation = generation' := by
  have letters := congrArg String.toList same
  rw [runnerPrefix_toList, runnerPrefix_toList] at letters
  have parts := List.append_cancel_left letters
  have first := (List.append_eq_append_iff.mp parts)
  rcases first with ⟨rest, longer, colon⟩ | ⟨rest, longer, colon⟩
  · cases rest with
    | nil =>
        rw [List.append_nil] at longer
        rw [List.nil_append, List.cons.injEq] at colon
        exact ⟨intRepr_injective (String.toList_inj.mp longer.symm),
          intRepr_injective (String.toList_inj.mp colon.2)⟩
    | cons character rest =>
        have head := (List.cons.inj colon).1
        have member : ':' ∈ issue'.repr.toList := by
          rw [longer, head]
          simp
        exact absurd member (colon_not_mem_intRepr issue')
  · cases rest with
    | nil =>
        rw [List.append_nil] at longer
        rw [List.nil_append, List.cons.injEq] at colon
        exact ⟨intRepr_injective (String.toList_inj.mp longer),
          intRepr_injective (String.toList_inj.mp colon.2.symm)⟩
    | cons character rest =>
        have head := (List.cons.inj colon).1
        have member : ':' ∈ issue.repr.toList := by
          rw [longer, head]
          simp
        exact absurd member (colon_not_mem_intRepr issue)

theorem run_of_answer {step : HeartbeatStep} {document : HeartbeatDocument}
    (played : step = step.call.step settings step.before step.now)
    (answered : step.answer = .ok document) :
    step.call.run settings step.before step.now = .ok (document, step.after) := by
  rcases @step_cases settings step.before step.now step.call with
    ⟨error, rejected, _⟩ | ⟨other, accepted, ran⟩
  · rw [← played, answered] at rejected
    cases rejected
  · rw [← played] at ran accepted
    rw [answered] at accepted
    cases accepted
    exact ran

theorem answer_of_passes {step : HeartbeatStep}
    (played : step = step.call.step settings step.before step.now)
    (passes : step.call.Passes step.before) : ∃ document, step.answer = .ok document := by
  rcases (@passes_iff settings step.before step.now step.call).mp passes with ⟨result, ran⟩
  have both := @step_eq settings step.before step.now step.call
  rw [← played, ran] at both
  exact ⟨result.1, congrArg Prod.fst both⟩

/-- The starts of one issue among all that were made. -/
theorem starts_issued {log : List HeartbeatStep} {records : HeartbeatRecords}
    (run : HeartbeatRun settings log records) (issue : Int) :
    starts issue log = (issued log).filter (fun document => document.issue = issue) := by
  unfold starts issued
  rw [List.filter_filterMap]
  apply List.filterMap_congr
  intro step member
  have inLog := List.mem_of_mem_filter member
  rcases List.append_of_mem inLog with ⟨earlier, later, split⟩
  cases answered : step.answer with
  | error error => simp [HeartbeatStep.stored, answered, Except.toOption]
  | ok document =>
      have same := (run_writes (run_of_answer (run_split run split).2 answered)).1
      by_cases own : step.call.issue = issue
      · simp [HeartbeatStep.stored, answered, Except.toOption, Option.filter, same, own]
      · simp [HeartbeatStep.stored, Except.toOption, Option.filter, same, own]

theorem unmixed_of_increasing {log : List HeartbeatStep} {records : HeartbeatRecords}
    (run : HeartbeatRun settings log records)
    (increasing : ∀ issue,
      (starts issue log).Pairwise (fun start next => start.generation < next.generation)) :
    ((issued log).map runnerKey).Nodup := by
  rw [List.Nodup, List.pairwise_map, List.pairwise_iff_forall_sublist]
  intro start next both same
  have keys := runnerPrefix_injective same
  have rising := increasing next.issue
  rw [starts_issued run, List.pairwise_iff_forall_sublist] at rising
  have kept := both.filter (fun document => document.issue = next.issue)
  have less := rising (by simpa [keys.1] using kept)
  omega

/-- In a run with a clock that does not go back, what is in the directory is not of later. -/
theorem records_earlier {earlier later : List HeartbeatStep} {step : HeartbeatStep}
    (known : Consistent earlier step.before) (forward : Forward (earlier ++ step :: later)) :
    ∀ record ∈ step.before, record.lastActivityAt ≤ timestamp step.now := by
  intro record member
  rcases known.dated record member with ⟨other, before, stamped⟩
  unfold Forward at forward
  rw [List.map_append, List.map_cons, List.pairwise_append] at forward
  have ordered : other.now ≤ step.now :=
    forward.2.2 _ (List.mem_map_of_mem before) _ List.mem_cons_self
  rw [stamped]
  exact Int.floor_le_floor ordered

theorem starts_append_list (issue : Int) (log rest : List HeartbeatStep) :
    starts issue (log ++ rest) = starts issue log ++ starts issue rest := by
  simp [starts]

/-- A start that does not find the record gives the first generation again. -/
theorem finds_of_increasing {earlier later : List HeartbeatStep} {step : HeartbeatStep}
    {document : HeartbeatDocument} (known : Consistent earlier step.before)
    (ran : step.call.run settings step.before step.now = .ok (document, step.after))
    (answered : step.answer = .ok document)
    (increasing : (starts step.call.issue (earlier ++ step :: later)).Pairwise
      (fun start next => start.generation < next.generation)) :
    FindsRecord earlier step := by
  intro isStart started
  by_contra missing
  have none : findRecord step.before step.call.issue = none := by simpa using missing
  have generation := accepted_generation ran
  rw [if_pos isStart, none] at generation
  have first : document.generation = 1 := generation
  have parts : starts step.call.issue (earlier ++ step :: later) =
      starts step.call.issue earlier ++ document :: starts step.call.issue later := by
    rw [List.append_cons, starts_append_list, (documents_stored answered _ _).2]
    simp [isStart]
  rw [parts, List.pairwise_append] at increasing
  rcases List.exists_mem_of_ne_nil _ started with ⟨start, member⟩
  have less := increasing.2.2 start member document List.mem_cons_self
  have positive := known.positive _ start ((starts_sublist _ _).subset member)
  omega

theorem generation_le_last {items : List HeartbeatDocument} {last : HeartbeatDocument}
    (rising : items.Pairwise (fun start next => start.generation < next.generation))
    (isLast : items.getLast? = some last) :
    ∀ item ∈ items, item.generation ≤ last.generation := by
  rcases List.getLast?_eq_some_iff.mp isLast with ⟨earlier, rfl⟩
  intro item member
  rcases List.mem_append.mp member with before | own
  · exact le_of_lt ((List.pairwise_append.mp rising).2.2 item before last List.mem_cons_self)
  · rw [List.mem_singleton.mp own]

theorem increasing_of_finds {log : List HeartbeatStep} {records : HeartbeatRecords}
    (run : HeartbeatRun settings log records)
    (finds : ∀ earlier step later, log = earlier ++ step :: later →
      step.call.Passes step.before → FindsRecord earlier step) (issue : Int) :
    (starts issue log).Pairwise (fun start next => start.generation < next.generation) := by
  induction run with
  | empty => simp [starts]
  | @call log records reached call now ih =>
      have rising := ih (fun earlier step later split =>
        finds earlier step (later ++ [call.step settings records now]) (by simp [split]))
      have last := finds log (call.step settings records now) [] rfl
      have known := run_consistent reached
      rcases @step_cases settings records now call with
        ⟨error, rejected, _⟩ | ⟨document, accepted, ran⟩
      · rw [(documents_quiet (stored_of_rejected rejected issue)).2]
        exact rising
      · have grown : starts issue (log ++ [call.step settings records now]) = starts issue log ++
            (if call.isStart = true ∧ call.issue = issue then [document] else []) :=
          (documents_stored accepted issue log).2
        rw [grown]
        by_cases own : call.isStart = true ∧ call.issue = issue
        · rw [if_pos own, List.pairwise_append]
          refine ⟨rising, List.pairwise_singleton _ _, ?_⟩
          intro start member next new
          cases List.mem_singleton.mp new
          have found := last (passes_iff.mpr ⟨_, ran⟩) own.1
            (own.2.symm ▸ List.ne_nil_of_mem member)
          rcases Option.isSome_iff_exists.mp found with ⟨current, found⟩
          have found : findRecord records call.issue = some current := found
          have latest := known.latest issue current (own.2 ▸ found)
          rcases known.fenced issue current latest with ⟨newest, lastStart, fenced⟩
          have generation := accepted_generation ran
          rw [if_pos own.1, found] at generation
          have next : document.generation = newest.generation + 1 := by
            rw [generation, fenced, nextGeneration]
          have newestStart := generation_le_last rising lastStart start member
          omega
        · rw [if_neg own, List.append_nil]
          exact rising

/-- In every run with a clock that does not go back, the fence holds just when every accepted start
of an issue that was started before finds its record, and every accepted call's record is within
the limits. -/
theorem heartbeat_generations {log : List HeartbeatStep} {records : HeartbeatRecords}
    (run : HeartbeatRun settings log records) (forward : Forward log) :
    KeepsFence log ↔ ∀ earlier step later, log = earlier ++ step :: later →
      step.call.Passes step.before →
        FindsRecord earlier step ∧ LeavesRoom settings step.before step.call step.now := by
  constructor
  · intro fence earlier step later split passes
    rcases run_split run split with ⟨reached, played⟩
    have known := run_consistent reached
    rcases answer_of_passes played passes with ⟨document, answered⟩
    have ran := run_of_answer played answered
    have rising := fence.increasing step.call.issue
    rw [split] at rising
    refine ⟨finds_of_increasing known ran answered rising, ?_⟩
    have kept : document ∈ step.after := by
      apply fence.own step _ document
      · rw [answered]
        rfl
      · rw [split]
        simp
    exact (own_kept_iff known.onePerIssue (records_earlier known (split ▸ forward)) ran).mp kept
  · intro safe
    have increasing := increasing_of_finds run
      (fun earlier step later split passes => (safe earlier step later split passes).1)
    refine ⟨increasing, unmixed_of_increasing run increasing, ?_⟩
    intro step member document answered
    rcases List.append_of_mem member with ⟨earlier, later, split⟩
    rcases run_split run split with ⟨reached, played⟩
    have known := run_consistent reached
    have answered : step.answer = .ok document := by
      cases answer : step.answer with
      | error error => simp [answer, Except.toOption] at answered
      | ok other => simpa [answer, Except.toOption] using answered
    have ran := run_of_answer played answered
    have room := (safe earlier step later split (passes_iff.mpr ⟨_, ran⟩)).2
    exact (own_kept_iff known.onePerIssue (records_earlier known (split ▸ forward)) ran).mpr room

/-! ## A restart of a completed issue -/

instance (call : HeartbeatCall) : Decidable call.Ends :=
  match call with
  | .start _ _ _ _ _ => inferInstanceAs (Decidable False)
  | .update _ _ _ change =>
      inferInstanceAs (Decidable (∃ phase ∈ change.phase, terminalPhases.contains phase = true))

instance (earlier : List HeartbeatStep) (step : HeartbeatStep) :
    Decidable (FindsRecord earlier step) :=
  inferInstanceAs (Decidable (_ → _ → _))

instance (records : HeartbeatRecords) (call : HeartbeatCall) (now : ℚ) :
    Decidable (LeavesRoom settings records call now) :=
  decidable_of_iff ((rivals records call.issue now).length < settings.maxRecords ∧ (call.Ends →
      ((rivals records call.issue now).filter HeartbeatDocument.isTerminal).length <
          settings.maxTerminalRecords ∧
        now - timestamp now ≤ ((settings.terminalMaxAgeDays * 86400 : Int) : ℚ)))
    ⟨fun room => ⟨room.1, room.2⟩, fun room => ⟨room.within, room.terminal⟩⟩

theorem forall_split {α : Type} {items : List α} {P : List α → α → Prop}
    (all : ∀ index : Fin items.length, P (items.take index) (items.get index)) :
    ∀ earlier item later, items = earlier ++ item :: later → P earlier item := by
  intro earlier item later split
  subst split
  simpa using all ⟨earlier.length, by simp⟩

/-- An issue is completed, another one is started some days later, and then the first again. -/
def restartAfter (days : ℚ) : List (HeartbeatCall × ℚ) :=
  [(.start 4 "v1" 0 (String.ofList (List.replicate 64 'a')) "first", 100),
    (.update 4 "first" 1 ⟨some "completed", none, none, none⟩, 130),
    (.start 5 "v1" 0 (String.ofList (List.replicate 64 'a')) "other", 130 + days * 86400),
    (.start 4 "v1" 0 (String.ofList (List.replicate 64 'a')) "second", 160 + days * 86400)]

def restartLog (days : ℚ) : List HeartbeatStep :=
  playHeartbeats shippedHeartbeats (restartAfter days) []

theorem restart_forgets : ¬ ∀ log records, HeartbeatRun shippedHeartbeats log records →
    Forward log → KeepsFence log := by
  intro fences
  rcases @run_play shippedHeartbeats (restartAfter 31) [] [] .empty with ⟨last, run⟩
  have forward : Forward (restartLog 31) := by
    unfold Forward
    decide +kernel
  have rising := (fences (restartLog 31) last run forward).increasing 4
  have generations : (starts 4 (restartLog 31)).map HeartbeatDocument.generation = [1, 1] := by
    decide +kernel
  have less := rising.map HeartbeatDocument.generation (fun _ _ less => less)
  rw [generations] at less
  revert less
  decide

theorem heartbeat_generations_restart : KeepsFence (restartLog 29) := by
  rcases @run_play shippedHeartbeats (restartAfter 29) [] [] .empty with ⟨last, run⟩
  have forward : Forward (restartLog 29) := by
    unfold Forward
    decide +kernel
  have safe : ∀ index : Fin (restartLog 29).length,
      FindsRecord ((restartLog 29).take index) ((restartLog 29).get index) ∧
        LeavesRoom shippedHeartbeats ((restartLog 29).get index).before
          ((restartLog 29).get index).call ((restartLog 29).get index).now := by
    decide +kernel
  apply (@heartbeat_generations shippedHeartbeats (restartLog 29) last run forward).mpr
  intro earlier step later split _
  exact forall_split (P := fun earlier step => FindsRecord earlier step ∧
    LeavesRoom shippedHeartbeats step.before step.call step.now) safe earlier step later split

end FortifyLab.Supervisor
