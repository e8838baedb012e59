import FortifyLab.Supervisor.Routine
import FortifyLab.Supervisor.RunnerHeartbeat

/-! The runner's health as the supervisor sees it and as the heartbeat store reads it. -/

namespace FortifyLab.Supervisor

open Program

variable {settings : HeartbeatSettings} {document : HeartbeatDocument}

/-! ## What is written -/

/-- What `start` and `update` store of the fields that the supervisor checks. -/
structure WellWritten (document : HeartbeatDocument) : Prop where
  version : document.schemaVersion = 1
  digest : document.policyDigest.length = 64
  health : document.runnerHealth =
    if document.isTerminal then document.phase else "active"

theorem isDigest_length {text : String} (digest : isDigest text = true) : text.length = 64 := by
  unfold isDigest at digest
  rw [Bool.and_eq_true, decide_eq_true_eq] at digest
  exact digest.1

/-- A call stores one well written document, and keeps or removes the others. -/
theorem start_writes {records next : HeartbeatRecords} {issue policyGeneration : Int}
    {milestone policyDigest writerId : String} {now : ℚ}
    (started : startHeartbeat settings records issue milestone policyGeneration policyDigest
      writerId now = .ok (document, next)) :
    WellWritten document ∧ next = cleanup settings (writeRecord records document) now := by
  obtain ⟨_, _, rest⟩ := bind_ok.mp started
  obtain ⟨_, identity, rest⟩ := bind_ok.mp rest
  cases rest
  exact ⟨⟨rfl, isDigest_length (check_ok.mp identity).2, rfl⟩, rfl⟩

/-- The phase an update leaves is terminal just when its argument is. -/
theorem moveToPhase_spec {current moved : HeartbeatDocument} {phase : Option String} {now : ℚ}
    (going : current.isTerminal = false) (done : moveToPhase current phase now = .ok moved) :
    moved.schemaVersion = current.schemaVersion ∧ moved.policyDigest = current.policyDigest ∧
      storedHealth phase = if moved.isTerminal then moved.phase else "active" := by
  cases phase with
  | none =>
      cases done
      rw [going]
      exact ⟨rfl, rfl, rfl⟩
  | some phase =>
      unfold moveToPhase at done
      dsimp only at done
      split at done
      · next same =>
        cases done
        subst same
        simp [storedHealth, HeartbeatDocument.isTerminal]
      · split at done
        · cases done
        · cases done
          exact ⟨rfl, rfl, rfl⟩

theorem update_writes {records next : HeartbeatRecords} {issue generation : Int}
    {writerId : String} {change : HeartbeatChange} {now : ℚ}
    (kept : ∀ record ∈ records, WellWritten record)
    (updated : updateHeartbeat settings records issue writerId generation change now =
      .ok (document, next)) :
    WellWritten document ∧ next = cleanup settings (writeRecord records document) now := by
  obtain ⟨_, _, rest⟩ := bind_ok.mp updated
  split at rest
  · cases rest
  · next current found =>
    obtain ⟨_, _, rest⟩ := bind_ok.mp rest
    obtain ⟨_, going, rest⟩ := bind_ok.mp rest
    obtain ⟨moved, moves, rest⟩ := bind_ok.mp rest
    cases rest
    have spec := moveToPhase_spec (check_ok.mp going) moves
    have before := kept current (findRecord_mem found)
    refine ⟨⟨?_, ?_, spec.2.2⟩, rfl⟩
    · exact spec.1.trans before.version
    · exact (congrArg String.length spec.2.1).trans before.digest

theorem written_wellWritten {records : HeartbeatRecords} (written : Written settings records) :
    ∀ record ∈ records, WellWritten record := by
  induction written with
  | empty => simp
  | @call records next document made now reached answered ih =>
      have stored : WellWritten document ∧
          next = cleanup settings (writeRecord records document) now := by
        cases made with
        | start issue milestone policyGeneration policyDigest writerId =>
            exact start_writes answered
        | update issue writerId generation change => exact update_writes ih answered
      rw [stored.2]
      intro record member
      rcases mem_writeRecord (cleanup_subset member) with old | new
      · exact ih record old
      · rw [new]
        exact stored.1

/-! ## The two readings -/

theorem WellWritten.readable (well : WellWritten document) :
    document.runnerHealth ∈ readableHealths := by
  rw [well.health]
  by_cases terminal : document.isTerminal = true
  · rw [if_pos terminal]
    have known : document.phase = "completed" ∨ document.phase = "failed" := by
      simpa [HeartbeatDocument.isTerminal, terminalPhases] using terminal
    rcases known with same | same <;> rw [same] <;> decide
  · rw [if_neg terminal]
    decide

/-- The supervisor takes a written document as it is stored. -/
theorem readHeartbeat_written (well : WellWritten document) {issue : Nat}
    (named : document.issue = issue) : readHeartbeat (some document) issue = some document := by
  unfold readHeartbeat
  simp [well.version, well.digest, named, well.readable]

theorem classify_active_iff {age : ℚ} :
    (({} : ActivityThresholds).classify age = "active") ↔ age < 120 := by
  unfold ActivityThresholds.classify
  constructor
  · intro active
    by_contra late
    rw [not_lt] at late
    split at active
    · exact absurd active (by decide)
    · split at active
      · exact absurd active (by decide)
      · exact absurd active (by decide)
  · intro young
    rw [if_neg (by linarith), if_neg (by linarith), if_neg (by linarith)]

theorem readRecord_health (defaults : settings.thresholds = {}) (well : WellWritten document)
    (now : ℚ) :
    document.runnerHealth = (readRecord settings document now).runnerHealth ↔
      document.isTerminal = true ∨ now - document.lastActivityAt < 120 := by
  by_cases terminal : document.isTerminal = true
  · simp [readRecord, terminal]
  · have read : (readRecord settings document now).runnerHealth =
        ({} : ActivityThresholds).classify (max 0 (now - document.lastActivityAt)) := by
      simp [readRecord, terminal, defaults]
    rw [read, well.health, if_neg terminal, eq_comm, classify_active_iff, max_lt_iff]
    simp [terminal]

/-! ## The monitor -/

variable {library : Library} {config : Config}

theorem attestRunner_routine (heartbeat : HeartbeatDocument) (now : ℚ) :
    OnlyAsks Routine (attestRunner library heartbeat now).run := by
  unfold attestRunner
  split
  · exact only_call trivial
  · refine only_callBind trivial fun _ => ?_
    refine only_worldBind trivial fun policy => ?_
    split
    · exact only_callBind trivial fun _ => only_throw
    · exact only_pure

theorem announceStart_routine (issue : String) (number : Nat) (heartbeat : HeartbeatDocument) :
    OnlyAsks Routine (announceStart config issue number heartbeat).run := by
  refine only_callBind trivial fun known => ?_
  split
  · exact only_pure
  · exact only_callBind trivial fun title => notifyOnce_routine (by simp)

theorem announcePhase_routine (issue : String) (number : Nat) (heartbeat : HeartbeatDocument)
    (previousPhase : String) :
    OnlyAsks Routine (announcePhase config issue number heartbeat previousPhase).run := by
  unfold announcePhase
  split
  · exact notifyOnce_routine (by simp)
  · exact only_pure

/-- Only a stored health that is stalled is reported as stalled. -/
theorem announceHealth_routine (issue : String) (number : Nat) {heartbeat : HeartbeatDocument}
    (previousHealth : String) (now : ℚ)
    (going : stalledHealths.contains heartbeat.runnerHealth = false) :
    OnlyAsks Routine (announceHealth config issue number heartbeat previousHealth now).run := by
  simp only [announceHealth, going, Bool.false_eq_true, false_and, if_false]
  split
  · exact notifyOnce_routine (by simp)
  · exact only_pure

theorem storedTime_routine (key : String) : OnlyAsks Routine (storedTime library key).run := by
  refine only_callBind trivial fun text => ?_
  split
  · exact only_pure
  · split
    · exact only_pure
    · exact only_throw

theorem announceRoutine_routine (issue : String) (number : Nat) (heartbeat : HeartbeatDocument)
    (now : ℚ) : OnlyAsks Routine (announceRoutine library config issue number heartbeat now).run := by
  refine onlyAsks_bindExcept (storedTime_routine _) fun lastRoutine => ?_
  refine onlyAsks_bindExcept (storedTime_routine _) fun meaningfulAt => ?_
  split
  · refine only_callBind trivial fun watched => ?_
    split
    · refine onlyAsks_bindExcept statusText_routine fun text => ?_
      exact onlyAsks_bindExcept (notifyOnce_routine (by simp)) fun _ => only_call trivial
    · exact only_pure
  · exact only_pure

theorem observeRunner_routine (issue : String) (number : Nat) {heartbeat : HeartbeatDocument}
    (going : stalledHealths.contains heartbeat.runnerHealth = false) :
    OnlyAsks Routine (observeRunner library config issue number heartbeat).run := by
  refine only_worldBind trivial fun now => ?_
  refine onlyAsks_bindExcept (attestRunner_routine _ _) fun _ => ?_
  refine only_callBind trivial fun previousPhase => ?_
  refine only_callBind trivial fun previousHealth => ?_
  refine onlyAsks_bindExcept (announceStart_routine _ _ _) fun _ => ?_
  refine onlyAsks_bindExcept (announcePhase_routine _ _ _ _) fun _ => ?_
  refine onlyAsks_bindExcept (announceHealth_routine _ _ _ _ going) fun _ => ?_
  refine onlyAsks_bindExcept (announceRoutine_routine _ _ _ _) fun _ => ?_
  refine only_callBind trivial fun _ => ?_
  refine only_callBind trivial fun _ => ?_
  refine only_callBind trivial fun approvals => ?_
  split
  · exact updateStatusCard_routine _
  · exact only_pure

theorem WellWritten.going (well : WellWritten document) :
    stalledHealths.contains document.runnerHealth = false := by
  rw [well.health]
  by_cases terminal : document.isTerminal = true
  · rw [if_pos terminal]
    have known : document.phase = "completed" ∨ document.phase = "failed" := by
      simpa [HeartbeatDocument.isTerminal, terminalPhases] using terminal
    rcases known with same | same <;> rw [same] <;> decide
  · rw [if_neg terminal]
    decide

/-! ## Agreement -/

/-- The health that the monitor and the status card act on is the one that the store's
reader computes just for a terminal record, or while the activity is younger than two
minutes; and whatever its age, the monitor never reports a written record as stalled. -/
theorem same_health_iff (defaults : settings.thresholds = {}) {records : HeartbeatRecords}
    (written : Written settings records) (stored : document ∈ records) (issue : Nat)
    (named : document.issue = issue) :
    (∀ now : ℚ, (readHeartbeat (some document) issue).map HeartbeatDocument.runnerHealth =
        some (readRecord settings document now).runnerHealth ↔
      document.isTerminal = true ∨ now - document.lastActivityAt < 120) ∧
    ∀ (library : Library) (config : Config) (text : String),
      OnlyAsks Routine (observeRunner library config text issue document).run := by
  have well := written_wellWritten written document stored
  constructor
  · intro now
    rw [readHeartbeat_written well named, Option.map_some, Option.some.injEq]
    exact readRecord_health defaults well now
  · intro library config text
    exact observeRunner_routine text issue well.going

/-- Thresholds and retention as they are by default. -/
def defaultHeartbeats : HeartbeatSettings := ⟨{}, 100, 200, 30⟩

def someDigest : String := String.ofList (List.replicate 64 'a')

/-- The record of a runner that was started at time zero and wrote nothing since. -/
def silentRecord : HeartbeatDocument := startDocument 7 "v1" 0 someDigest "w" 1 0

theorem silent_written : Written defaultHeartbeats [silentRecord] := by
  have started : (HeartbeatCall.start 7 "v1" 0 someDigest "w").run defaultHeartbeats [] 0 =
      .ok (silentRecord, [silentRecord]) := by decide +kernel
  exact .call _ 0 .empty started

theorem same_health_young :
    (readHeartbeat (some silentRecord) 7).map HeartbeatDocument.runnerHealth =
      some (readRecord defaultHeartbeats silentRecord 60).runnerHealth :=
  ((same_health_iff rfl silent_written (by simp) 7 rfl).1 60).mpr (.inr (by decide +kernel))

/-- After half an hour of silence the reader says stalled, and the supervisor active; no
monitor pass reports the runner as stalled. -/
theorem silent_runner_active :
    Written defaultHeartbeats [silentRecord] ∧
      (readRecord defaultHeartbeats silentRecord 1800).runnerHealth = "stalled" ∧
      (readHeartbeat (some silentRecord) 7).map HeartbeatDocument.runnerHealth = some "active" ∧
      ∀ (library : Library) (config : Config) (text : String),
        OnlyAsks Routine (observeRunner library config text 7 silentRecord).run := by
  refine ⟨silent_written, ?_, ?_, ?_⟩
  · decide +kernel
  · decide +kernel
  · exact fun library config text => observeRunner_routine text 7 (by decide)

end FortifyLab.Supervisor
