import FortifyLab.Library.Trace
import FortifyLab.Recovery.Workers

/-! The complete runs of the two workers: what ended the `try` block, and which calls of
the adapter were made before. -/

namespace FortifyLab.Recovery

open Program

abbrev RecoveryExchange := Exchange RecoveryRequest RecoveryAnswer

variable (settings : Settings)

/-- The exchange raises: a statement or a call of the adapter fails, there is no complete
artifact of the profile, a scope has no checksum or the evidence is not accepted. -/
def fails : RecoveryExchange → Bool
  | ⟨.statement, answer⟩ => match (answer : Except Raised Unit) with
      | .error _ => true
      | .ok _ => false
  | ⟨.readArtifact _, answer⟩ => match (answer : Option (Bool × Artifact)) with
      | some (true, artifact) => decide (artifact.profileId ≠ settings.profileId)
      | _ => true
  | ⟨.adapterBackup _ _, answer⟩ => match (answer : Except Raised Value).bind checksumOf with
      | .error _ => true
      | .ok _ => false
  | ⟨.adapterRestore _ _, answer⟩ => match (answer : Except Raised Unit) with
      | .error _ => true
      | .ok _ => false
  | ⟨.adapterVerify _ _, answer⟩ => match (answer : Except Raised (List Value)).bind judge with
      | .error _ => true
      | .ok _ => false
  | _ => false

/-- A cancellation check that is answered yes. -/
def interrupts : RecoveryExchange → Bool
  | ⟨.isCancelled _, answer⟩ => (answer : Bool)
  | _ => false

/-- The scope of a call of the adapter. -/
def startedScope : RecoveryExchange → Option Scope
  | ⟨.adapterBackup _ scope, _⟩ => some scope
  | ⟨.adapterRestore _ scope, _⟩ => some scope
  | _ => none

def startedScopes (exchanges : List RecoveryExchange) : List Scope :=
  exchanges.filterMap startedScope

/-- A verification: of which backup, by which checks, and its answer. -/
structure Verdict where
  backupId : String
  checks : List String
  answer : Except Raised (List Value)

def verdict : RecoveryExchange → Option Verdict
  | ⟨.adapterVerify backupId checks, answer⟩ => some ⟨backupId, checks, answer⟩
  | _ => none

def verdicts (exchanges : List RecoveryExchange) : List Verdict :=
  exchanges.filterMap verdict

/-- Nothing raised, and no check was answered yes. -/
def Quiet (exchanges : List RecoveryExchange) : Prop :=
  ∀ exchange ∈ exchanges, fails settings exchange = false ∧ interrupts exchange = false

theorem Quiet.append {early late : List RecoveryExchange} (first : Quiet settings early)
    (second : Quiet settings late) : Quiet settings (early ++ late) := by
  intro exchange member
  rcases List.mem_append.mp member with before | after
  · exact first exchange before
  · exact second exchange after

/-- How a part of a `try` block ends: having called the adapter for the planned scopes,
or at its last exchange, which is a check answered yes or raises. -/
structure Halted (before : List Scope) (exchanges : List RecoveryExchange) (after : List Scope) :
    Prop where
  quiet : Quiet settings exchanges
  completed : after = before ++ startedScopes exchanges

inductive Halts (planned before : List Scope) (exchanges : List RecoveryExchange) :
    Option Raised → List Scope → Prop
  | finished {after : List Scope} (halted : Halted settings before exchanges after)
      (all : startedScopes exchanges = planned) : Halts planned before exchanges none after
  | interrupted {front : List RecoveryExchange} {last : RecoveryExchange} {raised : Raised}
      {after : List Scope} (split : exchanges = front ++ [last])
      (halted : Halted settings before front after) (interrupted : interrupts last = true)
      (silent : fails settings last = false) : Halts planned before exchanges (some raised) after
  | failed {front : List RecoveryExchange} {last : RecoveryExchange} {raised : Raised}
      {after : List Scope} (split : exchanges = front ++ [last]) (quiet : Quiet settings front)
      (failing : fails settings last = true) (silent : interrupts last = false) :
      Halts planned before exchanges (some raised) after

variable {settings}

theorem startedScopes_append (early late : List RecoveryExchange) :
    startedScopes (early ++ late) = startedScopes early ++ startedScopes late :=
  List.filterMap_append

theorem Halted.append {before middle after : List Scope} {early late : List RecoveryExchange}
    (first : Halted settings before early middle) (second : Halted settings middle late after) :
    Halted settings before (early ++ late) after where
  quiet := first.quiet.append settings second.quiet
  completed := by
    rw [second.completed, first.completed, startedScopes_append, List.append_assoc]

/-- One part of a `try` block after another. -/
theorem Halts.after {planned more before middle last : List Scope}
    {early late : List RecoveryExchange} {raised : Option Raised}
    (first : Halts settings planned before early none middle)
    (second : Halts settings more middle late raised last) :
    Halts settings (planned ++ more) before (early ++ late) raised last := by
  cases first with
  | finished start all =>
      cases second with
      | finished halted others =>
          exact .finished (start.append halted) (by rw [startedScopes_append, all, others])
      | interrupted split halted interrupted silent =>
          refine .interrupted ?_ (start.append halted) interrupted silent
          rw [split, List.append_assoc]
      | failed split quiet failing silent =>
          refine .failed ?_ (start.quiet.append settings quiet) failing silent
          rw [split, List.append_assoc]

theorem Halts.replan {planned before after : List Scope} {exchanges : List RecoveryExchange}
    {raised : Raised} (halts : Halts settings planned before exchanges (some raised) after)
    (other : List Scope) (reason : Raised) :
    Halts settings other before exchanges (some reason) after := by
  cases halts with
  | interrupted split halted interrupted silent =>
      exact .interrupted split halted interrupted silent
  | failed split quiet failing silent => exact .failed split quiet failing silent

/-! ## The parts of the workers -/

theorem ends_execute (request : RecoveryRequest) :
    Ends (fun exchanges result =>
      (∃ raised, exchanges = [⟨.statement, (.error raised : Except Raised Unit)⟩] ∧
        result = .error raised) ∨
      ∃ answer, exchanges = [⟨.statement, (.ok () : Except Raised Unit)⟩, ⟨request, answer⟩] ∧
        result = .ok answer) (execute request) := by
  apply ends_ask
  intro answer
  cases (answer : Except Raised Unit) with
  | error raised => exact ends_done (.inl ⟨raised, rfl, rfl⟩)
  | ok value =>
      apply ends_ask
      intro answer
      exact ends_done (.inr ⟨answer, rfl, rfl⟩)

theorem quiet_nil : Quiet settings [] := by
  simp [Quiet]

theorem quiet_cons {exchange : RecoveryExchange} {rest : List RecoveryExchange}
    (silent : fails settings exchange = false ∧ interrupts exchange = false)
    (quiet : Quiet settings rest) : Quiet settings (exchange :: rest) := by
  intro other member
  rcases List.mem_cons.mp member with rfl | inside
  · exact silent
  · exact quiet other inside

/-- A part of a `try` block without the verification. -/
structure Part (settings : Settings) (planned before : List Scope)
    (exchanges : List RecoveryExchange) (raised : Option Raised) (after : List Scope) : Prop where
  halts : Halts settings planned before exchanges raised after
  unjudged : verdicts exchanges = []

theorem verdicts_append (early late : List RecoveryExchange) :
    verdicts (early ++ late) = verdicts early ++ verdicts late := List.filterMap_append

theorem Part.after {planned more before middle last : List Scope}
    {early late : List RecoveryExchange} {raised : Option Raised}
    (first : Part settings planned before early none middle)
    (second : Part settings more middle late raised last) :
    Part settings (planned ++ more) before (early ++ late) raised last where
  halts := first.halts.after second.halts
  unjudged := by rw [verdicts_append, first.unjudged, second.unjudged, List.append_nil]

theorem Part.replan {planned before after : List Scope} {exchanges : List RecoveryExchange}
    {raised : Raised} (part : Part settings planned before exchanges (some raised) after)
    (other : List Scope) (reason : Raised) :
    Part settings other before exchanges (some reason) after :=
  ⟨part.halts.replan other reason, part.unjudged⟩

variable (settings)

/-- A save that took. -/
def stored (now : String) (operation : RecoveryOperation) : List RecoveryExchange :=
  [⟨.now, now⟩, ⟨.statement, (.ok () : Except Raised Unit)⟩, ⟨.putOperation operation, ()⟩]

/-- A save that the store refused. -/
def refused (now : String) (raised : Raised) : List RecoveryExchange :=
  [⟨.now, now⟩, ⟨.statement, (.error raised : Except Raised Unit)⟩]

theorem ends_saved (document : RecoveryOperation) :
    Ends (fun exchanges outcome => ∃ now, outcome.2 = { document with updatedAt := now } ∧
        ((∃ raised, outcome.1 = some raised ∧ exchanges = refused now raised) ∨
          (outcome.1 = none ∧ exchanges = stored now outcome.2)))
      (save document) := by
  unfold save
  apply ends_perform
  intro now
  refine ends_bind (ends_execute _) ?_
  intro early value executed
  rcases executed with ⟨raised, rfl, rfl⟩ | ⟨answer, rfl, rfl⟩
  · exact ends_done ⟨now, rfl, .inl ⟨raised, rfl, rfl⟩⟩
  · exact ends_done ⟨now, rfl, .inr ⟨rfl, rfl⟩⟩

theorem quiet_stored (now : String) (operation : RecoveryOperation) :
    Quiet settings (stored now operation) :=
  quiet_cons ⟨rfl, rfl⟩ (quiet_cons ⟨rfl, rfl⟩ (quiet_cons ⟨rfl, rfl⟩ quiet_nil))

theorem ends_save (document : RecoveryOperation) :
    Ends (fun exchanges outcome => Part settings [] document.completedScopes exchanges outcome.1
        outcome.2.completedScopes)
      (save document) := by
  refine (ends_saved document).mono ?_
  intro exchanges outcome saved
  rcases outcome with ⟨result, operation⟩
  rcases saved with ⟨now, same, outcome⟩
  cases same
  rcases outcome with ⟨raised, rfl, rfl⟩ | ⟨rfl, rfl⟩
  · have quiet : Quiet settings [⟨.now, now⟩] := quiet_cons ⟨rfl, rfl⟩ quiet_nil
    exact ⟨.failed rfl quiet rfl rfl, rfl⟩
  · exact ⟨.finished ⟨quiet_stored settings now _, (List.append_nil _).symm⟩ rfl, rfl⟩

theorem ends_enterScope (operationId : String) (scope : Scope) (operation : RecoveryOperation) :
    Ends (fun exchanges outcome => Part settings [] operation.completedScopes exchanges outcome.1
        outcome.2.completedScopes)
      (enterScope operationId scope operation) := by
  unfold enterScope checkCancelled
  apply ends_perform
  intro cancelled
  cases (cancelled : Bool) with
  | true =>
      apply ends_done
      have quiet : Quiet settings [] := quiet_nil
      refine ⟨.interrupted rfl ⟨quiet, ?_⟩ rfl rfl, rfl⟩
      exact (List.append_nil _).symm
  | false =>
      refine (ends_save settings { operation with currentScope := some scope }).mono ?_
      intro exchanges outcome part
      have check : Part settings [] operation.completedScopes
          [⟨.isCancelled operationId, (false : Bool)⟩] none operation.completedScopes :=
        ⟨.finished ⟨quiet_cons ⟨rfl, rfl⟩ quiet_nil, (List.append_nil _).symm⟩ rfl, rfl⟩
      exact check.after part

/-- The rounds of a loop, one for each scope, in their order. -/
theorem ends_eachScope {P : Type} {round : Scope → P → RecoveryProgram (Option Raised × P)}
    (completed : P → List Scope)
    (each : ∀ scope progress, Ends (fun exchanges outcome =>
      Part settings [scope] (completed progress) exchanges outcome.1 (completed outcome.2))
      (round scope progress)) (scopes : List Scope) (progress : P) :
    Ends (fun exchanges outcome =>
      Part settings scopes (completed progress) exchanges outcome.1 (completed outcome.2))
      (eachScope round scopes progress) := by
  induction scopes generalizing progress with
  | nil =>
      apply ends_done
      exact ⟨.finished ⟨quiet_nil, (List.append_nil _).symm⟩ rfl, rfl⟩
  | cons scope rest ih =>
      refine ends_bind (each scope progress) ?_
      intro early outcome part
      rcases outcome with ⟨raised, reached⟩
      cases raised with
      | some raised =>
          apply ends_done
          rw [List.append_nil]
          exact part.replan _ _
      | none =>
          refine (ih reached).mono ?_
          intro late outcome others
          exact part.after others

/-! ## The backup worker -/

theorem ends_recordChecksum (scope : Scope) (progress : BackupProgress)
    (answer : Except Raised Value) :
    Ends (fun exchanges outcome => Part settings [scope] progress.operation.completedScopes
        (⟨.adapterBackup progress.artifact.id scope, answer⟩ :: exchanges) outcome.1
        outcome.2.operation.completedScopes)
      (recordChecksum scope progress answer) := by
  unfold recordChecksum
  cases judged : answer.bind checksumOf with
  | error raised =>
      apply ends_done
      have split : [⟨.adapterBackup progress.artifact.id scope, answer⟩] =
          [] ++ [(⟨.adapterBackup progress.artifact.id scope, answer⟩ : RecoveryExchange)] := rfl
      refine ⟨.failed split quiet_nil ?_ rfl, rfl⟩
      simp [fails, judged]
  | ok checksum =>
      refine ends_bind (ends_save settings _) ?_
      intro early saved part
      apply ends_done
      have call : Part settings [scope] progress.operation.completedScopes
          [⟨.adapterBackup progress.artifact.id scope, answer⟩] none
          (progress.operation.complete scope).completedScopes := by
        refine ⟨.finished ⟨quiet_cons ⟨?_, rfl⟩ quiet_nil, rfl⟩ rfl, rfl⟩
        simp [fails, judged]
      rw [List.append_nil]
      exact call.after part

theorem ends_backupScope (operationId : String) (scope : Scope) (progress : BackupProgress) :
    Ends (fun exchanges outcome => Part settings [scope] progress.operation.completedScopes
        exchanges outcome.1 outcome.2.operation.completedScopes)
      (backupScope operationId scope progress) := by
  unfold backupScope
  refine ends_bind (ends_enterScope settings operationId scope progress.operation) ?_
  intro early entered part
  rcases entered with ⟨raised, operation⟩
  cases raised with
  | some raised =>
      apply ends_done
      rw [List.append_nil]
      exact part.replan _ _
  | none =>
      apply ends_perform
      intro answer
      refine (ends_recordChecksum settings scope { progress with operation := operation }
        answer).mono ?_
      intro late outcome called
      exact part.after called

theorem ends_publish (progress : BackupProgress) :
    Ends (fun exchanges outcome => Part settings [] progress.operation.completedScopes exchanges
        outcome.1 outcome.2.operation.completedScopes)
      (publish settings progress) := by
  unfold publish
  refine ends_bind (ends_execute _) ?_
  intro early value executed
  rcases executed with ⟨raised, rfl, rfl⟩ | ⟨answer, rfl, rfl⟩
  · apply ends_done
    exact ⟨.failed rfl quiet_nil rfl rfl, rfl⟩
  · apply ends_done
    refine ⟨.finished ⟨?_, (List.append_nil _).symm⟩ rfl, rfl⟩
    exact quiet_cons ⟨rfl, rfl⟩ (quiet_cons ⟨rfl, rfl⟩ quiet_nil)

theorem ends_tryBackup (operationId : String) (progress : BackupProgress) :
    Ends (fun exchanges outcome => Part settings backupScopes progress.operation.completedScopes
        exchanges outcome.1 outcome.2.operation.completedScopes)
      (tryBackup settings operationId progress) := by
  unfold tryBackup
  refine ends_bind (ends_save settings { progress.operation with state := .running }) ?_
  intro early started part
  rcases started with ⟨raised, operation⟩
  cases raised with
  | some raised =>
      apply ends_done
      rw [List.append_nil]
      exact part.replan _ _
  | none =>
      have rounds := ends_eachScope settings (fun progress => progress.operation.completedScopes)
        (ends_backupScope settings operationId) backupScopes { progress with operation := operation }
      refine ends_bind rounds ?_
      intro late outcome others
      rcases outcome with ⟨raised, reached⟩
      cases raised with
      | some raised =>
          apply ends_done
          rw [List.append_nil]
          exact part.after others
      | none =>
          refine (ends_publish settings reached).mono ?_
          intro last outcome published
          have all := others.after published
          rw [List.append_nil] at all
          exact part.after all

/-! ## The restore worker -/

theorem ends_restoreScope (operationId backupId : String) (scope : Scope)
    (operation : RecoveryOperation) :
    Ends (fun exchanges outcome => Part settings [scope] operation.completedScopes
        exchanges outcome.1 outcome.2.completedScopes)
      (restoreScope operationId backupId scope operation) := by
  unfold restoreScope
  refine ends_bind (ends_enterScope settings operationId scope operation) ?_
  intro early entered part
  rcases entered with ⟨raised, reached⟩
  cases raised with
  | some raised =>
      apply ends_done
      rw [List.append_nil]
      exact part.replan _ _
  | none =>
      apply ends_perform
      intro answer
      cases (answer : Except Raised Unit) with
      | error raised =>
          apply ends_done
          have call : Part settings [scope] reached.completedScopes
              [⟨.adapterRestore backupId scope, (.error raised : Except Raised Unit)⟩]
              (some raised) reached.completedScopes := ⟨.failed rfl quiet_nil rfl rfl, rfl⟩
          exact part.after call
      | ok value =>
          refine (ends_save settings (reached.complete scope)).mono ?_
          intro late saved others
          have call : Part settings [scope] reached.completedScopes
              [⟨.adapterRestore backupId scope, (.ok value : Except Raised Unit)⟩] none
              (reached.complete scope).completedScopes :=
            ⟨.finished ⟨quiet_cons ⟨rfl, rfl⟩ quiet_nil, rfl⟩ rfl, rfl⟩
          exact part.after (call.after others)

/-- What a restore's `try` block has heard from the verification. -/
def Judged (backupId : String) (exchanges : List RecoveryExchange) : Option Raised → Prop
  | none => ∃ evidence, verdicts exchanges = [⟨backupId, requestedChecks, .ok evidence⟩] ∧
      judge evidence = .ok ()
  | some _ => ∀ backupId checks evidence, ⟨backupId, checks, .ok evidence⟩ ∈ verdicts exchanges →
      judge evidence ≠ .ok ()

theorem Judged.after {backupId : String} {early late : List RecoveryExchange}
    {raised : Option Raised} (unjudged : verdicts early = [])
    (judged : Judged backupId late raised) : Judged backupId (early ++ late) raised := by
  cases raised with
  | none =>
      rcases judged with ⟨evidence, heard, passed⟩
      exact ⟨evidence, by rw [verdicts_append, unjudged, heard, List.nil_append], passed⟩
  | some raised =>
      intro other checks evidence heard
      rw [verdicts_append, unjudged, List.nil_append] at heard
      exact judged other checks evidence heard

theorem judged_of_unjudged {backupId : String} {exchanges : List RecoveryExchange}
    {raised : Raised} (unjudged : verdicts exchanges = []) :
    Judged backupId exchanges (some raised) := by
  intro other checks evidence heard
  rw [unjudged] at heard
  cases heard

theorem ends_verifyRestore (backupId : String) (operation : RecoveryOperation) :
    Ends (fun exchanges outcome => Halts settings [] operation.completedScopes exchanges outcome.1
        outcome.2.completedScopes ∧ Judged backupId exchanges outcome.1)
      (verifyRestore settings backupId operation) := by
  unfold verifyRestore
  apply ends_perform
  intro answer
  cases answered : (answer : Except Raised (List Value)) with
  | error raised =>
      apply ends_done
      refine ⟨.failed rfl quiet_nil rfl rfl, ?_⟩
      intro other checks evidence heard
      cases List.mem_singleton.mp heard
  | ok evidence =>
      cases judged : judge evidence with
      | error raised =>
          simp only [judged]
          apply ends_done
          refine ⟨.failed rfl quiet_nil ?_ rfl, ?_⟩
          · simp [fails, Except.bind, judged]
          · intro other checks evidence heard
            cases List.mem_singleton.mp heard
            rw [judged]
            exact nofun
      | ok value =>
          simp only [judged]
          apply ends_done
          refine ⟨.finished ⟨quiet_cons ⟨?_, rfl⟩ quiet_nil, (List.append_nil _).symm⟩ rfl, ?_⟩
          · simp [fails, Except.bind, judged]
          · exact ⟨evidence, rfl, judged⟩

theorem ends_verifying (backupId : String) (operation : RecoveryOperation) :
    Ends (fun exchanges outcome => Halts settings [] operation.completedScopes exchanges outcome.1
        outcome.2.completedScopes ∧ Judged backupId exchanges outcome.1)
      (verifying settings backupId operation) := by
  unfold verifying
  refine ends_bind (ends_save settings { operation with state := .verifying }) ?_
  intro early saved part
  rcases saved with ⟨raised, reached⟩
  cases raised with
  | some raised =>
      apply ends_done
      rw [List.append_nil]
      exact ⟨part.halts, judged_of_unjudged part.unjudged⟩
  | none =>
      refine (ends_verifyRestore settings backupId reached).mono ?_
      intro late outcome verified
      exact ⟨part.halts.after verified.1, verified.2.after part.unjudged⟩

theorem ends_restoreScopes (operationId backupId : String) (operation : RecoveryOperation) :
    Ends (fun exchanges outcome => Halts settings backupScopes.reverse operation.completedScopes
        exchanges outcome.1 outcome.2.completedScopes ∧ Judged backupId exchanges outcome.1)
      (restoreScopes settings operationId backupId operation) := by
  unfold restoreScopes
  refine ends_bind (ends_save settings { operation with state := .running }) ?_
  intro early started part
  rcases started with ⟨raised, reached⟩
  cases raised with
  | some raised =>
      apply ends_done
      rw [List.append_nil]
      exact ⟨part.halts.replan _ _, judged_of_unjudged part.unjudged⟩
  | none =>
      have rounds := ends_eachScope settings RecoveryOperation.completedScopes
        (ends_restoreScope settings operationId backupId) backupScopes.reverse reached
      refine ends_bind rounds ?_
      intro late outcome others
      have both := part.after others
      rcases outcome with ⟨raised, restored⟩
      cases raised with
      | some raised =>
          apply ends_done
          rw [List.append_nil]
          exact ⟨both.halts, judged_of_unjudged both.unjudged⟩
      | none =>
          refine (ends_verifying settings backupId restored).mono ?_
          intro last outcome verified
          rw [← List.append_assoc]
          have all := both.halts.after verified.1
          rw [List.append_nil] at all
          exact ⟨all, verified.2.after both.unjudged⟩

theorem ends_completeArtifact (backupId : String) :
    Ends (fun exchanges result =>
      match result with
      | .ok artifact => exchanges = [⟨.statement, (.ok () : Except Raised Unit)⟩,
          ⟨.readArtifact backupId, (some (true, artifact) : Option (Bool × Artifact))⟩]
      | .error _ => ∃ front last, exchanges = front ++ [last] ∧ Quiet settings front ∧
          fails settings last = true ∧ interrupts last = false ∧ verdicts exchanges = [])
      (completeArtifact backupId) := by
  unfold completeArtifact
  refine ends_bind (ends_execute _) ?_
  intro early value executed
  rcases executed with ⟨raised, rfl, rfl⟩ | ⟨answer, rfl, rfl⟩
  · apply ends_done
    exact ⟨[], _, rfl, quiet_nil, rfl, rfl, rfl⟩
  · have start : Quiet settings [⟨.statement, (.ok () : Except Raised Unit)⟩] :=
      quiet_cons ⟨rfl, rfl⟩ quiet_nil
    cases (answer : Option (Bool × Artifact)) with
    | none =>
        apply ends_done
        exact ⟨_, _, rfl, start, rfl, rfl, rfl⟩
    | some row =>
        rcases row with ⟨complete, artifact⟩
        cases complete with
        | false =>
            apply ends_done
            exact ⟨_, _, rfl, start, rfl, rfl, rfl⟩
        | true => exact ends_done rfl

theorem ends_tryRestore (operationId backupId : String) (operation : RecoveryOperation) :
    Ends (fun exchanges outcome => Halts settings backupScopes.reverse operation.completedScopes
        exchanges outcome.1 outcome.2.completedScopes ∧ Judged backupId exchanges outcome.1)
      (tryRestore settings operationId backupId operation) := by
  unfold tryRestore
  refine ends_bind (ends_completeArtifact settings backupId) ?_
  intro early result found
  cases result with
  | error raised =>
      rcases found with ⟨front, last, split, quiet, failing, silent, unjudged⟩
      apply ends_done
      rw [List.append_nil]
      exact ⟨.failed split quiet failing silent, judged_of_unjudged unjudged⟩
  | ok artifact =>
      subst found
      have start : Quiet settings [⟨.statement, (.ok () : Except Raised Unit)⟩] :=
        quiet_cons ⟨rfl, rfl⟩ quiet_nil
      by_cases matching : artifact.profileId = settings.profileId
      · simp only [if_pos matching]
        refine (ends_restoreScopes settings operationId backupId operation).mono ?_
        intro late outcome restored
        have read : Part settings [] operation.completedScopes
            [⟨.statement, (.ok () : Except Raised Unit)⟩,
              ⟨.readArtifact backupId, (some (true, artifact) : Option (Bool × Artifact))⟩]
            none operation.completedScopes := by
          refine ⟨.finished ⟨quiet_cons ⟨rfl, rfl⟩ (quiet_cons ⟨?_, rfl⟩ quiet_nil),
            (List.append_nil _).symm⟩ rfl, rfl⟩
          simp [fails, matching]
        exact ⟨read.halts.after restored.1, restored.2.after read.unjudged⟩
      · simp only [if_neg matching]
        apply ends_done
        refine ⟨.failed rfl start ?_ rfl, judged_of_unjudged rfl⟩
        simp [fails, matching]

/-! ## The end of a worker -/

/-- The check of the `except` block. -/
def handled (operationId : String) (raised : Option Raised) (state : RecoveryState) :
    List RecoveryExchange :=
  match raised with
  | none => []
  | some _ => [⟨.isCancelled operationId, (state == .cancelled : Bool)⟩]

/-- The state after the `try` block, and whether it raised. -/
def Concluded (raised : Option Raised) (state : RecoveryState) : Prop :=
  match raised with
  | none => state = .succeeded
  | some _ => state = .cancelled ∨ state = .failed

theorem ends_conclude (operationId boundary fallback : String) (raised : Option Raised)
    (operation : RecoveryOperation) :
    Ends (fun exchanges result => exchanges = handled operationId raised result.state ∧
        Concluded raised result.state ∧ result.completedScopes = operation.completedScopes)
      (conclude operationId boundary fallback raised operation) := by
  cases raised with
  | none => exact ends_done ⟨rfl, rfl, rfl⟩
  | some raised =>
      apply ends_perform
      intro cancelled
      cases (cancelled : Bool) with
      | true => exact ends_done ⟨rfl, .inl rfl, rfl⟩
      | false => exact ends_done ⟨rfl, .inr rfl, rfl⟩

theorem ends_finish (operation : RecoveryOperation) :
    Ends (fun exchanges result => ∀ last, result = some last →
        (∃ now, exchanges = stored now last) ∧ last.state = operation.state ∧
        last.completedScopes = operation.completedScopes)
      (finish operation) := by
  unfold finish
  refine ends_bind (ends_saved { operation with currentScope := none }) ?_
  intro early outcome saved
  rcases outcome with ⟨result, reached⟩
  rcases saved with ⟨now, same, outcome⟩
  cases same
  apply ends_done
  intro last found
  rcases outcome with ⟨raised, rfl, rfl⟩ | ⟨rfl, rfl⟩
  · cases found
  · cases found
    exact ⟨⟨now, List.append_nil _⟩, rfl, rfl⟩

/-- A complete run of a worker: what comes before its `try` block, the block, and what
follows it. -/
structure Worked (settings : Settings) (planned before : List Scope) (operationId : String)
    (opening body : List RecoveryExchange) (raised : Option Raised) (now : String)
    (operation : RecoveryOperation) (exchanges : List RecoveryExchange) : Prop where
  split : exchanges = opening ++ (body ++
    (handled operationId raised operation.state ++ stored now operation))
  quiet : Quiet settings opening
  unstarted : startedScopes opening = []
  unjudged : verdicts opening = []
  halts : Halts settings planned before body raised operation.completedScopes
  concluded : Concluded raised operation.state

/-- What follows the `try` block of either worker. -/
theorem ends_conclusion {planned before : List Scope} {raised : Option Raised}
    {operationId : String} {body : List RecoveryExchange} (boundary fallback : String)
    {operation : RecoveryOperation}
    (halts : Halts settings planned before body raised operation.completedScopes) :
    Ends (fun exchanges result => ∀ last, result = some last →
        ∃ now, exchanges = handled operationId raised last.state ++ stored now last ∧
          Halts settings planned before body raised last.completedScopes ∧
          Concluded raised last.state)
      (conclude operationId boundary fallback raised operation >>= finish) := by
  refine ends_bind (ends_conclude operationId boundary fallback raised operation) ?_
  intro early concluded outcome
  rcases outcome with ⟨rfl, state, scopes⟩
  refine (ends_finish concluded).mono ?_
  intro late result finished last same
  rcases finished last same with ⟨⟨now, rfl⟩, states, completed⟩
  rw [states, completed, scopes]
  exact ⟨now, rfl, halts, state⟩

/-- Reading the operation's row. -/
def read (operationId : String) (operation : RecoveryOperation) : List RecoveryExchange :=
  [⟨.statement, (.ok () : Except Raised Unit)⟩,
    ⟨.readOperation operationId, (some operation : Option RecoveryOperation)⟩]

theorem ends_runBackup (operationId backupId : String) :
    Ends (fun exchanges result => ∀ last, result = some last →
        ∃ before opening body raised now,
          Worked settings backupScopes before operationId opening body raised now last exchanges)
      (runBackup settings operationId backupId) := by
  unfold runBackup
  refine ends_bind (ends_execute _) ?_
  intro early value executed
  rcases executed with ⟨raised, rfl, rfl⟩ | ⟨answer, rfl, rfl⟩
  · apply ends_done
    intro last same
    cases same
  · cases (answer : Option RecoveryOperation) with
    | none =>
        apply ends_done
        intro last same
        cases same
    | some operation =>
        unfold workBackup
        refine ends_bind (ends_execute _) ?_
        intro put value executed
        rcases executed with ⟨raised, rfl, rfl⟩ | ⟨answer, rfl, rfl⟩
        · apply ends_done
          intro last same
          cases same
        · refine ends_bind (ends_tryBackup settings operationId
            ⟨operation, newArtifact settings backupId operation.createdAt⟩) ?_
          intro body outcome tried
          refine (ends_conclusion settings backupBoundary backupFallback tried.halts).mono ?_
          intro late result concluded last same
          rcases concluded last same with ⟨now, rfl, halts, state⟩
          refine ⟨_, read operationId operation ++ [⟨.statement, (.ok () : Except Raised Unit)⟩,
            ⟨.putArtifact (newArtifact settings backupId operation.createdAt) false, answer⟩],
            body, outcome.1, now, ?_, ?_, rfl, rfl, halts, state⟩
          · simp [read]
          · exact quiet_cons ⟨rfl, rfl⟩ (quiet_cons ⟨rfl, rfl⟩ (quiet_cons ⟨rfl, rfl⟩
              (quiet_cons ⟨rfl, rfl⟩ quiet_nil)))

theorem ends_runRestore (operationId backupId : String) :
    Ends (fun exchanges result => ∀ last, result = some last →
        ∃ before opening body raised now,
          Worked settings backupScopes.reverse before operationId opening body raised now last
            exchanges ∧ Judged backupId body raised)
      (runRestore settings operationId backupId) := by
  unfold runRestore
  refine ends_bind (ends_execute _) ?_
  intro early value executed
  rcases executed with ⟨raised, rfl, rfl⟩ | ⟨answer, rfl, rfl⟩
  · apply ends_done
    intro last same
    cases same
  · cases (answer : Option RecoveryOperation) with
    | none =>
        apply ends_done
        intro last same
        cases same
    | some operation =>
        unfold workRestore
        refine ends_bind (ends_tryRestore settings operationId backupId operation) ?_
        intro body outcome tried
        refine (ends_conclusion settings restoreBoundary restoreFallback tried.1).mono ?_
        intro late result concluded last same
        rcases concluded last same with ⟨now, rfl, halts, state⟩
        refine ⟨_, read operationId operation, body, outcome.1, now,
          ⟨rfl, ?_, rfl, rfl, halts, state⟩, tried.2⟩
        exact quiet_cons ⟨rfl, rfl⟩ (quiet_cons ⟨rfl, rfl⟩ quiet_nil)

end FortifyLab.Recovery
