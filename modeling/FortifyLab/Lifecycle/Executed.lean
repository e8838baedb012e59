import FortifyLab.Library.Trace
import FortifyLab.Lifecycle.Run

/-! What a complete run of `_run` calls and reports, whatever the adapter, the verifier and
the clock answer and whenever it is cancelled. -/

namespace FortifyLab.Lifecycle

open Registry Program

/-- A call of the adapter or of the verifier. -/
inductive AdapterCall where
  | execute (step : Step)
  | verify (componentId : ComponentId) (checkId : String)
  deriving DecidableEq

/-- What a run shows of a step: a call with what it gave, and the two events. -/
inductive Mark where
  | called (call : AdapterCall) (result : Except Raised Bool)
  | succeeded (key : StepKey) (attempt : Nat)
  | failed (key : StepKey) (attempt : Nat) (retrying : Bool)

abbrev RunExchange := Exchange Request Answer

def mark : RunExchange → Option Mark
  | ⟨.execute _ step _, answer⟩ =>
      some (.called (.execute step) ((answer : Except Raised Unit).map (fun _ => true)))
  | ⟨.verify _ componentId checkId _, answer⟩ => some (.called (.verify componentId checkId) answer)
  | ⟨.addEvent _ (.stepSucceeded component operation attempt _), _⟩ =>
      some (.succeeded (component, operation) attempt)
  | ⟨.addEvent _ (.attemptFailed component operation attempt retrying _), _⟩ =>
      some (.failed (component, operation) attempt retrying)
  | _ => none

def marks (exchanges : List RunExchange) : List Mark := exchanges.filterMap mark

/-- The document of a write. -/
def saved : RunExchange → Option Document
  | ⟨.updateRow document, _⟩ => some document
  | _ => none

def AdapterCall.checks : AdapterCall → Bool
  | .execute _ => false
  | .verify _ _ => true

def AdapterCall.good (call : AdapterCall) : Mark := .called call (.ok true)

/-- The calls of an attempt: the step, then its checks in their order. -/
def Step.calls (step : Step) : List AdapterCall :=
  .execute step :: step.verify.map (AdapterCall.verify step.componentId)

/-- How far some calls got: all were good, or they stopped before a call, or at one that
raised or was a check that did not hold. -/
inductive Part (calls : List AdapterCall) : List Mark → Except Raised Unit → Prop where
  | passed : Part calls (calls.map AdapterCall.good) (.ok ())
  | stopped {done rest : List AdapterCall} {raised : Raised} (split : calls = done ++ rest)
      (early : rest ≠ []) (outside : raised ≠ .other) :
      Part calls (done.map AdapterCall.good) (.error raised)
  | raised {done rest : List AdapterCall} {call : AdapterCall} {raised : Raised}
      (split : calls = done ++ call :: rest) :
      Part calls (done.map AdapterCall.good ++ [.called call (.error raised)]) (.error raised)
  | refused {done rest : List AdapterCall} {call : AdapterCall}
      (split : calls = done ++ call :: rest) (checks : call.checks = true) :
      Part calls (done.map AdapterCall.good ++ [.called call (.ok false)]) (.error .other)

/-- The attempts of a step from the given number on, and what they raise in the end: only
an attempt that failed otherwise than by a cancellation or a deadline is followed by
another, up to the step's limit. -/
inductive Attempted (step : Step) : Nat → List Mark → Option Raised → Prop where
  | passed {attempt : Nat} (bounded : attempt ≤ step.maxAttempts) :
      Attempted step attempt (step.calls.map AdapterCall.good ++ [.succeeded step.key attempt]) none
  | interrupted {attempt : Nat} {calls : List Mark} {raised : Raised}
      (bounded : attempt ≤ step.maxAttempts) (part : Part step.calls calls (.error raised))
      (outside : raised ≠ .other) : Attempted step attempt calls (some raised)
  | exhausted {calls : List Mark} (part : Part step.calls calls (.error .other)) :
      Attempted step step.maxAttempts (calls ++ [.failed step.key step.maxAttempts false])
        (some .other)
  | retried {attempt : Nat} {calls more : List Mark} {raised : Option Raised}
      (bounded : attempt < step.maxAttempts) (part : Part step.calls calls (.error .other))
      (later : Attempted step (attempt + 1) more raised) :
      Attempted step attempt (calls ++ .failed step.key attempt true :: more) raised

/-- The steps in their order, each tried from its first attempt on, up to one that raises;
the number is that of the steps that succeeded. -/
inductive Ran : List Step → List Mark → Option Raised → Nat → Prop where
  | finished : Ran [] [] none 0
  | succeeded {step : Step} {rest : List Step} {calls more : List Mark} {raised : Option Raised}
      {count : Nat} (tried : Attempted step 1 calls none) (later : Ran rest more raised count) :
      Ran (step :: rest) (calls ++ more) raised (count + 1)
  | stopped {step : Step} {rest : List Step} {calls : List Mark} {raised : Raised}
      (tried : Attempted step 1 calls (some raised)) : Ran (step :: rest) calls (some raised) 0

@[simp] theorem marks_nil : marks [] = [] := rfl

theorem marks_append (early late : List RunExchange) :
    marks (early ++ late) = marks early ++ marks late := List.filterMap_append

theorem marks_cons (exchange : RunExchange) (rest : List RunExchange) :
    marks (exchange :: rest) = (mark exchange).toList ++ marks rest := by
  unfold marks
  cases known : mark exchange <;> simp [known]

/-- A good call comes before the others. -/
theorem Part.cons {calls : List AdapterCall} {shown : List Mark} {result : Except Raised Unit}
    (part : Part calls shown result) (call : AdapterCall) :
    Part (call :: calls) (call.good :: shown) result := by
  cases part with
  | passed => exact .passed
  | @stopped done rest raised split early outside =>
      exact @Part.stopped (call :: calls) (call :: done) rest raised (by rw [split]; rfl) early
        outside
  | @raised done rest other raised split =>
      exact @Part.raised (call :: calls) (call :: done) rest other raised (by rw [split]; rfl)
  | @refused done rest other split checks =>
      exact @Part.refused (call :: calls) (call :: done) rest other (by rw [split]; rfl) checks

theorem Part.all_good {calls : List AdapterCall} {shown : List Mark}
    (part : Part calls shown (.ok ())) : shown = calls.map AdapterCall.good := by
  cases part
  rfl

/-! ## The parts of `_run` -/

/-- A boundary check shows nothing, and raises one of two. -/
theorem ends_checkBoundary (operationId : OperationId) (deadline : ℚ) :
    Ends (fun exchanges result => marks exchanges = [] ∧
        ∀ raised, result = .error raised → raised ≠ .other)
      (checkBoundary operationId deadline).run := by
  apply ends_askExcept
  intro cancelled
  split
  · apply ends_done
    refine ⟨rfl, ?_⟩
    intro raised same
    cases same
    decide
  · apply ends_askExcept
    intro now
    split
    · apply ends_done
      refine ⟨rfl, ?_⟩
      intro raised same
      cases same
      decide
    · exact ends_done ⟨rfl, fun raised same => by cases same⟩

theorem ends_verifyChecks (operationId : OperationId) (step : Step) (deadline : ℚ)
    (checks : List String) :
    Ends (fun exchanges result =>
        Part (checks.map (AdapterCall.verify step.componentId)) (marks exchanges) result)
      (verifyChecks operationId step deadline checks).run := by
  induction checks with
  | nil => exact ends_done .passed
  | cons check rest ih =>
      refine ends_bindExcept (ends_checkBoundary operationId deadline) ?_ ?_
      · intro early _ boundary
        apply ends_ask
        intro answer
        match answer with
        | .ok true =>
            refine Ends.mono ih ?_
            intro exchanges result part
            rw [marks_append, boundary.1, marks_cons]
            exact part.cons (.verify step.componentId check)
        | .ok false =>
            apply ends_done
            rw [marks_append, boundary.1]
            exact @Part.refused _ [] _ _ rfl rfl
        | .error raised =>
            apply ends_done
            rw [marks_append, boundary.1]
            exact @Part.raised _ [] _ _ raised rfl
      · intro early raised boundary
        rw [boundary.1]
        exact @Part.stopped _ [] _ raised rfl (List.cons_ne_nil _ _) (boundary.2 raised rfl)

/-- One attempt: it succeeded and said so, or it got only so far. -/
theorem ends_tryStep (operationId : OperationId) (step : Step) (attempt : Nat) (deadline : ℚ) :
    Ends (fun exchanges result =>
        (result = .ok () ∧ marks exchanges =
          step.calls.map AdapterCall.good ++ [.succeeded step.key attempt]) ∨
        ∃ raised, result = .error raised ∧ Part step.calls (marks exchanges) (.error raised))
      (tryStep operationId step attempt deadline).run := by
  refine ends_bindExcept (ends_checkBoundary operationId deadline) ?_ ?_
  · intro early _ boundary
    apply ends_ask
    intro answer
    match answer with
    | .error raised =>
        apply ends_done
        refine .inr ⟨raised, rfl, ?_⟩
        rw [marks_append, boundary.1]
        exact @Part.raised _ [] _ _ raised rfl
    | .ok () =>
        have goes : ∀ exchanges : List RunExchange,
            marks (early ++ ⟨.execute operationId step deadline, .ok ()⟩ :: exchanges) =
              (AdapterCall.execute step).good :: marks exchanges := by
          intro exchanges
          rw [marks_append, boundary.1, marks_cons]
          rfl
        refine ends_bindExcept (ends_verifyChecks operationId step deadline step.verify) ?_ ?_
        · intro checked _ part
          apply ends_ask
          intro now
          apply ends_ask
          intro _
          apply ends_done
          refine .inl ⟨rfl, ?_⟩
          rw [goes, marks_append, part.all_good]
          rfl
        · intro checked raised part
          refine .inr ⟨raised, rfl, ?_⟩
          rw [goes]
          exact part.cons (.execute step)
  · intro early raised boundary
    refine .inr ⟨raised, rfl, ?_⟩
    rw [boundary.1]
    exact @Part.stopped _ [] _ raised rfl (List.cons_ne_nil _ _) (boundary.2 raised rfl)

theorem ends_save (document : Document) :
    Ends (fun exchanges result => marks exchanges = [] ∧
        (∃ now, result = { document with updatedAt := now }) ∧
        exchanges.getLast?.bind saved = some result)
      (save document) := by
  apply ends_ask
  intro now
  apply ends_ask
  intro _
  exact ends_done ⟨rfl, ⟨now, rfl⟩, rfl⟩

theorem ends_executeAttempts (step : Step) (remaining attempt : Nat) (document : Document)
    (more : 0 < remaining) (total : attempt + remaining = step.maxAttempts + 1) :
    Ends (fun exchanges outcome => Attempted step attempt (marks exchanges) outcome.2 ∧
        outcome.1.completedSteps = document.completedSteps)
      (executeAttempts step remaining attempt document) := by
  induction remaining generalizing attempt document with
  | zero => exact absurd more (Nat.lt_irrefl 0)
  | succ remaining ih =>
      have bounded : attempt ≤ step.maxAttempts := by omega
      refine ends_bind (ends_save _) ?_
      rintro early written ⟨silent, ⟨now, rfl⟩, _⟩
      apply ends_perform
      intro started
      refine ends_bind (ends_tryStep document.id step attempt (started + step.timeoutSeconds)) ?_
      intro tried result outcome
      have shown : ∀ rest : List RunExchange,
          marks (early ++ ⟨.monotonic, started⟩ :: (tried ++ rest)) =
            marks tried ++ marks rest := by
        intro rest
        rw [marks_append, silent, marks_cons, marks_append]
        rfl
      rcases outcome with ⟨rfl, passed⟩ | ⟨raised, rfl, part⟩
      · apply ends_done
        rw [shown, passed, marks_nil, List.append_nil]
        exact ⟨.passed bounded, rfl⟩
      · cases raised with
        | stepCancelled =>
            apply ends_done
            rw [shown, marks_nil, List.append_nil]
            exact ⟨.interrupted bounded part (by decide), rfl⟩
        | stepTimedOut =>
            apply ends_done
            rw [shown, marks_nil, List.append_nil]
            exact ⟨.interrupted bounded part (by decide), rfl⟩
        | other =>
            apply ends_perform
            intro failedAt
            apply ends_perform
            intro _
            by_cases last : attempt = step.maxAttempts
            · rw [if_pos last]
              apply ends_done
              rw [shown]
              subst last
              have failed : decide (step.maxAttempts < step.maxAttempts) = false := by simp
              rw [failed]
              exact ⟨.exhausted part, rfl⟩
            · rw [if_neg last]
              have before : attempt < step.maxAttempts := by omega
              refine Ends.mono (ih (attempt + 1) _ (by omega) (by omega)) ?_
              rintro exchanges outcome ⟨later, kept⟩
              rw [shown, decide_eq_true before]
              exact ⟨.retried before part later, kept⟩

theorem ends_runSteps (index : Nat) (steps : List Step) (document : Document)
    (next : index = document.completedSteps + 1) :
    Ends (fun exchanges outcome => ∃ count, Ran steps (marks exchanges) outcome.2 count ∧
        outcome.1.completedSteps = document.completedSteps + count)
      (runSteps index steps document) := by
  induction steps generalizing index document with
  | nil => exact ends_done ⟨0, .finished, rfl⟩
  | cons step rest ih =>
      refine ends_bind (ends_save _) ?_
      rintro early written ⟨silent, ⟨now, rfl⟩, _⟩
      refine ends_bind (ends_executeAttempts step step.maxAttempts 1 _ step.attempts_pos
        (Nat.add_comm _ _)) ?_
      rintro tried ⟨after, raised⟩ ⟨attempts, kept⟩
      cases raised with
      | some raised =>
          apply ends_done
          refine ⟨0, ?_, kept⟩
          rw [marks_append, silent, marks_append, marks_nil, List.append_nil]
          exact .stopped attempts
      | none =>
          refine ends_bind (ends_save _) ?_
          rintro counted written ⟨quiet, ⟨later, rfl⟩, _⟩
          refine Ends.mono (ih (index + 1) _ rfl) ?_
          rintro exchanges outcome ⟨count, ran, total⟩
          refine ⟨count + 1, ?_, ?_⟩
          · rw [marks_append, silent, marks_append, marks_append, quiet]
            show Ran (step :: rest) (marks tried ++ marks exchanges) outcome.2 (count + 1)
            exact .succeeded attempts ran
          · rw [total]
            show index + count = document.completedSteps + (count + 1)
            omega

/-! ## What such a run shows -/

def Mark.call? : Mark → Option AdapterCall
  | .called call _ => some call
  | _ => none

def AdapterCall.step? : AdapterCall → Option Step
  | .execute step => some step
  | .verify _ _ => none

/-- The steps whose adapter was called, once for each call. -/
def executedSteps (shown : List Mark) : List Step :=
  (shown.filterMap Mark.call?).filterMap AdapterCall.step?

def Mark.succeeded? : Mark → Option StepKey
  | .succeeded key _ => some key
  | _ => none

/-- The pairs reported as succeeded. -/
def succeededKeys (shown : List Mark) : List StepKey := shown.filterMap Mark.succeeded?

theorem good_calls (calls : List AdapterCall) :
    (calls.map AdapterCall.good).filterMap Mark.call? = calls := by
  rw [List.filterMap_map]
  exact List.filterMap_some

theorem good_keys (calls : List AdapterCall) : succeededKeys (calls.map AdapterCall.good) = [] := by
  unfold succeededKeys
  rw [List.filterMap_map]
  exact List.filterMap_eq_nil_iff.mpr (fun _ _ => rfl)

/-- The calls that were made are the first of those that were to be made. -/
theorem Part.calls_made {calls : List AdapterCall} {shown : List Mark} {result : Except Raised Unit}
    (part : Part calls shown result) : shown.filterMap Mark.call? <+: calls := by
  cases part with
  | passed => rw [good_calls]
  | stopped split early outside =>
      rw [good_calls, split]
      exact List.prefix_append _ _
  | raised split =>
      rw [List.filterMap_append, good_calls, split]
      exact ⟨_, List.append_assoc _ _ _⟩
  | refused split checks =>
      rw [List.filterMap_append, good_calls, split]
      exact ⟨_, List.append_assoc _ _ _⟩

theorem Part.keys {calls : List AdapterCall} {shown : List Mark} {result : Except Raised Unit}
    (part : Part calls shown result) : succeededKeys shown = [] := by
  cases part with
  | passed => exact good_keys _
  | stopped split early outside => exact good_keys _
  | raised split =>
      unfold succeededKeys
      rw [List.filterMap_append]
      exact List.append_eq_nil_iff.mpr ⟨good_keys _, rfl⟩
  | refused split checks =>
      unfold succeededKeys
      rw [List.filterMap_append]
      exact List.append_eq_nil_iff.mpr ⟨good_keys _, rfl⟩

theorem steps_of_calls (step : Step) : step.calls.filterMap AdapterCall.step? = [step] := by
  unfold Step.calls
  rw [List.filterMap_cons, List.filterMap_map]
  have none : step.verify.filterMap (AdapterCall.step? ∘ AdapterCall.verify step.componentId) =
      [] := List.filterMap_eq_nil_iff.mpr (fun _ _ => rfl)
  rw [none]
  rfl

/-- An attempt calls the adapter at most once. -/
theorem Part.executed {step : Step} {shown : List Mark} {result : Except Raised Unit}
    (part : Part step.calls shown result) :
    ∃ calls, executedSteps shown = List.replicate calls step ∧ calls ≤ 1 := by
  have start := part.calls_made.filterMap AdapterCall.step?
  rw [steps_of_calls] at start
  rcases List.prefix_cons_iff.mp start with none | ⟨rest, one, empty⟩
  · exact ⟨0, none, Nat.zero_le 1⟩
  · rw [List.prefix_nil.mp empty] at one
    exact ⟨1, one, Nat.le_refl 1⟩

theorem executedSteps_append (early late : List Mark) :
    executedSteps (early ++ late) = executedSteps early ++ executedSteps late := by
  unfold executedSteps
  rw [List.filterMap_append, List.filterMap_append]

theorem succeededKeys_append (early late : List Mark) :
    succeededKeys (early ++ late) = succeededKeys early ++ succeededKeys late :=
  List.filterMap_append

/-- The attempts call the adapter for their own step only, at most once each; a step that
succeeded was called. -/
theorem Attempted.executed {step : Step} {attempt : Nat} {shown : List Mark}
    {raised : Option Raised} (tried : Attempted step attempt shown raised) :
    ∃ calls, executedSteps shown = List.replicate calls step ∧
      attempt + calls ≤ step.maxAttempts + 1 ∧ (raised = none → 0 < calls) := by
  induction tried with
  | passed bounded =>
      refine ⟨1, ?_, by omega, fun _ => Nat.one_pos⟩
      rw [executedSteps_append]
      unfold executedSteps
      rw [good_calls, steps_of_calls]
      rfl
  | interrupted bounded part outside =>
      rcases part.executed with ⟨calls, same, few⟩
      exact ⟨calls, same, by omega, fun none => by cases none⟩
  | exhausted part =>
      rcases part.executed with ⟨calls, same, few⟩
      refine ⟨calls, ?_, by omega, fun none => by cases none⟩
      rw [executedSteps_append, same]
      exact List.append_nil _
  | retried bounded part later ih =>
      rcases part.executed with ⟨calls, same, few⟩
      rcases ih with ⟨more, others, bound, called⟩
      refine ⟨calls + more, ?_, by omega, fun none => Nat.add_pos_right calls (called none)⟩
      rw [executedSteps_append, same, List.replicate_add]
      exact congrArg (List.replicate calls step ++ ·) others

theorem Attempted.keys {step : Step} {attempt : Nat} {shown : List Mark} {raised : Option Raised}
    (tried : Attempted step attempt shown raised) :
    succeededKeys shown = if raised = none then [step.key] else [] := by
  induction tried with
  | passed bounded =>
      rw [succeededKeys_append, good_keys]
      rfl
  | interrupted bounded part outside => exact part.keys
  | exhausted part =>
      rw [succeededKeys_append, part.keys]
      rfl
  | retried bounded part later ih =>
      rw [succeededKeys_append, part.keys]
      exact ih

theorem Ran.keys {steps : List Step} {shown : List Mark} {raised : Option Raised} {count : Nat}
    (ran : Ran steps shown raised count) :
    succeededKeys shown = (steps.take count).map Step.key := by
  induction ran with
  | finished => rfl
  | succeeded tried later ih =>
      rw [succeededKeys_append, tried.keys, ih]
      rfl
  | stopped tried => exact tried.keys

theorem Ran.complete {steps : List Step} {shown : List Mark} {raised : Option Raised} {count : Nat}
    (ran : Ran steps shown raised count) :
    count ≤ steps.length ∧ (raised = none ↔ count = steps.length) := by
  induction ran with
  | finished => simp
  | succeeded tried later ih =>
      rw [List.length_cons]
      exact ⟨by omega, ih.2.trans (Nat.succ_inj).symm⟩
  | stopped tried => simp

/-- How often the adapter is called for each of the steps, in their order. -/
theorem Ran.executed {steps : List Step} {shown : List Mark} {raised : Option Raised} {count : Nat}
    (ran : Ran steps shown raised count) :
    ∃ calls : List Nat,
      executedSteps shown = (steps.zip calls).flatMap (fun pair => List.replicate pair.2 pair.1) ∧
      (∀ pair ∈ steps.zip calls, pair.2 ≤ pair.1.maxAttempts) ∧
      count ≤ calls.length ∧ calls.length ≤ count + 1 ∧
      ∀ number ∈ calls.take count, 0 < number := by
  induction ran with
  | finished => exact ⟨[], rfl, by simp, by simp, by simp, by simp⟩
  | @succeeded step rest first more raised count tried later ih =>
      rcases tried.executed with ⟨own, same, few, called⟩
      rcases ih with ⟨calls, others, bound, enough, last, every⟩
      refine ⟨own :: calls, ?_, ?_, Nat.succ_le_succ enough, Nat.succ_le_succ last, ?_⟩
      · rw [executedSteps_append, same, others]
        rfl
      · intro pair member
        rcases List.mem_cons.mp member with rfl | inside
        · show own ≤ step.maxAttempts
          omega
        · exact bound pair inside
      · intro number member
        rcases List.mem_cons.mp member with rfl | inside
        · exact called rfl
        · exact every number inside
  | @stopped step rest first raised tried =>
      rcases tried.executed with ⟨own, same, few, _⟩
      refine ⟨[own], ?_, ?_, by simp, by simp, by simp⟩
      · rw [same]
        simp
      · intro pair member
        rw [List.zip_cons_cons, List.zip_nil_right, List.mem_singleton] at member
        subst member
        show own ≤ step.maxAttempts
        omega

/-- The final state for what was raised. -/
def finalState : Option Raised → OperationState
  | none => .succeeded
  | some .stepCancelled => .cancelled
  | some .stepTimedOut => .timedOut
  | some .other => .failed

theorem finalState_succeeded (raised : Option Raised) :
    finalState raised = .succeeded ↔ raised = none := by
  cases raised with
  | none => simp [finalState]
  | some raised => cases raised <;> simp [finalState]

/-- What was written last stays the last write when only more comes before. -/
theorem last_saved_append {late : List RunExchange} {document : Document}
    (last : late.getLast?.bind saved = some document) (early : List RunExchange) :
    (early ++ late).getLast?.bind saved = some document := by
  rcases Option.bind_eq_some_iff.mp last with ⟨exchange, found, written⟩
  rw [List.getLast?_append, found]
  exact written

theorem conclude_state (document : Document) (raised : Option Raised) :
    (conclude document raised).state = finalState raised ∧
      (conclude document raised).completedSteps = document.completedSteps ∧
      (conclude document raised).id = document.id := by
  match raised with
  | none => exact ⟨rfl, rfl, rfl⟩
  | some .stepCancelled => exact ⟨rfl, rfl, rfl⟩
  | some .stepTimedOut => exact ⟨rfl, rfl, rfl⟩
  | some .other => exact ⟨rfl, rfl, rfl⟩

theorem ends_run (document : Document) (steps : List Step) :
    Ends (fun exchanges _ => ∃ raised count final, Ran steps (marks exchanges) raised count ∧
        exchanges.getLast?.bind saved = some final ∧ final.state = finalState raised ∧
        final.completedSteps = document.completedSteps + count)
      (run document steps) := by
  refine ends_bind (ends_save _) ?_
  rintro early written ⟨silent, ⟨now, rfl⟩, _⟩
  refine ends_bind (ends_runSteps _ steps _ rfl) ?_
  rintro middle ⟨after, raised⟩ ⟨count, ran, total⟩
  apply ends_perform
  intro _
  refine ends_bind (ends_save _) ?_
  rintro late written ⟨quiet, ⟨later, rfl⟩, last⟩
  apply ends_done
  rcases conclude_state after raised with ⟨state, completed, _⟩
  refine ⟨raised, count, { conclude after raised with updatedAt := later }, ?_, ?_, state,
    completed.trans total⟩
  · rw [marks_append, silent, marks_append, marks_cons, marks_append, quiet]
    show Ran steps (marks middle ++ []) raised count
    rw [List.append_nil]
    exact ran
  · rw [← List.append_nil late] at last
    exact last_saved_append (last_saved_append (last_saved_append last [_]) middle) early

/-- Every complete run of an accepted operation goes through the steps in their order. A step
is tried up to its limit of attempts; an attempt calls the adapter and then the checks in their
order, stops at the first that does not go well, and reports success only where all went well;
a step comes only after all before it have succeeded, and nothing is called after the first one
that does not. The number of completed steps grows by the steps that succeeded, and the final
state is `succeeded` if and only if all did. -/
theorem run_follows_plan (document : Document) (steps : List Step) :
    Ends (fun exchanges _ => ∃ raised count final, Ran steps (marks exchanges) raised count ∧
        succeededKeys (marks exchanges) = (steps.take count).map Step.key ∧
        (∃ calls : List Nat, executedSteps (marks exchanges) =
            (steps.zip calls).flatMap (fun pair => List.replicate pair.2 pair.1) ∧
          (∀ pair ∈ steps.zip calls, pair.2 ≤ pair.1.maxAttempts) ∧
          count ≤ calls.length ∧ calls.length ≤ count + 1 ∧
          ∀ number ∈ calls.take count, 0 < number) ∧
        exchanges.getLast?.bind saved = some final ∧ final.state = finalState raised ∧
        final.completedSteps = document.completedSteps + count ∧
        (final.state = .succeeded ↔ count = steps.length))
      (run document steps) := by
  refine (ends_run document steps).mono ?_
  rintro exchanges _ ⟨raised, count, final, ran, last, state, total⟩
  refine ⟨raised, count, final, ran, ran.keys, ran.executed, last, state, total, ?_⟩
  rw [state, finalState_succeeded]
  exact ran.complete.2

end FortifyLab.Lifecycle
