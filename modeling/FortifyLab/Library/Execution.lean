import FortifyLab.Library.Program
import Mathlib.Data.List.Basic

/-! A program run alone on a state, and a program whose requests are programs of a
lower level. -/

namespace FortifyLab.Program

variable {Request Inner : Type} {Answer : Request → Type} {Reply : Inner → Type}
  {State α β : Type}

/-- One request of a run, with the states around it. -/
structure Step (State Request : Type) (Answer : Request → Type) where
  before : State
  request : Request
  answer : Answer request
  after : State

variable (handle : State → (request : Request) → Answer request × State)

/-- The run of a program in which `handle` answers every request. -/
def eval : Program Request Answer α → State → α × State
  | .done result, state => (result, state)
  | .ask request next, state =>
      eval (next (handle state request).1) (handle state request).2

/-- The requests of the run, in order. -/
def steps : Program Request Answer α → State → List (Step State Request Answer)
  | .done _, _ => []
  | .ask request next, state =>
      ⟨state, request, (handle state request).1, (handle state request).2⟩ ::
        steps (next (handle state request).1) (handle state request).2

variable {handle}

@[simp] theorem eval_done {result : α} {state : State} :
    eval handle (.done result : Program Request Answer α) state = (result, state) := rfl

@[simp] theorem eval_ask {request : Request} {next : Answer request → Program Request Answer α}
    {state : State} :
    eval handle (.ask request next) state =
      eval handle (next (handle state request).1) (handle state request).2 := rfl

theorem eval_bind {program : Program Request Answer α} {rest : α → Program Request Answer β}
    {state : State} :
    eval handle (program >>= rest) state =
      eval handle (rest (eval handle program state).1) (eval handle program state).2 := by
  induction program generalizing state with
  | done result => rfl
  | ask request next ih =>
      rw [ask_bind, eval_ask, eval_ask]
      exact ih _

/-- Every step of a run is `handle`'s. -/
theorem steps_handled {program : Program Request Answer α} {state : State}
    {step : Step State Request Answer} (member : step ∈ steps handle program state) :
    step = ⟨step.before, step.request, (handle step.before step.request).1,
      (handle step.before step.request).2⟩ := by
  induction program generalizing state with
  | done result => cases member
  | ask request next ih =>
      rcases List.mem_cons.mp member with rfl | later
      · rfl
      · exact ih _ later

/-- What every step that meets a condition keeps, a run whose steps all meet it keeps. -/
theorem steps_invariant {holds : State → Prop} {meets : State → Request → Prop}
    (keeps : ∀ state request, holds state → meets state request → holds (handle state request).2)
    {program : Program Request Answer α} {state : State} (start : holds state)
    (all : ∀ step ∈ steps handle program state, meets step.before step.request) :
    ∀ step ∈ steps handle program state, holds step.before ∧ holds step.after := by
  induction program generalizing state with
  | done result => simp [steps]
  | ask request next ih =>
      rw [steps, List.forall_mem_cons] at all
      rw [steps, List.forall_mem_cons]
      have next := keeps state request start all.1
      exact ⟨⟨start, next⟩, ih _ next all.2⟩

/-! ## Runs that keep a condition -/

variable (handle) in
/-- From any state on which `holds`, the run ends on such a state, with a result as `post`
says. -/
def Keeps (holds : State → Prop) (post : α → Prop) (program : Program Request Answer α) : Prop :=
  ∀ state, holds state → post (eval handle program state).1 ∧ holds (eval handle program state).2

section Keeps

variable {holds : State → Prop}

theorem keeps_done {post : α → Prop} {result : α} (met : post result) :
    Keeps handle holds post (.done result : Program Request Answer α) :=
  fun _ start => ⟨met, start⟩

theorem keeps_bind {middle : α → Prop} {post : β → Prop} {program : Program Request Answer α}
    {rest : α → Program Request Answer β} (first : Keeps handle holds middle program)
    (second : ∀ result, middle result → Keeps handle holds post (rest result)) :
    Keeps handle holds post (program >>= rest) := by
  intro state start
  rw [eval_bind]
  have reached := first state start
  exact second _ reached.1 _ reached.2

theorem Keeps.mono {post weaker : α → Prop} {program : Program Request Answer α}
    (keeps : Keeps handle holds post program) (implied : ∀ result, post result → weaker result) :
    Keeps handle holds weaker program :=
  fun state start => ⟨implied _ (keeps state start).1, (keeps state start).2⟩

theorem keeps_bindExcept {ε : Type} {middle : Except ε α → Prop} {post : Except ε β → Prop}
    {first : ExceptT ε (Program Request Answer) α} {rest : α → ExceptT ε (Program Request Answer) β}
    (start : Keeps handle holds middle first.run)
    (continues : ∀ value, middle (.ok value) → Keeps handle holds post (rest value).run)
    (raises : ∀ error, middle (.error error) → post (.error error)) :
    Keeps handle holds post (first >>= rest).run := by
  apply keeps_bind start
  intro result met
  cases result with
  | ok value => exact continues value met
  | error error => exact keeps_done (raises error met)

theorem keeps_tryCatch {ε : Type} {middle post : Except ε α → Prop}
    {body : ExceptT ε (Program Request Answer) α}
    {handler : ε → ExceptT ε (Program Request Answer) α} (start : Keeps handle holds middle body.run)
    (returns : ∀ value, middle (.ok value) → post (.ok value))
    (handles : ∀ error, middle (.error error) → Keeps handle holds post (handler error).run) :
    Keeps handle holds post (tryCatch body handler).run := by
  apply keeps_bind start
  intro result met
  cases result with
  | ok value => exact keeps_done (returns value met)
  | error error => exact handles error met

/-- What every permitted request keeps, a program that asks no others keeps. -/
theorem OnlyAsks.keeps {allowed : Request → Prop} {program : Program Request Answer α}
    (only : OnlyAsks allowed program)
    (each : ∀ state request, holds state → allowed request → holds (handle state request).2) :
    Keeps handle holds (fun _ => True) program := by
  induction program with
  | done result => exact keeps_done trivial
  | ask request next ih =>
      intro state start
      exact ih _ (only.2 _) _ (each state request start only.1)

end Keeps

/-! ## Runs that are cut off -/

variable (handle) in
/-- The run cut off after a number of requests, with the result if it got that far. -/
def evalFor : Nat → Program Request Answer α → State → Option α × State
  | _, .done result, state => (some result, state)
  | 0, .ask _ _, state => (none, state)
  | count + 1, .ask request next, state =>
      evalFor count (next (handle state request).1) (handle state request).2

variable (handle) in
/-- `throughout` holds before and after every request of the run, and `post` at its end. -/
def Always (throughout : State → Prop) (post : α → State → Prop) :
    Program Request Answer α → State → Prop
  | .done result, state => throughout state ∧ post result state
  | .ask request next, state => throughout state ∧
      Always throughout post (next (handle state request).1) (handle state request).2

variable {throughout : State → Prop}

theorem always_bind {middle : α → State → Prop} {post : β → State → Prop}
    {program : Program Request Answer α} {rest : α → Program Request Answer β} {state : State}
    (first : Always handle throughout middle program state)
    (second : ∀ result after, middle result after →
      Always handle throughout post (rest result) after) :
    Always handle throughout post (program >>= rest) state := by
  induction program generalizing state with
  | done result => exact second result state first.2
  | ask request next ih => exact ⟨first.1, ih _ first.2⟩

/-- Wherever the run is cut off, `throughout` holds, and `post` where it was complete. -/
theorem Always.evalFor {post : α → State → Prop} {program : Program Request Answer α}
    {state : State} (always : Always handle throughout post program state) (count : Nat) :
    throughout (evalFor handle count program state).2 ∧
      ∀ result, (Program.evalFor handle count program state).1 = some result →
        post result (Program.evalFor handle count program state).2 := by
  induction program generalizing state count with
  | done result =>
      refine ⟨by cases count <;> exact always.1, fun other same => ?_⟩
      have known : some result = some other := by cases count <;> exact same
      cases known
      cases count <;> exact always.2
  | ask request next ih =>
      cases count with
      | zero => exact ⟨always.1, nofun⟩
      | succ count => exact ih _ always.2 count

/-! ## Requests that are programs -/

/-- Every request replaced by the program that answers it. -/
def expand (perform : (request : Inner) → Program Request Answer (Reply request)) :
    Program Inner Reply α → Program Request Answer α
  | .done result => .done result
  | .ask request next => perform request >>= fun reply => expand perform (next reply)

variable {perform : (request : Inner) → Program Request Answer (Reply request)}

theorem expand_bind (program : Program Inner Reply α) (rest : α → Program Inner Reply β) :
    (program >>= rest).expand perform =
      (program.expand perform >>= fun result => (rest result).expand perform) := by
  induction program with
  | done result => rfl
  | ask request next ih =>
      rw [ask_bind, expand, expand, bind_assoc]
      congr 1
      funext reply
      exact ih reply

/-- The requests of the programs that answer are the only ones of the expansion. -/
theorem onlyAsks_expand {allowed : Request → Prop}
    (each : ∀ request, OnlyAsks allowed (perform request)) (program : Program Inner Reply α) :
    OnlyAsks allowed (program.expand perform) := by
  induction program with
  | done result => trivial
  | ask request next ih => exact onlyAsks_bind (each request) ih

/-- What the permitted requests expand to is all that the expansion asks. -/
theorem onlyAsks_expandOnly {allowed : Request → Prop} {permitted : Inner → Prop}
    (each : ∀ request, permitted request → OnlyAsks allowed (perform request))
    {program : Program Inner Reply α} (only : OnlyAsks permitted program) :
    OnlyAsks allowed (program.expand perform) := by
  induction program with
  | done result => trivial
  | ask request next ih =>
      exact onlyAsks_bind (each request only.1) (fun reply => ih reply (only.2 reply))

/-- If every request's program leads from `idle` back to `idle`, so does the expansion. -/
theorem follows_expand {Role : Type} {step : Role → (request : Request) → Answer request → Role → Prop}
    {idle : Role} {program : Program Inner Reply α} {allowed : Inner → Prop}
    (only : OnlyAsks allowed program)
    (each : ∀ request, allowed request →
      Follows step (fun role _ => role = idle) idle (perform request)) :
    Follows step (fun role _ => role = idle) idle (program.expand perform) := by
  induction program with
  | done result => exact rfl
  | ask request next ih =>
      apply follows_bind (each request only.1)
      rintro role reply rfl
      exact ih reply (only.2 reply)

end FortifyLab.Program
