import Mathlib.Logic.Function.Basic

/-! Programs that ask their surroundings one request at a time, and protocols:
what a program in some role may ask, and which role each answer leaves it in. -/

namespace FortifyLab

inductive Program (Request : Type) (Answer : Request → Type) (α : Type) where
  | done (result : α)
  | ask (request : Request) (next : Answer request → Program Request Answer α)

namespace Program

variable {Request : Type} {Answer : Request → Type} {α β : Type}

def bind : Program Request Answer α → (α → Program Request Answer β) → Program Request Answer β
  | .done result, rest => rest result
  | .ask request next, rest => .ask request (fun answer => (next answer).bind rest)

instance : Monad (Program Request Answer) where
  pure := .done
  bind := bind

/-- One request whose answer is the result. -/
def perform (request : Request) : Program Request Answer (Answer request) := .ask request .done

/-- What the program asks next. -/
def asks : Program Request Answer α → Option Request
  | .done _ => none
  | .ask request _ => some request

@[simp] theorem pure_eq (result : α) :
    (pure result : Program Request Answer α) = .done result := rfl

@[simp] theorem done_bind (result : α) (rest : α → Program Request Answer β) :
    (Program.done result >>= rest) = rest result := rfl

@[simp] theorem ask_bind (request : Request) (next : Answer request → Program Request Answer α)
    (rest : α → Program Request Answer β) :
    (Program.ask request next >>= rest) = .ask request (fun answer => next answer >>= rest) := rfl

@[simp] theorem perform_bind (request : Request) (rest : Answer request → Program Request Answer β) :
    (perform request >>= rest) = .ask request rest := rfl

theorem bind_done (program : Program Request Answer α) : (program >>= .done) = program := by
  induction program with
  | done result => rfl
  | ask request next ih =>
      rw [ask_bind]
      congr 1
      funext answer
      exact ih answer

theorem bind_assoc {γ : Type} (program : Program Request Answer α)
    (rest : α → Program Request Answer β) (last : β → Program Request Answer γ) :
    (program >>= rest >>= last) = (program >>= fun result => rest result >>= last) := by
  induction program with
  | done result => rfl
  | ask request next ih =>
      rw [ask_bind, ask_bind, ask_bind]
      congr 1
      funext answer
      exact ih answer

/-! ## Protocols -/

variable {Role : Type} (move : Role → (request : Request) → Answer request → Role → Prop)

/-- Whatever the answers, every request of the program is a move of the protocol,
and it ends in a role and with a result that `post` admits. -/
def Follows (post : Role → α → Prop) : Role → Program Request Answer α → Prop
  | role, .done result => post role result
  | role, .ask request next =>
      ∀ answer, ∃ after, move role request answer after ∧ Follows post after (next answer)

variable {move}

theorem follows_bind {middle : Role → α → Prop} {post : Role → β → Prop} {role : Role}
    {program : Program Request Answer α} {rest : α → Program Request Answer β}
    (first : Follows move middle role program)
    (second : ∀ after result, middle after result → Follows move post after (rest result)) :
    Follows move post role (program >>= rest) := by
  induction program generalizing role with
  | done result => exact second role result first
  | ask request next ih =>
      intro answer
      obtain ⟨after, moved, follows⟩ := first answer
      exact ⟨after, moved, ih answer follows⟩

theorem Follows.mono {post weaker : Role → α → Prop} {role : Role}
    {program : Program Request Answer α} (follows : Follows move post role program)
    (implied : ∀ after result, post after result → weaker after result) :
    Follows move weaker role program := by
  rw [← bind_done program]
  exact follows_bind follows implied

theorem follows_perform {post : Role → β → Prop} {role : Role} {request : Request}
    {rest : Answer request → Program Request Answer β}
    (next : ∀ answer, ∃ after, move role request answer after ∧
      Follows move post after (rest answer)) :
    Follows move post role (perform request >>= rest) := next

/-- Every request the program can ever ask is allowed. -/
def OnlyAsks (allowed : Request → Prop) : Program Request Answer α → Prop
  | .done _ => True
  | .ask request next => allowed request ∧ ∀ answer, OnlyAsks allowed (next answer)

theorem onlyAsks_bind {allowed : Request → Prop} {program : Program Request Answer α}
    {rest : α → Program Request Answer β} (first : OnlyAsks allowed program)
    (second : ∀ result, OnlyAsks allowed (rest result)) :
    OnlyAsks allowed (program >>= rest) := by
  induction program with
  | done result => exact second result
  | ask request next ih => exact ⟨first.1, fun answer => ih answer (first.2 answer)⟩

theorem onlyAsks_perform {allowed : Request → Prop} {request : Request}
    {rest : Answer request → Program Request Answer α} (first : allowed request)
    (next : ∀ answer, OnlyAsks allowed (rest answer)) :
    OnlyAsks allowed (perform request >>= rest) := ⟨first, next⟩

/-- A program whose requests leave the role alone leaves it alone. -/
theorem OnlyAsks.follows {allowed : Request → Prop} {program : Program Request Answer α}
    (only : OnlyAsks allowed program) {role : Role}
    (stays : ∀ request answer, allowed request → move role request answer role) :
    Follows move (fun after _ => after = role) role program := by
  induction program with
  | done result => rfl
  | ask request next ih =>
      intro answer
      exact ⟨role, stays request answer only.1, ih answer (only.2 answer)⟩

/-! ## Programs that may raise -/

theorem onlyAsks_bindExcept {ε : Type} {allowed : Request → Prop}
    {first : ExceptT ε (Program Request Answer) α}
    {rest : α → ExceptT ε (Program Request Answer) β} (left : OnlyAsks allowed first.run)
    (right : ∀ result, OnlyAsks allowed (rest result).run) :
    OnlyAsks allowed (first >>= rest).run := by
  apply onlyAsks_bind left
  intro result
  cases result with
  | ok value => exact right value
  | error error => trivial

theorem onlyAsks_askExcept {ε : Type} {allowed : Request → Prop} {request : Request}
    {rest : Answer request → ExceptT ε (Program Request Answer) β} (first : allowed request)
    (next : ∀ answer, OnlyAsks allowed (rest answer).run) :
    OnlyAsks allowed
      ((liftM (perform request) : ExceptT ε (Program Request Answer) _) >>= rest).run :=
  ⟨first, next⟩

theorem onlyAsks_liftExcept {ε : Type} {allowed : Request → Prop}
    {program : Program Request Answer α} (only : OnlyAsks allowed program) :
    OnlyAsks allowed (ExceptT.lift program : ExceptT ε (Program Request Answer) α).run :=
  onlyAsks_bind only (fun _ => trivial)

theorem OnlyAsks.mono {allowed weaker : Request → Prop} {program : Program Request Answer α}
    (only : OnlyAsks allowed program) (implied : ∀ request, allowed request → weaker request) :
    OnlyAsks weaker program := by
  induction program with
  | done result => trivial
  | ask request next ih =>
      exact ⟨implied request only.1, fun answer => ih answer (only.2 answer)⟩

theorem onlyAsks_tryCatch {ε : Type} {allowed : Request → Prop}
    {body : ExceptT ε (Program Request Answer) α}
    {handler : ε → ExceptT ε (Program Request Answer) α} (first : OnlyAsks allowed body.run)
    (second : ∀ error, OnlyAsks allowed (handler error).run) :
    OnlyAsks allowed (tryCatch body handler).run := by
  apply onlyAsks_bind first
  intro result
  cases result with
  | ok value => trivial
  | error error => exact second error

theorem follows_liftExcept {ε : Type} {post : Role → Except ε α → Prop} {role : Role}
    {program : Program Request Answer α}
    (follows : Follows move (fun after result => post after (.ok result)) role program) :
    Follows move post role (ExceptT.lift program).run :=
  follows_bind follows (fun _ _ holds => holds)

theorem follows_bindExcept {ε : Type} {middle : Role → Except ε α → Prop}
    {post : Role → Except ε β → Prop} {role : Role}
    {first : ExceptT ε (Program Request Answer) α}
    {rest : α → ExceptT ε (Program Request Answer) β}
    (follows : Follows move middle role first.run)
    (continues : ∀ after result, middle after (.ok result) →
      Follows move post after (rest result).run)
    (raises : ∀ after error, middle after (.error error) → post after (.error error)) :
    Follows move post role (first >>= rest).run := by
  apply follows_bind follows
  intro after result holds
  cases result with
  | ok value => exact continues after value holds
  | error error => exact raises after error holds

theorem follows_liftBind {ε : Type} {middle : Role → α → Prop} {post : Role → Except ε β → Prop}
    {role : Role} {program : Program Request Answer α}
    {rest : α → ExceptT ε (Program Request Answer) β}
    (follows : Follows move middle role program)
    (continues : ∀ after result, middle after result → Follows move post after (rest result).run) :
    Follows move post role
      ((liftM program : ExceptT ε (Program Request Answer) α) >>= rest).run := by
  have lifted : Follows move
      (fun after result => ∃ value : α, result = (.ok value : Except ε α) ∧ middle after value)
      role (ExceptT.lift program).run :=
    follows_liftExcept (follows.mono (fun after result holds => ⟨result, rfl, holds⟩))
  apply follows_bindExcept lifted
  · intro after result outcome
    rcases outcome with ⟨value, same, holds⟩
    cases same
    exact continues after result holds
  · intro after error outcome
    rcases outcome with ⟨value, same, holds⟩
    cases same

theorem follows_askExcept {ε : Type} {post : Role → Except ε β → Prop} {role : Role}
    {request : Request} {rest : Answer request → ExceptT ε (Program Request Answer) β}
    (next : ∀ answer, ∃ after, move role request answer after ∧
      Follows move post after (rest answer).run) :
    Follows move post role
      ((liftM (perform request) : ExceptT ε (Program Request Answer) _) >>= rest).run := next

end Program

end FortifyLab
