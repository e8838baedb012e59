import FortifyLab.Library.Execution
import FortifyLab.Library.History

/-! The exchanges a single program may have made, and what a protocol says of them. -/

namespace FortifyLab

variable {Request : Type} {Answer : Request → Type}

namespace Program

variable {α β Role : Type} {move : Role → (request : Request) → Answer request → Role → Prop}

/-- A run of the program so far: the exchanges it made, and what is left of it. -/
inductive Reaches : Program Request Answer α → List (Exchange Request Answer) →
    Program Request Answer α → Prop
  | refl (program : Program Request Answer α) : Reaches program [] program
  | step {request : Request} {next : Answer request → Program Request Answer α}
      {exchanges : List (Exchange Request Answer)} {rest : Program Request Answer α}
      (answer : Answer request) (later : Reaches (next answer) exchanges rest) :
      Reaches (.ask request next) (⟨request, answer⟩ :: exchanges) rest

theorem Reaches.trans {first second third : Program Request Answer α}
    {early late : List (Exchange Request Answer)} (before : Reaches first early second)
    (after : Reaches second late third) : Reaches first (early ++ late) third := by
  induction before with
  | refl program => exact after
  | step answer later ih => exact .step answer (ih after)

theorem Reaches.bind {program rest : Program Request Answer α}
    {exchanges : List (Exchange Request Answer)} (reached : Reaches program exchanges rest)
    (continuation : α → Program Request Answer β) :
    Reaches (program >>= continuation) exchanges (rest >>= continuation) := by
  induction reached with
  | refl program => exact .refl _
  | step answer later ih => exact .step answer ih

/-- Every request of a run is one that the program may ask. -/
theorem OnlyAsks.reached {allowed : Request → Prop} {program rest : Program Request Answer α}
    {exchanges : List (Exchange Request Answer)} (only : OnlyAsks allowed program)
    (reached : Reaches program exchanges rest) : ∀ exchange ∈ exchanges, allowed exchange.1 := by
  induction reached with
  | refl program => simp
  | step answer later ih =>
      rw [List.forall_mem_cons]
      exact ⟨only.1, ih (only.2 answer)⟩

/-- A finished part, then a run of what follows it. -/
theorem Reaches.continue {program : Program Request Answer α} {result : α}
    {early late : List (Exchange Request Answer)} {continuation : α → Program Request Answer β}
    {rest : Program Request Answer β} (before : Reaches program early (.done result))
    (after : Reaches (continuation result) late rest) :
    Reaches (program >>= continuation) (early ++ late) rest :=
  (before.bind continuation).trans after

/-- The complete run in which every request gets the answer of the oracle. -/
def play (oracle : (request : Request) → Answer request) :
    Program Request Answer α → List (Exchange Request Answer) × α
  | .done result => ([], result)
  | .ask request next =>
      (⟨request, oracle request⟩ :: (play oracle (next (oracle request))).1,
        (play oracle (next (oracle request))).2)

theorem play_reaches (oracle : (request : Request) → Answer request)
    (program : Program Request Answer α) :
    Reaches program (program.play oracle).1 (.done (program.play oracle).2) := by
  induction program with
  | done result => exact .refl _
  | ask request next ih => exact .step (oracle request) (ih (oracle request))

/-- Every exchange of such a run has the answer of the oracle. -/
theorem play_answered (oracle : (request : Request) → Answer request)
    (program : Program Request Answer α) :
    ∀ exchange ∈ (program.play oracle).1, exchange = ⟨exchange.1, oracle exchange.1⟩ := by
  induction program with
  | done result => simp [play]
  | ask request next ih => exact List.forall_mem_cons.mpr ⟨rfl, ih (oracle request)⟩

/-- The complete run with an oracle that also knows how many requests came before. -/
def playAt (oracle : Nat → (request : Request) → Answer request) :
    Program Request Answer α → Nat → List (Exchange Request Answer) × α
  | .done result, _ => ([], result)
  | .ask request next, time =>
      (⟨request, oracle time request⟩ :: (playAt oracle (next (oracle time request)) (time + 1)).1,
        (playAt oracle (next (oracle time request)) (time + 1)).2)

theorem playAt_reaches (oracle : Nat → (request : Request) → Answer request) (time : Nat)
    (program : Program Request Answer α) :
    Reaches program (program.playAt oracle time).1 (.done (program.playAt oracle time).2) := by
  induction program generalizing time with
  | done result => exact .refl _
  | ask request next ih => exact .step (oracle time request) (ih _ (time + 1))

theorem play_bind (oracle : (request : Request) → Answer request)
    (program : Program Request Answer α) (continuation : α → Program Request Answer β) :
    (program >>= continuation).play oracle =
      ((program.play oracle).1 ++ ((continuation (program.play oracle).2).play oracle).1,
        ((continuation (program.play oracle).2).play oracle).2) := by
  induction program with
  | done result => rfl
  | ask request next ih =>
      rw [ask_bind, play, ih]
      rfl

/-- The roles a protocol passes through along some exchanges. -/
inductive Path (move : Role → (request : Request) → Answer request → Role → Prop) :
    Role → List (Exchange Request Answer) → Role → Prop
  | nil (role : Role) : Path move role [] role
  | cons {role after last : Role} {request : Request} {answer : Answer request}
      {exchanges : List (Exchange Request Answer)} (moved : move role request answer after)
      (later : Path move after exchanges last) :
      Path move role (⟨request, answer⟩ :: exchanges) last

/-- A run of a program that follows a protocol is a path of it. -/
theorem Follows.path {post : Role → α → Prop} {role : Role} {program rest : Program Request Answer α}
    {exchanges : List (Exchange Request Answer)} (follows : Follows move post role program)
    (reached : Reaches program exchanges rest) :
    ∃ after, Path move role exchanges after ∧ Follows move post after rest := by
  induction reached generalizing role with
  | refl program => exact ⟨role, .nil role, follows⟩
  | step answer later ih =>
      rcases follows answer with ⟨after, moved, goes⟩
      rcases ih goes with ⟨last, path, stays⟩
      exact ⟨last, .cons moved path, stays⟩

theorem Path.split {role last : Role} {early late : List (Exchange Request Answer)}
    (path : Path move role (early ++ late) last) :
    ∃ middle, Path move role early middle ∧ Path move middle late last := by
  induction early generalizing role with
  | nil => exact ⟨role, .nil role, path⟩
  | cons head tail ih =>
      cases path with
      | cons moved later =>
          rcases ih later with ⟨middle, first, second⟩
          exact ⟨middle, .cons moved first, second⟩

/-- The role in which one of the exchanges was made. -/
theorem Path.at {role last : Role} {early late : List (Exchange Request Answer)}
    {request : Request} {answer : Answer request}
    (path : Path move role (early ++ ⟨request, answer⟩ :: late) last) :
    ∃ middle after, Path move role early middle ∧ move middle request answer after := by
  rcases path.split with ⟨middle, before, rest⟩
  cases rest with
  | cons moved later => exact ⟨middle, _, before, moved⟩

/-! ## Complete runs -/

/-- Whatever the answers, a complete run and its result satisfy `post`. -/
def Ends (post : List (Exchange Request Answer) → α → Prop)
    (program : Program Request Answer α) : Prop :=
  ∀ exchanges result, Reaches program exchanges (.done result) → post exchanges result

variable {post : List (Exchange Request Answer) → α → Prop}

theorem ends_done {result : α} (holds : post [] result) :
    Ends post (.done result : Program Request Answer α) := by
  intro exchanges other reached
  cases reached
  exact holds

theorem ends_ask {request : Request} {next : Answer request → Program Request Answer α}
    (rest : ∀ answer, Ends (fun more => post (⟨request, answer⟩ :: more)) (next answer)) :
    Ends post (.ask request next) := by
  intro exchanges result reached
  cases reached with
  | step answer later => exact rest answer _ _ later

theorem ends_perform {request : Request} {rest : Answer request → Program Request Answer α}
    (next : ∀ answer, Ends (fun more => post (⟨request, answer⟩ :: more)) (rest answer)) :
    Ends post (perform request >>= rest) := ends_ask next

theorem Ends.mono {weaker : List (Exchange Request Answer) → α → Prop}
    {program : Program Request Answer α} (ends : Ends post program)
    (implied : ∀ exchanges result, post exchanges result → weaker exchanges result) :
    Ends weaker program :=
  fun exchanges result reached => implied _ _ (ends exchanges result reached)

theorem ends_bind {middle : List (Exchange Request Answer) → β → Prop}
    {program : Program Request Answer β} {continuation : β → Program Request Answer α}
    (first : Ends middle program)
    (second : ∀ early value, middle early value →
      Ends (fun late => post (early ++ late)) (continuation value)) :
    Ends post (program >>= continuation) := by
  induction program generalizing middle post with
  | done result => exact second [] result (first _ _ (.refl _))
  | ask request next ih =>
      apply ends_ask
      intro answer
      have start : Ends (fun more => middle (⟨request, answer⟩ :: more)) (next answer) :=
        fun exchanges value reached => first _ _ (.step answer reached)
      exact ih answer start (fun early value holds => second _ value holds)

theorem onlyAsks_any (program : Program Request Answer α) : OnlyAsks (fun _ => True) program := by
  induction program with
  | done result => trivial
  | ask request next ih => exact ⟨trivial, ih⟩

/-- Every request of a complete run is one that the program may ask. -/
theorem OnlyAsks.ends {allowed : Request → Prop} {program : Program Request Answer α}
    (only : OnlyAsks allowed program) :
    Ends (fun exchanges _ => ∀ exchange ∈ exchanges, allowed exchange.1) program :=
  fun _ _ reached => only.reached reached

theorem ends_bindExcept {ε : Type} {middle : List (Exchange Request Answer) → Except ε β → Prop}
    {post : List (Exchange Request Answer) → Except ε α → Prop}
    {first : ExceptT ε (Program Request Answer) β}
    {rest : β → ExceptT ε (Program Request Answer) α} (start : Ends middle first.run)
    (continues : ∀ early value, middle early (.ok value) →
      Ends (fun late => post (early ++ late)) (rest value).run)
    (raises : ∀ early error, middle early (.error error) → post early (.error error)) :
    Ends post (first >>= rest).run := by
  refine @ends_bind _ _ _ _ post middle first.run _ start ?_
  intro early result holds
  cases result with
  | ok value => exact continues early value holds
  | error error =>
      apply ends_done
      rw [List.append_nil]
      exact raises early error holds

theorem ends_askExcept {ε : Type} {post : List (Exchange Request Answer) → Except ε α → Prop}
    {request : Request} {rest : Answer request → ExceptT ε (Program Request Answer) α}
    (next : ∀ answer, Ends (fun more => post (⟨request, answer⟩ :: more)) (rest answer).run) :
    Ends post ((liftM (perform request) : ExceptT ε (Program Request Answer) _) >>= rest).run :=
  ends_ask next

/-- What is observed of an expansion is what the requests that were expanded show. -/
theorem ends_expand {Inner : Type} {Reply : Inner → Type} {γ : Type} {allowed : Inner → Prop}
    {perform : (request : Inner) → Program Request Answer (Reply request)}
    {observe : Exchange Request Answer → Option γ} {shown : Exchange Inner Reply → Option γ}
    (each : ∀ request, allowed request → Ends (fun segment reply =>
      segment.filterMap observe = (shown ⟨request, reply⟩).toList) (perform request))
    {post : List γ → α → Prop} {program : Program Inner Reply α} (only : OnlyAsks allowed program)
    (ends : Ends (fun inner result => post (inner.filterMap shown) result) program) :
    Ends (fun outer result => post (outer.filterMap observe) result) (program.expand perform) := by
  induction program generalizing post with
  | done result => exact ends_done (ends _ _ (.refl _))
  | ask request next ih =>
      refine @ends_bind _ _ _ _ (fun outer result => post (outer.filterMap observe) result) _ _ _
        (each request only.1) ?_
      intro early reply seen
      have later : Ends (fun inner result =>
          post ((shown ⟨request, reply⟩).toList ++ inner.filterMap shown) result) (next reply) := by
        intro inner result reached
        have whole := ends _ _ (.step reply reached)
        rw [← List.singleton_append, List.filterMap_append] at whole
        cases known : shown ⟨request, reply⟩ <;> simpa [known] using whole
      have outer := @ih reply (fun marks result =>
        post ((shown ⟨request, reply⟩).toList ++ marks) result) (only.2 reply) later
      intro late result reached
      rw [List.filterMap_append, seen]
      exact outer late result reached

/-! ## Complete runs all of whose exchanges meet a condition -/

/-- A complete run whose exchanges are all legal satisfies `post`. -/
def EndsGiven (legal : Exchange Request Answer → Prop)
    (post : List (Exchange Request Answer) → α → Prop) (program : Program Request Answer α) : Prop :=
  Ends (fun exchanges result => (∀ exchange ∈ exchanges, legal exchange) → post exchanges result)
    program

variable {legal : Exchange Request Answer → Prop}

theorem endsGiven_done {result : α} (holds : post [] result) :
    EndsGiven legal post (.done result : Program Request Answer α) :=
  ends_done (fun _ => holds)

theorem endsGiven_ask {request : Request} {next : Answer request → Program Request Answer α}
    (rest : ∀ answer, legal ⟨request, answer⟩ →
      EndsGiven legal (fun more => post (⟨request, answer⟩ :: more)) (next answer)) :
    EndsGiven legal post (.ask request next) := by
  apply ends_ask
  intro answer more result reached all
  rw [List.forall_mem_cons] at all
  exact rest answer all.1 more result reached all.2

theorem endsGiven_perform {request : Request} {rest : Answer request → Program Request Answer α}
    (next : ∀ answer, legal ⟨request, answer⟩ →
      EndsGiven legal (fun more => post (⟨request, answer⟩ :: more)) (rest answer)) :
    EndsGiven legal post (perform request >>= rest) := endsGiven_ask next

theorem EndsGiven.mono {weaker : List (Exchange Request Answer) → α → Prop}
    {program : Program Request Answer α} (ends : EndsGiven legal post program)
    (implied : ∀ exchanges result, post exchanges result → weaker exchanges result) :
    EndsGiven legal weaker program :=
  Ends.mono ends (fun _ _ holds all => implied _ _ (holds all))

theorem endsGiven_bind {middle : List (Exchange Request Answer) → β → Prop}
    {program : Program Request Answer β} {continuation : β → Program Request Answer α}
    (first : EndsGiven legal middle program)
    (second : ∀ early value, middle early value →
      EndsGiven legal (fun late => post (early ++ late)) (continuation value)) :
    EndsGiven legal post (program >>= continuation) := by
  refine ends_bind first ?_
  intro early value holds late result reached all
  rw [List.forall_mem_append] at all
  exact second early value (holds all.1) late result reached all.2

end Program

end FortifyLab
