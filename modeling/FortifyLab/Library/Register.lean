import FortifyLab.Library.Trace

/-! A register that a program sets and reads: what may follow what it holds, and the values
that a run sets it to. -/

namespace FortifyLab

open Program

/-- What an answer says that the register holds, and what a request sets it to. -/
structure Register (Request : Type) (Answer : Request → Type) (Cell : Type) where
  shows : (request : Request) → Answer request → Option Cell
  writes : Request → Option Cell

namespace Register

variable {Request : Type} {Answer : Request → Type} {Cell α β ε : Type}
  (register : Register Request Answer Cell)

def after (held : Cell) (request : Request) : Cell := (register.writes request).getD held

/-- Every answer shows what the register was last set to. -/
def Coherent : Cell → List (Exchange Request Answer) → Prop
  | _, [] => True
  | held, exchange :: rest =>
      (∀ shown, register.shows exchange.1 exchange.2 = some shown → shown = held) ∧
        Coherent (register.after held exchange.1) rest

/-- What the register holds in the end. -/
def last (held : Cell) (exchanges : List (Exchange Request Answer)) : Cell :=
  exchanges.foldl (fun held exchange => register.after held exchange.1) held

/-- The values that the register is set to. -/
def written (exchanges : List (Exchange Request Answer)) : List Cell :=
  exchanges.filterMap (fun exchange => register.writes exchange.1)

/-- While the answers show what the register holds, it is only set to what may follow that, and
the program ends with what `post` admits. -/
def Keeps (follows : Cell → Cell → Prop) (post : Cell → α → Prop) :
    Cell → Program Request Answer α → Prop
  | held, .done result => post held result
  | held, .ask request next =>
      ∀ answer, (∀ shown, register.shows request answer = some shown → shown = held) →
        (∀ value, register.writes request = some value → follows held value) ∧
          Keeps follows post (register.after held request) (next answer)

variable {register} {follows : Cell → Cell → Prop}

theorem after_quiet {held : Cell} {request : Request} (quiet : register.writes request = none) :
    register.after held request = held := by
  rw [after, quiet, Option.getD_none]

theorem keeps_bind {middle : Cell → α → Prop} {post : Cell → β → Prop} {held : Cell}
    {program : Program Request Answer α} {rest : α → Program Request Answer β}
    (first : register.Keeps follows middle held program)
    (second : ∀ after result, middle after result →
      register.Keeps follows post after (rest result)) :
    register.Keeps follows post held (program >>= rest) := by
  induction program generalizing held with
  | done result => exact second held result first
  | ask request next ih =>
      intro answer shown
      obtain ⟨allowed, goes⟩ := first answer shown
      exact ⟨allowed, ih answer goes⟩

theorem keeps_bindExcept {middle : Cell → Except ε α → Prop} {post : Cell → Except ε β → Prop}
    {held : Cell} {first : ExceptT ε (Program Request Answer) α}
    {rest : α → ExceptT ε (Program Request Answer) β}
    (start : register.Keeps follows middle held first.run)
    (continues : ∀ after value, middle after (.ok value) →
      register.Keeps follows post after (rest value).run)
    (raises : ∀ after error, middle after (.error error) → post after (.error error)) :
    register.Keeps follows post held (first >>= rest).run := by
  apply keeps_bind start
  intro after result met
  cases result with
  | ok value => exact continues after value met
  | error error => exact raises after error met

/-- A program that never sets the register leaves it as it is. -/
theorem keeps_quiet {held : Cell} {program : Program Request Answer α}
    (quiet : OnlyAsks (fun request => register.writes request = none) program) :
    register.Keeps follows (fun after _ => after = held) held program := by
  induction program with
  | done result => rfl
  | ask request next ih =>
      intro answer _
      constructor
      · intro value sets
        rw [quiet.1] at sets
        cases sets
      · rw [after_quiet quiet.1]
        exact ih answer (quiet.2 answer)

theorem Keeps.mono {post weaker : Cell → α → Prop} {held : Cell}
    {program : Program Request Answer α} (keeps : register.Keeps follows post held program)
    (implied : ∀ after result, post after result → weaker after result) :
    register.Keeps follows weaker held program := by
  rw [← bind_done program]
  exact keeps_bind keeps implied

/-- A run of such a program sets the register to a chain of values, and what is left keeps to
the same from the last of them on. -/
theorem Keeps.reached {post : Cell → α → Prop} {held : Cell}
    {program rest : Program Request Answer α} {exchanges : List (Exchange Request Answer)}
    (keeps : register.Keeps follows post held program) (reached : Reaches program exchanges rest)
    (coherent : register.Coherent held exchanges) :
    List.IsChain follows (held :: register.written exchanges) ∧
      register.Keeps follows post (register.last held exchanges) rest := by
  induction reached generalizing held with
  | refl program => exact ⟨List.IsChain.singleton _, keeps⟩
  | @step request next exchanges rest answer later ih =>
      obtain ⟨allowed, goes⟩ := keeps answer coherent.1
      obtain ⟨chain, ends⟩ := ih goes coherent.2
      constructor
      · cases sets : register.writes request with
        | none =>
            rw [after_quiet sets] at chain
            simpa [written, sets] using chain
        | some value =>
            have same : register.after held request = value := by simp [after, sets]
            rw [same] at chain
            simpa [written, sets] using ⟨allowed value sets, chain⟩
      · exact ends

/-- The complete run in which the oracle answers, and sees what the register holds. -/
def play (oracle : Cell → (request : Request) → Answer request) :
    Cell → Program Request Answer α → List (Exchange Request Answer) × α
  | _, .done result => ([], result)
  | held, .ask request next =>
      (⟨request, oracle held request⟩ ::
          (play oracle (register.after held request) (next (oracle held request))).1,
        (play oracle (register.after held request) (next (oracle held request))).2)

theorem play_reaches (oracle : Cell → (request : Request) → Answer request) (held : Cell)
    (program : Program Request Answer α) :
    Reaches program (register.play oracle held program).1
      (.done (register.play oracle held program).2) := by
  induction program generalizing held with
  | done result => exact .refl _
  | ask request next ih => exact .step (oracle held request) (ih (oracle held request) _)

/-- An oracle that shows what the register holds makes a coherent run. -/
theorem play_coherent {oracle : Cell → (request : Request) → Answer request}
    (honest : ∀ held request shown,
      register.shows request (oracle held request) = some shown → shown = held)
    (held : Cell) (program : Program Request Answer α) :
    register.Coherent held (register.play oracle held program).1 := by
  induction program generalizing held with
  | done result => trivial
  | ask request next ih => exact ⟨honest held request, ih (oracle held request) _⟩

end Register

end FortifyLab
