import FortifyLab.Library.Observed
import FortifyLab.Library.Trace

/-! Runs that are under way: the stage that a program has reached, for the threads of a
machine as well. -/

namespace FortifyLab

variable {Request : Type} {Answer : Request → Type}

namespace Program

variable {α β : Type}

/-- What a run asks next the program may ask. -/
theorem OnlyAsks.next {allowed : Request → Prop} {program : Program Request Answer α}
    {exchanges : List (Exchange Request Answer)} {request : Request}
    {next : Answer request → Program Request Answer α} (only : OnlyAsks allowed program)
    (reached : Reaches program exchanges (.ask request next)) : allowed request := by
  induction program generalizing exchanges with
  | done result => cases reached
  | ask request others ih =>
      cases reached with
      | refl => exact only.1
      | step answer later => exact ih answer (only.2 answer) later

theorem reaches_done {result : α} {exchanges : List (Exchange Request Answer)}
    {rest : Program Request Answer α} (reached : Reaches (.done result) exchanges rest) :
    exchanges = [] ∧ rest = .done result := by
  cases reached
  exact ⟨rfl, rfl⟩

theorem reaches_ask {request : Request} {next : Answer request → Program Request Answer α}
    {exchanges : List (Exchange Request Answer)} {rest : Program Request Answer α}
    (reached : Reaches (.ask request next) exchanges rest) :
    exchanges = [] ∧ rest = .ask request next ∨
      ∃ answer more, exchanges = ⟨request, answer⟩ :: more ∧ Reaches (next answer) more rest := by
  cases reached with
  | refl => exact .inl ⟨rfl, rfl⟩
  | step answer later => exact .inr ⟨answer, _, rfl, later⟩

/-- A run that asks something is still in the first part, or has finished it. -/
theorem reaches_bind {program : Program Request Answer α}
    {continuation : α → Program Request Answer β} {exchanges : List (Exchange Request Answer)}
    {request : Request} {next : Answer request → Program Request Answer β}
    (reached : Reaches (program >>= continuation) exchanges (.ask request next)) :
    (∃ others, Reaches program exchanges (.ask request others)) ∨
      ∃ early late result, exchanges = early ++ late ∧ Reaches program early (.done result) ∧
        Reaches (continuation result) late (.ask request next) := by
  induction program generalizing exchanges with
  | done result => exact .inr ⟨[], exchanges, result, rfl, .refl _, reached⟩
  | ask first others ih =>
      rcases reaches_ask reached with ⟨rfl, same⟩ | ⟨answer, more, rfl, later⟩
      · cases same
        exact .inl ⟨others, .refl _⟩
      · rcases ih answer later with ⟨rest, inside⟩ | ⟨early, late, result, rfl, finished, goes⟩
        · exact .inl ⟨rest, .step answer inside⟩
        · exact .inr ⟨_, late, result, rfl, .step answer finished, goes⟩

/-- The parts of an expansion that may raise. -/
theorem reaches_expandBind {Inner ε : Type} {Reply : Inner → Type}
    {perform : (request : Inner) → Program Request Answer (Reply request)}
    {first : ExceptT ε (Program Inner Reply) α} {rest : α → ExceptT ε (Program Inner Reply) β}
    {exchanges : List (Exchange Request Answer)} {request : Request}
    {next : Answer request → Program Request Answer (Except ε β)}
    (reached : Reaches ((first >>= rest).run.expand perform) exchanges (.ask request next)) :
    (∃ others, Reaches (first.run.expand perform) exchanges (.ask request others)) ∨
      ∃ early late value, exchanges = early ++ late ∧
        Reaches (first.run.expand perform) early (.done (.ok value)) ∧
        Reaches ((rest value).run.expand perform) late (.ask request next) := by
  change Reaches ((first.run >>= ExceptT.bindCont rest).expand perform) _ _ at reached
  rw [expand_bind] at reached
  rcases reaches_bind reached with inside | ⟨early, late, result, split, finished, goes⟩
  · exact .inl inside
  · cases result with
    | ok value => exact .inr ⟨early, late, value, split, finished, goes⟩
    | error error =>
        have stopped := reaches_done goes
        cases stopped.2

/-- A finished run of two parts. -/
theorem reaches_bindDone {program : Program Request Answer α}
    {continuation : α → Program Request Answer β} {exchanges : List (Exchange Request Answer)}
    {result : β} (reached : Reaches (program >>= continuation) exchanges (.done result)) :
    ∃ early late value, exchanges = early ++ late ∧ Reaches program early (.done value) ∧
      Reaches (continuation value) late (.done result) := by
  induction program generalizing exchanges with
  | done value => exact ⟨[], exchanges, value, rfl, .refl _, reached⟩
  | ask request next ih =>
      rcases reaches_ask reached with ⟨_, same⟩ | ⟨answer, more, rfl, later⟩
      · cases same
      · rcases ih answer later with ⟨early, late, value, rfl, finished, goes⟩
        exact ⟨_, late, value, rfl, .step answer finished, goes⟩

/-- Where two parts have succeeded the first one has. -/
theorem reaches_expandDone {Inner ε : Type} {Reply : Inner → Type}
    {perform : (request : Inner) → Program Request Answer (Reply request)}
    {first : ExceptT ε (Program Inner Reply) α} {rest : α → ExceptT ε (Program Inner Reply) β}
    {exchanges : List (Exchange Request Answer)} {value : β}
    (reached : Reaches ((first >>= rest).run.expand perform) exchanges (.done (.ok value))) :
    ∃ early late middle, exchanges = early ++ late ∧
      Reaches (first.run.expand perform) early (.done (.ok middle)) ∧
      Reaches ((rest middle).run.expand perform) late (.done (.ok value)) := by
  change Reaches ((first.run >>= ExceptT.bindCont rest).expand perform) _ _ at reached
  rw [expand_bind] at reached
  rcases reaches_bindDone reached with ⟨early, late, result, split, finished, goes⟩
  cases result with
  | ok middle => exact ⟨early, late, middle, split, finished, goes⟩
  | error error =>
      have stopped := reaches_done goes
      cases stopped.2

/-- A program that may ask whatever it likes is run from its start to its end. -/
theorem follows_traced {automaton : Automaton Request Answer (List (Exchange Request Answer))}
    (records : ∀ told request answer,
      automaton.after told request answer = told ++ [⟨request, answer⟩])
    {program : Program Request Answer α}
    (only : OnlyAsks (fun request => ∀ told, automaton.permits told request) program)
    (told : List (Exchange Request Answer)) :
    Follows automaton.move
      (fun after result => ∃ more, after = told ++ more ∧ Reaches program more (.done result)) told
      program := by
  induction program generalizing told with
  | done result => exact ⟨[], (List.append_nil told).symm, .refl _⟩
  | ask request next ih =>
      intro answer
      refine ⟨_, ⟨only.1 told, rfl⟩, ?_⟩
      rw [records]
      have rest := ih answer (only.2 answer) (told ++ [⟨request, answer⟩])
      apply rest.mono
      rintro after result ⟨more, rfl, ran⟩
      exact ⟨⟨request, answer⟩ :: more, by simp, .step answer ran⟩

/-- What a run of a program that keeps to an automaton is answered was permitted. -/
theorem follows_next {Role : Type} {automaton : Automaton Request Answer Role}
    {post : Role → α → Prop} {role : Role} {program : Program Request Answer α}
    (follows : Follows automaton.move post role program) {exchanges : List (Exchange Request Answer)}
    {request : Request} {next : Answer request → Program Request Answer α}
    (reached : Reaches program exchanges (.ask request next)) (answer : Answer request) :
    ∃ role, automaton.permits role request := by
  induction program generalizing exchanges role with
  | done result => cases reached
  | ask first others ih =>
      cases reached with
      | refl => exact ⟨role, (follows answer).choose_spec.1.1⟩
      | step earlier later =>
          rcases follows earlier with ⟨after, _, goes⟩
          exact ih earlier goes later

/-- The history of a program is a run of it. -/
theorem follows_reaches {body program : Program Request Answer α}
    {history : List (Exchange Request Answer)} (reached : Reaches body history program) :
    Follows (Records (fun told request => ∃ next, Reaches body told (.ask request next)))
      (fun told result => Reaches body told (.done result)) history program := by
  induction program generalizing history with
  | done result => exact reached
  | ask request next ih =>
      intro answer
      exact ⟨_, ⟨⟨next, reached⟩, rfl⟩, ih answer (reached.trans (.step answer (.refl _)))⟩

end Program

namespace Machine

open Program

variable {Shared Label Offer Outcome : Type}
  {machine : Machine Shared Label Offer Request Answer Outcome}
  {allowed : Pool Shared Label Request Answer Outcome → Action Label Offer → Prop}

/-- What a thread did is a run of its program. -/
theorem reachable_stage {log before after : List (Entry Label Request Answer)}
    {pool : Pool Shared Label Request Answer Outcome} {entry : Entry Label Request Answer}
    (reached : machine.Reachable allowed log pool) (split : log = before ++ entry :: after) :
    ∃ next, Reaches (machine.body entry.label) (own before entry.thread)
      (.ask entry.request next) := by
  let runs : Discipline machine := ⟨_, _, fun label => follows_reaches (.refl (machine.body label))⟩
  rcases runs.reachable_split reached split with ⟨_, _, _, _, stage⟩
  exact stage

end Machine

end FortifyLab
