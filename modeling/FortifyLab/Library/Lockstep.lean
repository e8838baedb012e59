import Mathlib.Data.List.Forall2
import FortifyLab.Library.Execution
import FortifyLab.Library.Pool

/-! Two runs side by side: programs and pools that ask alike as long as they are answered
alike. -/

namespace FortifyLab

/-- Which requests are alike, and which answers to them are. -/
structure Likeness (Request : Type) (Answer : Request → Type) where
  requests : Request → Request → Prop
  answers : (left right : Request) → Answer left → Answer right → Prop

variable {Request Inner : Type} {Answer : Request → Type} {Reply : Inner → Type}

namespace Program

variable {α β γ δ : Type} {likeness : Likeness Request Answer}

/-- The programs ask alike as long as they are answered alike, and `post` relates their
results. -/
def Coupled (likeness : Likeness Request Answer) (post : α → β → Prop) :
    Program Request Answer α → Program Request Answer β → Prop
  | .done left, .done right => post left right
  | .ask left next, .ask right other => likeness.requests left right ∧
      ∀ first second, likeness.answers left right first second →
        Coupled likeness post (next first) (other second)
  | .done _, .ask _ _ => False
  | .ask _ _, .done _ => False

theorem coupled_bind {middle : α → β → Prop} {post : γ → δ → Prop}
    {left : Program Request Answer α} {right : Program Request Answer β}
    {rest : α → Program Request Answer γ} {other : β → Program Request Answer δ}
    (first : Coupled likeness middle left right)
    (second : ∀ one two, middle one two → Coupled likeness post (rest one) (other two)) :
    Coupled likeness post (left >>= rest) (right >>= other) := by
  induction left generalizing right with
  | done one =>
      cases right with
      | done two => exact second one two first
      | ask request next => exact first.elim
  | ask request next ih =>
      cases right with
      | done two => exact first.elim
      | ask asked further =>
          refine ⟨first.1, ?_⟩
          intro one two alike
          exact ih one (first.2 one two alike)

theorem Coupled.mono {post weaker : α → β → Prop} {left : Program Request Answer α}
    {right : Program Request Answer β} (coupled : Coupled likeness post left right)
    (implied : ∀ one two, post one two → weaker one two) : Coupled likeness weaker left right := by
  rw [← bind_done left, ← bind_done right]
  exact coupled_bind coupled implied

/-- One request each, then programs that are coupled for alike answers. -/
theorem coupled_perform {post : α → β → Prop} {left right : Request}
    {rest : Answer left → Program Request Answer α}
    {other : Answer right → Program Request Answer β} (alike : likeness.requests left right)
    (next : ∀ one two, likeness.answers left right one two →
      Coupled likeness post (rest one) (other two)) :
    Coupled likeness post (perform left >>= rest) (perform right >>= other) := ⟨alike, next⟩

/-- A program is coupled with itself if none of its requests tells two runs apart. -/
theorem OnlyAsks.coupled {allowed : Request → Prop} {program : Program Request Answer α}
    (only : OnlyAsks allowed program)
    (alike : ∀ request, allowed request → likeness.requests request request)
    (same : ∀ request one two, allowed request → likeness.answers request request one two →
      one = two) :
    Coupled likeness Eq program program := by
  induction program with
  | done result => exact rfl
  | ask request next ih =>
      refine ⟨alike request only.1, ?_⟩
      intro one two answered
      cases same request one two only.1 answered
      exact ih one (only.2 one)

/-- Alike requests replaced by coupled programs leave coupled programs coupled. -/
theorem coupled_expand {inner : Likeness Inner Reply} {post : α → β → Prop}
    {perform other : (request : Inner) → Program Request Answer (Reply request)}
    (each : ∀ left right, inner.requests left right →
      Coupled likeness (inner.answers left right) (perform left) (other right))
    {left : Program Inner Reply α} {right : Program Inner Reply β}
    (coupled : Coupled inner post left right) :
    Coupled likeness post (left.expand perform) (right.expand other) := by
  induction left generalizing right with
  | done one =>
      cases right with
      | done two => exact coupled
      | ask request next => exact coupled.elim
  | ask request next ih =>
      cases right with
      | done two => exact coupled.elim
      | ask asked further =>
          apply coupled_bind (each request asked coupled.1)
          intro one two answered
          exact ih one (coupled.2 one two answered)

end Program

/-! ## Pools -/

variable {Shared Label Offer Outcome : Type}

namespace Machine

variable (machine : Machine Shared Label Offer Request Answer Outcome)

/-- The pool after some actions; `none` where one of them is not possible. -/
def run (pool : Pool Shared Label Request Answer Outcome) :
    List (Action Label Offer) → Option (Pool Shared Label Request Answer Outcome)
  | [] => some pool
  | action :: rest => (machine.act pool action).bind (fun next => run next rest)

end Machine

/-- The result of every thread, `none` while it still runs. -/
def Pool.outcomes (pool : Pool Shared Label Request Answer Outcome) : List (Option Outcome) :=
  pool.threads.map (fun thread => match thread.program with
    | .done result => some result
    | .ask _ _ => none)

/-- Labels and offers that a machine cannot tell apart but for what is alike. -/
structure Lockstep (machine : Machine Shared Label Offer Request Answer Outcome) where
  likeness : Likeness Request Answer
  labels : Label → Label → Prop
  offers : Offer → Offer → Prop
  bodies : ∀ left right, labels left right →
    Program.Coupled likeness Eq (machine.body left) (machine.body right)
  replies : ∀ shared thread offer other left right, offers offer other →
    likeness.requests left right → Option.Rel (likeness.answers left right)
      (machine.reply shared thread offer left) (machine.reply shared thread other right)
  effects : ∀ shared thread left right, likeness.requests left right →
    machine.effect shared thread left = machine.effect shared thread right
  spawns : ∀ left right, likeness.requests left right →
    Option.Rel labels (machine.spawned left) (machine.spawned right)
  admits : ∀ shared left right, labels left right →
    machine.admits shared left = machine.admits shared right
  boots : labels machine.boot machine.boot

namespace Lockstep

variable {machine : Machine Shared Label Offer Request Answer Outcome} (lockstep : Lockstep machine)

inductive Actions : Action Label Offer → Action Label Offer → Prop
  | advance (thread : Nat) {left right : Offer} (alike : lockstep.offers left right) :
      Actions (.advance thread left) (.advance thread right)
  | receive {left right : Label} (alike : lockstep.labels left right) :
      Actions (.receive left) (.receive right)
  | restart : Actions .restart .restart

def Threads (left right : Thread Label Request Answer Outcome) : Prop :=
  Program.Coupled lockstep.likeness Eq left.program right.program

/-- The shared state is the same, and the threads correspond. -/
structure Pools (left right : Pool Shared Label Request Answer Outcome) : Prop where
  shared : left.shared = right.shared
  threads : List.Forall₂ lockstep.Threads left.threads right.threads

variable {lockstep}

theorem Pools.outcomes {left right : Pool Shared Label Request Answer Outcome}
    (alike : lockstep.Pools left right) : left.outcomes = right.outcomes := by
  unfold Pool.outcomes
  rw [← List.forall₂_eq_eq_eq, List.forall₂_map_left_iff, List.forall₂_map_right_iff]
  apply alike.threads.imp
  intro first second coupled
  obtain ⟨label, program⟩ := first
  obtain ⟨other, second⟩ := second
  cases program <;> cases second
  · exact congrArg some coupled
  · exact coupled.elim
  · exact coupled.elim
  · rfl

theorem threads_body {left right : Label} (alike : lockstep.labels left right) :
    lockstep.Threads (machine.thread left) (machine.thread right) :=
  lockstep.bodies left right alike

theorem threads_killed {left right : List (Thread Label Request Answer Outcome)}
    (alike : List.Forall₂ lockstep.Threads left right) :
    List.Forall₂ lockstep.Threads (left.map machine.kill) (right.map machine.kill) := by
  induction alike with
  | nil => exact .nil
  | cons head tail ih => exact .cons rfl ih

theorem threads_set {left right : List (Thread Label Request Answer Outcome)}
    {first second : Thread Label Request Answer Outcome}
    (alike : List.Forall₂ lockstep.Threads left right) (index : Nat)
    (coupled : lockstep.Threads first second) :
    List.Forall₂ lockstep.Threads (left.set index first) (right.set index second) := by
  induction alike generalizing index with
  | nil => exact .nil
  | cons head tail ih =>
      cases index with
      | zero => exact .cons coupled tail
      | succ index => exact .cons head (ih index)

theorem threads_spawned {left right : Option Label} (alike : Option.Rel lockstep.labels left right) :
    List.Forall₂ lockstep.Threads (left.toList.map machine.thread)
      (right.toList.map machine.thread) := by
  cases alike with
  | none => exact .nil
  | some labels => exact .cons (threads_body labels) .nil

/-- The threads in one place are alike, or there is none in both. -/
theorem threads_at {left right : List (Thread Label Request Answer Outcome)}
    (alike : List.Forall₂ lockstep.Threads left right) (index : Nat) :
    Option.Rel lockstep.Threads left[index]? right[index]? := by
  induction alike generalizing index with
  | nil => exact .none
  | cons head tail ih =>
      cases index with
      | zero => exact .some head
      | succ index => exact ih index

theorem act_advance {left right : Pool Shared Label Request Answer Outcome}
    (alike : lockstep.Pools left right) (index : Nat) {offer other : Offer}
    (offers : lockstep.offers offer other) :
    Option.Rel lockstep.Pools (machine.act left (.advance index offer))
      (machine.act right (.advance index other)) := by
  obtain ⟨shared, threads⟩ := left
  obtain ⟨otherShared, others⟩ := right
  obtain ⟨same, aligned⟩ := alike
  cases same
  have found := threads_at aligned index
  unfold Machine.act
  dsimp only at found ⊢
  generalize known : threads[index]? = first at found
  generalize there : others[index]? = second at found
  cases found with
  | none => exact .none
  | @some one two coupled =>
      obtain ⟨label, program⟩ := one
      obtain ⟨called, program'⟩ := two
      cases program with
      | done result =>
          cases program' with
          | done result' => exact .none
          | ask request next => exact coupled.elim
      | ask request next =>
          cases program' with
          | done result => exact coupled.elim
          | ask asked further =>
              obtain ⟨requests, rest⟩ := coupled
              have replied := lockstep.replies shared index offer other request asked offers requests
              dsimp only
              generalize machine.reply shared index offer request = answer at replied
              generalize machine.reply shared index other asked = answer' at replied
              cases replied with
              | none => exact .none
              | @some first second answers =>
                  have going : lockstep.Threads ⟨label, next first⟩ ⟨called, further second⟩ :=
                    rest first second answers
                  refine .some ⟨lockstep.effects _ _ _ _ requests, ?_⟩
                  exact List.rel_append (threads_set aligned index going)
                    (threads_spawned (lockstep.spawns _ _ requests))

/-- Alike actions are possible in both pools or in neither, and lead to alike pools. -/
theorem act_alike {left right : Pool Shared Label Request Answer Outcome}
    {action other : Action Label Offer} (alike : lockstep.Pools left right)
    (actions : lockstep.Actions action other) :
    Option.Rel lockstep.Pools (machine.act left action) (machine.act right other) := by
  cases actions with
  | advance thread offers => exact act_advance alike thread offers
  | @receive label called labels =>
      obtain ⟨shared, threads⟩ := left
      obtain ⟨_, others⟩ := right
      obtain ⟨same, aligned⟩ := alike
      cases same
      unfold Machine.act
      dsimp only
      rw [← lockstep.admits shared label called labels]
      split
      · exact .some ⟨rfl, List.rel_append aligned (.cons (threads_body labels) .nil)⟩
      · exact .none
  | restart =>
      refine .some ⟨congrArg machine.lost alike.shared, ?_⟩
      exact List.rel_append (threads_killed alike.threads) (.cons (threads_body lockstep.boots) .nil)

/-- Alike actions in any number lead to alike pools. -/
theorem run_alike {left right : Pool Shared Label Request Answer Outcome}
    {actions others : List (Action Label Offer)} (alike : lockstep.Pools left right)
    (scripts : List.Forall₂ lockstep.Actions actions others) :
    Option.Rel lockstep.Pools (machine.run left actions) (machine.run right others) := by
  induction scripts generalizing left right with
  | nil => exact .some alike
  | cons head tail ih =>
      have acted := act_alike alike head
      unfold Machine.run
      generalize machine.act left _ = first at acted
      generalize machine.act right _ = second at acted
      cases acted with
      | none => exact .none
      | some next => exact ih next

end Lockstep

end FortifyLab
