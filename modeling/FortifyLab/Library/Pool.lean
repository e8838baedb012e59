import Mathlib.Data.List.Basic
import Mathlib.Logic.Relation
import FortifyLab.Library.Program

/-! A pool of threads over shared state. Threads advance one request at a time in
any order, new ones arrive, and a restart loses them all. -/

namespace FortifyLab

/-- What a pool runs on. An offer is the outside world's part of an answer; a
request that cannot be answered now keeps its thread waiting. -/
structure Machine (Shared Label Offer Request : Type) (Answer : Request → Type)
    (Outcome : Type) where
  body : Label → Program Request Answer Outcome
  reply : Shared → Nat → Offer → (request : Request) → Option (Answer request)
  effect : Shared → Nat → Request → Shared
  spawned : Request → Option Label
  admits : Shared → Label → Bool
  lost : Shared → Shared
  boot : Label
  killed : Outcome
  fresh : Shared

inductive Action (Label Offer : Type) where
  | advance (thread : Nat) (offer : Offer)
  | receive (label : Label)
  | restart

structure Thread (Label Request : Type) (Answer : Request → Type) (Outcome : Type) where
  label : Label
  program : Program Request Answer Outcome

structure Pool (Shared Label Request : Type) (Answer : Request → Type) (Outcome : Type) where
  shared : Shared
  threads : List (Thread Label Request Answer Outcome)

/-- A request that a thread has been given the answer to. -/
structure Entry (Label Request : Type) (Answer : Request → Type) where
  thread : Nat
  label : Label
  request : Request
  answer : Answer request

variable {Shared Label Offer Request : Type} {Answer : Request → Type} {Outcome : Type}

namespace Machine

variable (machine : Machine Shared Label Offer Request Answer Outcome)

def thread (label : Label) : Thread Label Request Answer Outcome := ⟨label, machine.body label⟩

def kill (thread : Thread Label Request Answer Outcome) : Thread Label Request Answer Outcome :=
  ⟨thread.label, .done machine.killed⟩

def initial : Pool Shared Label Request Answer Outcome :=
  ⟨machine.fresh, [machine.thread machine.boot]⟩

/-- One action; `none` where it is not possible. -/
def act (pool : Pool Shared Label Request Answer Outcome) :
    Action Label Offer → Option (Pool Shared Label Request Answer Outcome)
  | .advance index offer =>
      match pool.threads[index]? with
      | some ⟨label, .ask request next⟩ =>
          match machine.reply pool.shared index offer request with
          | some answer => some ⟨machine.effect pool.shared index request,
              pool.threads.set index ⟨label, next answer⟩ ++
                (machine.spawned request).toList.map machine.thread⟩
          | none => none
      | _ => none
  | .receive label =>
      if machine.admits pool.shared label then
        some ⟨pool.shared, pool.threads ++ [machine.thread label]⟩
      else none
  | .restart => some ⟨machine.lost pool.shared,
      pool.threads.map machine.kill ++ [machine.thread machine.boot]⟩

/-- What an action adds to the log. -/
def entries (pool : Pool Shared Label Request Answer Outcome) :
    Action Label Offer → List (Entry Label Request Answer)
  | .advance index offer =>
      match pool.threads[index]? with
      | some ⟨label, .ask request _⟩ =>
          match machine.reply pool.shared index offer request with
          | some answer => [⟨index, label, request, answer⟩]
          | none => []
      | _ => []
  | .receive _ => []
  | .restart => []

/-- The pools that actions meeting a condition lead to, each with the log of the
requests answered on the way. -/
inductive Reachable
    (allowed : Pool Shared Label Request Answer Outcome → Action Label Offer → Prop) :
    List (Entry Label Request Answer) → Pool Shared Label Request Answer Outcome → Prop where
  | initial : Reachable allowed [] machine.initial
  | step {log : List (Entry Label Request Answer)}
      {pool next : Pool Shared Label Request Answer Outcome} {action : Action Label Offer}
      (reached : Reachable allowed log pool) (meets : allowed pool action)
      (acted : machine.act pool action = some next) :
      Reachable allowed (log ++ machine.entries pool action) next

/-- One action of a run. -/
def Becomes (allowed : Pool Shared Label Request Answer Outcome → Action Label Offer → Prop)
    (pool next : Pool Shared Label Request Answer Outcome) : Prop :=
  ∃ log action, machine.Reachable allowed log pool ∧ allowed pool action ∧
    machine.act pool action = some next

/-- A pool of a run, and the same or a later one. -/
abbrev Later (allowed : Pool Shared Label Request Answer Outcome → Action Label Offer → Prop) :
    Pool Shared Label Request Answer Outcome → Pool Shared Label Request Answer Outcome → Prop :=
  Relation.ReflTransGen (machine.Becomes allowed)

/-- A scripted run: every action may depend on the pool and has to be permitted. -/
def play (permits : Pool Shared Label Request Answer Outcome → Action Label Offer → Bool)
    (pool : Pool Shared Label Request Answer Outcome) :
    List (Pool Shared Label Request Answer Outcome → Action Label Offer) →
      Option (Pool Shared Label Request Answer Outcome)
  | [] => some pool
  | scripted :: rest =>
      if permits pool (scripted pool) then
        (machine.act pool (scripted pool)).bind (fun next => play permits next rest)
      else none

/-- A scripted run that keeps its log. -/
def playLog (permits : Pool Shared Label Request Answer Outcome → Action Label Offer → Bool)
    (log : List (Entry Label Request Answer)) (pool : Pool Shared Label Request Answer Outcome) :
    List (Pool Shared Label Request Answer Outcome → Action Label Offer) →
      Option (List (Entry Label Request Answer) × Pool Shared Label Request Answer Outcome)
  | [] => some (log, pool)
  | scripted :: rest =>
      if permits pool (scripted pool) then
        (machine.act pool (scripted pool)).bind (fun next =>
          playLog permits (log ++ machine.entries pool (scripted pool)) next rest)
      else none

variable {machine}

theorem reachable_playLog
    {permits : Pool Shared Label Request Answer Outcome → Action Label Offer → Bool}
    {allowed : Pool Shared Label Request Answer Outcome → Action Label Offer → Prop}
    (sound : ∀ pool action, permits pool action = true → allowed pool action)
    (script : List (Pool Shared Label Request Answer Outcome → Action Label Offer))
    {log logged : List (Entry Label Request Answer)}
    {pool last : Pool Shared Label Request Answer Outcome}
    (reached : machine.Reachable allowed log pool)
    (played : machine.playLog permits log pool script = some (logged, last)) :
    machine.Reachable allowed logged last := by
  induction script generalizing log pool with
  | nil =>
      cases played
      exact reached
  | cons scripted rest ih =>
      unfold playLog at played
      split at played
      · next permitted =>
        rcases Option.bind_eq_some_iff.mp played with ⟨next, acted, played⟩
        exact ih (reached.step (sound _ _ permitted) acted) played
      · cases played

theorem reachable_play
    {permits : Pool Shared Label Request Answer Outcome → Action Label Offer → Bool}
    {allowed : Pool Shared Label Request Answer Outcome → Action Label Offer → Prop}
    (sound : ∀ pool action, permits pool action = true → allowed pool action)
    (script : List (Pool Shared Label Request Answer Outcome → Action Label Offer))
    {log : List (Entry Label Request Answer)}
    {pool last : Pool Shared Label Request Answer Outcome}
    (reached : machine.Reachable allowed log pool)
    (played : machine.play permits pool script = some last) :
    ∃ logged, machine.Reachable allowed logged last := by
  induction script generalizing log pool with
  | nil =>
      cases played
      exact ⟨log, reached⟩
  | cons scripted rest ih =>
      unfold play at played
      split at played
      · next permitted =>
        rcases Option.bind_eq_some_iff.mp played with ⟨next, acted, played⟩
        exact ih (reached.step (sound _ _ permitted) acted) played
      · cases played

theorem later_play
    {permits : Pool Shared Label Request Answer Outcome → Action Label Offer → Bool}
    {allowed : Pool Shared Label Request Answer Outcome → Action Label Offer → Prop}
    (sound : ∀ pool action, permits pool action = true → allowed pool action)
    (script : List (Pool Shared Label Request Answer Outcome → Action Label Offer))
    {log : List (Entry Label Request Answer)}
    {pool last : Pool Shared Label Request Answer Outcome}
    (reached : machine.Reachable allowed log pool)
    (played : machine.play permits pool script = some last) : machine.Later allowed pool last := by
  induction script generalizing log pool with
  | nil =>
      cases played
      exact .refl
  | cons scripted rest ih =>
      unfold play at played
      split at played
      · next permitted =>
        rcases Option.bind_eq_some_iff.mp played with ⟨next, acted, played⟩
        have meets := sound _ _ permitted
        exact .head ⟨log, _, reached, meets, acted⟩ (ih (reached.step meets acted) played)
      · cases played

end Machine

/-- Roles for the threads of a machine, with the proof that every program keeps to
the moves of its role. `call` is the label a live role stands for. -/
structure Protocol (machine : Machine Shared Label Offer Request Answer Outcome)
    (Role : Type) where
  move : Role → (request : Request) → Answer request → Role → Prop
  final : Role → Outcome → Prop
  nobody : Role
  enter : Label → Role
  child : Role → Request → Role
  call : Role → Option Label
  nobody_final : final nobody machine.killed
  nobody_call : call nobody = none
  boot_follows : Program.Follows move final (enter machine.boot) (machine.body machine.boot)
  enter_follows : ∀ shared label, machine.admits shared label = true →
    Program.Follows move final (enter label) (machine.body label)
  child_follows : ∀ role request answer after label, move role request answer after →
    machine.spawned request = some label →
    Program.Follows move final (child role request) (machine.body label)
  enter_call : ∀ label, call (enter label) = some label
  move_call : ∀ role request answer after, move role request answer after → call after = call role
  child_call : ∀ role request answer after label, move role request answer after →
    machine.spawned request = some label → call (child role request) = some label

namespace Protocol

variable {machine : Machine Shared Label Offer Request Answer Outcome} {Role : Type}
  (protocol : Protocol machine Role)

/-- Every thread keeps to its role; beyond the threads there is nobody. -/
structure Annotated (pool : Pool Shared Label Request Answer Outcome) (roles : Nat → Role) :
    Prop where
  follows : ∀ index thread, pool.threads[index]? = some thread →
    Program.Follows protocol.move protocol.final (roles index) thread.program
  called : ∀ index thread, pool.threads[index]? = some thread →
    protocol.call (roles index) = none ∨ protocol.call (roles index) = some thread.label
  absent : ∀ index, pool.threads.length ≤ index → roles index = protocol.nobody

def initialRoles : Nat → Role :=
  Function.update (fun _ => protocol.nobody) 0 (protocol.enter machine.boot)

/-- One action on a pool whose threads have roles, with what it adds to the log. -/
inductive Evolves (pool : Pool Shared Label Request Answer Outcome) (roles : Nat → Role) :
    Action Label Offer → List (Entry Label Request Answer) →
    Pool Shared Label Request Answer Outcome → (Nat → Role) → Prop where
  | advanced {index : Nat} {offer : Offer} {label : Label} {request : Request}
      {next : Answer request → Program Request Answer Outcome} {answer : Answer request}
      {after : Role} (found : pool.threads[index]? = some ⟨label, .ask request next⟩)
      (replied : machine.reply pool.shared index offer request = some answer)
      (moved : protocol.move (roles index) request answer after)
      (alone : machine.spawned request = none) :
      Evolves pool roles (.advance index offer) [⟨index, label, request, answer⟩]
        ⟨machine.effect pool.shared index request, pool.threads.set index ⟨label, next answer⟩⟩
        (Function.update roles index after)
  | spawned {index : Nat} {offer : Offer} {label : Label} {request : Request}
      {next : Answer request → Program Request Answer Outcome} {answer : Answer request}
      {after : Role} {started : Label}
      (found : pool.threads[index]? = some ⟨label, .ask request next⟩)
      (replied : machine.reply pool.shared index offer request = some answer)
      (moved : protocol.move (roles index) request answer after)
      (spawns : machine.spawned request = some started) :
      Evolves pool roles (.advance index offer) [⟨index, label, request, answer⟩]
        ⟨machine.effect pool.shared index request,
          pool.threads.set index ⟨label, next answer⟩ ++ [machine.thread started]⟩
        (Function.update (Function.update roles index after) pool.threads.length
          (protocol.child (roles index) request))
  | admitted {label : Label} (admits : machine.admits pool.shared label = true) :
      Evolves pool roles (.receive label) []
        ⟨pool.shared, pool.threads ++ [machine.thread label]⟩
        (Function.update roles pool.threads.length (protocol.enter label))
  | restarted :
      Evolves pool roles .restart []
        ⟨machine.lost pool.shared,
          pool.threads.map machine.kill ++ [machine.thread machine.boot]⟩
        (Function.update (fun _ => protocol.nobody) pool.threads.length
          (protocol.enter machine.boot))

variable {protocol}

theorem annotated_initial : protocol.Annotated machine.initial protocol.initialRoles where
  follows index thread found := by
    rcases index with _ | index
    · cases found
      exact protocol.boot_follows
    · cases found
  called index thread found := by
    rcases index with _ | index
    · cases found
      exact .inr (protocol.enter_call machine.boot)
    · cases found
  absent index outside := by
    have later : index ≠ 0 := by
      rintro rfl
      exact absurd outside (by simp [Machine.initial])
    exact Function.update_of_ne later _ _

/-- A thread is added at the end, with the role that its program follows. -/
theorem Annotated.add {pool : Pool Shared Label Request Answer Outcome} {roles : Nat → Role}
    (annotated : protocol.Annotated pool roles) {label : Label} {role : Role} (shared : Shared)
    (follows : Program.Follows protocol.move protocol.final role (machine.body label))
    (called : protocol.call role = some label) :
    protocol.Annotated ⟨shared, pool.threads ++ [machine.thread label]⟩
      (Function.update roles pool.threads.length role) where
  follows index thread found := by
    by_cases last : index = pool.threads.length
    · subst last
      rw [List.getElem?_concat_length] at found
      cases found
      rw [Function.update_self]
      exact follows
    · have inside : index < pool.threads.length := by
        have bound := (List.getElem?_eq_some_iff.mp found).1
        simp only [List.length_append, List.length_singleton] at bound
        omega
      rw [Function.update_of_ne last]
      rw [List.getElem?_append_left inside] at found
      exact annotated.follows index thread found
  called index thread found := by
    by_cases last : index = pool.threads.length
    · subst last
      rw [List.getElem?_concat_length] at found
      cases found
      rw [Function.update_self]
      exact .inr called
    · have inside : index < pool.threads.length := by
        have bound := (List.getElem?_eq_some_iff.mp found).1
        simp only [List.length_append, List.length_singleton] at bound
        omega
      rw [Function.update_of_ne last]
      rw [List.getElem?_append_left inside] at found
      exact annotated.called index thread found
  absent index outside := by
    simp only [List.length_append, List.length_singleton] at outside
    rw [Function.update_of_ne (by omega)]
    exact annotated.absent index (by omega)

theorem Annotated.set {pool : Pool Shared Label Request Answer Outcome} {roles : Nat → Role}
    (annotated : protocol.Annotated pool roles) {index : Nat} {label : Label}
    {request : Request} {next : Answer request → Program Request Answer Outcome}
    {answer : Answer request} {after : Role} (shared : Shared)
    (found : pool.threads[index]? = some ⟨label, .ask request next⟩)
    (moved : protocol.move (roles index) request answer after)
    (follows : Program.Follows protocol.move protocol.final after (next answer)) :
    protocol.Annotated ⟨shared, pool.threads.set index ⟨label, next answer⟩⟩
      (Function.update roles index after) where
  follows other thread known := by
    by_cases same : other = index
    · subst same
      rw [List.getElem?_set_self (List.getElem?_eq_some_iff.mp found).1] at known
      cases known
      rw [Function.update_self]
      exact follows
    · rw [List.getElem?_set_ne (Ne.symm same)] at known
      rw [Function.update_of_ne same]
      exact annotated.follows other thread known
  called other thread known := by
    by_cases same : other = index
    · subst same
      rw [List.getElem?_set_self (List.getElem?_eq_some_iff.mp found).1] at known
      cases known
      rw [Function.update_self, protocol.move_call _ _ _ _ moved]
      exact annotated.called other ⟨label, .ask request next⟩ found
    · rw [List.getElem?_set_ne (Ne.symm same)] at known
      rw [Function.update_of_ne same]
      exact annotated.called other thread known
  absent other outside := by
    have inside := (List.getElem?_eq_some_iff.mp found).1
    rw [List.length_set] at outside
    rw [Function.update_of_ne (by omega)]
    exact annotated.absent other outside

theorem annotated_killed (pool : Pool Shared Label Request Answer Outcome) (shared : Shared) :
    protocol.Annotated ⟨shared, pool.threads.map machine.kill⟩ (fun _ => protocol.nobody) where
  follows index thread found := by
    rw [List.getElem?_map, Option.map_eq_some_iff] at found
    obtain ⟨before, _, rfl⟩ := found
    exact protocol.nobody_final
  called _ _ _ := .inl protocol.nobody_call
  absent _ _ := rfl

/-- Every action on annotated threads is one of the four, and annotates them again. -/
theorem Annotated.evolves {pool next : Pool Shared Label Request Answer Outcome}
    {roles : Nat → Role} {action : Action Label Offer} (annotated : protocol.Annotated pool roles)
    (acted : machine.act pool action = some next) :
    ∃ after, protocol.Evolves pool roles action (machine.entries pool action) next after ∧
      protocol.Annotated next after := by
  cases action with
  | advance index offer =>
      unfold Machine.act at acted
      dsimp only at acted
      split at acted
      · next label request rest found =>
        split at acted
        · next answer replied =>
          have logged : machine.entries pool (.advance index offer) =
              [⟨index, label, request, answer⟩] := by
            unfold Machine.entries
            simp only [found, replied]
          rw [logged]
          obtain ⟨after, moved, follows⟩ := annotated.follows index _ found answer
          cases spawns : machine.spawned request with
          | none =>
              rw [spawns] at acted
              simp only [Option.toList_none, List.map_nil, List.append_nil,
                Option.some.injEq] at acted
              subst acted
              exact ⟨_, .advanced found replied moved spawns,
                annotated.set _ found moved follows⟩
          | some started =>
              rw [spawns] at acted
              simp only [Option.toList_some, List.map_cons, List.map_nil,
                Option.some.injEq] at acted
              subst acted
              refine ⟨_, .spawned found replied moved spawns, ?_⟩
              have stepped := annotated.set pool.shared found moved follows
              have added := stepped.add (machine.effect pool.shared index request)
                (protocol.child_follows _ _ _ _ _ moved spawns)
                (protocol.child_call _ _ _ _ _ moved spawns)
              rw [List.length_set] at added
              exact added
        · cases acted
      · cases acted
  | receive label =>
      unfold Machine.act at acted
      dsimp only at acted
      split at acted
      · next admits =>
        rw [Option.some.injEq] at acted
        subst acted
        exact ⟨_, .admitted admits, annotated.add _ (protocol.enter_follows _ _ admits)
          (protocol.enter_call label)⟩
      · cases acted
  | restart =>
      unfold Machine.act at acted
      rw [Option.some.injEq] at acted
      subst acted
      refine ⟨_, .restarted, ?_⟩
      have killed : protocol.Annotated ⟨pool.shared, pool.threads.map machine.kill⟩
          (fun _ => protocol.nobody) := annotated_killed pool pool.shared
      have added := killed.add (machine.lost pool.shared) protocol.boot_follows
        (protocol.enter_call machine.boot)
      rw [List.length_map] at added
      exact added

/-- Every thread meets a condition on it and its role. -/
def Each (condition : Thread Label Request Answer Outcome → Role → Prop)
    (threads : List (Thread Label Request Answer Outcome)) (roles : Nat → Role) : Prop :=
  ∀ index thread, threads[index]? = some thread → condition thread (roles index)

section Each

variable {condition : Thread Label Request Answer Outcome → Role → Prop}
  {threads : List (Thread Label Request Answer Outcome)} {roles : Nat → Role}

theorem Each.add (each : Each condition threads roles)
    {thread : Thread Label Request Answer Outcome} {role : Role} (own : condition thread role) :
    Each condition (threads ++ [thread]) (Function.update roles threads.length role) := by
  intro index other found
  by_cases last : index = threads.length
  · subst last
    rw [List.getElem?_concat_length] at found
    cases found
    rw [Function.update_self]
    exact own
  · have inside : index < threads.length := by
      have bound := (List.getElem?_eq_some_iff.mp found).1
      simp only [List.length_append, List.length_singleton] at bound
      omega
    rw [Function.update_of_ne last]
    rw [List.getElem?_append_left inside] at found
    exact each index other found

theorem Each.set (each : Each condition threads roles) (index : Nat)
    {thread : Thread Label Request Answer Outcome} {role : Role} (own : condition thread role) :
    Each condition (threads.set index thread) (Function.update roles index role) := by
  intro other kept found
  by_cases same : other = index
  · subst same
    have inside := (List.getElem?_eq_some_iff.mp found).1
    rw [List.length_set] at inside
    rw [List.getElem?_set_self inside] at found
    cases found
    rw [Function.update_self]
    exact own
  · rw [List.getElem?_set_ne (Ne.symm same)] at found
    rw [Function.update_of_ne same]
    exact each other kept found

/-- What an answer keeps for its thread, and new and killed threads meet, all threads meet
after any action. -/
theorem Evolves.each {pool next : Pool Shared Label Request Answer Outcome}
    {after : Nat → Role} {action : Action Label Offer}
    {entries : List (Entry Label Request Answer)} (each : Each condition pool.threads roles)
    (advances : ∀ label role request rest answer moved, condition ⟨label, .ask request rest⟩ role →
      protocol.move role request answer moved → condition ⟨label, rest answer⟩ moved)
    (spawns : ∀ label role request rest answer moved started,
      condition ⟨label, .ask request rest⟩ role → protocol.move role request answer moved →
      machine.spawned request = some started →
      condition (machine.thread started) (protocol.child role request))
    (enters : ∀ label, condition (machine.thread label) (protocol.enter label))
    (killed : ∀ thread, condition (machine.kill thread) protocol.nobody)
    (evolves : protocol.Evolves pool roles action entries next after) :
    Each condition next.threads after := by
  cases evolves with
  | @advanced index _ _ _ _ _ _ found replied moved alone =>
      exact each.set index (advances _ _ _ _ _ _ (each _ _ found) moved)
  | @spawned index _ _ _ _ _ _ _ found replied moved started =>
      have stepped := each.set index (advances _ _ _ _ _ _ (each _ _ found) moved)
      have added := stepped.add (spawns _ _ _ _ _ _ _ (each _ _ found) moved started)
      rw [List.length_set] at added
      exact added
  | admitted admits => exact each.add (enters _)
  | restarted =>
      have lost : Each condition (pool.threads.map machine.kill)
          (fun _ => protocol.nobody) := by
        intro index thread found
        rw [List.getElem?_map, Option.map_eq_some_iff] at found
        rcases found with ⟨before, _, rfl⟩
        exact killed before
      have added := lost.add (enters machine.boot)
      rw [List.length_map] at added
      exact added

end Each

/-- What holds at the start and survives every action of annotated threads holds of
every reachable pool and its log. -/
theorem reachable_invariant
    {allowed : Pool Shared Label Request Answer Outcome → Action Label Offer → Prop}
    {invariant : List (Entry Label Request Answer) →
      Pool Shared Label Request Answer Outcome → (Nat → Role) → Prop}
    (initial : invariant [] machine.initial protocol.initialRoles)
    (step : ∀ log pool roles action entries next after, allowed pool action →
      protocol.Annotated pool roles → invariant log pool roles →
      protocol.Evolves pool roles action entries next after → invariant (log ++ entries) next after)
    {log : List (Entry Label Request Answer)} {pool : Pool Shared Label Request Answer Outcome}
    (reached : machine.Reachable allowed log pool) :
    ∃ roles, protocol.Annotated pool roles ∧ invariant log pool roles := by
  induction reached with
  | initial => exact ⟨_, annotated_initial, initial⟩
  | step _ meets acted ih =>
      obtain ⟨roles, annotated, holds⟩ := ih
      obtain ⟨after, evolves, annotatedNext⟩ := annotated.evolves acted
      exact ⟨after, annotatedNext, step _ _ _ _ _ _ _ meets annotated holds evolves⟩

end Protocol

end FortifyLab
