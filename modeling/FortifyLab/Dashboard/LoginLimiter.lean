import Mathlib.Algebra.Order.Ring.Rat
import FortifyLab.Library.SlidingWindow

/-! `LoginLimiter`: the attempts of a client that are allowed, over every sequence of calls. -/

namespace FortifyLab.Dashboard

open SlidingWindow

structure LoginLimiter where
  limit : Nat
  window : ℚ

/-- The dictionary of stamps; a client that it does not have has none. -/
abbrev Attempts := String → List ℚ

/-- `allowed`, at the time that the clock reads. -/
def LoginLimiter.allowed (limiter : LoginLimiter) (attempts : Attempts) (client : String)
    (now : ℚ) : Bool × Attempts :=
  let recent := (attempts client).filter (fun stamp => now - stamp < limiter.window)
  if limiter.limit ≤ recent.length then (false, Function.update attempts client recent)
  else (true, Function.update attempts client (recent ++ [now]))

/-- A call and its answer. -/
structure Call where
  client : String
  time : ℚ
  answer : Bool
  deriving DecidableEq

/-- The calls of a sequence with their answers. -/
def LoginLimiter.calls (limiter : LoginLimiter) (attempts : Attempts) :
    List (String × ℚ) → List Call
  | [] => []
  | (client, now) :: rest =>
      let result := limiter.allowed attempts client now
      ⟨client, now, result.1⟩ :: limiter.calls result.2 rest

/-- The times at which the calls of a client were allowed. -/
def granted (client : String) (calls : List Call) : List ℚ :=
  (calls.filter (fun call => call.client = client ∧ call.answer = true)).map Call.time

theorem granted_append (client : String) (before after : List Call) :
    granted client (before ++ after) = granted client before ++ granted client after := by
  simp [granted]

theorem granted_singleton (client : String) (call : Call) :
    granted client [call] =
      if call.client = client ∧ call.answer = true then [call.time] else [] := by
  by_cases counted : call.client = client ∧ call.answer = true <;> simp [granted, counted]

section

variable {limiter : LoginLimiter} {attempts : Attempts} {now : ℚ}

theorem allowed_full {client : String} {time : ℚ}
    (full : limiter.limit ≤ (recent limiter.window time (attempts client)).length) :
    limiter.allowed attempts client time =
      (false, Function.update attempts client (recent limiter.window time (attempts client))) :=
  if_pos full

theorem allowed_room {client : String} {time : ℚ}
    (room : ¬ limiter.limit ≤ (recent limiter.window time (attempts client)).length) :
    limiter.allowed attempts client time =
      (true, Function.update attempts client
        (recent limiter.window time (attempts client) ++ [time])) :=
  if_neg room

theorem allowed_fst (client : String) (time : ℚ) :
    (limiter.allowed attempts client time).1 = true ↔
      (recent limiter.window time (attempts client)).length < limiter.limit := by
  by_cases full : limiter.limit ≤ (recent limiter.window time (attempts client)).length
  · simp [allowed_full full, full]
  · simp [allowed_room full, Nat.lt_of_not_le full]

/-- An answer writes the stamps of its client, and its own stamp when it allows. -/
theorem allowed_snd (client other : String) (time : ℚ) :
    (limiter.allowed attempts client time).2 other =
      if other = client then recent limiter.window time (attempts client) ++
        granted client [⟨client, time, (limiter.allowed attempts client time).1⟩]
      else attempts other := by
  by_cases full : limiter.limit ≤ (recent limiter.window time (attempts client)).length
  · simp [allowed_full full, granted_singleton, Function.update_apply]
  · simp [allowed_room full, granted_singleton, Function.update_apply]

/-! ## What the dictionary says of the calls before -/

/-- From `now` on, the stamps stand for all calls that were allowed. -/
structure Represents (limiter : LoginLimiter) (now : ℚ) (attempts : Attempts)
    (before : List Call) : Prop where
  recent : ∀ client time, now ≤ time →
    recent limiter.window time (attempts client) =
      recent limiter.window time (granted client before)
  bounded : ∀ client, (attempts client).length ≤ limiter.limit

theorem represents_start (limiter : LoginLimiter) (now : ℚ) :
    Represents limiter now (fun _ => []) [] := by
  constructor
  · intro client time _
    rfl
  · simp

theorem represents_allowed {before : List Call} (known : Represents limiter now attempts before)
    {client : String} {time : ℚ} (order : now ≤ time) :
    Represents limiter time (limiter.allowed attempts client time).2
      (before ++ [⟨client, time, (limiter.allowed attempts client time).1⟩]) := by
  constructor
  · intro other later after
    rw [allowed_snd, granted_append, recent_append]
    by_cases same : other = client
    · subst same
      rw [if_pos rfl, recent_append, recent_recent after,
        known.recent other later (le_trans order after)]
    · have silent : granted other [⟨client, time, (limiter.allowed attempts client time).1⟩] =
          [] := by
        simp [granted_singleton, Ne.symm same]
      rw [if_neg same, silent, known.recent other later (le_trans order after)]
      simp [SlidingWindow.recent]
  · intro other
    rw [allowed_snd]
    by_cases same : other = client
    · rw [if_pos same, List.length_append, granted_singleton]
      have room := @allowed_fst limiter attempts client time
      have kept := length_recent_le limiter.window time (attempts client)
      have bound := known.bounded client
      by_cases allowed : (limiter.allowed attempts client time).1 = true
      · have fewer := room.mp allowed
        simp only [allowed, and_self, if_true, List.length_singleton]
        omega
      · simp only [allowed, and_false, Bool.false_eq_true, if_false, List.length_nil]
        omega
    · rw [if_neg same]
      exact known.bounded other

/-! ## The three laws over a sequence of calls -/

/-- One more call keeps the bound of every interval. -/
theorem within_allowed {before : List Call} (known : Represents limiter now attempts before)
    {client : String} {time : ℚ} (order : now ≤ time) {other : String} {start : ℚ}
    (bound : (within limiter.window start (granted other before)).length ≤ limiter.limit) :
    (within limiter.window start (granted other
      (before ++ [⟨client, time, (limiter.allowed attempts client time).1⟩]))).length ≤
        limiter.limit := by
  have represents := @represents_allowed _ _ _ _ known client time order
  by_cases inside : time < start + limiter.window
  · calc _ ≤ (recent limiter.window time (granted other _)).length :=
          length_within_le limiter.window inside _
      _ = (recent limiter.window time ((limiter.allowed attempts client time).2 other)).length :=
          congrArg List.length (represents.recent other time (le_refl time)).symm
      _ ≤ ((limiter.allowed attempts client time).2 other).length := length_recent_le ..
      _ ≤ limiter.limit := represents.bounded other
  · have outside : within limiter.window start
        (granted other [⟨client, time, (limiter.allowed attempts client time).1⟩]) = [] := by
      rw [granted_singleton]
      split
      · simp [within, inside]
      · rfl
    rw [granted_append, within_append, outside, List.append_nil]
    exact bound

theorem within_calls {before : List Call} (known : Represents limiter now attempts before)
    {requests : List (String × ℚ)} (ordered : requests.Pairwise (fun one two => one.2 ≤ two.2))
    (later : ∀ request ∈ requests, now ≤ request.2) {client : String} {start : ℚ}
    (bound : (within limiter.window start (granted client before)).length ≤ limiter.limit) :
    (within limiter.window start (granted client
      (before ++ limiter.calls attempts requests))).length ≤ limiter.limit := by
  induction requests generalizing now attempts before with
  | nil => simpa [LoginLimiter.calls] using bound
  | cons request requests ih =>
      have order := later request (by simp)
      have next := ih (@represents_allowed _ _ _ _ known request.1 _ order)
        (List.pairwise_cons.mp ordered).2 (List.pairwise_cons.mp ordered).1
        (within_allowed known order bound)
      simpa [LoginLimiter.calls] using next

/-- A denied call finds as many allowed calls in its window as the limit says. -/
theorem denied_calls {before : List Call} (known : Represents limiter now attempts before)
    {requests : List (String × ℚ)} (ordered : requests.Pairwise (fun one two => one.2 ≤ two.2))
    (later : ∀ request ∈ requests, now ≤ request.2) {earlier after : List Call} {call : Call}
    (split : limiter.calls attempts requests = earlier ++ call :: after)
    (denied : call.answer = false) :
    (recent limiter.window call.time (granted call.client (before ++ earlier))).length =
      limiter.limit := by
  induction requests generalizing now attempts before earlier with
  | nil => simp [LoginLimiter.calls] at split
  | cons request requests ih =>
      have order := later request (by simp)
      cases earlier with
      | nil =>
          simp only [LoginLimiter.calls, List.nil_append, List.cons.injEq] at split
          obtain ⟨rfl, _⟩ := split
          have refused : ¬ (recent limiter.window request.2 (attempts request.1)).length <
              limiter.limit := by
            rw [← allowed_fst]
            simpa using denied
          have bound := known.bounded request.1
          have kept := length_recent_le limiter.window request.2 (attempts request.1)
          rw [List.append_nil, ← known.recent request.1 request.2 order]
          omega
      | cons first earlier =>
          simp only [LoginLimiter.calls, List.cons_append, List.cons.injEq] at split
          obtain ⟨rfl, rest⟩ := split
          have next := ih (represents_allowed known order) (List.pairwise_cons.mp ordered).2
            (List.pairwise_cons.mp ordered).1 rest
          simpa using next

end

/-- `kept` is left of the calls when denied calls and calls of others than `client` are dropped. -/
inductive Without (client : String) : List Call → List Call → Prop where
  | nil : Without client [] []
  | keep {calls kept : List Call} (call : Call) :
      Without client calls kept → Without client (call :: calls) (call :: kept)
  | drop {calls kept : List Call} (call : Call) :
      call.client ≠ client ∨ call.answer = false →
      Without client calls kept → Without client (call :: calls) kept

/-- The requests that calls answer. -/
def requests (calls : List Call) : List (String × ℚ) :=
  calls.map (fun call => (call.client, call.time))

/-- From `now` on, two dictionaries have the same recent stamps of a client. -/
def Agree (limiter : LoginLimiter) (client : String) (now : ℚ) (one two : Attempts) : Prop :=
  ∀ time, now ≤ time →
    recent limiter.window time (one client) = recent limiter.window time (two client)

section

variable {limiter : LoginLimiter} {one two : Attempts} {now : ℚ} {client : String}

theorem agree_both (agree : Agree limiter client now one two) {other : String} {time : ℚ}
    (order : now ≤ time) :
    Agree limiter client time (limiter.allowed one other time).2
        (limiter.allowed two other time).2 ∧
      (other = client →
        (limiter.allowed one other time).1 = (limiter.allowed two other time).1) := by
  have answers : other = client →
      (limiter.allowed one other time).1 = (limiter.allowed two other time).1 := by
    intro same
    subst same
    rw [Bool.eq_iff_iff, allowed_fst, allowed_fst, agree time order]
  refine ⟨fun later after => ?_, answers⟩
  rw [allowed_snd, allowed_snd]
  by_cases same : client = other
  · subst same
    rw [if_pos rfl, if_pos rfl, answers rfl, recent_append, recent_append, agree time order]
  · rw [if_neg same, if_neg same]
    exact agree later (le_trans order after)

/-- A denied call or a call of another client leaves the recent stamps as they are. -/
theorem agree_drop (agree : Agree limiter client now one two) {other : String} {time : ℚ}
    (order : now ≤ time)
    (silent : other ≠ client ∨ (limiter.allowed one other time).1 = false) :
    Agree limiter client time (limiter.allowed one other time).2 two := by
  intro later after
  rw [← agree later (le_trans order after), allowed_snd]
  by_cases same : client = other
  · have denied := silent.resolve_left (fun different => different same.symm)
    subst same
    rw [if_pos rfl, granted_singleton, denied]
    simp [recent_recent after]
  · rw [if_neg same]

theorem calls_without (agree : Agree limiter client now one two)
    {asked : List (String × ℚ)} (ordered : asked.Pairwise (fun one two => one.2 ≤ two.2))
    (later : ∀ request ∈ asked, now ≤ request.2) {kept : List Call}
    (without : Without client (limiter.calls one asked) kept) :
    (limiter.calls two (requests kept)).filter (fun call => call.client = client) =
      kept.filter (fun call => call.client = client) := by
  induction asked generalizing now one two kept with
  | nil =>
      cases without
      rfl
  | cons request asked ih =>
      have order := later request (by simp)
      have rest := (List.pairwise_cons.mp ordered)
      cases without with
      | keep _ without =>
          have both := @agree_both _ _ _ _ _ agree request.1 request.2 order
          have next := ih both.1 rest.2 rest.1 without
          simp only [requests, List.map_cons, LoginLimiter.calls] at next ⊢
          by_cases same : request.1 = client
          · simp only [List.filter_cons, same, decide_true, if_true, List.cons.injEq] at next ⊢
            refine ⟨?_, ?_⟩
            · have equal := both.2 same
              rw [same] at equal
              rw [equal]
            · exact next
          · simp only [List.filter_cons, same, decide_false, Bool.false_eq_true, if_false]
            exact next
      | drop _ silent without =>
          exact ih (agree_drop agree order silent) rest.2 rest.1 without

end

end FortifyLab.Dashboard
