import FortifyLab.Library.Pool

/-! What the threads of a pool have asked so far. A discipline says what a thread may
ask after its own history, and what holds of the history when it ends. -/

namespace FortifyLab

/-- A request with the answer it got. -/
abbrev Exchange (Request : Type) (Answer : Request → Type) := (request : Request) × Answer request

variable {Request : Type} {Answer : Request → Type}

namespace Program

variable {α : Type} {legal : List (Exchange Request Answer) → Request → Prop}

/-- The request is legal after the history, which grows by it and its answer. -/
def Records (legal : List (Exchange Request Answer) → Request → Prop)
    (history : List (Exchange Request Answer)) (request : Request) (answer : Answer request)
    (after : List (Exchange Request Answer)) : Prop :=
  legal history request ∧ after = history ++ [⟨request, answer⟩]

/-- The history has grown, by exchanges that all satisfy a condition. -/
def Grown (condition : Exchange Request Answer → Prop) (history after : List (Exchange Request Answer)) :
    Prop :=
  ∃ more, after = history ++ more ∧ ∀ exchange ∈ more, condition exchange

theorem Grown.refl {condition : Exchange Request Answer → Prop}
    (history : List (Exchange Request Answer)) : Grown condition history history :=
  ⟨[], by simp, by simp⟩

theorem Grown.trans {condition : Exchange Request Answer → Prop}
    {first second third : List (Exchange Request Answer)} (early : Grown condition first second)
    (late : Grown condition second third) : Grown condition first third := by
  rcases early with ⟨more, rfl, before⟩
  rcases late with ⟨rest, rfl, after⟩
  exact ⟨more ++ rest, List.append_assoc _ _ _,
    List.forall_mem_append.mpr ⟨before, after⟩⟩

theorem Grown.step {condition : Exchange Request Answer → Prop}
    {first second : List (Exchange Request Answer)} (grown : Grown condition first second)
    {exchange : Exchange Request Answer} (holds : condition exchange) :
    Grown condition first (second ++ [exchange]) :=
  grown.trans ⟨[exchange], rfl, by simpa using holds⟩

theorem Grown.mono {condition weaker : Exchange Request Answer → Prop}
    {first second : List (Exchange Request Answer)} (grown : Grown condition first second)
    (implied : ∀ exchange, condition exchange → weaker exchange) : Grown weaker first second := by
  rcases grown with ⟨more, same, holds⟩
  exact ⟨more, same, fun exchange member => implied exchange (holds exchange member)⟩

theorem Grown.mem {condition : Exchange Request Answer → Prop}
    {first second : List (Exchange Request Answer)} (grown : Grown condition first second)
    {exchange : Exchange Request Answer} (member : exchange ∈ first) : exchange ∈ second := by
  rcases grown with ⟨more, rfl, _⟩
  exact List.mem_append_left more member

/-- A program of requests that are always legal extends the history by them. -/
theorem OnlyAsks.records {allowed : Request → Prop} {program : Program Request Answer α}
    (only : OnlyAsks allowed program)
    (lawful : ∀ history request, allowed request → legal history request)
    (history : List (Exchange Request Answer)) :
    Follows (Records legal)
      (fun after _ => Grown (fun exchange => allowed exchange.1) history after) history program := by
  have general : ∀ now, Grown (fun exchange => allowed exchange.1) history now →
      Follows (Records legal)
        (fun after _ => Grown (fun exchange => allowed exchange.1) history after) now program := by
    induction program with
    | done result => exact fun _ grown => grown
    | ask request next ih =>
        intro now grown answer
        exact ⟨_, ⟨lawful now request only.1, rfl⟩, ih answer (only.2 answer) _ (grown.step only.1)⟩
  exact general history (Grown.refl history)

/-- Wherever the program starts, it only makes legal requests, and when it ends
`post` holds of what it has been told since. `told` is what it was told already. -/
def Runs (legal : List (Exchange Request Answer) → Request → Prop)
    (post : List (Exchange Request Answer) → α → Prop) (told : List (Exchange Request Answer))
    (program : Program Request Answer α) : Prop :=
  ∀ before, Follows (Records legal) (fun after result => ∃ all, after = before ++ all ∧ post all result)
    (before ++ told) program

section Runs

variable {β ε : Type} {post : List (Exchange Request Answer) → α → Prop}
  {told : List (Exchange Request Answer)}

theorem runs_done {result : α} (holds : post told result) :
    Runs legal post told (.done result : Program Request Answer α) :=
  fun _ => ⟨told, rfl, holds⟩

theorem runs_ask {request : Request} {next : Answer request → Program Request Answer α}
    (first : ∀ before, legal (before ++ told) request)
    (rest : ∀ answer, Runs legal post (told ++ [⟨request, answer⟩]) (next answer)) :
    Runs legal post told (.ask request next) := by
  intro before answer
  refine ⟨_, ⟨first before, rfl⟩, ?_⟩
  rw [List.append_assoc]
  exact rest answer before

theorem runs_bind {middle : List (Exchange Request Answer) → β → Prop}
    {program : Program Request Answer β} {rest : β → Program Request Answer α}
    (first : Runs legal middle [] program)
    (second : ∀ more result, middle more result → Runs legal post (told ++ more) (rest result)) :
    Runs legal post told (program >>= rest) := by
  intro before
  have start := first (before ++ told)
  rw [List.append_nil] at start
  apply follows_bind start
  intro after result outcome
  rcases outcome with ⟨more, rfl, holds⟩
  rw [List.append_assoc]
  exact second more result holds before

theorem Runs.mono {weaker : List (Exchange Request Answer) → α → Prop}
    {program : Program Request Answer α} (runs : Runs legal post told program)
    (implied : ∀ all result, post all result → weaker all result) :
    Runs legal weaker told program := by
  intro before
  apply (runs before).mono
  intro after result outcome
  rcases outcome with ⟨all, same, holds⟩
  exact ⟨all, same, implied all result holds⟩

/-- A program at the end of another one's. -/
theorem Runs.last {middle : List (Exchange Request Answer) → α → Prop}
    {program : Program Request Answer α} (runs : Runs legal middle [] program)
    (implied : ∀ more result, middle more result → post (told ++ more) result) :
    Runs legal post told program := by
  rw [← bind_done program]
  exact runs_bind runs (fun more result holds => runs_done (implied more result holds))

/-- A program that runs anywhere runs after a given history. -/
theorem Runs.follows {program : Program Request Answer α} (runs : Runs legal post [] program)
    (history : List (Exchange Request Answer)) :
    Follows (Records legal) (fun after result => ∃ more, after = history ++ more ∧ post more result)
      history program := by
  have start := runs history
  rw [List.append_nil] at start
  exact start

theorem runs_bindExcept {middle : List (Exchange Request Answer) → Except ε β → Prop}
    {post : List (Exchange Request Answer) → Except ε α → Prop}
    {first : ExceptT ε (Program Request Answer) β}
    {rest : β → ExceptT ε (Program Request Answer) α} (runs : Runs legal middle [] first.run)
    (continues : ∀ more result, middle more (.ok result) →
      Runs legal post (told ++ more) (rest result).run)
    (raises : ∀ more error, middle more (.error error) → post (told ++ more) (.error error)) :
    Runs legal post told (first >>= rest).run := by
  apply runs_bind runs
  intro more result holds
  cases result with
  | ok value => exact continues more value holds
  | error error => exact runs_done (raises more error holds)

theorem runs_liftExcept {post : List (Exchange Request Answer) → Except ε α → Prop}
    {program : Program Request Answer α}
    (runs : Runs legal (fun all result => post all (.ok result)) told program) :
    Runs legal post told (ExceptT.lift program : ExceptT ε (Program Request Answer) α).run := by
  intro before
  apply follows_bind (runs before)
  exact fun _ _ holds => holds

theorem runs_liftBind {middle : List (Exchange Request Answer) → β → Prop}
    {post : List (Exchange Request Answer) → Except ε α → Prop}
    {program : Program Request Answer β} {rest : β → ExceptT ε (Program Request Answer) α}
    (runs : Runs legal middle [] program)
    (continues : ∀ more result, middle more result →
      Runs legal post (told ++ more) (rest result).run) :
    Runs legal post told
      ((liftM program : ExceptT ε (Program Request Answer) β) >>= rest).run := by
  intro before
  have start := runs (before ++ told)
  rw [List.append_nil] at start
  apply follows_liftBind start
  intro after result outcome
  rcases outcome with ⟨more, rfl, holds⟩
  rw [List.append_assoc]
  exact continues more result holds before

theorem runs_askExcept {post : List (Exchange Request Answer) → Except ε α → Prop}
    {request : Request} {rest : Answer request → ExceptT ε (Program Request Answer) α}
    (first : ∀ before, legal (before ++ told) request)
    (next : ∀ answer, Runs legal post (told ++ [⟨request, answer⟩]) (rest answer).run) :
    Runs legal post told
      ((liftM (perform request) : ExceptT ε (Program Request Answer) _) >>= rest).run :=
  runs_ask first next

theorem OnlyAsks.runs {allowed : Request → Prop} {program : Program Request Answer α}
    (only : OnlyAsks allowed program)
    (lawful : ∀ history request, allowed request → legal history request) :
    Runs legal (fun all _ => ∀ exchange ∈ all, allowed exchange.1) [] program := by
  intro before
  rw [List.append_nil]
  apply (only.records lawful before).mono
  intro after _ grown
  exact grown

end Runs

/-- Roles may be replaced by what a map makes of them. -/
theorem Follows.transport {Role Other : Type}
    {move : Role → (request : Request) → Answer request → Role → Prop}
    {another : Other → (request : Request) → Answer request → Other → Prop}
    {post : Role → α → Prop} {ending : Other → α → Prop} (view : Role → Other)
    (moves : ∀ role request answer after, move role request answer after →
      another (view role) request answer (view after))
    (ends : ∀ role result, post role result → ending (view role) result) {role : Role}
    {program : Program Request Answer α} (follows : Follows move post role program) :
    Follows another ending (view role) program := by
  induction program generalizing role with
  | done result => exact ends role result follows
  | ask request next ih =>
      intro answer
      rcases follows answer with ⟨after, moved, rest⟩
      exact ⟨view after, moves _ _ _ _ moved, ih answer rest⟩

end Program

variable {Shared Label Offer Outcome : Type}

def Entry.exchange (entry : Entry Label Request Answer) : Exchange Request Answer :=
  ⟨entry.request, entry.answer⟩

/-- The exchanges of one thread. -/
def own (log : List (Entry Label Request Answer)) (index : Nat) : List (Exchange Request Answer) :=
  (log.filter (fun entry => decide (entry.thread = index))).map Entry.exchange

@[simp] theorem own_nil (index : Nat) :
    own ([] : List (Entry Label Request Answer)) index = [] := rfl

theorem own_append (first second : List (Entry Label Request Answer)) (index : Nat) :
    own (first ++ second) index = own first index ++ own second index := by
  simp [own]

theorem own_concat_self (log : List (Entry Label Request Answer))
    (entry : Entry Label Request Answer) :
    own (log ++ [entry]) entry.thread = own log entry.thread ++ [entry.exchange] := by
  simp [own]

theorem own_concat_ne (log : List (Entry Label Request Answer))
    {entry : Entry Label Request Answer} {index : Nat} (other : entry.thread ≠ index) :
    own (log ++ [entry]) index = own log index := by
  simp [own, other]

theorem mem_own {log : List (Entry Label Request Answer)} {index : Nat}
    {exchange : Exchange Request Answer} :
    exchange ∈ own log index ↔
      ∃ entry ∈ log, entry.thread = index ∧ entry.exchange = exchange := by
  simp [own, and_assoc]

namespace Machine

variable {machine : Machine Shared Label Offer Request Answer Outcome}

/-- A live thread has the history that the log shows; the others were killed. -/
structure Traced (machine : Machine Shared Label Offer Request Answer Outcome)
    (log : List (Entry Label Request Answer))
    (pool : Pool Shared Label Request Answer Outcome)
    (roles : Nat → Option (Label × List (Exchange Request Answer))) : Prop where
  named : ∀ entry ∈ log, ∃ thread, pool.threads[entry.thread]? = some thread ∧
    thread.label = entry.label
  lives : ∀ index thread, pool.threads[index]? = some thread →
    roles index = some (thread.label, own log index) ∨ thread.program = .done machine.killed

theorem own_eq_nil {log : List (Entry Label Request Answer)}
    {pool : Pool Shared Label Request Answer Outcome}
    (named : ∀ entry ∈ log, ∃ thread, pool.threads[entry.thread]? = some thread ∧
      thread.label = entry.label) : own log pool.threads.length = [] := by
  unfold own
  rw [List.map_eq_nil_iff, List.filter_eq_nil_iff]
  intro entry member same
  rcases named entry member with ⟨thread, found, _⟩
  have bound := (List.getElem?_eq_some_iff.mp found).1
  have equal : entry.thread = pool.threads.length := of_decide_eq_true same
  omega

/-- Before its next request the thread has the history that the log shows. -/
theorem Traced.moving {log : List (Entry Label Request Answer)}
    {pool : Pool Shared Label Request Answer Outcome}
    {roles : Nat → Option (Label × List (Exchange Request Answer))}
    (traced : machine.Traced log pool roles) {index : Nat} {label : Label}
    {request : Request} {next : Answer request → Program Request Answer Outcome}
    (found : pool.threads[index]? = some ⟨label, .ask request next⟩) :
    roles index = some (label, own log index) := by
  rcases traced.lives index _ found with live | killed
  · exact live
  · cases killed

theorem Traced.answered {log : List (Entry Label Request Answer)}
    {pool : Pool Shared Label Request Answer Outcome}
    {roles : Nat → Option (Label × List (Exchange Request Answer))}
    (traced : machine.Traced log pool roles) {index : Nat} {label : Label}
    {request : Request} {next : Answer request → Program Request Answer Outcome}
    {answer : Answer request} (shared : Shared)
    (found : pool.threads[index]? = some ⟨label, .ask request next⟩) :
    machine.Traced (log ++ [⟨index, label, request, answer⟩])
      ⟨shared, pool.threads.set index ⟨label, next answer⟩⟩
      (Function.update roles index
        (some (label, own log index ++ [⟨request, answer⟩]))) where
  named entry member := by
    have kept : ∀ known ∈ log, ∃ thread,
        (pool.threads.set index ⟨label, next answer⟩)[known.thread]? = some thread ∧
          thread.label = known.label := by
      intro known member
      rcases traced.named known member with ⟨thread, there, named⟩
      by_cases same : known.thread = index
      · rw [same] at there ⊢
        rw [List.getElem?_set_self (List.getElem?_eq_some_iff.mp found).1]
        rw [there] at found
        cases found
        exact ⟨_, rfl, named⟩
      · rw [List.getElem?_set_ne (Ne.symm same)]
        exact ⟨thread, there, named⟩
    rcases List.mem_append.mp member with old | new
    · exact kept entry old
    · rw [List.mem_singleton] at new
      subst new
      dsimp only
      rw [List.getElem?_set_self (List.getElem?_eq_some_iff.mp found).1]
      exact ⟨_, rfl, rfl⟩
  lives other thread there := by
    by_cases same : other = index
    · subst same
      dsimp only at there
      rw [List.getElem?_set_self (List.getElem?_eq_some_iff.mp found).1] at there
      cases there
      have appended := own_concat_self log (⟨other, label, request, answer⟩ : Entry ..)
      dsimp only at appended ⊢
      rw [appended, Function.update_self]
      exact .inl rfl
    · dsimp only at there
      rw [List.getElem?_set_ne (Ne.symm same)] at there
      rw [own_concat_ne log (Ne.symm same), Function.update_of_ne same]
      exact traced.lives other thread there

theorem Traced.add {log : List (Entry Label Request Answer)}
    {pool : Pool Shared Label Request Answer Outcome}
    {roles : Nat → Option (Label × List (Exchange Request Answer))}
    (traced : machine.Traced log pool roles) (shared : Shared) (label : Label) :
    machine.Traced log ⟨shared, pool.threads ++ [machine.thread label]⟩
      (Function.update roles pool.threads.length (some (label, []))) where
  named entry member := by
    rcases traced.named entry member with ⟨thread, found, named⟩
    have inside := (List.getElem?_eq_some_iff.mp found).1
    exact ⟨thread, by rw [List.getElem?_append_left inside]; exact found, named⟩
  lives index thread found := by
    dsimp only at found
    by_cases last : index = pool.threads.length
    · subst last
      rw [List.getElem?_concat_length] at found
      cases found
      rw [Function.update_self, own_eq_nil traced.named]
      exact .inl rfl
    · have inside : index < pool.threads.length := by
        have bound := (List.getElem?_eq_some_iff.mp found).1
        simp only [List.length_append, List.length_singleton] at bound
        omega
      rw [List.getElem?_append_left inside] at found
      rw [Function.update_of_ne last]
      exact traced.lives index thread found

theorem Traced.killed {log : List (Entry Label Request Answer)}
    {pool : Pool Shared Label Request Answer Outcome}
    {roles : Nat → Option (Label × List (Exchange Request Answer))}
    (traced : machine.Traced log pool roles) (shared : Shared) :
    machine.Traced log ⟨shared, pool.threads.map machine.kill⟩ (fun _ => none) where
  named entry member := by
    rcases traced.named entry member with ⟨thread, found, named⟩
    exact ⟨machine.kill thread, by simp [found], named⟩
  lives index thread found := by
    simp only [List.getElem?_map, Option.map_eq_some_iff] at found
    rcases found with ⟨before, _, rfl⟩
    exact .inr rfl

end Machine

/-- What the threads of a machine keep to, each by its own history. -/
structure Discipline (machine : Machine Shared Label Offer Request Answer Outcome) where
  legal : Label → List (Exchange Request Answer) → Request → Prop
  ends : Label → List (Exchange Request Answer) → Outcome → Prop
  keeps : ∀ label, Program.Follows (Program.Records (legal label)) (ends label) []
    (machine.body label)

namespace Discipline

variable {machine : Machine Shared Label Offer Request Answer Outcome}
  (discipline : Discipline machine)

/-- The role of a live thread is its label and its history. -/
def protocol : Protocol machine (Option (Label × List (Exchange Request Answer))) where
  move role request answer after := ∃ label history, role = some (label, history) ∧
    discipline.legal label history request ∧
    after = some (label, history ++ [⟨request, answer⟩])
  final role result := ∀ label history, role = some (label, history) →
    discipline.ends label history result
  nobody := none
  enter label := some (label, [])
  child _ request := (machine.spawned request).map (fun label => (label, []))
  call role := role.map Prod.fst
  nobody_final := by simp
  nobody_call := rfl
  boot_follows := by
    apply (discipline.keeps machine.boot).transport (fun history => some (machine.boot, history))
    · intro history request answer after moved
      exact ⟨_, history, rfl, moved.1, by rw [moved.2]⟩
    · intro history result ends label other same
      cases same
      exact ends
  enter_follows := by
    intro _ label _
    apply (discipline.keeps label).transport (fun history => some (label, history))
    · intro history request answer after moved
      exact ⟨_, history, rfl, moved.1, by rw [moved.2]⟩
    · intro history result ends label other same
      cases same
      exact ends
  child_follows := by
    intro _ request _ _ label _ spawned
    rw [spawned]
    apply (discipline.keeps label).transport (fun history => some (label, history))
    · intro history request answer after moved
      exact ⟨_, history, rfl, moved.1, by rw [moved.2]⟩
    · intro history result ends label other same
      cases same
      exact ends
  enter_call _ := rfl
  move_call := by
    intro role request answer after moved
    rcases moved with ⟨label, history, rfl, _, rfl⟩
    rfl
  child_call := by
    intro role request answer after label _ spawned
    simp [spawned]

variable {discipline}

/-- What holds of the empty log, survives every legal request that is answered and
survives a restart holds of every reachable pool and its log. -/
theorem reachable_invariant
    {allowed : Pool Shared Label Request Answer Outcome → Action Label Offer → Prop}
    (holds : List (Entry Label Request Answer) → Shared → Prop)
    (initial : holds [] machine.fresh)
    (answered : ∀ log shared index offer label request answer,
      discipline.legal label (own log index) request →
      machine.reply shared index offer request = some answer →
      (∀ entry ∈ log, entry.thread = index → entry.label = label) → holds log shared →
      holds (log ++ [⟨index, label, request, answer⟩]) (machine.effect shared index request))
    (lost : ∀ log shared, holds log shared → holds log (machine.lost shared))
    {log : List (Entry Label Request Answer)} {pool : Pool Shared Label Request Answer Outcome}
    (reached : machine.Reachable allowed log pool) :
    ∃ roles, discipline.protocol.Annotated pool roles ∧ machine.Traced log pool roles ∧
      holds log pool.shared := by
  apply Protocol.reachable_invariant _ _ reached
  · refine ⟨⟨by simp, ?_⟩, initial⟩
    intro index thread found
    rcases index with _ | index
    · cases found
      exact .inl rfl
    · cases found
  · intro log pool roles action entries next after _ _ invariant evolves
    rcases invariant with ⟨traced, known⟩
    have alike : ∀ index label request next,
        pool.threads[index]? = some ⟨label, .ask request next⟩ →
        ∀ entry ∈ log, entry.thread = index → entry.label = label := by
      intro index label request next found entry member same
      rcases traced.named entry member with ⟨thread, there, named⟩
      rw [same, found] at there
      cases there
      exact named.symm
    cases evolves with
    | @advanced index offer label request next answer after found replied moved alone =>
        rcases moved with ⟨mine, history, role, legal, rfl⟩
        rw [traced.moving found] at role
        cases role
        exact ⟨traced.answered _ found, answered _ _ _ _ _ _ _ legal replied
          (alike _ _ _ _ found) known⟩
    | @spawned index offer label request next answer after started found replied moved spawns =>
        rcases moved with ⟨mine, history, role, legal, rfl⟩
        rw [traced.moving found] at role
        cases role
        have stepped : machine.Traced (log ++ [⟨index, label, request, answer⟩]) _ _ :=
          traced.answered pool.shared found
        have grown := stepped.add (machine.effect pool.shared index request) started
        rw [List.length_set] at grown
        refine ⟨?_, answered _ _ _ _ _ _ _ legal replied (alike _ _ _ _ found) known⟩
        have child : discipline.protocol.child (roles index) request = some (started, []) := by
          simp [protocol, spawns]
        rw [child]
        exact grown
    | @admitted label admits =>
        rw [List.append_nil]
        exact ⟨traced.add _ label, known⟩
    | restarted =>
        rw [List.append_nil]
        have grown := (traced.killed pool.shared).add (machine.lost pool.shared) machine.boot
        rw [List.length_map] at grown
        exact ⟨grown, lost _ _ known⟩

theorem reachable_traced
    {allowed : Pool Shared Label Request Answer Outcome → Action Label Offer → Prop}
    {log : List (Entry Label Request Answer)} {pool : Pool Shared Label Request Answer Outcome}
    (reached : machine.Reachable allowed log pool) :
    ∃ roles, discipline.protocol.Annotated pool roles ∧ machine.Traced log pool roles := by
  rcases discipline.reachable_invariant (fun _ _ => True) trivial
    (fun _ _ _ _ _ _ _ _ _ _ _ => trivial) (fun _ _ _ => trivial) reached with
    ⟨roles, annotated, traced, _⟩
  exact ⟨roles, annotated, traced⟩

/-- A split of a list with a last element is at that element or before it. -/
theorem split_concat {α : Type} {list before after : List α} {last entry : α}
    (split : list ++ [last] = before ++ entry :: after) :
    (after = [] ∧ list = before ∧ last = entry) ∨
      ∃ rest, after = rest ++ [last] ∧ list = before ++ entry :: rest := by
  rcases List.eq_nil_or_concat after with rfl | ⟨rest, other, rfl⟩
  · have same := List.append_singleton_inj.mp split
    exact .inl ⟨rfl, same⟩
  · rw [List.concat_eq_append] at split ⊢
    have longer : list ++ [last] = (before ++ entry :: rest) ++ [other] := by simp [split]
    have same := List.append_singleton_inj.mp longer
    exact .inr ⟨rest, by rw [same.2], same.1⟩

/-- Every entry of a reachable log was answered in a reachable pool, legally. -/
theorem reachable_split
    {allowed : Pool Shared Label Request Answer Outcome → Action Label Offer → Prop}
    {log : List (Entry Label Request Answer)} {pool : Pool Shared Label Request Answer Outcome}
    (reached : machine.Reachable allowed log pool) {before after : List (Entry Label Request Answer)}
    {entry : Entry Label Request Answer} (split : log = before ++ entry :: after) :
    ∃ earlier offer, machine.Reachable allowed before earlier ∧
      machine.reply earlier.shared entry.thread offer entry.request = some entry.answer ∧
      discipline.legal entry.label (own before entry.thread) entry.request := by
  induction reached generalizing after with
  | initial => simp at split
  | @step log pool next action known meets acted ih =>
      rcases discipline.reachable_traced known with ⟨roles, annotated, traced⟩
      rcases annotated.evolves acted with ⟨_, evolves, _⟩
      have answered : ∀ index offer label request next answer,
          pool.threads[index]? = some ⟨label, .ask request next⟩ →
          machine.reply pool.shared index offer request = some answer →
          (∃ after, discipline.protocol.move (roles index) request answer after) →
          log ++ [⟨index, label, request, answer⟩] = before ++ entry :: after →
          ∃ earlier offer, machine.Reachable allowed before earlier ∧
            machine.reply earlier.shared entry.thread offer entry.request = some entry.answer ∧
            discipline.legal entry.label (own before entry.thread) entry.request := by
        intro index offer label request next answer found replied moved split
        rcases split_concat split with ⟨_, rfl, rfl⟩ | ⟨rest, _, split⟩
        · rcases moved with ⟨_, _, history, role, legal, _⟩
          rw [traced.moving found] at role
          cases role
          exact ⟨pool, offer, known, replied, legal⟩
        · exact ih split
      generalize machine.entries pool action = entries at evolves split
      cases evolves with
      | advanced found replied moved alone =>
          exact answered _ _ _ _ _ _ found replied ⟨_, moved⟩ split
      | spawned found replied moved spawns =>
          exact answered _ _ _ _ _ _ found replied ⟨_, moved⟩ split
      | admitted admits => exact ih (by simpa using split)
      | restarted => exact ih (by simpa using split)

/-- A thread that has ended, unless it was killed, ended as the discipline says. -/
theorem traced_ends {log : List (Entry Label Request Answer)}
    {pool : Pool Shared Label Request Answer Outcome}
    {roles : Nat → Option (Label × List (Exchange Request Answer))}
    (traced : machine.Traced log pool roles)
    (annotated : discipline.protocol.Annotated pool roles) {index : Nat} {label : Label}
    {result : Outcome} (found : pool.threads[index]? = some ⟨label, .done result⟩)
    (alive : result ≠ machine.killed) : discipline.ends label (own log index) result := by
  rcases traced.lives index _ found with live | killed
  · exact annotated.follows index _ found label (own log index) live
  · cases killed
    exact absurd rfl alive

end Discipline

end FortifyLab
