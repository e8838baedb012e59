import FortifyLab.Library.Execution
import FortifyLab.Library.History

/-! Automata that programs keep to, and observers: what a program may ask after what its
exchanges have shown. -/

namespace FortifyLab

open Program

variable {Request Inner : Type} {Answer : Request → Type} {Reply : Inner → Type}
  {Role Mark α β ε : Type}

/-- What may be asked in a role, and the role that each answer leads to. -/
structure Automaton (Request : Type) (Answer : Request → Type) (Role : Type) where
  permits : Role → Request → Prop
  after : Role → (request : Request) → Answer request → Role

namespace Automaton

def move (automaton : Automaton Request Answer Role) (role : Role) (request : Request)
    (answer : Answer request) (after : Role) : Prop :=
  automaton.permits role request ∧ after = automaton.after role request answer

/-- Whatever role it starts in, the program keeps to the automaton. -/
def Anywhere (automaton : Automaton Request Answer Role) (program : Program Request Answer α) :
    Prop :=
  ∀ role, Follows automaton.move (fun _ _ => True) role program

variable {automaton : Automaton Request Answer Role} {post : Role → α → Prop} {role : Role}

/-- The requests that leave the role alone. -/
theorem follows_still {program : Program Request Answer α}
    (only : OnlyAsks (fun request => automaton.permits role request ∧
      ∀ answer, automaton.after role request answer = role) program) :
    Follows automaton.move (fun after _ => after = role) role program :=
  only.follows (fun _ answer still => ⟨still.1, (still.2 answer).symm⟩)

theorem anywhere_only {program : Program Request Answer α}
    (only : OnlyAsks (fun request => ∀ role, automaton.permits role request) program) :
    automaton.Anywhere program := by
  intro role
  induction program generalizing role with
  | done result => trivial
  | ask request next ih => exact fun answer => ⟨_, ⟨only.1 role, rfl⟩, ih answer (only.2 answer) _⟩

theorem anywhere_bind {program : Program Request Answer α} {rest : α → Program Request Answer β}
    (first : automaton.Anywhere program) (second : ∀ result, automaton.Anywhere (rest result)) :
    automaton.Anywhere (program >>= rest) :=
  fun role => follows_bind (first role) (fun after result _ => second result after)

/-! ## Expansions that may raise -/

section Expansions

variable {perform : (request : Inner) → Program Request Answer (Reply request)}

theorem follows_expandBind {middle : Role → Except ε α → Prop} {last : Role → Except ε β → Prop}
    {first : ExceptT ε (Program Inner Reply) α} {rest : α → ExceptT ε (Program Inner Reply) β}
    (start : Follows automaton.move middle role (first.run.expand perform))
    (continues : ∀ after value, middle after (.ok value) →
      Follows automaton.move last after ((rest value).run.expand perform))
    (raises : ∀ after error, middle after (.error error) → last after (.error error)) :
    Follows automaton.move last role ((first >>= rest).run.expand perform) := by
  change Follows automaton.move last role
    ((first.run >>= ExceptT.bindCont rest).expand perform)
  rw [expand_bind]
  apply follows_bind start
  intro after result met
  cases result with
  | ok value => exact continues after value met
  | error error => exact raises after error met

theorem follows_expandAsk {request : Inner} {middle : Role → Reply request → Prop}
    {last : Role → Except ε β → Prop} {rest : Reply request → ExceptT ε (Program Inner Reply) β}
    (start : Follows automaton.move middle role (perform request))
    (continues : ∀ after reply, middle after reply →
      Follows automaton.move last after ((rest reply).run.expand perform)) :
    Follows automaton.move last role
      ((liftM (Program.perform request : Program Inner Reply _) >>= rest :
        ExceptT ε (Program Inner Reply) β).run.expand perform) :=
  follows_bind start continues

theorem anywhere_expandBind {first : ExceptT ε (Program Inner Reply) α}
    {rest : α → ExceptT ε (Program Inner Reply) β}
    (start : automaton.Anywhere (first.run.expand perform))
    (next : ∀ value, automaton.Anywhere ((rest value).run.expand perform)) :
    automaton.Anywhere ((first >>= rest).run.expand perform) :=
  fun role => follows_expandBind (start role) (fun after value _ => next value after)
    (fun _ _ _ => trivial)

theorem anywhere_expandTryCatch {body : ExceptT ε (Program Inner Reply) α}
    {handler : ε → ExceptT ε (Program Inner Reply) α}
    (start : automaton.Anywhere (body.run.expand perform))
    (next : ∀ error, automaton.Anywhere ((handler error).run.expand perform)) :
    automaton.Anywhere ((tryCatch body handler).run.expand perform) := by
  change automaton.Anywhere ((body.run >>= _).expand perform)
  rw [expand_bind]
  apply anywhere_bind start
  intro result
  cases result with
  | ok value => exact fun _ => trivial
  | error error => exact next error

end Expansions

end Automaton

/-! ## Observers -/

/-- What an exchange shows, and what may be asked after what was shown. -/
structure Observer (Request : Type) (Answer : Request → Type) (Mark : Type) where
  mark : Exchange Request Answer → Option Mark
  permits : List Mark → Request → Prop

namespace Observer

/-- The marks so far are the role. -/
def automaton (observer : Observer Request Answer Mark) : Automaton Request Answer (List Mark) where
  permits := observer.permits
  after marks request answer := marks ++ (observer.mark ⟨request, answer⟩).toList

/-- A permitted request, which adds its mark if it has one. -/
abbrev move (observer : Observer Request Answer Mark) := observer.automaton.move

variable {observer : Observer Request Answer Mark}
  {post : List Mark → α → Prop} {marks : List Mark}

/-- A program without marks that asks only what is always permitted. -/
theorem follows_quiet {program : Program Request Answer α}
    (only : OnlyAsks (fun request => (∀ marks, observer.permits marks request) ∧
      ∀ answer, observer.mark ⟨request, answer⟩ = none) program) :
    Follows observer.move (fun after _ => after = marks) marks program :=
  Automaton.follows_still (only.mono (fun request quiet => ⟨quiet.1 marks, fun answer => by
    simp [automaton, quiet.2 answer]⟩))

/-- A program that asks only what is always permitted; its marks all meet a condition. -/
theorem follows_free {condition : Mark → Prop} {program : Program Request Answer α}
    (only : OnlyAsks (fun request => (∀ marks, observer.permits marks request) ∧
      ∀ answer, ∀ mark ∈ observer.mark ⟨request, answer⟩, condition mark) program) :
    Follows observer.move
      (fun after _ => ∃ more, after = marks ++ more ∧ ∀ mark ∈ more, condition mark) marks
      program := by
  induction program generalizing marks with
  | done result => exact ⟨[], by simp, by simp⟩
  | ask request next ih =>
      intro answer
      refine ⟨_, ⟨only.1.1 marks, rfl⟩, ?_⟩
      apply Follows.mono (ih answer (only.2 answer))
      rintro after result ⟨more, rfl, met⟩
      refine ⟨(observer.mark ⟨request, answer⟩).toList ++ more, List.append_assoc _ _ _, ?_⟩
      rw [List.forall_mem_append]
      exact ⟨fun mark member => only.1.2 answer mark (Option.mem_toList.mp member), met⟩

/-- What is permitted after what is shown is legal after the history that shows it. -/
theorem records {program : Program Request Answer α}
    {history : List (Exchange Request Answer)}
    (follows : Follows observer.move post (history.filterMap observer.mark) program) :
    Follows (Records (fun history request =>
      observer.permits (history.filterMap observer.mark) request))
      (fun history result => post (history.filterMap observer.mark) result) history program := by
  induction program generalizing history with
  | done result => exact follows
  | ask request next ih =>
      intro answer
      rcases follows answer with ⟨after, ⟨permitted, rfl⟩, goes⟩
      refine ⟨history ++ [⟨request, answer⟩], ⟨permitted, rfl⟩, ih answer ?_⟩
      rw [List.filterMap_append]
      cases known : observer.mark ⟨request, answer⟩ <;> simpa [known, automaton] using goes

end Observer

variable {Shared Label Offer Outcome : Type}

namespace Observer

variable {machine : Machine Shared Label Offer Request Answer Outcome}
  {observer : Label → Observer Request Answer Mark} {post : Label → List Mark → Outcome → Prop}
  {allowed : Pool Shared Label Request Answer Outcome → Action Label Offer → Prop}
  {log : List (Entry Label Request Answer)} {pool : Pool Shared Label Request Answer Outcome}

/-- The discipline of a machine whose programs follow observers, one for each label. -/
def discipline (follows : ∀ label,
      Follows (observer label).move (post label) [] (machine.body label)) :
    Discipline machine where
  legal label history request :=
    (observer label).permits (history.filterMap (observer label).mark) request
  ends label history result := post label (history.filterMap (observer label).mark) result
  keeps label := Observer.records (follows label)

/-- Every answered request was permitted after what its thread had shown. -/
theorem reachable_permits (follows : ∀ label,
      Follows (observer label).move (post label) [] (machine.body label))
    (reached : machine.Reachable allowed log pool) {before after : List (Entry Label Request Answer)}
    {entry : Entry Label Request Answer} (split : log = before ++ entry :: after) :
    (observer entry.label).permits
      ((own before entry.thread).filterMap (observer entry.label).mark) entry.request := by
  rcases (discipline follows).reachable_split reached split with ⟨_, _, _, _, legal⟩
  exact legal

/-- A thread that has ended has shown what its end requires. -/
theorem reachable_ends (follows : ∀ label,
      Follows (observer label).move (post label) [] (machine.body label))
    (reached : machine.Reachable allowed log pool) {index : Nat} {label : Label} {result : Outcome}
    (found : pool.threads[index]? = some ⟨label, .done result⟩) (alive : result ≠ machine.killed) :
    post label ((own log index).filterMap (observer label).mark) result := by
  rcases (discipline follows).reachable_traced reached with ⟨roles, annotated, traced⟩
  exact (discipline follows).traced_ends traced annotated found alive

/-- What is shown in the end includes what was shown before. -/
theorem follows_grows {observer : Observer Request Answer Mark} {shown : List Mark}
    {last : List Mark → α → Prop} {program : Program Request Answer α}
    (follows : Follows observer.move last shown program) :
    Follows observer.move (fun after result => shown ⊆ after ∧ last after result) shown program := by
  induction program generalizing shown with
  | done result => exact ⟨List.Subset.refl _, follows⟩
  | ask request next ih =>
      intro answer
      rcases follows answer with ⟨after, ⟨permitted, rfl⟩, goes⟩
      refine ⟨_, ⟨permitted, rfl⟩, (ih answer goes).mono ?_⟩
      rintro after result ⟨grown, holds⟩
      exact ⟨fun mark member => grown (List.mem_append_left _ member), holds⟩

end Observer

/-! ## Runs of a machine whose threads spawn nothing -/

namespace Machine

variable {machine : Machine Shared Label Offer Request Answer Outcome}
  {allowed : Pool Shared Label Request Answer Outcome → Action Label Offer → Prop}

/-- What holds of every program while it waits holds of all threads of every reachable pool:
it holds of the programs that start, and what one thread does keeps it for all. -/
theorem reachable_programs (keeps : Shared → Program Request Answer Outcome → Prop)
    (alone : ∀ request, machine.spawned request = none)
    (boots : ∀ shared, keeps shared (machine.body machine.boot))
    (starts : ∀ shared label, machine.admits shared label = true →
      keeps shared (machine.body label))
    (killed : ∀ shared, keeps shared (.done machine.killed))
    (advances : ∀ pool index offer label request next answer,
      allowed pool (.advance index offer) →
      (∀ thread ∈ pool.threads, keeps pool.shared thread.program) →
      pool.threads[index]? = some ⟨label, .ask request next⟩ →
      machine.reply pool.shared index offer request = some answer →
      keeps (machine.effect pool.shared index request) (next answer) ∧
        ∀ thread ∈ pool.threads, keeps (machine.effect pool.shared index request) thread.program)
    {log : List (Entry Label Request Answer)} {pool : Pool Shared Label Request Answer Outcome}
    (reached : machine.Reachable allowed log pool) :
    ∀ thread ∈ pool.threads, keeps pool.shared thread.program := by
  induction reached with
  | initial =>
      intro thread member
      rw [List.mem_singleton.mp member]
      exact boots _
  | @step log pool next action reached meets acted ih =>
      cases action with
      | advance index offer =>
          unfold act at acted
          dsimp only at acted
          split at acted
          · next label request rest found =>
            split at acted
            · next answer replied =>
              rw [alone request] at acted
              cases acted
              have kept := advances _ _ _ _ _ _ _ meets ih found replied
              intro thread member
              rw [Option.toList_none, List.map_nil, List.append_nil] at member
              rcases List.mem_or_eq_of_mem_set member with old | rfl
              · exact kept.2 thread old
              · exact kept.1
            · cases acted
          · cases acted
      | receive label =>
          unfold act at acted
          dsimp only at acted
          split at acted
          · next admitted =>
            cases acted
            intro thread member
            rcases List.mem_append.mp member with old | new
            · exact ih thread old
            · rw [List.mem_singleton.mp new]
              exact starts _ _ admitted
          · cases acted
      | restart =>
          cases acted
          intro thread member
          rcases List.mem_append.mp member with old | new
          · rcases List.mem_map.mp old with ⟨before, _, rfl⟩
            exact killed _
          · rw [List.mem_singleton.mp new]
            exact boots _

/-- A view of the shared state that every answer moves in the same way is a fold of the log. -/
theorem reachable_view {View : Type} (view : Shared → View)
    (moves : View → (request : Request) → Answer request → View)
    (tracks : ∀ shared index offer request answer,
      machine.reply shared index offer request = some answer →
      view (machine.effect shared index request) = moves (view shared) request answer)
    (kept : ∀ shared, view (machine.lost shared) = view shared)
    {log : List (Entry Label Request Answer)} {pool : Pool Shared Label Request Answer Outcome}
    (reached : machine.Reachable allowed log pool) :
    view pool.shared =
      log.foldl (fun seen entry => moves seen entry.request entry.answer) (view machine.fresh) := by
  induction reached with
  | initial => rfl
  | @step log pool next action reached meets acted ih =>
      rw [List.foldl_append, ← ih]
      cases action with
      | receive label =>
          unfold act at acted
          dsimp only at acted
          split at acted
          · cases acted
            rfl
          · cases acted
      | restart =>
          cases acted
          exact kept _
      | advance index offer =>
          unfold act at acted
          unfold entries
          dsimp only at acted ⊢
          split at acted
          · next label request rest found =>
            split at acted
            · next answer replied =>
              cases acted
              simp [tracks _ _ _ _ _ replied]
            · cases acted
          · cases acted

theorem follows_anything {program : Program Request Answer α}
    {history : List (Exchange Request Answer)} :
    Follows (Records (fun _ _ => True)) (fun _ _ => True) history program := by
  induction program generalizing history with
  | done result => trivial
  | ask request next ih => exact fun answer => ⟨_, ⟨trivial, rfl⟩, ih answer⟩

/-- The entries of one thread have its label. -/
theorem reachable_label {log : List (Entry Label Request Answer)}
    {pool : Pool Shared Label Request Answer Outcome}
    (reached : machine.Reachable allowed log pool) {entry : Entry Label Request Answer}
    (member : entry ∈ log) :
    ∃ thread, pool.threads[entry.thread]? = some thread ∧ thread.label = entry.label := by
  let any : Discipline machine := ⟨fun _ _ _ => True, fun _ _ _ => True, fun _ => follows_anything⟩
  rcases any.reachable_traced reached with ⟨roles, _, traced⟩
  exact traced.named entry member

/-- What an entry shows of one thread. -/
def shownBy (mark : Exchange Request Answer → Option Mark) (index : Nat)
    (entry : Entry Label Request Answer) : Option Mark :=
  if entry.thread = index then mark entry.exchange else none

theorem own_shown (mark : Exchange Request Answer → Option Mark)
    (log : List (Entry Label Request Answer)) (index : Nat) :
    (own log index).filterMap mark = log.filterMap (shownBy mark index) := by
  induction log with
  | nil => rfl
  | cons entry rest ih =>
      by_cases same : entry.thread = index
      · cases known : mark entry.exchange <;> simpa [own, shownBy, same, known] using ih
      · simpa [own, shownBy, same] using ih

/-- The entry that shows a mark, and what was shown before and after it. -/
theorem own_shown_split {mark : Exchange Request Answer → Option Mark}
    {log : List (Entry Label Request Answer)} {index : Nat} {marks rest : List Mark} {shown : Mark}
    (parts : (own log index).filterMap mark = marks ++ shown :: rest) :
    ∃ first entry last, log = first ++ entry :: last ∧ entry.thread = index ∧
      mark entry.exchange = some shown ∧ (own last index).filterMap mark = rest := by
  rw [own_shown, List.filterMap_eq_append_iff] at parts
  rcases parts with ⟨before, after, rfl, _, shows⟩
  rcases List.filterMap_eq_cons_iff.mp shows with ⟨quiet, entry, last, rfl, _, known, later⟩
  unfold shownBy at known
  split at known
  · next same =>
    exact ⟨before ++ quiet, entry, last, by simp, same, known, by rw [own_shown, later]⟩
  · cases known

/-- Every entry of a reachable log was answered in a reachable pool by an allowed action. -/
theorem reachable_met {log before after : List (Entry Label Request Answer)}
    {pool : Pool Shared Label Request Answer Outcome} {entry : Entry Label Request Answer}
    (reached : machine.Reachable allowed log pool) (split : log = before ++ entry :: after) :
    ∃ earlier offer next, machine.Reachable allowed before earlier ∧
      allowed earlier (.advance entry.thread offer) ∧
      earlier.threads[entry.thread]? = some ⟨entry.label, .ask entry.request next⟩ ∧
      machine.reply earlier.shared entry.thread offer entry.request = some entry.answer := by
  induction reached generalizing after with
  | initial => simp at split
  | @step log pool next action reached meets acted ih =>
      cases action with
      | receive label => exact ih (by simpa [entries] using split)
      | restart => exact ih (by simpa [entries] using split)
      | advance index offer =>
          unfold entries at split
          dsimp only at split
          split at split
          · next label request rest found =>
            split at split
            · next answer replied =>
              rcases Discipline.split_concat split with ⟨_, rfl, rfl⟩ | ⟨more, _, earlier⟩
              · exact ⟨pool, offer, rest, reached, meets, found, replied⟩
              · exact ih earlier
            · exact ih (by simpa using split)
          · exact ih (by simpa using split)

end Machine

end FortifyLab
