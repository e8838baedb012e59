import FortifyLab.Library.Pool

/-! A protocol watched by a second automaton: each thread has a role and a flag, and both
move with its requests. -/

namespace FortifyLab

variable {Shared Label Offer Request : Type} {Answer : Request → Type} {Outcome Role Flag : Type}

/-- A program that keeps to two protocols keeps to both at once. -/
theorem Program.follows_both {α : Type}
    {move : Role → (request : Request) → Answer request → Role → Prop}
    {watch : Flag → (request : Request) → Answer request → Flag → Prop} {post : Role → α → Prop}
    {last : Flag → α → Prop} {role : Role} {flag : Flag} {program : Program Request Answer α}
    (first : Follows move post role program) (second : Follows watch last flag program) :
    Follows
      (fun (both : Role × Flag) request answer (after : Role × Flag) =>
        move both.1 request answer after.1 ∧ watch both.2 request answer after.2)
      (fun both result => post both.1 result ∧ last both.2 result) (role, flag) program := by
  induction program generalizing role flag with
  | done result => exact ⟨first, second⟩
  | ask request next ih =>
      intro answer
      obtain ⟨after, moved, follows⟩ := first answer
      obtain ⟨seen, watched, goes⟩ := second answer
      exact ⟨(after, seen), ⟨moved, watched⟩, ih answer follows goes⟩

theorem Program.Follows.first {α : Type}
    {move : Role → (request : Request) → Answer request → Role → Prop}
    {watch : Flag → (request : Request) → Answer request → Flag → Prop} {post : Role → α → Prop}
    {last : Flag → α → Prop} {both : Role × Flag} {program : Program Request Answer α}
    (follows : Follows
      (fun (both : Role × Flag) request answer (after : Role × Flag) =>
        move both.1 request answer after.1 ∧ watch both.2 request answer after.2)
      (fun both result => post both.1 result ∧ last both.2 result) both program) :
    Follows move post both.1 program := by
  induction program generalizing both with
  | done result => exact follows.1
  | ask request next ih =>
      intro answer
      obtain ⟨after, moved, goes⟩ := follows answer
      exact ⟨after.1, moved.1, ih answer goes⟩

/-- A flag for every thread of a machine, and how the requests move it. -/
structure Watch (machine : Machine Shared Label Offer Request Answer Outcome) (Flag : Type) where
  move : Flag → (request : Request) → Answer request → Flag → Prop
  final : Flag → Outcome → Prop
  nobody : Flag
  enter : Label → Flag
  child : Flag → Request → Flag
  nobody_final : final nobody machine.killed
  boot_follows : Program.Follows move final (enter machine.boot) (machine.body machine.boot)
  enter_follows : ∀ shared label, machine.admits shared label = true →
    Program.Follows move final (enter label) (machine.body label)
  child_follows : ∀ flag request answer after label, move flag request answer after →
    machine.spawned request = some label →
    Program.Follows move final (child flag request) (machine.body label)

namespace Protocol

variable {machine : Machine Shared Label Offer Request Answer Outcome}
  (protocol : Protocol machine Role) (watch : Watch machine Flag)

/-- The protocol with a flag beside each role. -/
def watched : Protocol machine (Role × Flag) where
  move both request answer after :=
    protocol.move both.1 request answer after.1 ∧ watch.move both.2 request answer after.2
  final both result := protocol.final both.1 result ∧ watch.final both.2 result
  nobody := (protocol.nobody, watch.nobody)
  enter label := (protocol.enter label, watch.enter label)
  child both request := (protocol.child both.1 request, watch.child both.2 request)
  call both := protocol.call both.1
  nobody_final := ⟨protocol.nobody_final, watch.nobody_final⟩
  nobody_call := protocol.nobody_call
  boot_follows := Program.follows_both protocol.boot_follows watch.boot_follows
  enter_follows shared label admits := Program.follows_both
    (protocol.enter_follows shared label admits) (watch.enter_follows shared label admits)
  child_follows both request answer after label moved spawns := Program.follows_both
    (protocol.child_follows both.1 request answer after.1 label moved.1 spawns)
    (watch.child_follows both.2 request answer after.2 label moved.2 spawns)
  enter_call := protocol.enter_call
  move_call both request answer after moved :=
    protocol.move_call both.1 request answer after.1 moved.1
  child_call both request answer after label moved spawns :=
    protocol.child_call both.1 request answer after.1 label moved.1 spawns

variable {protocol watch} {pool next : Pool Shared Label Request Answer Outcome}
  {roles after : Nat → Role × Flag}

/-- The roles without the flags. -/
theorem Annotated.first (annotated : (protocol.watched watch).Annotated pool roles) :
    protocol.Annotated pool (fun index => (roles index).1) where
  follows index thread found := (annotated.follows index thread found).first
  called index thread found := annotated.called index thread found
  absent index outside := by rw [annotated.absent index outside]; rfl

theorem update_first (roles : Nat → Role × Flag) (index : Nat) (both : Role × Flag) :
    (fun other => (Function.update roles index both other).1) =
      Function.update (fun other => (roles other).1) index both.1 := by
  funext other
  by_cases same : other = index
  · rw [same, Function.update_self, Function.update_self]
  · rw [Function.update_of_ne same, Function.update_of_ne same]

theorem Evolves.first {action : Action Label Offer} {entries : List (Entry Label Request Answer)}
    (evolves : (protocol.watched watch).Evolves pool roles action entries next after) :
    protocol.Evolves pool (fun index => (roles index).1) action entries next
      (fun index => (after index).1) := by
  cases evolves with
  | advanced found replied moved alone =>
      rw [update_first]
      exact .advanced found replied moved.1 alone
  | spawned found replied moved spawns =>
      rw [update_first, update_first]
      exact .spawned found replied moved.1 spawns
  | admitted admits =>
      rw [update_first]
      exact .admitted admits
  | restarted =>
      rw [update_first]
      exact .restarted

end Protocol

end FortifyLab
