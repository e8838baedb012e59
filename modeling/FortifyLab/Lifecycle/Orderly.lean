import Mathlib.Logic.Function.Basic
import FortifyLab.Lifecycle.Stored

/-! Who may do what: the engine lock has one holder, and nobody is served before the
store is open. -/

namespace FortifyLab.Lifecycle

open Registry Authorization

/-- What a thread does under the engine lock only. -/
def Task.Guarded : Task → Prop
  | .surveyed _ => True
  | .cancelling _ => True
  | _ => False

/-- What only the thread that opens the store does. -/
def Task.Opens : Task → Prop
  | .recovering _ => True
  | .opened => True
  | _ => False

structure Role.Orderly (role : Role) (state : ManagerState) (boot index : Nat) : Prop where
  locked : role.holds = true → state.lock = some index
  guarded : role.task.Guarded → role.holds = true
  served : role.Serves → state.serving = true ∧ ¬ role.task.Opens
  opener : role.call = some .openStore →
    index = boot ∧ (role.task = .opened ∨ state.serving = false)
  inert : ¬ role.Serves → role.holds = false ∧ role.previous = none ∧
    (role.task = .idle ∨ role.call = some .openStore ∧ role.task.Opens)

def Orderly (state : ManagerState) (roles : Nat → Role) : Prop :=
  ∃ boot, ∀ index, (roles index).Orderly state boot index

variable {settings : Settings} {engine : Engine}

/-- What holds of every thread after one role has changed. -/
theorem forall_update (P : Nat → Role → Prop) {roles : Nat → Role} {index : Nat} {role : Role}
    (own : P index role) (others : ∀ other, other ≠ index → P other (roles other)) (thread : Nat) :
    P thread (Function.update roles index role thread) := by
  by_cases same : thread = index
  · subst same
    rw [Function.update_self]
    exact own
  · rw [Function.update_of_ne same]
    exact others thread same

theorem not_serves_of_absent {role : Role} (absent : role.call = none) : ¬ role.Serves := by
  intro serves
  rcases serves with ⟨call, called, _⟩
  rw [absent] at called
  cases called

theorem not_serves_of_opens {role : Role} (opens : role.call = some .openStore) :
    ¬ role.Serves := by
  intro serves
  rcases serves with ⟨call, called, notOpening⟩
  rw [opens] at called
  cases called
  exact notOpening rfl

theorem not_opens_of_serves {role : Role} (serves : role.Serves) :
    role.call ≠ some .openStore := fun opens => not_serves_of_opens opens serves

/-- The role of a thread that is not there. -/
theorem orderly_absent (state : ManagerState) (boot index : Nat) :
    (Role.begins none .idle).Orderly state boot index where
  locked := nofun
  guarded := nofun
  served serves := absurd serves (not_serves_of_absent rfl)
  opener := nofun
  inert _ := ⟨rfl, rfl, .inl rfl⟩

/-- Other threads only notice who holds the lock and whether the store is open. -/
theorem Role.Orderly.frame {role : Role} {state after : ManagerState} {boot index : Nat}
    (orderly : role.Orderly state boot index) (serving : after.serving = state.serving)
    (lock : role.holds = true → after.lock = some index) : role.Orderly after boot index where
  locked := lock
  guarded := orderly.guarded
  served := by
    rw [serving]
    exact orderly.served
  opener := by
    rw [serving]
    exact orderly.opener
  inert := orderly.inert

/-- A call that is being served may change its task and what it has read. -/
theorem Role.Orderly.goes {role other : Role} {state after : ManagerState} {boot index : Nat}
    (orderly : role.Orderly state boot index) (serves : role.Serves)
    (serving : after.serving = state.serving) (call : other.call = role.call)
    (lock : other.holds = true → after.lock = some index)
    (guarded : other.task.Guarded → other.holds = true) (opens : ¬ other.task.Opens) :
    other.Orderly after boot index := by
  have servesOther : other.Serves := by
    rcases serves with ⟨known, called, notOpening⟩
    exact ⟨known, call.trans called, notOpening⟩
  exact {
    locked := lock
    guarded := guarded
    served := fun _ => ⟨serving.trans (orderly.served serves).1, opens⟩
    opener := fun opens => absurd opens (not_opens_of_serves servesOther)
    inert := fun idle => absurd servesOther idle }

theorem Deed.call_eq {index : Nat} {state after : ManagerState} {role other : Role}
    {request : Request} (deed : Deed engine index state role request after other) :
    other.call = role.call := by
  cases deed <;> rfl

theorem Deed.serving_eq {index : Nat} {state after : ManagerState} {role other : Role}
    {request : Request} (deed : Deed engine index state role request after other) :
    after.serving = state.serving := by
  cases deed with
  | quiet same ordinary => exact same.serving
  | _ => rfl

/-- The lock changes hands only between nobody and the thread that moves. -/
theorem Deed.lock_cases {index : Nat} {state after : ManagerState} {role other : Role}
    {request : Request} (deed : Deed engine index state role request after other) :
    (after.lock = state.lock ∧ other.holds = role.holds) ∨
      (state.lock = none ∧ after.lock = some index) ∨
      (role.holds = true ∧ other.holds = false) := by
  cases deed with
  | quiet same ordinary => exact .inl ⟨same.lock, rfl⟩
  | acquired free unlocked => exact .inr (.inl ⟨free, rfl⟩)
  | released holds notOwns notCancelling => exact .inr (.inr ⟨holds, rfl⟩)
  | releasedOwner holds owns => exact .inr (.inr ⟨holds, rfl⟩)
  | _ => exact .inl ⟨rfl, rfl⟩

/-- Surveys and cancellations are done by the holder of the lock. -/
theorem Deed.guarded_cases {index : Nat} {state after : ManagerState} {role other : Role}
    {request : Request} (deed : Deed engine index state role request after other) :
    other.task.Guarded → other.holds = true ∨ (other.holds = role.holds ∧ role.task.Guarded) := by
  intro guarded
  cases deed with
  | surveyed holds idle => exact .inl holds
  | considered holds idle called => exact .inl holds
  | acquired free unlocked => exact .inl rfl
  | releasedOwner holds owns =>
      have owned : role.task.Guarded := guarded
      rw [owns] at owned
      exact owned.elim
  | quiet same ordinary => exact .inr ⟨rfl, guarded⟩
  | noted operationId plain => exact .inr ⟨rfl, guarded⟩
  | read operationId idle => exact .inr ⟨rfl, guarded⟩
  | heard operationId idle => exact .inr ⟨rfl, guarded⟩
  | unregistered idle called => exact .inr ⟨rfl, guarded⟩
  | _ => exact guarded.elim

theorem cancelTask_not_opens (answer : Option Document) : ¬ (cancelTask answer).Opens := by
  unfold cancelTask
  cases answer with
  | none => exact id
  | some document =>
      dsimp only
      split <;> exact id

theorem Deed.not_opens {index : Nat} {state after : ManagerState} {role other : Role}
    {request : Request} (deed : Deed engine index state role request after other)
    (notOpens : ¬ role.task.Opens) : ¬ other.task.Opens := by
  cases deed with
  | quiet same ordinary => exact notOpens
  | noted operationId plain => exact notOpens
  | acquired free unlocked => exact notOpens
  | releasedOwner holds owns => exact notOpens
  | read operationId idle => exact notOpens
  | heard operationId idle => exact notOpens
  | unregistered idle called => exact notOpens
  | considered holds idle called => exact cancelTask_not_opens _
  | _ => exact id

theorem Role.Orderly.deed {index boot : Nat} {state after : ManagerState} {role other : Role}
    {request : Request} (orderly : role.Orderly state boot index) (serves : role.Serves)
    (deed : Deed engine index state role request after other) :
    other.Orderly after boot index := by
  apply orderly.goes serves deed.serving_eq deed.call_eq
  · intro holds
    rcases deed.lock_cases with ⟨lock, same⟩ | ⟨_, taken⟩ | ⟨_, dropped⟩
    · rw [lock]
      exact orderly.locked (same.symm.trans holds)
    · exact taken
    · rw [dropped] at holds
      cases holds
  · intro guarded
    rcases deed.guarded_cases guarded with holds | ⟨same, before⟩
    · exact holds
    · exact same.trans (orderly.guarded before)
  · exact deed.not_opens (orderly.served serves).2

/-- What the others see of a deed. -/
theorem Role.Orderly.beside {index other boot : Nat} {state after : ManagerState}
    {role moved bystander : Role} {request : Request}
    (orderly : role.Orderly state boot index)
    (deed : Deed engine index state role request after moved)
    (stands : bystander.Orderly state boot other) (different : other ≠ index) :
    bystander.Orderly after boot other := by
  apply stands.frame deed.serving_eq
  intro holds
  have own := stands.locked holds
  rcases deed.lock_cases with ⟨lock, _⟩ | ⟨free, _⟩ | ⟨held, _⟩
  · exact lock.trans own
  · rw [free] at own
    cases own
  · rw [orderly.locked held] at own
    cases own
    exact absurd rfl different

/-- The thread that opens the store stays the one that does. -/
theorem Role.Orderly.opening {role other : Role} {state after : ManagerState} {boot index : Nat}
    {request : Request} (orderly : role.Orderly state boot index)
    (opens : role.call = some .openStore)
    (deed : OpeningDeed state role request after other) : other.Orderly after boot index := by
  have idle := orderly.inert (not_serves_of_opens opens)
  have first := orderly.opener opens
  have finish : ∀ task : Task, (task = .idle ∨ role.call = some .openStore ∧ task.Opens) →
      (task = .opened ∨ after.serving = false) → (role.does task).Orderly after boot index := by
    intro task waits last
    exact {
      locked := fun holds => absurd holds (by
        rw [does_holds, idle.1]
        exact Bool.false_ne_true)
      guarded := fun guarded => by
        rcases waits with same | opens
        · rw [does_task, same] at guarded
          exact guarded.elim
        · cases task <;> first | exact guarded.elim | exact opens.2.elim
      served := fun serves => absurd serves (not_serves_of_opens opens)
      opener := fun _ => ⟨first.1, last⟩
      inert := fun _ => ⟨idle.1, idle.2.1, waits⟩ }
  have stays : role.does role.task = role := does_same rfl
  cases deed with
  | waited =>
      rw [← stays]
      exact finish role.task idle.2.2 first.2
  | noted operationId at_ =>
      rw [← stays]
      exact finish role.task idle.2.2 first.2
  | interrupts now waiting =>
      apply finish (.recovering []) (.inr ⟨opens, trivial⟩)
      rcases first.2 with opened | closed
      · rw [waiting] at opened
        cases opened
      · exact .inr closed
  | lists recovering =>
      apply finish (.recovering state.interrupted) (.inr ⟨opens, trivial⟩)
      rcases first.2 with opened | closed
      · rw [recovering] at opened
        cases opened
      · exact .inr closed
  | recovers recovering known =>
      rw [← stays]
      exact finish role.task idle.2.2 first.2
  | serves recovering => exact finish .opened (.inr ⟨opens, trivial⟩) (.inl rfl)

/-- While the store is being opened nobody else has anything in hand. -/
theorem Role.Orderly.bystander {role other : Role} {state : ManagerState} {boot index another : Nat}
    (orderly : role.Orderly state boot index) (opens : role.call = some .openStore)
    (closed : state.serving = false) (stands : other.Orderly state boot another)
    (different : another ≠ index) :
    other.holds = false ∧ other.previous = none ∧ other.task = .idle := by
  have waiting : ¬ other.Serves := by
    intro serves
    have served := (stands.served serves).1
    rw [closed] at served
    cases served
  rcases stands.inert waiting with ⟨holds, previous, idle | ⟨also, _⟩⟩
  · exact ⟨holds, previous, idle⟩
  · have first := (orderly.opener opens).1
    have second := (stands.opener also).1
    omega

/-- Served calls and the opening of the store exclude each other. -/
theorem Role.Orderly.notRecovering {role : Role} {state : ManagerState} {boot index : Nat}
    (orderly : role.Orderly state boot index) (serving : state.serving = true)
    (documents : List Document) : role.task ≠ .recovering documents := by
  intro recovering
  by_cases serves : role.Serves
  · apply (orderly.served serves).2
    rw [recovering]
    trivial
  · rcases orderly.inert serves with ⟨_, _, idle | ⟨opens, _⟩⟩
    · rw [recovering] at idle
      cases idle
    · rcases (orderly.opener opens).2 with opened | closed
      · rw [recovering] at opened
        cases opened
      · rw [serving] at closed
        cases closed

/-- What the others see while the store is being opened. -/
theorem Role.Orderly.besideOpening {index other boot : Nat} {state after : ManagerState}
    {role moved bystander : Role} {request : Request} (orderly : role.Orderly state boot index)
    (opens : role.call = some .openStore) (deed : OpeningDeed state role request after moved)
    (stands : bystander.Orderly state boot other) (different : other ≠ index) :
    bystander.Orderly after boot other := by
  cases deed with
  | serves recovering =>
      exact {
        locked := stands.locked
        guarded := stands.guarded
        served := fun serves => ⟨rfl, (stands.served serves).2⟩
        opener := fun also => by
          have first := (stands.opener also).1
          have same := (orderly.opener opens).1
          omega
        inert := stands.inert }
  | _ => exact stands.frame rfl stands.locked

/-- The thread that is to open the store. -/
theorem boot_orderly {state : ManagerState} (closed : state.serving = false) (boot : Nat) :
    (Role.begins (some .openStore) .idle).Orderly state boot boot where
  locked := nofun
  guarded := nofun
  served serves := absurd serves (not_serves_of_opens rfl)
  opener _ := ⟨rfl, .inr closed⟩
  inert _ := ⟨rfl, rfl, .inl rfl⟩

/-- A thread that has just begun. -/
theorem begins_orderly {call : Call} {task : Task} {state : ManagerState} {boot index : Nat}
    (serving : state.serving = true) (notOpening : call ≠ .openStore)
    (unguarded : ¬ task.Guarded) (notOpens : ¬ task.Opens) :
    (Role.begins (some call) task).Orderly state boot index where
  locked := nofun
  guarded guarded := absurd guarded unguarded
  served _ := ⟨serving, notOpens⟩
  opener opens := by
    cases opens
    exact absurd rfl notOpening
  inert idle := absurd ⟨call, rfl, notOpening⟩ idle

theorem turn_orderly {state after : ManagerState} {roles next : Nat → Role}
    {asked : Option (Nat × Request)} (orderly : Orderly state roles)
    (turn : Turn settings state roles asked after next) : Orderly after next := by
  rcases orderly with ⟨boot, orderly⟩
  cases turn with
  | @opening index request after role opens deed =>
      exact ⟨boot, forall_update (fun thread role => role.Orderly after boot thread)
        ((orderly index).opening opens deed) (fun other different =>
          (orderly index).besideOpening opens deed (orderly other) different)⟩
  | @serving index request after role serves deed alone =>
      exact ⟨boot, forall_update (fun thread role => role.Orderly after boot thread)
        ((orderly index).deed serves deed) (fun other different =>
          (orderly index).beside deed (orderly other) different)⟩
  | @started index worker document steps after role serves deed absent other =>
      have moved := forall_update (fun thread role => role.Orderly after boot thread)
        ((orderly index).deed serves deed) (fun other different =>
          (orderly index).beside deed (orderly other) different)
      refine ⟨boot, forall_update (fun thread role => role.Orderly after boot thread) ?_
        (fun thread _ => moved thread)⟩
      cases deed with
      | quiet same ordinary => cases ordinary
      | handed owns unlocked queued registered resumed total lab =>
          rw [owns]
          refine begins_orderly ((orderly index).served serves).1 (fun opens => ?_) id id
          cases opens
  | @arrived index call serving arrives absent =>
      refine ⟨boot, forall_update (fun thread role => role.Orderly state boot thread)
        (begins_orderly serving ?_ id id) (fun other _ => orderly other)⟩
      intro opens
      subst opens
      cases arrives
  | crashed index =>
      exact ⟨index, forall_update (fun thread role => role.Orderly state.afterCrash index thread)
        (boot_orderly rfl index) (fun other _ => orderly_absent _ index other)⟩

theorem initial_orderly (settings : Settings) :
    Orderly (manager settings).initial.shared (managerProtocol settings).initialRoles :=
  ⟨0, forall_update (fun thread role => role.Orderly _ 0 thread) (boot_orderly rfl 0)
    (fun other _ => orderly_absent _ 0 other)⟩

end FortifyLab.Lifecycle
