import FortifyLab.Upgrade.Execution
import FortifyLab.Upgrade.Replanning

/-! What a run of an upgrade does to the components, and when a rollback is sound. -/

namespace FortifyLab.Upgrade

open Registry Authorization Program

/-- What a call does to, or shows of, a component. -/
inductive Effect where
  | upgraded (component : ComponentId)
  | rolledBack (component : ComponentId) (version : ComponentVersion) (returned : Bool)
  | verified (component : ComponentId) (healthy : Bool)
  deriving DecidableEq, Repr

def Effect.isRollback : Effect → Bool
  | .rolledBack _ _ _ => true
  | _ => false

def effectsOf : (request : UpgradeRequest) → UpgradeAnswer request → List Effect
  | .upgrade component _ _, _ => [.upgraded component]
  | .rollback component version _, answer => [.rolledBack component version (Except.toBool answer)]
  | .verifyLayer component _, answer =>
      [.verified component (match (answer : Except Unit Bool) with | .ok healthy => healthy | .error _ => false)]
  | _, _ => []

abbrev UpgradeExchange := Exchange UpgradeRequest UpgradeAnswer

def effects (history : List UpgradeExchange) : List Effect :=
  history.flatMap (fun exchange => effectsOf exchange.1 exchange.2)

/-- The components whose upgrade was invoked, in the order of the calls. -/
def invoked (effects : List Effect) : List ComponentId :=
  effects.filterMap (fun effect =>
    match effect with
    | .upgraded component => some component
    | _ => none)

@[simp] theorem invoked_append (early late : List Effect) :
    invoked (early ++ late) = invoked early ++ invoked late := List.filterMap_append

variable (plan : ProfileUpgradePlan)

/-- The changed components of some steps, in their order. -/
def changedOf (steps : List UpgradeStep) : List ComponentId :=
  (steps.map UpgradeStep.component).filter (fun component => component ∈ plan.body.components)

/-- A rolled back and verified component, with the version it went back to. -/
def restoration (entry : ComponentId × ComponentVersion) : List Effect :=
  [.rolledBack entry.1 entry.2 true, .verified entry.1 true]

/-- The components a recovery looks at: those invoked so far and at most the one
whose turn it is, none of them with a class that blocks. -/
structure Recoverable (role : List Effect) (touched : List ComponentId) : Prop where
  invoked : invoked role <+: touched
  ordered : touched <+: changedOf plan plan.body.steps
  once : touched.Nodup
  unblocked : blockedComponents plan touched = []

/-- Every touched component was put back to its source version and then verified,
last one first, and nothing else was rolled back. -/
structure RestoredAfter (role before : List Effect) (touched : List ComponentId)
    (entries : List (ComponentId × ComponentVersion)) : Prop where
  split : role = before ++ entries.flatMap restoration
  quiet : ∀ effect ∈ before, effect.isRollback = false
  recoverable : Recoverable plan before touched
  order : entries.map Prod.fst = touched.reverse
  versions : ∀ entry ∈ entries, plan.body.sourceProfile.versions.lookup entry.1 = some entry.2

def Restored (role : List Effect) : Prop :=
  ∃ before touched entries, RestoredAfter plan role before touched entries

/-- When the thread may ask something, given the effects so far. -/
def Allowed (role : List Effect) : UpgradeRequest → Prop
  | .rollback _ _ _ => ∃ touched, Recoverable plan role touched
  | .put document => document.recovery.status = .rolledBack → Restored plan role
  | _ => True

def Moves (role : List Effect) (request : UpgradeRequest) (answer : UpgradeAnswer request)
    (after : List Effect) : Prop :=
  Allowed plan role request ∧ after = role ++ effectsOf request answer

variable {plan} {α : Type} {post : List Effect → α → Prop} {role : List Effect}

theorem follows_act (request : UpgradeRequest) {rest : UpgradeAnswer request → UpgradeProgram α}
    (allowed : Allowed plan role request)
    (next : ∀ answer, Follows (Moves plan) post (role ++ effectsOf request answer) (rest answer)) :
    Follows (Moves plan) post role (ask request >>= rest) :=
  fun answer => ⟨_, ⟨allowed, rfl⟩, next answer⟩

theorem follows_silent (request : UpgradeRequest) {rest : UpgradeAnswer request → UpgradeProgram α}
    (allowed : Allowed plan role request) (silent : ∀ answer, effectsOf request answer = [])
    (next : ∀ answer, Follows (Moves plan) post role (rest answer)) :
    Follows (Moves plan) post role (ask request >>= rest) := by
  apply follows_act request allowed
  intro answer
  rw [silent answer, List.append_nil]
  exact next answer

/-- A document that does not claim a rollback can always be saved. -/
theorem save_follows {post : List Effect → Bool × UpgradeOperation → Prop}
    {operation : UpgradeOperation}
    (honest : operation.recovery.status = .rolledBack → Restored plan role)
    (next : ∀ stored now, post role (stored, { operation with updatedAt := now })) :
    Follows (Moves plan) post role (save operation) := by
  unfold save
  apply follows_silent .now trivial (fun _ => rfl)
  intro now
  apply follows_silent (.put { operation with updatedAt := now }) honest (fun _ => rfl)
  intro stored
  exact next _ now

/-- What saving and recording leave alone. -/
structure Progress.Keeps (progress after : Progress) : Prop where
  mutated : after.mutated = progress.mutated
  current : after.operation.currentComponent = progress.operation.currentComponent
  status : after.operation.recovery.status = progress.operation.recovery.status

theorem saveProgress_follows {progress : Progress}
    (honest : progress.operation.recovery.status = .notRequired) :
    Follows (Moves plan) (fun after outcome => after = role ∧ progress.Keeps outcome.2) role
      (saveProgress progress) := by
  unfold saveProgress
  have saved : Follows (Moves plan)
      (fun after outcome => after = role ∧
        ∃ now, outcome.2 = { progress.operation with updatedAt := now })
      role (save progress.operation) := by
    apply save_follows
    · intro claims
      rw [honest] at claims
      cases claims
    · exact fun stored now => ⟨rfl, now, rfl⟩
  apply follows_bind saved
  intro after outcome result
  rcases result with ⟨rfl, now, same⟩
  exact ⟨rfl, ⟨rfl, by rw [same], by rw [same]⟩⟩

/-! ## The loop over the steps -/

/-- Between two steps: the upgrades invoked are those of the steps done. -/
structure Between (plan : ProfileUpgradePlan) (role : List Effect) (progress : Progress)
    (finished : List UpgradeStep) : Prop where
  quiet : ∀ effect ∈ role, effect.isRollback = false
  invoked : invoked role = progress.mutated
  mutated : progress.mutated = changedOf plan finished
  current : ∀ component, progress.operation.currentComponent = some component →
    component ∈ plan.body.components → component ∈ progress.mutated
  status : progress.operation.recovery.status = .notRequired

/-- Where the loop stops. -/
structure Stopped (plan : ProfileUpgradePlan) (role : List Effect) (progress : Progress) : Prop where
  quiet : ∀ effect ∈ role, effect.isRollback = false
  invoked : invoked role <+: touchedComponents plan progress
  ordered : touchedComponents plan progress <+: changedOf plan plan.body.steps
  status : progress.operation.recovery.status = .notRequired

theorem touchedComponents_of_current {progress : Progress}
    (current : ∀ component, progress.operation.currentComponent = some component →
      component ∈ plan.body.components → component ∈ progress.mutated) :
    touchedComponents plan progress = progress.mutated := by
  unfold touchedComponents
  split
  · rename_i component found
    apply if_neg
    intro fresh
    exact fresh.2 (current component found fresh.1)
  · rfl

theorem changedOf_append (early late : List UpgradeStep) :
    changedOf plan (early ++ late) = changedOf plan early ++ changedOf plan late := by
  simp [changedOf]

theorem changedOf_prefix {finished rest : List UpgradeStep}
    (steps : plan.body.steps = finished ++ rest) :
    changedOf plan finished <+: changedOf plan plan.body.steps := by
  rw [steps, changedOf_append]
  exact List.prefix_append _ _

theorem Between.stopped {progress : Progress} {finished rest : List UpgradeStep}
    (between : Between plan role progress finished) (steps : plan.body.steps = finished ++ rest) :
    Stopped plan role progress where
  quiet := between.quiet
  invoked := by
    rw [touchedComponents_of_current between.current, between.invoked]
  ordered := by
    rw [touchedComponents_of_current between.current, between.mutated]
    exact changedOf_prefix steps
  status := between.status

/-- During a step whose component is announced but not upgraded yet. -/
structure Announced (plan : ProfileUpgradePlan) (role : List Effect) (progress : Progress)
    (finished : List UpgradeStep) (step : UpgradeStep) : Prop where
  quiet : ∀ effect ∈ role, effect.isRollback = false
  invoked : invoked role = progress.mutated
  mutated : progress.mutated = changedOf plan finished
  current : progress.operation.currentComponent = some step.component
  status : progress.operation.recovery.status = .notRequired

/-- The steps name every component once. -/
def Distinct (plan : ProfileUpgradePlan) : Prop :=
  (plan.body.steps.map UpgradeStep.component).Nodup

theorem changedOf_singleton (step : UpgradeStep) :
    changedOf plan [step] =
      if step.component ∈ plan.body.components then [step.component] else [] := by
  simp [changedOf, List.filter_cons]

theorem fresh_step {finished rest : List UpgradeStep} {step : UpgradeStep} (distinct : Distinct plan)
    (steps : plan.body.steps = finished ++ step :: rest) :
    step.component ∉ changedOf plan finished := by
  unfold Distinct at distinct
  rw [steps, List.map_append, List.map_cons, List.nodup_append] at distinct
  intro member
  have earlier := List.mem_of_mem_filter member
  exact distinct.2.2 _ earlier _ List.mem_cons_self rfl

theorem Announced.touched {progress : Progress} {finished rest : List UpgradeStep}
    {step : UpgradeStep} (announced : Announced plan role progress finished step)
    (distinct : Distinct plan) (steps : plan.body.steps = finished ++ step :: rest) :
    touchedComponents plan progress = changedOf plan (finished ++ [step]) := by
  have fresh := fresh_step distinct steps
  rw [← announced.mutated] at fresh
  unfold touchedComponents
  rw [announced.current, changedOf_append, changedOf_singleton, ← announced.mutated]
  by_cases changed : step.component ∈ plan.body.components
  · simp [changed, fresh]
  · simp [changed]

theorem ordered_step {finished rest : List UpgradeStep} {step : UpgradeStep}
    (steps : plan.body.steps = finished ++ step :: rest) :
    changedOf plan (finished ++ [step]) <+: changedOf plan plan.body.steps := by
  apply changedOf_prefix
  rw [steps, List.append_assoc, List.singleton_append]

theorem Announced.stopped {progress : Progress} {finished rest : List UpgradeStep}
    {step : UpgradeStep} (announced : Announced plan role progress finished step)
    (distinct : Distinct plan) (steps : plan.body.steps = finished ++ step :: rest) :
    Stopped plan role progress where
  quiet := announced.quiet
  invoked := by
    rw [announced.touched distinct steps, announced.invoked, announced.mutated, changedOf_append]
    exact List.prefix_append _ _
  ordered := by
    rw [announced.touched distinct steps]
    exact ordered_step steps
  status := announced.status

theorem Between.keeps {progress after : Progress} {finished : List UpgradeStep}
    (between : Between plan role progress finished) (keeps : progress.Keeps after) :
    Between plan role after finished where
  quiet := between.quiet
  invoked := between.invoked.trans keeps.mutated.symm
  mutated := keeps.mutated.trans between.mutated
  current := by
    rw [keeps.current, keeps.mutated]
    exact between.current
  status := keeps.status.trans between.status

/-- A verification shows something and changes nothing. -/
theorem Between.verified {progress : Progress} {finished : List UpgradeStep}
    (between : Between plan role progress finished) (component : ComponentId) (healthy : Bool) :
    Between plan (role ++ [.verified component healthy]) progress finished where
  quiet := by
    intro effect member
    rcases List.mem_append.mp member with before | last
    · exact between.quiet effect before
    · cases List.mem_singleton.mp last
      rfl
  invoked := by
    rw [invoked_append, between.invoked]
    exact List.append_nil _
  mutated := between.mutated
  current := between.current
  status := between.status

theorem quiet_upgraded {component : ComponentId}
    (quiet : ∀ effect ∈ role, effect.isRollback = false) :
    ∀ effect ∈ role ++ [Effect.upgraded component], effect.isRollback = false := by
  intro effect member
  rcases List.mem_append.mp member with before | last
  · exact quiet effect before
  · cases List.mem_singleton.mp last
    rfl

/-- The adapter raised: the component counts as touched. -/
theorem Announced.raised {progress : Progress} {finished rest : List UpgradeStep}
    {step : UpgradeStep} (announced : Announced plan role progress finished step)
    (distinct : Distinct plan) (steps : plan.body.steps = finished ++ step :: rest)
    (changed : step.component ∈ plan.body.components) :
    Stopped plan (role ++ [.upgraded step.component]) progress where
  quiet := quiet_upgraded announced.quiet
  invoked := by
    rw [announced.touched distinct steps, changedOf_append, changedOf_singleton, if_pos changed,
      invoked_append, announced.invoked, announced.mutated]
    exact List.prefix_refl _
  ordered := by
    rw [announced.touched distinct steps]
    exact ordered_step steps
  status := announced.status

/-- The adapter returned, and the component is listed as mutated. -/
theorem Announced.applied {progress : Progress} {finished : List UpgradeStep} {step : UpgradeStep}
    (announced : Announced plan role progress finished step)
    (changed : step.component ∈ plan.body.components) :
    Between plan (role ++ [.upgraded step.component])
      { progress with mutated := progress.mutated ++ [step.component] } (finished ++ [step]) where
  quiet := quiet_upgraded announced.quiet
  invoked := by
    rw [invoked_append, announced.invoked]
    rfl
  mutated := by
    rw [changedOf_append, changedOf_singleton, if_pos changed, announced.mutated]
  current := by
    intro component now _
    rw [announced.current] at now
    cases now
    exact List.mem_append_right _ List.mem_cons_self
  status := announced.status

theorem Announced.unchanged {progress : Progress} {finished : List UpgradeStep}
    {step : UpgradeStep} (announced : Announced plan role progress finished step)
    (kept : step.component ∉ plan.body.components) :
    Between plan role progress (finished ++ [step]) where
  quiet := announced.quiet
  invoked := announced.invoked
  mutated := by
    rw [changedOf_append, changedOf_singleton, if_neg kept, announced.mutated, List.append_nil]
  current := by
    intro component now changed
    rw [announced.current] at now
    cases now
    exact absurd changed kept
  status := announced.status

section Steps

variable {target : PlatformProfile} {deadline : Int} {progress : Progress}
  {finished rest : List UpgradeStep} {step : UpgradeStep}

theorem applyUpgrade_follows (announced : Announced plan role progress finished step)
    (distinct : Distinct plan) (steps : plan.body.steps = finished ++ step :: rest) :
    Follows (Moves plan)
      (fun after outcome => Stopped plan after outcome.2 ∧
        (outcome.1 = true → Between plan after outcome.2 (finished ++ [step])))
      role (applyUpgrade plan target deadline step progress) := by
  have onward : plan.body.steps = (finished ++ [step]) ++ rest := by simp [steps]
  unfold applyUpgrade
  by_cases changed : step.component ∈ plan.body.components
  · rw [if_pos changed]
    cases target.componentVersion step.component with
    | error failure => exact ⟨announced.stopped distinct steps, nofun⟩
    | ok version =>
        apply follows_act (.upgrade step.component version deadline) trivial
        intro answer
        cases answer with
        | error failure => exact ⟨announced.raised distinct steps changed, nofun⟩
        | ok done =>
            apply follows_silent .now trivial (fun _ => rfl)
            intro now
            have applied := announced.applied changed
            refine (saveProgress_follows ?_).mono ?_
            · exact announced.status
            intro after outcome saved
            rcases saved with ⟨rfl, keeps⟩
            have between := applied.keeps ⟨keeps.mutated, keeps.current, keeps.status⟩
            exact ⟨between.stopped onward, fun _ => between⟩
  · rw [if_neg changed]
    have between := announced.unchanged changed
    exact ⟨between.stopped onward, fun _ => between⟩

theorem verifyStep_follows (between : Between plan role progress (finished ++ [step]))
    (onward : plan.body.steps = (finished ++ [step]) ++ rest) :
    Follows (Moves plan)
      (fun after outcome => Stopped plan after outcome.2 ∧
        (outcome.1 = none → Between plan after outcome.2 (finished ++ [step])))
      role (verifyStep deadline step progress) := by
  unfold verifyStep
  apply follows_silent .monotonic trivial (fun _ => rfl)
  intro time
  unfold verifyAt
  by_cases late : deadline ≤ time
  · rw [if_pos late]
    exact ⟨between.stopped onward, nofun⟩
  · rw [if_neg late]
    apply follows_act (.verifyLayer step.component deadline) trivial
    intro answer
    have seen := between.verified step.component
    cases answer with
    | error failure => exact ⟨(seen false).stopped onward, nofun⟩
    | ok healthy =>
        cases healthy with
        | false => exact ⟨(seen false).stopped onward, nofun⟩
        | true =>
            apply follows_silent .now trivial (fun _ => rfl)
            intro now
            refine follows_bind (saveProgress_follows ?_) ?_
            · exact between.status
            intro after outcome saved
            rcases saved with ⟨rfl, keeps⟩
            have next := (seen true).keeps ⟨keeps.mutated, keeps.current, keeps.status⟩
            exact ⟨next.stopped onward, fun _ => next⟩

theorem runStep_follows (between : Between plan role progress finished) (distinct : Distinct plan)
    (steps : plan.body.steps = finished ++ step :: rest) :
    Follows (Moves plan)
      (fun after outcome => Stopped plan after outcome.2 ∧
        (outcome.1 = none → Between plan after outcome.2 (finished ++ [step])))
      role (runStep plan target deadline step progress) := by
  have onward : plan.body.steps = (finished ++ [step]) ++ rest := by simp [steps]
  unfold runStep
  apply follows_silent .cancelled trivial (fun _ => rfl)
  intro cancelled
  cases cancelled with
  | true => exact ⟨between.stopped steps, nofun⟩
  | false =>
      rw [if_neg Bool.false_ne_true]
      refine follows_bind (saveProgress_follows ?_) ?_
      · exact between.status
      intro after started saved
      rcases saved with ⟨rfl, keeps⟩
      have announced : Announced plan after started.2 finished step := {
        quiet := between.quiet
        invoked := between.invoked.trans keeps.mutated.symm
        mutated := keeps.mutated.trans between.mutated
        current := keeps.current
        status := keeps.status.trans between.status }
      by_cases stored : started.1 = true
      · rw [if_pos stored]
        apply follows_bind (applyUpgrade_follows announced distinct steps)
        intro later applied outcome
        by_cases done : applied.1 = true
        · rw [if_pos done]
          exact verifyStep_follows (outcome.2 done) onward
        · rw [if_neg done]
          exact ⟨outcome.1, nofun⟩
      · rw [if_neg stored]
        exact ⟨announced.stopped distinct steps, nofun⟩

end Steps

/-- The loop keeps its invariant step by step and stops in a recoverable place. -/
theorem runSteps_follows {target : PlatformProfile} {deadline : Int} (distinct : Distinct plan)
    (rest : List UpgradeStep) {finished : List UpgradeStep} {progress : Progress}
    {role : List Effect} (between : Between plan role progress finished)
    (steps : plan.body.steps = finished ++ rest) :
    Follows (Moves plan) (fun after outcome => Stopped plan after outcome.2) role
      (runSteps plan target deadline rest progress) := by
  induction rest generalizing finished progress role with
  | nil => exact between.stopped steps
  | cons step rest ih =>
      unfold runSteps
      apply follows_bind (runStep_follows between distinct steps)
      intro after outcome result
      match ended : outcome.1 with
      | none => exact ih (result.2 ended) (by simp [steps])
      | some ending => exact result.1

/-! ## Recovery -/

theorem invoked_restorations (entries : List (ComponentId × ComponentVersion)) :
    invoked (entries.flatMap restoration) = [] := by
  induction entries with
  | nil => rfl
  | cons head tail ih =>
      rw [List.flatMap_cons, invoked_append, ih]
      rfl

/-- Part of the way through the rollbacks. -/
structure Restoring (plan : ProfileUpgradePlan) (role before : List Effect)
    (touched rest : List ComponentId) (entries : List (ComponentId × ComponentVersion)) : Prop where
  split : role = before ++ entries.flatMap restoration
  quiet : ∀ effect ∈ before, effect.isRollback = false
  recoverable : Recoverable plan before touched
  order : entries.map Prod.fst ++ rest = touched.reverse
  versions : ∀ entry ∈ entries, plan.body.sourceProfile.versions.lookup entry.1 = some entry.2

variable {before : List Effect} {touched : List ComponentId}
  {entries : List (ComponentId × ComponentVersion)}

theorem Restoring.allowed {rest : List ComponentId}
    (restoring : Restoring plan role before touched rest entries) : Recoverable plan role touched where
  invoked := by
    rw [restoring.split, invoked_append, invoked_restorations, List.append_nil]
    exact restoring.recoverable.invoked
  ordered := restoring.recoverable.ordered
  once := restoring.recoverable.once
  unblocked := restoring.recoverable.unblocked

theorem Restoring.next {component : ComponentId} {version : ComponentVersion}
    {rest : List ComponentId}
    (restoring : Restoring plan role before touched (component :: rest) entries)
    (source : plan.body.sourceProfile.versions.lookup component = some version) :
    Restoring plan (role ++ restoration (component, version)) before touched rest
      (entries ++ [(component, version)]) where
  split := by
    rw [restoring.split, List.flatMap_append, List.append_assoc, List.flatMap_singleton]
  quiet := restoring.quiet
  recoverable := restoring.recoverable
  order := by
    rw [← restoring.order, List.map_append, List.append_assoc]
    rfl
  versions := by
    intro entry member
    rcases List.mem_append.mp member with earlier | last
    · exact restoring.versions entry earlier
    · cases List.mem_singleton.mp last
      exact source

theorem restoreEach_follows {deadline : Int} (rest restored : List ComponentId)
    {operation : UpgradeOperation} (restoring : Restoring plan role before touched rest entries) :
    Follows (Moves plan)
      (fun after outcome => outcome.2.2.recovery.status = operation.recovery.status ∧
        (outcome.1 = true → Restored plan after))
      role (restoreEach plan deadline rest restored operation) := by
  induction rest generalizing restored operation role entries with
  | nil =>
      refine ⟨rfl, fun _ => ⟨before, touched, entries, ?_⟩⟩
      exact {
        split := restoring.split
        quiet := restoring.quiet
        recoverable := restoring.recoverable
        order := by rw [← restoring.order, List.append_nil]
        versions := restoring.versions }
  | cons component rest ih =>
      unfold restoreEach
      cases source : plan.body.sourceProfile.versions.lookup component with
      | none => exact ⟨rfl, nofun⟩
      | some version =>
          apply follows_act (.rollback component version deadline) ⟨touched, restoring.allowed⟩
          intro answer
          cases answer with
          | error failure => exact ⟨rfl, nofun⟩
          | ok done =>
              apply follows_act (.verifyLayer component deadline) trivial
              intro answer
              cases answer with
              | error failure => exact ⟨rfl, nofun⟩
              | ok healthy =>
                  cases healthy with
                  | false => exact ⟨rfl, nofun⟩
                  | true =>
                      apply follows_silent .now trivial (fun _ => rfl)
                      intro now
                      rw [List.append_assoc]
                      refine (ih (restored ++ [component]) (restoring.next source)).mono ?_
                      exact fun _ _ result => result

theorem rollBack_follows {deadline : Int} {operation : UpgradeOperation}
    (quiet : ∀ effect ∈ role, effect.isRollback = false) (recoverable : Recoverable plan role touched) :
    Follows (Moves plan)
      (fun after document => document.recovery.status = .rolledBack → Restored plan after)
      role (rollBack plan deadline touched operation) := by
  unfold rollBack
  apply follows_silent .rollbackCallable trivial (fun _ => rfl)
  intro callable
  cases callable with
  | false => exact nofun
  | true =>
      have restoring : Restoring plan role role touched touched.reverse [] := {
        split := by simp
        quiet := quiet
        recoverable := recoverable
        order := by simp
        versions := by simp }
      rw [if_pos rfl]
      apply follows_bind (restoreEach_follows touched.reverse [] restoring)
      intro after outcome result
      unfold afterRestoring
      by_cases verified : outcome.1 = true
      · rw [if_pos verified]
        exact fun _ => result.2 verified
      · rw [if_neg verified]
        apply follows_silent .now trivial (fun _ => rfl)
        intro now
        exact nofun

theorem recoverTouched_follows {deadline : Int} {operation : UpgradeOperation}
    (quiet : ∀ effect ∈ role, effect.isRollback = false) (started : invoked role <+: touched)
    (ordered : touched <+: changedOf plan plan.body.steps) (once : touched.Nodup) :
    Follows (Moves plan)
      (fun after document => document.recovery.status = .rolledBack → Restored plan after)
      role (recoverTouched plan deadline touched operation) := by
  unfold recoverTouched
  cases blocked : blockedComponents plan touched with
  | nil => exact rollBack_follows quiet ⟨started, ordered, once, blocked⟩
  | cons component rest =>
      apply follows_silent .now trivial (fun _ => rfl)
      intro now
      exact nofun

/-- A recovery that reports a rollback has made one of every touched component. -/
theorem recover_follows {deadline : Int} {progress : Progress} (distinct : Distinct plan)
    (stopped : Stopped plan role progress) :
    Follows (Moves plan)
      (fun after document => document.recovery.status = .rolledBack → Restored plan after)
      role (recover plan deadline progress) := by
  have started := stopped.invoked
  have ordered := stopped.ordered
  have once := (distinct.filter _).sublist ordered.sublist
  unfold recover
  cases found : touchedComponents plan progress with
  | nil =>
      apply follows_silent .now trivial (fun _ => rfl)
      intro now
      exact nofun
  | cons first others =>
      rw [found] at started ordered once
      exact recoverTouched_follows stopped.quiet started ordered once

theorem conclude_follows {deadline : Int} {ending : Ending} {progress : Progress}
    (distinct : Distinct plan) (stopped : Stopped plan role progress) :
    Follows (Moves plan)
      (fun after document => document.recovery.status = .rolledBack → Restored plan after)
      role (conclude plan deadline ending progress) := by
  have same : ∀ operation : UpgradeOperation,
      operation.currentComponent = progress.operation.currentComponent →
      operation.recovery = progress.operation.recovery →
      Stopped plan role { progress with operation := operation } := by
    intro operation current recovery
    have touched : touchedComponents plan { progress with operation := operation } =
        touchedComponents plan progress := by
      unfold touchedComponents
      rw [current]
    exact {
      quiet := stopped.quiet
      invoked := by rw [touched]; exact stopped.invoked
      ordered := by rw [touched]; exact stopped.ordered
      status := by rw [recovery]; exact stopped.status }
  cases ending with
  | finished =>
      intro claims
      rw [stopped.status] at claims
      cases claims
  | cancelled => exact recover_follows distinct (same _ rfl rfl)
  | timedOut => exact recover_follows distinct (same _ rfl rfl)
  | raised => exact recover_follows distinct (same _ rfl rfl)

/-- Every run of an accepted plan follows the protocol. -/
theorem run_follows {target : PlatformProfile} {operation : UpgradeOperation}
    (distinct : Distinct plan) (current : operation.currentComponent = none)
    (status : operation.recovery.status = .notRequired) :
    Follows (Moves plan) (fun _ _ => True) [] (run plan target operation) := by
  unfold run
  have saved : Follows (Moves plan)
      (fun after outcome => after = [] ∧ outcome.2.currentComponent = none ∧
        outcome.2.recovery.status = .notRequired)
      [] (save { operation with state := .running }) := by
    apply save_follows
    · intro claims
      rw [status] at claims
      cases claims
    · exact fun stored now => ⟨rfl, current, status⟩
  apply follows_bind saved
  intro after started outcome
  rcases outcome with ⟨rfl, idle, unclaimed⟩
  by_cases stored : started.1 = true
  · rw [if_pos stored]
    apply follows_silent .monotonic trivial (fun _ => rfl)
    intro time
    have between : Between plan [] ⟨started.2, []⟩ [] := {
      quiet := by simp
      invoked := rfl
      mutated := rfl
      current := by
        intro component now
        rw [idle] at now
        cases now
      status := unclaimed }
    apply follows_bind (runSteps_follows distinct plan.body.steps between rfl)
    intro role outcome stopped
    apply follows_bind (conclude_follows distinct stopped)
    intro role document honest
    have last : Follows (Moves plan) (fun _ _ => True) role (save document) :=
      save_follows honest (fun _ _ => trivial)
    exact follows_bind last (fun _ _ _ => trivial)
  · rw [if_neg stored]
    trivial

end FortifyLab.Upgrade
