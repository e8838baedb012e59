import FortifyLab.Upgrade.Rollback

/-! Automatic rollback is sound exactly for the plans whose first irreversible
migration is recorded as one that blocks it. -/

namespace FortifyLab.Upgrade

open Registry Authorization Program

/-- Every migration declared for the component is reversible. -/
def Reversible (plan : ProfileUpgradePlan) (component : ComponentId) : Prop :=
  ∀ item ∈ plan.body.migration.items, item.component = component → item.rollback = .reversible

instance (plan : ProfileUpgradePlan) (component : ComponentId) :
    Decidable (Reversible plan component) := List.decidableBAll _ _

/-- Rollback is called only when every component whose upgrade was invoked is
reversible, and a document that reports a rollback is saved only after each of them
was put back to its source version once, last one first, and then verified. -/
structure RollbackSound (plan : ProfileUpgradePlan) (history : List UpgradeExchange) : Prop where
  rollback : ∀ before later component version deadline answer,
    history = before ++ ⟨.rollback component version deadline, answer⟩ :: later →
    ∀ touched ∈ invoked (effects before), Reversible plan touched
  reported : ∀ before later document answer,
    history = before ++ ⟨.put document, answer⟩ :: later →
    document.recovery.status = .rolledBack → Restored plan (effects before)

/-- Among the changed components, in the order of the steps, one with a migration
that is not reversible comes after, or is, one whose recorded class blocks. -/
def BlocksIrreversible (plan : ProfileUpgradePlan) : Prop :=
  ∀ early component late, changedOf plan plan.body.steps = early ++ component :: late →
    blockedComponents plan (early ++ [component]) = [] → Reversible plan component

theorem path_effects {plan : ProfileUpgradePlan} {role last : List Effect}
    {history : List UpgradeExchange} (path : Path (Moves plan) role history last) :
    last = role ++ effects history := by
  induction path with
  | nil role => simp [effects]
  | cons moved later ih =>
      rw [ih, moved.2]
      simp [effects]

/-- Where the protocol holds, each exchange was allowed after the effects before it. -/
theorem allowed_of_path {plan : ProfileUpgradePlan} {before later : List UpgradeExchange}
    {last : List Effect} {request : UpgradeRequest} {answer : UpgradeAnswer request}
    (path : Path (Moves plan) [] (before ++ ⟨request, answer⟩ :: later) last) :
    Allowed plan (effects before) request := by
  rcases path.at with ⟨middle, after, first, moved⟩
  have reached := path_effects first
  rw [List.nil_append] at reached
  rw [← reached]
  exact moved.1

theorem recoverable_reversible {plan : ProfileUpgradePlan} (blocks : BlocksIrreversible plan)
    {role : List Effect} {touched : List ComponentId} (recoverable : Recoverable plan role touched)
    {component : ComponentId} (member : component ∈ invoked role) : Reversible plan component := by
  have inside : component ∈ touched := recoverable.invoked.subset member
  rcases List.append_of_mem inside with ⟨early, late, split⟩
  rcases recoverable.ordered with ⟨rest, whole⟩
  have order : changedOf plan plan.body.steps = early ++ component :: (late ++ rest) := by
    rw [← whole, split, List.append_assoc, List.cons_append]
  have unblocked : blockedComponents plan (early ++ [component]) = [] := by
    have all := recoverable.unblocked
    rw [split, List.append_cons] at all
    unfold blockedComponents at all ⊢
    rw [List.filter_append] at all
    exact (List.append_eq_nil_iff.mp all).1
  exact blocks early component (late ++ rest) order unblocked

section Sound

variable {plan : ProfileUpgradePlan} {target : PlatformProfile} {operation : UpgradeOperation}

theorem rollbackSound (blocks : BlocksIrreversible plan) (distinct : Distinct plan)
    (current : operation.currentComponent = none)
    (status : operation.recovery.status = .notRequired) {history : List UpgradeExchange}
    {rest : UpgradeProgram Unit} (reached : Reaches (run plan target operation) history rest) :
    RollbackSound plan history := by
  rcases (run_follows distinct current status).path reached with ⟨last, path, _⟩
  constructor
  · intro before later component version deadline answer split touched member
    rw [split] at path
    rcases allowed_of_path path with ⟨_, recoverable⟩
    exact recoverable_reversible blocks recoverable member
  · intro before later document answer split claims
    rw [split] at path
    exact allowed_of_path path claims

/-- What an accepted plan says of the versions and the steps. -/
structure Executable (plan : ProfileUpgradePlan) (target : PlatformProfile) : Prop where
  distinct : Distinct plan
  targets : ∀ component ∈ plan.body.components,
    ∃ version, target.componentVersion component = .ok version
  sources : ∀ component ∈ plan.body.components,
    ∃ version, plan.body.sourceProfile.versions.lookup component = some version

theorem effects_append (early late : List UpgradeExchange) :
    effects (early ++ late) = effects early ++ effects late := List.flatMap_append

/-- Everything returns in time; only the given component is found unhealthy. -/
def surroundings (deadline : Int) (sick : ComponentId) : (request : UpgradeRequest) → UpgradeAnswer request
  | .cancelled => false
  | .now => (0 : Int)
  | .monotonic => deadline - 1
  | .upgrade _ _ _ => Except.ok ()
  | .rollbackCallable => true
  | .rollback _ _ _ => Except.ok ()
  | .verifyLayer component _ => Except.ok (decide (component ≠ sick))
  | .put _ => Except.ok ()

variable (deadline : Int) (sick : ComponentId)

/-- What a played part of the loop did: it invoked these upgrades and listed them. -/
structure Played (history : List UpgradeExchange) (progress after : Progress)
    (components : List ComponentId) : Prop where
  invoked : invoked (effects history) = components
  mutated : after.mutated = progress.mutated ++ components

theorem applyUpgrade_play (executable : Executable plan target) (step : UpgradeStep)
    (progress : Progress) :
    ∃ history after,
      (applyUpgrade plan target deadline step progress).play (surroundings deadline sick) =
        (history, true, after) ∧
      Played history progress after (changedOf plan [step]) ∧
      after.operation.currentComponent = progress.operation.currentComponent := by
  unfold applyUpgrade
  rw [changedOf_singleton]
  by_cases changed : step.component ∈ plan.body.components
  · rcases executable.targets step.component changed with ⟨version, found⟩
    rw [if_pos changed, if_pos changed, found]
    exact ⟨_, _, rfl, ⟨rfl, rfl⟩, rfl⟩
  · rw [if_neg changed, if_neg changed]
    exact ⟨_, _, rfl, ⟨rfl, (List.append_nil _).symm⟩, rfl⟩

theorem verifyStep_play (step : UpgradeStep) (progress : Progress) :
    ∃ history after,
      (verifyStep deadline step progress).play (surroundings deadline sick) =
        (history, if step.component = sick then some .raised else none, after) ∧
      Played history progress after [] ∧
      after.operation.currentComponent = progress.operation.currentComponent := by
  have early : ¬ deadline ≤ deadline - 1 := by omega
  have opened : (verifyStep deadline step progress).play (surroundings deadline sick) =
      (⟨.monotonic, deadline - 1⟩ ::
          ((verifyAt deadline step progress (deadline - 1)).play (surroundings deadline sick)).1,
        ((verifyAt deadline step progress (deadline - 1)).play (surroundings deadline sick)).2) :=
    rfl
  rw [opened, verifyAt, if_neg early]
  have asked : (do
      let answer ← ask (.verifyLayer step.component deadline)
      afterVerification step progress answer).play (surroundings deadline sick) =
      (⟨.verifyLayer step.component deadline, Except.ok (decide (step.component ≠ sick))⟩ ::
          ((afterVerification step progress (.ok (decide (step.component ≠ sick)))).play
            (surroundings deadline sick)).1,
        ((afterVerification step progress (.ok (decide (step.component ≠ sick)))).play
          (surroundings deadline sick)).2) := rfl
  rw [asked]
  by_cases found : step.component = sick
  · rw [if_pos found, decide_eq_false (not_not.mpr found)]
    exact ⟨_, _, rfl, ⟨rfl, (List.append_nil _).symm⟩, rfl⟩
  · rw [if_neg found, decide_eq_true found]
    exact ⟨_, _, rfl, ⟨rfl, (List.append_nil _).symm⟩, rfl⟩

theorem runStep_play (executable : Executable plan target) (step : UpgradeStep)
    (progress : Progress) :
    ∃ history after,
      (runStep plan target deadline step progress).play (surroundings deadline sick) =
        (history, if step.component = sick then some .raised else none, after) ∧
      Played history progress after (changedOf plan [step]) ∧
      after.operation.currentComponent = some step.component := by
  let announced : Progress :=
    { progress with operation.currentComponent := some step.component, operation.updatedAt := 0 }
  rcases applyUpgrade_play deadline sick executable step announced with
    ⟨early, applied, upgraded, changed, current⟩
  rcases verifyStep_play deadline sick step applied with ⟨late, after, verified, kept, same⟩
  have acted : (upgradeStep plan target deadline step announced).play (surroundings deadline sick) =
      (early ++ late, if step.component = sick then some .raised else none, after) := by
    unfold upgradeStep
    rw [play_bind, upgraded]
    simp only [if_true, verified]
  have opened : (runStep plan target deadline step progress).play (surroundings deadline sick) =
      (⟨.cancelled, surroundings deadline sick .cancelled⟩ ::
        ⟨.now, surroundings deadline sick .now⟩ ::
        ⟨.put announced.operation, surroundings deadline sick (.put announced.operation)⟩ ::
        ((upgradeStep plan target deadline step announced).play (surroundings deadline sick)).1,
        ((upgradeStep plan target deadline step announced).play (surroundings deadline sick)).2) :=
    rfl
  rw [acted] at opened
  refine ⟨_, _, opened, ⟨?_, ?_⟩, same.trans current⟩
  · calc invoked (effects _) = invoked (effects (early ++ late)) := rfl
      _ = invoked (effects early) ++ invoked (effects late) := by
          rw [effects_append, invoked_append]
      _ = changedOf plan [step] := by rw [changed.invoked, kept.invoked, List.append_nil]
  · rw [kept.mutated, changed.mutated, List.append_nil]

/-- The steps before the sick component all succeed, and its own step raises. -/
theorem runSteps_play (executable : Executable plan target) (early : List UpgradeStep)
    (step : UpgradeStep) (rest : List UpgradeStep)
    (healthy : ∀ other ∈ early, other.component ≠ step.component) (progress : Progress) :
    ∃ history after,
      (runSteps plan target deadline (early ++ step :: rest) progress).play
        (surroundings deadline step.component) = (history, .raised, after) ∧
      Played history progress after (changedOf plan (early ++ [step])) ∧
      after.operation.currentComponent = some step.component := by
  induction early generalizing progress with
  | nil =>
      rcases runStep_play deadline step.component executable step progress with
        ⟨history, after, ran, played, current⟩
      rw [if_pos rfl] at ran
      rw [List.nil_append, runSteps, play_bind, ran]
      exact ⟨_, _, rfl, ⟨(congrArg (fun list => invoked (effects list)) (List.append_nil _)).trans
        played.invoked, played.mutated⟩, current⟩
  | cons head tail ih =>
      rcases runStep_play deadline step.component executable head progress with
        ⟨first, middle, ran, played, _⟩
      rw [if_neg (healthy head List.mem_cons_self)] at ran
      rcases ih (fun other member => healthy other (List.mem_cons_of_mem _ member)) middle with
        ⟨later, after, rest, played', current⟩
      rw [List.cons_append, runSteps, play_bind, ran]
      simp only [rest]
      refine ⟨_, _, rfl, ⟨?_, ?_⟩, current⟩
      · rw [effects_append, invoked_append, played.invoked, played'.invoked, ← changedOf_append]
        rfl
      · rw [played'.mutated, played.mutated, List.append_assoc, ← changedOf_append]
        rfl

/-- With an adapter that can roll back, a recovery without blocked components asks it to. -/
theorem conclude_play {progress : Progress} {early : List ComponentId} {component : ComponentId}
    {version : ComponentVersion} (touched : touchedComponents plan progress = early ++ [component])
    (unblocked : blockedComponents plan (early ++ [component]) = [])
    (source : plan.body.sourceProfile.versions.lookup component = some version) :
    ∃ more document,
      (conclude plan deadline .raised progress).play (surroundings deadline sick) =
        (⟨.rollbackCallable, surroundings deadline sick .rollbackCallable⟩ ::
          ⟨.rollback component version deadline,
            surroundings deadline sick (.rollback component version deadline)⟩ :: more, document) := by
  have failed : touchedComponents plan { progress with
      operation.state := .failed
      operation.error := some ("upgrade failed; inspect component health and follow the " ++
        "plan recovery boundary") } = early ++ [component] := touched
  have restoring : ∀ operation, ∃ more outcome,
      (restoreEach plan deadline (early ++ [component]).reverse [] operation).play
        (surroundings deadline sick) = (⟨.rollback component version deadline,
          surroundings deadline sick (.rollback component version deadline)⟩ :: more, outcome) := by
    intro operation
    rw [List.reverse_concat, restoreEach, source]
    exact ⟨_, _, rfl⟩
  have whole : ∀ operation, ∃ more document,
      (recoverTouched plan deadline (early ++ [component]) operation).play
        (surroundings deadline sick) =
        (⟨.rollbackCallable, surroundings deadline sick .rollbackCallable⟩ ::
          ⟨.rollback component version deadline,
            surroundings deadline sick (.rollback component version deadline)⟩ :: more, document) := by
    intro operation
    rcases restoring operation with ⟨more, outcome, restored⟩
    have opened : (rollBack plan deadline (early ++ [component]) operation).play
        (surroundings deadline sick) =
        (⟨.rollbackCallable, surroundings deadline sick .rollbackCallable⟩ ::
          ((restoreEach plan deadline (early ++ [component]).reverse [] operation >>=
            afterRestoring).play (surroundings deadline sick)).1,
          ((restoreEach plan deadline (early ++ [component]).reverse [] operation >>=
            afterRestoring).play (surroundings deadline sick)).2) := rfl
    rw [play_bind, restored] at opened
    unfold recoverTouched
    rw [unblocked]
    exact ⟨_, _, opened⟩
  unfold conclude recover
  rw [failed]
  cases shape : early ++ [component] with
  | nil => exact absurd shape (by simp)
  | cons head tail =>
      rw [shape] at whole
      exact whole _

/-- The steps of the components before and after one of the changed ones. -/
theorem changedOf_split {early late : List ComponentId} {component : ComponentId}
    (order : changedOf plan plan.body.steps = early ++ component :: late) :
    ∃ first step last, plan.body.steps = first ++ step :: last ∧
      changedOf plan (first ++ [step]) = early ++ [component] ∧ step.component = component := by
  rcases List.filter_eq_append_iff.mp order with ⟨front, back, whole, fine, others⟩
  rcases List.filter_eq_cons_iff.mp others with ⟨skipped, final, rest, none, changed, _⟩
  rcases List.map_eq_append_iff.mp whole with ⟨first, second, steps, rfl, rfl⟩
  rcases List.map_eq_append_iff.mp rest with ⟨middle, tail, rfl, rfl, ended⟩
  rcases List.map_eq_cons_iff.mp ended with ⟨step, last, rfl, rfl, rfl⟩
  refine ⟨first ++ middle, step, last, by simp [steps], ?_, rfl⟩
  have quiet : changedOf plan middle = [] := List.filter_eq_nil_iff.mpr none
  rw [changedOf_append, changedOf_append, quiet, List.append_nil, changedOf_singleton,
    if_pos (of_decide_eq_true changed), ← fine]
  rfl

/-- An unblocked component with an irreversible migration gets rolled back in some run. -/
theorem unsound_run (executable : Executable plan target) {early late : List ComponentId}
    {component : ComponentId} (order : changedOf plan plan.body.steps = early ++ component :: late)
    (unblocked : blockedComponents plan (early ++ [component]) = [])
    (lasting : ¬ Reversible plan component) :
    ∃ history rest, Reaches (run plan target operation) history rest ∧
      ¬ RollbackSound plan history := by
  have member : component ∈ changedOf plan plan.body.steps := by
    rw [order]
    exact List.mem_append_right _ List.mem_cons_self
  have changed : component ∈ plan.body.components :=
    of_decide_eq_true (List.mem_filter.mp member).2
  rcases executable.sources component changed with ⟨version, source⟩
  rcases changedOf_split order with ⟨first, step, last, steps, fine, same⟩
  let started : UpgradeOperation := { operation with state := .running, updatedAt := (0 : Int) }
  let deadline := 0 + plan.body.timeoutSeconds
  let oracle := surroundings deadline step.component
  have healthy : ∀ other ∈ first, other.component ≠ step.component := by
    have distinct := executable.distinct
    unfold Distinct at distinct
    rw [steps, List.map_append, List.map_cons, List.nodup_append] at distinct
    intro other member
    exact distinct.2.2 _ (List.mem_map_of_mem member) _ List.mem_cons_self
  rcases runSteps_play deadline executable first step last healthy ⟨started, []⟩ with
    ⟨history, after, ran, played, current⟩
  have mutated : after.mutated = early ++ [component] := by
    rw [played.mutated, List.nil_append, fine]
  have touched : touchedComponents plan after = early ++ [component] := by
    rw [← mutated]
    apply touchedComponents_of_current
    intro other now _
    rw [current, same] at now
    cases now
    rw [mutated]
    exact List.mem_append_right _ List.mem_cons_self
  rcases conclude_play deadline step.component touched unblocked source with
    ⟨more, document, concluded⟩
  have executed := play_reaches oracle (execute plan target started deadline)
  have whole : ∃ rest, ((execute plan target started deadline).play oracle).1 =
      history ++ ⟨.rollbackCallable, oracle .rollbackCallable⟩ ::
        ⟨.rollback component version deadline, oracle (.rollback component version deadline)⟩ ::
        rest := by
    unfold execute
    rw [steps, play_bind, ran, play_bind, concluded]
    exact ⟨_, rfl⟩
  rcases whole with ⟨rest, whole⟩
  rw [whole] at executed
  let opening : List UpgradeExchange :=
    [⟨.now, oracle .now⟩, ⟨.put started, oracle (.put started)⟩, ⟨.monotonic, (0 : Int)⟩]
  let before := opening ++ history ++ [⟨.rollbackCallable, oracle .rollbackCallable⟩]
  let call : UpgradeExchange :=
    ⟨.rollback component version deadline, oracle (.rollback component version deadline)⟩
  have opened : Reaches (run plan target operation) opening
      (execute plan target started deadline) := by
    apply Reaches.step
    apply Reaches.step
    apply Reaches.step
    exact .refl _
  have joined := opened.trans executed
  rw [← List.append_assoc, List.append_cons] at joined
  have calls : invoked (effects before) = changedOf plan (first ++ [step]) := by
    calc invoked (effects before) = invoked (effects (opening ++ history)) := by
          rw [effects_append, invoked_append]
          exact List.append_nil _
      _ = invoked (effects history) := by
          rw [effects_append, invoked_append]
          rfl
      _ = changedOf plan (first ++ [step]) := played.invoked
  refine ⟨before ++ call :: rest, _, joined, ?_⟩
  intro sound
  apply lasting
  apply sound.rollback before rest component version deadline _ rfl
  rw [calls, fine]
  exact List.mem_append_right _ List.mem_cons_self

end Sound

/-! ## Accepted plans -/

theorem upgradeSteps_component (migrations : List Migration) (changed : List ComponentId)
    (number : Nat) (componentIds : List ComponentId) :
    (upgradeSteps migrations changed number componentIds).map UpgradeStep.component =
      componentIds := by
  induction componentIds generalizing number with
  | nil => rfl
  | cons head tail ih => simp [upgradeSteps, ih]

theorem changedComponents_versions {source target : PlatformProfile}
    {componentIds changed : List ComponentId}
    (computed : changedComponents source target componentIds = .ok changed) {component : ComponentId}
    (member : component ∈ changed) :
    (∃ version, source.componentVersion component = .ok version) ∧
      ∃ version, target.componentVersion component = .ok version := by
  induction componentIds generalizing changed with
  | nil =>
      cases computed
      cases member
  | cons head tail ih =>
      simp only [changedComponents, bind_ok, pure_ok] at computed
      rcases computed with ⟨current, sourced, wanted, targeted, others, rest, rfl⟩
      split at member
      · rcases List.mem_cons.mp member with rfl | later
        · exact ⟨⟨current, sourced⟩, ⟨wanted, targeted⟩⟩
        · exact ih rest later
      · exact ih rest member

theorem componentVersion_ok {profile : PlatformProfile} {component : ComponentId}
    {version : ComponentVersion} :
    profile.componentVersion component = .ok version ↔
      (versions profile).lookup component = some version := by
  unfold PlatformProfile.componentVersion versions
  rw [← lookup_perm profile.uniqueComponents (List.mergeSort_perm _ _).symm component]
  cases profile.components.lookup component <;> simp

namespace ProfileUpgradeService

variable {service : ProfileUpgradeService}

theorem executable {past surroundings : Surroundings} {planId requested operationId : String}
    {stored : ProfileUpgradePlan} {identity : ActorIdentity} {confirmation : Option String}
    {consumed : Bool} {result : UpgradeOperation × PlatformProfile}
    (planned : service.plan past planId requested = .ok stored)
    (accepted : service.submit surroundings (some (.plan stored)) operationId identity confirmation
      consumed = .ok result)
    (identifies : service.Identifies surroundings stored) : Executable stored result.2 := by
  rcases planBody_ok.mp (plan_ok planned).1 with ⟨pastTarget, pastDeclared, pastObserved, before⟩
  rcases submit_ok accepted with ⟨_, _, declared, observed, fresh, submitted⟩
  have same : fresh = stored.body := identifies _ _ _ _ submitted
  subst same
  rcases freshBody_ok submitted.rebuilt with ⟨_, _, _, _, _, _, snapshot, _, _⟩
  have targets : ProfileSnapshot.mk pastTarget.id (versions pastTarget) =
      ⟨result.2.id, versions result.2⟩ := before.targetSnapshot.symm.trans snapshot
  rw [ProfileSnapshot.mk.injEq] at targets
  constructor
  · unfold Distinct
    rw [before.steps, upgradeSteps_component]
    exact ComponentRegistry.dependencyOrder_nodup (dependencyImpact_ok.mp before.impact)
  · intro component member
    rw [← componentVersion_congr targets.2]
    exact (changedComponents_versions before.changed member).2
  · intro component member
    rcases (changedComponents_versions before.changed member).1 with ⟨version, found⟩
    rw [before.source]
    exact ⟨version, componentVersion_ok.mp found⟩

end ProfileUpgradeService

/-- What the thread finds of the operation it was started for: a cancel call may
have marked it already. -/
def Loaded (operation loaded : UpgradeOperation) : Prop :=
  loaded = operation ∨ ∃ now, loaded = { operation with state := .cancelling, updatedAt := now }

/-- Whatever the adapter, the verifier, the store, the clocks and the cancel flag
answer, rollback is sound exactly when the plan records a blocking class before the
first changed component with a migration that is not reversible, or for it. -/
theorem rollback_sound_iff {service : ProfileUpgradeService} {past surroundings : Surroundings}
    {planId requested operationId : String} {stored : ProfileUpgradePlan} {identity : ActorIdentity}
    {confirmation : Option String} {consumed : Bool} {result : UpgradeOperation × PlatformProfile}
    (planned : service.plan past planId requested = .ok stored)
    (accepted : service.submit surroundings (some (.plan stored)) operationId identity confirmation
      consumed = .ok result)
    (identifies : service.Identifies surroundings stored) :
    (∀ loaded history rest, Loaded result.1 loaded →
      Reaches (run stored result.2 loaded) history rest → RollbackSound stored history) ↔
      BlocksIrreversible stored := by
  have executable := ProfileUpgradeService.executable planned accepted identifies
  rcases ProfileUpgradeService.submit_ok accepted with ⟨_, created, _⟩
  constructor
  · intro sound early component late order unblocked
    by_contra lasting
    have broken : ∃ history rest, Reaches (run stored result.2 result.1) history rest ∧
        ¬ RollbackSound stored history := unsound_run executable order unblocked lasting
    rcases broken with ⟨history, rest, reached, unsound⟩
    exact unsound (sound result.1 history rest (.inl rfl) reached)
  · intro blocks loaded history rest found reached
    rcases found with rfl | ⟨now, rfl⟩
    · exact rollbackSound blocks executable.distinct (by rw [created]; rfl) (by rw [created]; rfl)
        reached
    · exact rollbackSound blocks executable.distinct (by rw [created]; rfl) (by rw [created]; rfl)
        reached

/-- A service whose hash is the expected downtime. -/
def exampleService : ProfileUpgradeService := ⟨fun body => body.expectedDowntime, 600, 300⟩

/-- Reading the same target again rebuilds the same body. -/
theorem example_identifies (migrations : List Migration) :
    exampleService.Identifies (exampleSurroundings (exampleTarget .licensedLive migrations))
      (examplePlan exampleService migrations) := by
  intro target declared observed fresh submitted
  cases submitted.loaded
  cases submitted.transition
  cases (example_observed .licensedLive migrations _ rfl).symm.trans submitted.observation
  exact Except.ok.inj submitted.rebuilt.symm

theorem rollback_sound_iff_example :
    (∀ loaded history rest,
      Loaded (ProfileUpgradeService.newOperation 0 "upgrade-1" (examplePlan exampleService [])
        exampleIdentity) loaded →
      Reaches (run (examplePlan exampleService []) (exampleTarget .licensedLive []) loaded) history
        rest → RollbackSound (examplePlan exampleService []) history) ↔
      BlocksIrreversible (examplePlan exampleService []) :=
  rollback_sound_iff (example_plan exampleService [])
    (example_submit exampleService .licensedLive [] [] (by decide) (by decide))
    (example_identifies [])

/-- A component whose migration only allows a compensating action is rolled back. -/
theorem compensating_rolled_back :
    ¬ ∀ service past surroundings planId requested operationId stored identity confirmation
        consumed result,
      ProfileUpgradeService.plan service past planId requested = .ok stored →
      service.submit surroundings (some (.plan stored)) operationId identity confirmation
        consumed = .ok result →
      ∀ history rest, Reaches (run stored result.2 result.1) history rest →
        RollbackSound stored history := by
  intro sound
  let migrations : List Migration := [⟨"ssc", .application, .compensatingAction, none⟩]
  have planned := example_plan exampleService migrations
  have accepted := example_submit exampleService .licensedLive migrations migrations (by decide)
    (by decide)
  have executable := ProfileUpgradeService.executable planned accepted
    (example_identifies migrations)
  have lasting : ¬ Reversible (examplePlan exampleService migrations) "ssc" := by decide
  have order : changedOf (examplePlan exampleService migrations)
      (examplePlan exampleService migrations).body.steps = [] ++ "ssc" :: [] := rfl
  rcases unsound_run executable order rfl lasting with ⟨history, rest, reached, unsound⟩
  exact unsound (sound _ _ _ _ _ _ _ _ _ _ _ planned accepted history rest reached)

end FortifyLab.Upgrade
