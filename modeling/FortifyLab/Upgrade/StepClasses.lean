import FortifyLab.Upgrade.Replanning
import Mathlib.Data.List.MinMax

/-! The recovery classes of a plan's steps against the migrations its target declares. -/

namespace FortifyLab.Upgrade

open Registry

/-- How strict a class is: reversible first, irreversible last. -/
def RecoveryClass.rank : RecoveryClass → Nat
  | .reversible => 0
  | .compensatingAction => 1
  | .restoreRequired => 2
  | .irreversible => 3

theorem RecoveryClass.rank_injective : Function.Injective RecoveryClass.rank := by
  intro left right same
  cases left <;> cases right <;> first | rfl | cases same

instance : LinearOrder RecoveryClass :=
  LinearOrder.lift' RecoveryClass.rank RecoveryClass.rank_injective

instance : OrderBot RecoveryClass where
  bot := .reversible
  bot_le recoveryClass := Nat.zero_le recoveryClass.rank

/-- The strictest of some classes, and reversible where there is none. -/
def strictest (classes : List RecoveryClass) : RecoveryClass := classes.foldr max .reversible

theorem le_strictest {classes : List RecoveryClass} {recoveryClass : RecoveryClass}
    (member : recoveryClass ∈ classes) : recoveryClass ≤ strictest classes :=
  List.le_max_of_le member le_rfl

theorem strictest_le {classes : List RecoveryClass} {bound : RecoveryClass}
    (bounded : ∀ recoveryClass ∈ classes, recoveryClass ≤ bound) : strictest classes ≤ bound :=
  List.max_le_of_forall_le classes bound bounded

theorem strictest_mem (classes : List RecoveryClass) :
    strictest classes = .reversible ∨ strictest classes ∈ classes := by
  induction classes with
  | nil => exact .inl rfl
  | cons head tail ih =>
      change max head (strictest tail) = .reversible ∨ max head (strictest tail) ∈ head :: tail
      rcases max_choice head (strictest tail) with same | same
      · exact .inr (by simp [same])
      · rw [same]
        exact ih.imp_right (List.mem_cons_of_mem head)

/-- `_rollback_class` is the strictest class of all migrations. -/
theorem rollbackClass_eq (migrations : List Migration) :
    rollbackClass migrations = strictest (migrations.map Migration.rollback) := by
  unfold rollbackClass
  generalize migrations.map Migration.rollback = classes
  have below : ∀ bound : RecoveryClass, (∀ stricter, bound < stricter → stricter ∉ classes) →
      strictest classes ≤ bound :=
    fun bound none => strictest_le (fun recoveryClass member =>
      not_lt.mp (fun stricter => none recoveryClass stricter member))
  dsimp only
  split
  · next member =>
    refine le_antisymm (le_strictest member) (below _ ?_)
    intro stricter above
    cases stricter <;> exact absurd above (by decide)
  · next first =>
    split
    · next member =>
      refine le_antisymm (le_strictest member) (below _ ?_)
      intro stricter above
      cases stricter <;> first | exact first | exact absurd above (by decide)
    · next second =>
      split
      · next member =>
        refine le_antisymm (le_strictest member) (below _ ?_)
        intro stricter above
        cases stricter <;> first | exact first | exact second | exact absurd above (by decide)
      · next third =>
        refine le_antisymm bot_le (below _ ?_)
        intro stricter above
        cases stricter <;>
          first | exact first | exact second | exact third | exact absurd above (by decide)

/-! ## What a plan records -/

/-- The classes of the migrations declared for a component. -/
def declaredClasses (migrations : List Migration) (component : ComponentId) :
    List RecoveryClass :=
  (migrations.filter (fun item => item.component = component)).map Migration.rollback

theorem mem_declaredClasses {migrations : List Migration} {component : ComponentId}
    {recoveryClass : RecoveryClass} :
    recoveryClass ∈ declaredClasses migrations component ↔
      ∃ item ∈ migrations, item.component = component ∧ item.rollback = recoveryClass := by
  simp [declaredClasses, and_assoc]

/-- Every step has the strictest class declared for its component, and the boundary is
the strictest class of the steps. -/
structure StrictestClasses (migrations : List Migration) (body : PlanBody) : Prop where
  steps : ∀ step ∈ body.steps,
    step.recoveryClass = strictest (declaredClasses migrations step.component)
  boundary : body.recoveryBoundary = strictest (body.steps.map UpgradeStep.recoveryClass)

/-- No earlier migration of a component is stricter than its last one, and some migration
of one of the components is as strict as any that is declared. -/
structure LastStrictest (migrations : List Migration) (components : List ComponentId) :
    Prop where
  last : ∀ early item late, migrations = early ++ item :: late → item.component ∈ components →
    (∀ later ∈ late, later.component ≠ item.component) →
    ∀ earlier ∈ early, earlier.component = item.component → earlier.rollback ≤ item.rollback
  covered : ∀ item ∈ migrations, item.rollback = .reversible ∨
    ∃ other ∈ migrations, other.component ∈ components ∧ item.rollback ≤ other.rollback

/-- The class of a step: of the last migration that names the component. -/
def stepClass (migrations : List Migration) (component : ComponentId) : RecoveryClass :=
  (migrationByComponent migrations component).getD .reversible

theorem upgradeSteps_map {α : Type} (read : ComponentId → RecoveryClass → α)
    (migrations : List Migration) (changed : List ComponentId) (number : Nat)
    (components : List ComponentId) :
    (upgradeSteps migrations changed number components).map
        (fun step => read step.component step.recoveryClass) =
      components.map (fun component => read component (stepClass migrations component)) := by
  induction components generalizing number with
  | nil => rfl
  | cons head tail ih =>
      rw [upgradeSteps, List.map_cons, List.map_cons, ih]
      rfl

/-- The last migration of a component, when it has one. -/
theorem stepClass_eq (migrations : List Migration) (component : ComponentId) :
    (declaredClasses migrations component = [] ∧ stepClass migrations component = .reversible) ∨
      ∃ early item late, migrations = early ++ item :: late ∧ item.component = component ∧
        (∀ later ∈ late, later.component ≠ component) ∧
        stepClass migrations component = item.rollback := by
  unfold stepClass migrationByComponent
  cases found : migrations.reverse.find? (fun item => item.component == component) with
  | none =>
      refine .inl ⟨?_, rfl⟩
      simp only [List.find?_eq_none, List.mem_reverse, beq_iff_eq] at found
      simpa [declaredClasses] using found
  | some item =>
      rcases List.find?_eq_some_iff_append.mp found with ⟨named, late, early, split, absent⟩
      refine .inr ⟨early.reverse, item, late.reverse, ?_, beq_iff_eq.mp named, ?_, rfl⟩
      · rw [← List.reverse_reverse migrations, split]
        simp
      · intro later member
        simpa using absent later (List.mem_reverse.mp member)

theorem stepClass_mem {migrations : List Migration} {component : ComponentId} :
    stepClass migrations component ≤ strictest (declaredClasses migrations component) := by
  rcases stepClass_eq migrations component with
    ⟨_, none⟩ | ⟨early, item, late, split, same, _, last⟩
  · rw [none]
    exact bot_le
  · rw [last]
    apply le_strictest
    exact mem_declaredClasses.mpr ⟨item, by simp [split], same, rfl⟩

/-- The steps have the strictest classes exactly when no component has an earlier stricter
migration. -/
theorem stepClass_strictest_iff {migrations : List Migration} {components : List ComponentId} :
    (∀ component ∈ components,
      stepClass migrations component = strictest (declaredClasses migrations component)) ↔
      ∀ early item late, migrations = early ++ item :: late → item.component ∈ components →
        (∀ later ∈ late, later.component ≠ item.component) →
        ∀ earlier ∈ early, earlier.component = item.component →
          earlier.rollback ≤ item.rollback := by
  constructor
  · intro strict early item late split declared absent earlier member same
    have class_eq : stepClass migrations item.component = item.rollback := by
      unfold stepClass migrationByComponent
      have found : migrations.reverse.find? (fun other => other.component == item.component) =
          some item := by
        refine List.find?_eq_some_iff_append.mpr ⟨by simp, late.reverse, early.reverse, ?_, ?_⟩
        · simp [split]
        · intro later within
          simpa using absent later (List.mem_reverse.mp within)
      rw [found]
      rfl
    calc
      earlier.rollback ≤ strictest (declaredClasses migrations item.component) :=
        le_strictest (mem_declaredClasses.mpr ⟨earlier, by simp [split, member], same, rfl⟩)
      _ = item.rollback := by rw [← strict _ declared, class_eq]
  · intro ordered component member
    apply le_antisymm stepClass_mem
    apply strictest_le
    intro recoveryClass declared
    rcases mem_declaredClasses.mp declared with ⟨item, known, named, rfl⟩
    rcases stepClass_eq migrations component with
      ⟨none, _⟩ | ⟨early, last, late, split, same, absent, class_eq⟩
    · rw [none] at declared
      cases declared
    · rw [class_eq]
      rw [split, List.mem_append, List.mem_cons] at known
      subst same
      rcases known with before | rfl | after
      · exact ordered early last late split member absent item before named
      · exact le_rfl
      · exact absurd named (absent item after)

/-- With the strictest class in each step, the strictest step is as strict as the whole plan
exactly when its components' migrations are. -/
theorem boundary_iff {migrations : List Migration} {components : List ComponentId}
    (strict : ∀ component ∈ components,
      stepClass migrations component = strictest (declaredClasses migrations component)) :
    rollbackClass migrations = strictest (components.map (stepClass migrations)) ↔
      ∀ item ∈ migrations, item.rollback = .reversible ∨
        ∃ other ∈ migrations, other.component ∈ components ∧ item.rollback ≤ other.rollback := by
  rw [rollbackClass_eq]
  have below : strictest (components.map (stepClass migrations)) ≤
      strictest (migrations.map Migration.rollback) := by
    apply strictest_le
    intro recoveryClass member
    rcases List.mem_map.mp member with ⟨component, _, rfl⟩
    apply le_trans stepClass_mem
    apply strictest_le
    intro declared known
    rcases mem_declaredClasses.mp known with ⟨item, within, _, rfl⟩
    exact le_strictest (List.mem_map_of_mem within)
  constructor
  · intro same item member
    have bound : item.rollback ≤ strictest (components.map (stepClass migrations)) :=
      same ▸ le_strictest (List.mem_map_of_mem member)
    rcases strictest_mem (components.map (stepClass migrations)) with none | listed
    · exact .inl (le_antisymm (none ▸ bound) bot_le)
    · rcases List.mem_map.mp listed with ⟨component, known, same⟩
      rw [← same] at bound
      rcases stepClass_eq migrations component with
        ⟨_, none⟩ | ⟨early, other, late, split, named, _, class_eq⟩
      · exact .inl (le_antisymm (none ▸ bound) bot_le)
      · exact .inr ⟨other, by simp [split], named ▸ known, class_eq ▸ bound⟩
  · intro covered
    refine le_antisymm (strictest_le ?_) below
    intro recoveryClass member
    rcases List.mem_map.mp member with ⟨item, known, rfl⟩
    rcases covered item known with none | ⟨other, within, named, stricter⟩
    · rw [none]
      exact bot_le
    · calc
        item.rollback ≤ other.rollback := stricter
        _ ≤ strictest (declaredClasses migrations other.component) :=
          le_strictest (mem_declaredClasses.mpr ⟨other, within, rfl, rfl⟩)
        _ = stepClass migrations other.component := (strict _ named).symm
        _ ≤ strictest (components.map (stepClass migrations)) :=
          le_strictest (List.mem_map_of_mem named)

/-- The plan covers the components of the registry. -/
theorem dependencyImpact_mem {surroundings : Surroundings} {impact : List ComponentId}
    (planned : dependencyImpact surroundings = .ok impact) (component : ComponentId) :
    component ∈ impact ↔ component ∈ surroundings.registry.componentIds := by
  have run := dependencyImpact_ok.mp planned
  rcases ComponentRegistry.dependencyOrder_ok run with ⟨closure, isClosure, _, _, perm⟩
  constructor
  · intro member
    exact isClosure.declared component (perm.mem_iff.mp member)
  · intro declared
    apply (ComponentRegistry.dependencyOrder_mem run component).mpr
    exact DependencyGraph.Closure.of_mem declared

/-- In every plan the steps and the boundary are the strictest exactly when the declared
migrations end, for each component, with one of its strictest, and some component of the
registry has a migration as strict as any. -/
theorem strictest_classes_iff {surroundings : Surroundings} {targetProfileId : String}
    {target : PlatformProfile} {declared : Transition} {body : PlanBody}
    (loaded : surroundings.load targetProfileId = .ok target)
    (known : transition target surroundings.profile.id = .ok declared)
    (planned : planBody surroundings targetProfileId = .ok body) :
    StrictestClasses declared.migrations body ↔
      LastStrictest declared.migrations surroundings.registry.componentIds := by
  rcases planBody_ok.mp planned with ⟨_, _, _, plan⟩
  cases loaded.symm.trans plan.loaded
  cases known.symm.trans plan.transition
  have components := dependencyImpact_mem plan.impact
  have classes : body.steps.map UpgradeStep.recoveryClass =
      body.dependencyImpact.map (stepClass declared.migrations) := by
    rw [plan.steps]
    exact upgradeSteps_map (fun _ recoveryClass => recoveryClass) _ _ _ _
  have steps : (∀ step ∈ body.steps,
      step.recoveryClass = strictest (declaredClasses declared.migrations step.component)) ↔
      ∀ component ∈ body.dependencyImpact, stepClass declared.migrations component =
        strictest (declaredClasses declared.migrations component) := by
    have pairs := upgradeSteps_map Prod.mk declared.migrations body.components 1
      body.dependencyImpact
    rw [← plan.steps] at pairs
    constructor
    · intro strict component member
      have listed := List.mem_map_of_mem (f := fun component =>
        (component, stepClass declared.migrations component)) member
      rw [← pairs] at listed
      rcases List.mem_map.mp listed with ⟨step, known, same⟩
      rcases Prod.mk.inj same with ⟨rfl, class_eq⟩
      rw [← class_eq]
      exact strict step known
    · intro strict step member
      have listed := List.mem_map_of_mem (f := fun step : UpgradeStep =>
        (step.component, step.recoveryClass)) member
      rw [pairs] at listed
      rcases List.mem_map.mp listed with ⟨component, known, same⟩
      rcases Prod.mk.inj same with ⟨rfl, class_eq⟩
      rw [← class_eq]
      exact strict step.component known
  constructor
  · intro strict
    have strictSteps := steps.mp strict.steps
    have covered := (boundary_iff strictSteps).mp
      (plan.boundary.symm.trans (strict.boundary.trans (by rw [classes])))
    simp only [components] at covered
    refine ⟨?_, covered⟩
    simpa only [components] using stepClass_strictest_iff.mp strictSteps
  · intro strict
    have ordered := strict.last
    have covered := strict.covered
    simp only [← components] at ordered covered
    have strictSteps := stepClass_strictest_iff.mpr ordered
    exact ⟨steps.mpr strictSteps, by
      rw [plan.boundary, classes, (boundary_iff strictSteps).mpr covered]⟩

theorem strictest_classes_single :
    StrictestClasses [⟨"ssc", .database, .restoreRequired, none⟩]
        (exampleBody [⟨"ssc", .database, .restoreRequired, none⟩]) ↔
      LastStrictest [⟨"ssc", .database, .restoreRequired, none⟩] ["ssc"] :=
  @strictest_classes_iff _ _ (exampleTarget .licensedLive
    [⟨"ssc", .database, .restoreRequired, none⟩]) _ _ rfl rfl (example_planned _)

/-- A component with an irreversible database migration and a reversible one after it gets a
reversible step. -/
theorem irreversible_step_reversible :
    ¬ ∀ (surroundings : Surroundings) (targetProfileId : String) (target : PlatformProfile)
        (declared : Transition) (body : PlanBody),
      surroundings.load targetProfileId = .ok target →
      transition target surroundings.profile.id = .ok declared →
      planBody surroundings targetProfileId = .ok body →
      StrictestClasses declared.migrations body := by
  intro always
  let migrations : List Migration :=
    [⟨"ssc", .database, .irreversible, none⟩, ⟨"ssc", .application, .reversible, none⟩]
  have strict := always (exampleSurroundings (exampleTarget .licensedLive migrations))
    "fortify-24.4-eval.2" _ _ _ rfl rfl (example_planned migrations)
  have step := strict.steps ⟨1, "ssc", true, .reversible⟩ (by decide)
  exact absurd step (by decide)

end FortifyLab.Upgrade
