import FortifyLab.Upgrade.Submission

/-! When an accepted submission is one that planning again would allow. -/

namespace FortifyLab.Upgrade

open Registry Authorization

/-- The sorted versions determine the version of every component. -/
theorem componentVersion_congr {left right : PlatformProfile} (same : versions left = versions right)
    (componentId : ComponentId) :
    left.componentVersion componentId = right.componentVersion componentId := by
  have sorted : ∀ profile : PlatformProfile,
      profile.components.lookup componentId = (versions profile).lookup componentId :=
    fun profile => lookup_perm profile.uniqueComponents (List.mergeSort_perm _ _).symm componentId
  unfold PlatformProfile.componentVersion
  rw [sorted left, sorted right, same]

theorem changedComponents_congr {source source' target target' : PlatformProfile}
    (sources : versions source = versions source') (targets : versions target = versions target')
    (componentIds : List ComponentId) :
    changedComponents source target componentIds = changedComponents source' target' componentIds := by
  induction componentIds with
  | nil => rfl
  | cons head tail ih =>
      unfold changedComponents
      rw [componentVersion_congr sources head, componentVersion_congr targets head, ih]

/-- Every check `plan` makes, with the body it computes. -/
structure Planned (surroundings : Surroundings) (targetProfileId : String) (body : PlanBody)
    (target : PlatformProfile) (declared : Transition) (observed : Value) : Prop where
  loaded : surroundings.load targetProfileId = .ok target
  distinct : target.id ≠ surroundings.profile.id ∧ target.maturity ≠ .unsupported
  validated : maturityAllowed target.maturity ∧ target.evidenceLevel = .licensedLive
  transition : transition target surroundings.profile.id = .ok declared
  observation : validatedObservation surroundings target declared = .ok observed
  impact : dependencyImpact surroundings = .ok body.dependencyImpact
  changed : changedComponents surroundings.profile target body.dependencyImpact = .ok body.components
  nonempty : body.components ≠ []
  capacity : observedField observed "capacity" = .ok body.capacity
  health : observedField observed "health" = .ok body.currentHealth
  dependencies : observedField observed "dependencies" = .ok body.dependencyState
  backup : body.backupEvidence = (observed.get "backup").getD .null
  source : body.sourceProfile = ⟨surroundings.profile.id, versions surroundings.profile⟩
  targetSnapshot : body.targetProfile = ⟨target.id, versions target⟩
  migration : body.migration = {
    required := !declared.migrations.isEmpty
    items := declared.migrations
    rollback := rollbackClass declared.migrations
    recovery := declared.recovery }
  steps : body.steps = upgradeSteps declared.migrations body.components 1 body.dependencyImpact
  boundary : body.recoveryBoundary = rollbackClass declared.migrations
  downtime : body.expectedDowntime = declared.expectedDowntime
  timeout : body.timeoutSeconds = declared.timeoutSeconds

theorem dependencyImpact_ok {surroundings : Surroundings} {impact : List ComponentId} :
    dependencyImpact surroundings = .ok impact ↔
      surroundings.registry.dependencyOrder surroundings.order [] = .ok impact := by
  unfold dependencyImpact
  cases surroundings.registry.dependencyOrder surroundings.order [] <;> simp

theorem loadTarget_ok {surroundings : Surroundings} {targetProfileId : String}
    {target : PlatformProfile} :
    loadTarget surroundings targetProfileId = .ok target ↔
      surroundings.load targetProfileId = .ok target := by
  unfold loadTarget
  cases surroundings.load targetProfileId <;> simp

theorem planBody_ok {surroundings : Surroundings} {targetProfileId : String} {body : PlanBody} :
    planBody surroundings targetProfileId = .ok body ↔
      ∃ target declared observed,
        Planned surroundings targetProfileId body target declared observed := by
  unfold planBody
  simp only [bind_ok, check_ok, pure_ok, loadTarget_ok]
  constructor
  · intro run
    rcases run with ⟨target, loaded, _, distinct, _, validated, declared, transition, observed,
      observation, impact, impacted, changed, differing, _, nonempty, capacity, capacityRead, health,
      healthRead, dependencies, dependenciesRead, rfl⟩
    exact ⟨target, declared, observed, {
      loaded, distinct, validated, transition, observation, nonempty
      impact := impacted
      changed := differing
      capacity := capacityRead
      health := healthRead
      dependencies := dependenciesRead
      backup := rfl
      source := rfl
      targetSnapshot := rfl
      migration := rfl
      steps := rfl
      boundary := rfl
      downtime := rfl
      timeout := rfl }⟩
  · intro planned
    rcases planned with ⟨target, declared, observed, planned⟩
    refine ⟨target, planned.loaded, (), planned.distinct, (), planned.validated, declared,
      planned.transition, observed, planned.observation, _, planned.impact, _, planned.changed, (),
      planned.nonempty, _, planned.capacity, _, planned.health, _, planned.dependencies, ?_⟩
    rw [← planned.source, ← planned.targetSnapshot, ← planned.migration, ← planned.backup,
      ← planned.steps, ← planned.boundary, ← planned.downtime, ← planned.timeout]

namespace ProfileUpgradeService

variable {service : ProfileUpgradeService}

theorem plan_ok {surroundings : Surroundings} {planId targetProfileId : String}
    {stored : ProfileUpgradePlan} (planned : service.plan surroundings planId targetProfileId = .ok stored) :
    planBody surroundings targetProfileId = .ok stored.body ∧
      stored.planDigest = service.digest stored.body := by
  unfold plan at planned
  simp only [bind_ok, pure_ok] at planned
  rcases planned with ⟨body, computed, rfl⟩
  exact ⟨computed, rfl⟩

theorem plan_of_body (service : ProfileUpgradeService) (planId : String)
    {surroundings : Surroundings} {targetProfileId : String} {body : PlanBody} (computed : planBody surroundings targetProfileId = .ok body) :
    ∃ stored, service.plan surroundings planId targetProfileId = .ok stored ∧ stored.body = body ∧
      stored.planDigest = service.digest body := by
  unfold plan
  simp only [computed, bind_ok, pure_ok]
  exact ⟨_, ⟨body, rfl, rfl⟩, rfl, rfl⟩

theorem reloadTarget_ok {surroundings : Surroundings} {stored : ProfileUpgradePlan}
    {target : PlatformProfile} :
    reloadTarget surroundings stored = .ok target ↔
      surroundings.load stored.body.targetProfile.id = .ok target := by
  unfold reloadTarget
  cases surroundings.load stored.body.targetProfile.id <;> simp

/-- Every check `submit` makes after the confirmation, with what it read. -/
structure Submitted (service : ProfileUpgradeService) (surroundings : Surroundings)
    (stored : ProfileUpgradePlan) (target : PlatformProfile) (declared : Transition)
    (observed : Value) (fresh : PlanBody) : Prop where
  loaded : surroundings.load stored.body.targetProfile.id = .ok target
  transition : transition target surroundings.profile.id = .ok declared
  observation : validatedObservation surroundings target declared = .ok observed
  rebuilt : freshBody surroundings stored target declared observed = .ok fresh
  unchanged : service.digest fresh = stored.planDigest

theorem submit_ok {surroundings : Surroundings} {stored : ProfileUpgradePlan} {operationId : String}
    {identity : ActorIdentity} {confirmation : Option String} {consumed : Bool}
    {result : UpgradeOperation × PlatformProfile}
    (accepted : service.submit surroundings (some (.plan stored)) operationId identity confirmation
      consumed = .ok result) :
    consumed = true ∧
      result.1 = newOperation surroundings.now operationId stored identity ∧
      ∃ declared observed fresh,
        service.Submitted surroundings stored result.2 declared observed fresh := by
  unfold submit at accepted
  simp only [bind_ok, check_ok, pure_ok, reloadTarget_ok] at accepted
  rcases accepted with ⟨_, _, target, loaded, declared, transition, observed, observation, fresh,
    rebuilt, _, unchanged, _, won, rfl⟩
  exact ⟨won, rfl, declared, observed, fresh, ⟨loaded, transition, observation, rebuilt, unchanged⟩⟩

theorem freshBody_ok {surroundings : Surroundings} {stored : ProfileUpgradePlan}
    {target : PlatformProfile} {declared : Transition} {observed : Value} {fresh : PlanBody}
    (rebuilt : freshBody surroundings stored target declared observed = .ok fresh) :
    dependencyImpact surroundings = .ok fresh.dependencyImpact ∧
      observedField observed "capacity" = .ok fresh.capacity ∧
      observedField observed "health" = .ok fresh.currentHealth ∧
      observedField observed "dependencies" = .ok fresh.dependencyState ∧
      fresh.backupEvidence = (observed.get "backup").getD .null ∧
      fresh.sourceProfile = ⟨surroundings.profile.id, versions surroundings.profile⟩ ∧
      fresh.targetProfile = ⟨target.id, versions target⟩ ∧
      fresh.expectedDowntime = declared.expectedDowntime ∧
      fresh.timeoutSeconds = declared.timeoutSeconds := by
  unfold freshBody at rebuilt
  simp only [bind_ok, pure_ok] at rebuilt
  rcases rebuilt with ⟨impact, impacted, capacity, capacityRead, health, healthRead, dependencies,
    dependenciesRead, rfl⟩
  exact ⟨impacted, capacityRead, healthRead, dependenciesRead, rfl, rfl, rfl, rfl, rfl⟩

/-- The body a submission rebuilds is the stored one when it has the stored digest:
the hash does not collide on these two. -/
def Identifies (service : ProfileUpgradeService) (surroundings : Surroundings)
    (stored : ProfileUpgradePlan) : Prop :=
  ∀ target declared observed fresh,
    service.Submitted surroundings stored target declared observed fresh → fresh = stored.body

/-- Planning for the stored plan's target now gives the stored body and digest again. -/
def Replans (service : ProfileUpgradeService) (surroundings : Surroundings) (planId : String)
    (stored : ProfileUpgradePlan) : Prop :=
  ∃ replanned, service.plan surroundings planId stored.body.targetProfile.id = .ok replanned ∧
    replanned.planDigest = stored.planDigest ∧ replanned.body = stored.body

/-- The reloaded target is still validated by licensed-live evidence, and its
transition declares the migrations and the recovery the plan was made with. -/
def StillDeclared (surroundings : Surroundings) (stored : ProfileUpgradePlan) : Prop :=
  ∃ target declared, surroundings.load stored.body.targetProfile.id = .ok target ∧
    maturityAllowed target.maturity ∧ target.evidenceLevel = .licensedLive ∧
    transition target surroundings.profile.id = .ok declared ∧
    declared.migrations = stored.body.migration.items ∧
    declared.recovery = stored.body.migration.recovery

/-- An accepted submission whose target is still declared the same plans the same body. -/
theorem Submitted.planned {surroundings past : Surroundings} {requested : String}
    {stored : ProfileUpgradePlan} {target pastTarget : PlatformProfile}
    {declared pastDeclared : Transition} {observed pastObserved : Value}
    (submitted : service.Submitted surroundings stored target declared observed stored.body)
    (planned : Planned past requested stored.body pastTarget pastDeclared pastObserved)
    (validated : maturityAllowed target.maturity ∧ target.evidenceLevel = .licensedLive)
    (migrations : declared.migrations = stored.body.migration.items)
    (recovery : declared.recovery = stored.body.migration.recovery) :
    Planned surroundings stored.body.targetProfile.id stored.body target declared observed := by
  rcases freshBody_ok submitted.rebuilt with
    ⟨impact, capacity, health, dependencies, backup, source, snapshot, downtime, timeout⟩
  have sources : ProfileSnapshot.mk past.profile.id (versions past.profile) =
      ⟨surroundings.profile.id, versions surroundings.profile⟩ := planned.source.symm.trans source
  have targets : ProfileSnapshot.mk pastTarget.id (versions pastTarget) =
      ⟨target.id, versions target⟩ := planned.targetSnapshot.symm.trans snapshot
  simp only [ProfileSnapshot.mk.injEq] at sources targets
  have items : declared.migrations = pastDeclared.migrations := by
    rw [migrations, planned.migration]
  have advice : declared.recovery = pastDeclared.recovery := by
    rw [recovery, planned.migration]
  exact {
    loaded := submitted.loaded
    distinct := by
      refine ⟨?_, ?_⟩
      · rw [← targets.1, ← sources.1]
        exact planned.distinct.1
      · intro unsupported
        have allowed := validated.1
        rw [unsupported] at allowed
        cases allowed
    validated := validated
    transition := submitted.transition
    observation := submitted.observation
    impact := impact
    changed := by
      rw [← changedComponents_congr sources.2 targets.2]
      exact planned.changed
    nonempty := planned.nonempty
    capacity := capacity
    health := health
    dependencies := dependencies
    backup := backup
    source := source
    targetSnapshot := snapshot
    migration := by rw [planned.migration, items, advice]
    steps := by rw [planned.steps, items]
    boundary := by rw [planned.boundary, items]
    downtime := downtime
    timeout := timeout }

theorem Planned.stillDeclared {surroundings : Surroundings} {stored : ProfileUpgradePlan}
    {target : PlatformProfile} {declared : Transition} {observed : Value}
    (planned : Planned surroundings stored.body.targetProfile.id stored.body target declared
      observed) : StillDeclared surroundings stored := by
  refine ⟨target, declared, planned.loaded, planned.validated.1, planned.validated.2,
    planned.transition, ?_, ?_⟩
  · rw [planned.migration]
  · rw [planned.migration]

end ProfileUpgradeService

/-! ## A target that loses its evidence between the plan and the submission -/

def exampleComponents (chart : String) : Versions := [("ssc", ⟨chart, [("ssc", "registry/ssc:1")]⟩)]

def exampleSource : PlatformProfile where
  id := "fortify-24.4-eval.1"
  maturity := .experimental
  evidenceLevel := .static
  components := exampleComponents "24.4.1"
  capacity := [("cpuCores", 8)]
  allowedSources := []
  transitions := []
  uniqueComponents := by decide

def exampleTarget (level : EvidenceLevel) (migrations : List Migration) : PlatformProfile where
  id := "fortify-24.4-eval.2"
  maturity := .validated
  evidenceLevel := level
  components := exampleComponents "24.4.2"
  capacity := [("cpuCores", 8)]
  allowedSources := ["fortify-24.4-eval.1"]
  transitions := [⟨"fortify-24.4-eval.1", 600, "Up to ten minutes", false, migrations, "Replan."⟩]
  uniqueComponents := by decide

def exampleObservation : Value :=
  .obj [("profileId", .str "fortify-24.4-eval.1"), ("versions", versionsValue exampleSource),
    ("capacity", .obj [("cpuCores", .int 8)]), ("health", .obj [("state", .str "healthy")]),
    ("dependencies", .obj [("ssc", .str "ready")])]

/-- A laboratory of one component whose loader finds the given target. -/
def exampleSurroundings (target : PlatformProfile) : Surroundings where
  registry := { components := [⟨"ssc", [], []⟩], uniqueIds := by decide }
  order := .insertion
  profile := exampleSource
  load _ := .ok target
  observe := some exampleObservation
  now := 0

def exampleIdentity : ActorIdentity where
  actor := "web:operator"
  source := .web
  sessionId := "session-1"
  authenticatedAt := 0
  actor_bounded := by decide
  session_bounded := by decide

theorem example_observed (level : EvidenceLevel) (migrations : List Migration)
    (declared : Transition) (free : declared.backupRequired = false) :
    validatedObservation (exampleSurroundings (exampleTarget level migrations))
      (exampleTarget level migrations) declared = .ok exampleObservation := by
  have sorted : versions exampleSource = exampleComponents "24.4.1" := List.mergeSort_singleton _
  have reported : (versionsValue exampleSource).same (versionsValue exampleSource) = true := by
    unfold versionsValue
    rw [sorted]
    decide
  have equipped : capacityShort (.obj [("cpuCores", .int 8)]) [("cpuCores", 8)] = .ok false := by
    simp [capacityShort, Value.get, Value.number]
  have seen : (exampleSurroundings (exampleTarget level migrations)).observe =
      some exampleObservation := rfl
  simp only [validatedObservation, seen, bind_ok, check_ok, pure_ok]
  exact ⟨(), rfl, (), reported, false, equipped, (), rfl, (), rfl, (), rfl, (), by simp [free],
    trivial⟩

/-- The body of the plan for the target that declares the given migrations. -/
def exampleBody (migrations : List Migration) : PlanBody where
  sourceProfile := ⟨"fortify-24.4-eval.1", versions exampleSource⟩
  targetProfile := ⟨"fortify-24.4-eval.2", versions (exampleTarget .licensedLive migrations)⟩
  components := ["ssc"]
  dependencyImpact := ["ssc"]
  capacity := .obj [("cpuCores", .int 8)]
  currentHealth := .obj [("state", .str "healthy")]
  dependencyState := .obj [("ssc", .str "ready")]
  backupEvidence := .null
  migration := ⟨!migrations.isEmpty, migrations, rollbackClass migrations, "Replan."⟩
  steps := upgradeSteps migrations ["ssc"] 1 ["ssc"]
  recoveryBoundary := rollbackClass migrations
  expectedDowntime := "Up to ten minutes"
  timeoutSeconds := 600

theorem example_planned (migrations : List Migration) :
    planBody (exampleSurroundings (exampleTarget .licensedLive migrations)) "fortify-24.4-eval.2" =
      .ok (exampleBody migrations) := by
  apply planBody_ok.mpr
  exact ⟨exampleTarget .licensedLive migrations,
    ⟨"fortify-24.4-eval.1", 600, "Up to ten minutes", false, migrations, "Replan."⟩,
    exampleObservation, {
      loaded := rfl
      distinct := ⟨fun same => absurd (show "fortify-24.4-eval.2" = "fortify-24.4-eval.1" from same)
        (by decide), nofun⟩
      validated := ⟨rfl, rfl⟩
      transition := rfl
      observation := example_observed .licensedLive migrations _ rfl
      impact := rfl
      changed := rfl
      nonempty := List.cons_ne_nil _ _
      capacity := rfl
      health := rfl
      dependencies := rfl
      backup := rfl
      source := rfl
      targetSnapshot := rfl
      migration := rfl
      steps := rfl
      boundary := rfl
      downtime := rfl
      timeout := rfl }⟩

/-- The plan any service makes of it. -/
def examplePlan (service : ProfileUpgradeService) (migrations : List Migration) :
    ProfileUpgradePlan where
  id := "upgrade-plan-1"
  body := exampleBody migrations
  planDigest := service.digest (exampleBody migrations)
  createdAt := 0
  expiresAt := service.planTtl
  confirmation := "UPGRADE fortify-24.4-eval.1 TO fortify-24.4-eval.2 " ++
    service.digest (exampleBody migrations)

theorem example_plan (service : ProfileUpgradeService) (migrations : List Migration) :
    service.plan (exampleSurroundings (exampleTarget .licensedLive migrations)) "upgrade-plan-1"
      "fortify-24.4-eval.2" = .ok (examplePlan service migrations) := by
  unfold ProfileUpgradeService.plan
  rw [example_planned migrations]
  simp only [bind_ok, pure_ok]
  exact ⟨_, rfl, by simp [examplePlan, exampleSurroundings, exampleBody]⟩

/-- A target read again with the same versions passes the digest check, whatever
else of it changed. -/
theorem example_submit (service : ProfileUpgradeService) (level : EvidenceLevel)
    (migrations others : List Migration) (lasting : 0 < service.planTtl)
    (fresh : 0 ≤ service.confirmationAge) :
    service.submit (exampleSurroundings (exampleTarget level others))
      (some (.plan (examplePlan service migrations))) "upgrade-1" exampleIdentity
      (some (examplePlan service migrations).confirmation) true =
      .ok (ProfileUpgradeService.newOperation 0 "upgrade-1" (examplePlan service migrations)
        exampleIdentity, exampleTarget level others) := by
  have confirmed : service.checkConfirmation 0 (examplePlan service migrations) exampleIdentity
      (some (examplePlan service migrations).confirmation) = .ok () := by
    simp only [ProfileUpgradeService.checkConfirmation, bind_ok, check_ok]
    refine ⟨(), by decide, (), ?_, (), trivial, lasting⟩
    simpa [exampleIdentity] using fresh
  unfold ProfileUpgradeService.submit
  simp only [bind_ok, check_ok, pure_ok, ProfileUpgradeService.reloadTarget_ok]
  refine ⟨(), confirmed, exampleTarget level others, rfl, _, rfl, exampleObservation,
    example_observed level others _ rfl, exampleBody migrations, rfl, (), rfl, (), trivial, rfl⟩

namespace ProfileUpgradeService

variable {service : ProfileUpgradeService}

/-- What `submit` accepts, planning again allows with the same digest exactly when
the reloaded target is still declared as the plan recorded it. -/
theorem submit_replans_iff {past surroundings : Surroundings}
    {planId requested operationId : String} {stored : ProfileUpgradePlan} {identity : ActorIdentity}
    {confirmation : Option String} {consumed : Bool} {result : UpgradeOperation × PlatformProfile}
    (planned : service.plan past planId requested = .ok stored)
    (accepted : service.submit surroundings (some (.plan stored)) operationId identity confirmation
      consumed = .ok result)
    (identifies : service.Identifies surroundings stored) (anotherId : String) :
    service.Replans surroundings anotherId stored ↔ StillDeclared surroundings stored := by
  rcases plan_ok planned with ⟨computed, digest⟩
  rcases planBody_ok.mp computed with ⟨pastTarget, pastDeclared, pastObserved, before⟩
  rcases submit_ok accepted with ⟨_, _, declared, observed, fresh, submitted⟩
  have same : fresh = stored.body := identifies _ _ _ _ submitted
  subst same
  constructor
  · intro replans
    rcases replans with ⟨replanned, planned, _, body⟩
    rcases planBody_ok.mp (plan_ok planned).1 with ⟨target, declared, observed, now⟩
    rw [body] at now
    exact Planned.stillDeclared now
  · intro still
    rcases still with ⟨target, again, loaded, mature, licensed, transition, migrations, recovery⟩
    cases loaded.symm.trans submitted.loaded
    cases transition.symm.trans submitted.transition
    have now := submitted.planned before ⟨mature, licensed⟩ migrations recovery
    rcases plan_of_body service anotherId (planBody_ok.mpr ⟨_, _, _, now⟩) with ⟨replanned, done, body, hashed⟩
    exact ⟨replanned, done, hashed.trans digest.symm, body⟩

theorem submit_replans_iff_example :
    Replans ⟨fun body => body.expectedDowntime, 600, 300⟩
        (exampleSurroundings (exampleTarget .licensedLive [])) "upgrade-plan-2"
        (examplePlan ⟨fun body => body.expectedDowntime, 600, 300⟩ []) ↔
      StillDeclared (exampleSurroundings (exampleTarget .licensedLive []))
        (examplePlan ⟨fun body => body.expectedDowntime, 600, 300⟩ []) := by
  apply submit_replans_iff (example_plan _ [])
    (example_submit _ .licensedLive [] [] (by decide) (by decide))
  intro target declared observed fresh submitted
  cases submitted.loaded
  cases submitted.transition
  cases (example_observed .licensedLive [] _ rfl).symm.trans submitted.observation
  exact Except.ok.inj submitted.rebuilt.symm

/-- The evidence of the target drops to `static` after planning; the submission is
accepted though planning now refuses, whatever the hash. -/
theorem submit_accepts_unlicensed :
    ¬ ∃ service : ProfileUpgradeService, 0 < service.planTtl ∧ 0 ≤ service.confirmationAge ∧
      ∀ past surroundings planId requested operationId stored identity confirmation consumed result,
        service.plan past planId requested = .ok stored →
        service.submit surroundings (some (.plan stored)) operationId identity confirmation
          consumed = .ok result →
        service.Replans surroundings planId stored := by
  intro sound
  rcases sound with ⟨service, lasting, fresh, refines⟩
  have replans := refines _ _ _ _ _ _ _ _ _ _ (example_plan service [])
    (example_submit service .static [] [] lasting fresh)
  rcases replans with ⟨replanned, planned, _⟩
  rcases planBody_ok.mp (plan_ok planned).1 with ⟨target, declared, observed, again⟩
  have loaded := again.loaded
  cases loaded
  have licensed := again.validated.2
  cases licensed

end ProfileUpgradeService

end FortifyLab.Upgrade
