import FortifyLab.Health.Engine
import FortifyLab.Lifecycle.ValidRegistry

/-! The subjects of an evaluation: what each depends on is evaluated before it. -/

namespace FortifyLab.Health

open Registry DependencyGraph

/-- The components of every accepted platform profile. -/
def profileComponents : List ComponentId :=
  ["mysql", "postgresql", "ssc", "scancentral-sast", "lim", "scancentral-dast-core",
    "scancentral-dast-scanner"]

/-- What the evaluation relies on of an accepted registry. -/
structure ValidHealth (registry : HealthRegistry) : Prop where
  valid : Lifecycle.ValidRegistry registry.registry
  profiled : ∀ componentId ∈ registry.registry.componentIds, componentId ∈ profileComponents
  checkIds : ∀ componentId ∈ registry.registry.componentIds,
    ((registry.checks componentId).map DeclaredCheck.id).Nodup

/-! ## One subject -/

/-- What holds of every subject that an evaluation has. -/
structure Subject.Sound (subject : Subject) : Prop where
  gated : ∀ check ∈ subject.checks, ∀ dependency ∈ check.dependencies,
    dependency ∈ subject.dependencies
  required : ∀ check ∈ subject.checks, check.required = true
  named : ∀ check ∈ subject.checks, check.subjectId = subject.id
  workload : ∀ check ∈ subject.checks, check.layer = .workload →
    check.dependencies = ["microk8s-node"]
  distinct : (subject.checks.map CheckSpec.id).Nodup
  slashless : '/' ∉ subject.id.toList

theorem checkSpec_ok {componentId : ComponentId} {dependencies : List String}
    {declared : DeclaredCheck} {check : CheckSpec} :
    checkSpec componentId dependencies declared = .ok check ↔
      ∃ layer, componentLayers.lookup declared.type = some layer ∧ check =
        { id := declared.id
          subjectId := componentId
          layer := layer
          probeType := declared.type
          target := declared.target
          timeoutSeconds := min declared.timeoutSeconds 30
          required := declared.required
          dependencies := componentCheckDependencies layer dependencies } := by
  unfold checkSpec
  cases componentLayers.lookup declared.type with
  | none => simp
  | some layer => simp [eq_comm]

theorem checkSpecs_ids {componentId : ComponentId} {dependencies : List String}
    {declared : List DeclaredCheck} {checks : List CheckSpec}
    (made : List.Forall₂ (fun one check => checkSpec componentId dependencies one = .ok check)
      declared checks) :
    checks.map CheckSpec.id = declared.map DeclaredCheck.id := by
  induction made with
  | nil => rfl
  | cons one _ ih =>
      rcases checkSpec_ok.mp one with ⟨layer, known, rfl⟩
      simp [ih]

theorem made_mem {α β : Type} {make : α → Except HealthError β} {nodes : List α}
    {results : List β}
    (made : List.Forall₂ (fun node result => make node = .ok result) nodes results) {result : β}
    (member : result ∈ results) : ∃ node ∈ nodes, make node = .ok result := by
  induction made with
  | nil => cases member
  | cons one _ ih =>
      rcases List.mem_cons.mp member with rfl | later
      · exact ⟨_, List.mem_cons_self, one⟩
      · rcases ih later with ⟨other, inside, found⟩
        exact ⟨other, List.mem_cons_of_mem _ inside, found⟩

theorem made_of_mem {α β : Type} {make : α → Except HealthError β} {nodes : List α}
    {results : List β}
    (made : List.Forall₂ (fun node result => make node = .ok result) nodes results) {node : α}
    (member : node ∈ nodes) : ∃ result ∈ results, make node = .ok result := by
  induction made with
  | nil => cases member
  | cons one _ ih =>
      rcases List.mem_cons.mp member with rfl | later
      · exact ⟨_, List.mem_cons_self, one⟩
      · rcases ih later with ⟨other, inside, found⟩
        exact ⟨other, List.mem_cons_of_mem _ inside, found⟩

theorem mapM_isOk {α β : Type} {make : α → Except HealthError β} {nodes : List α} :
    (∃ results, nodes.mapM make = .ok results) ↔
      ∀ node ∈ nodes, ∃ result, make node = .ok result := by
  constructor
  · intro ended node member
    rcases ended with ⟨results, run⟩
    rcases made_of_mem (mapM_ok.mp run) member with ⟨result, _, made⟩
    exact ⟨result, made⟩
  · intro each
    induction nodes with
    | nil => exact ⟨[], rfl⟩
    | cons node nodes ih =>
        rcases each node List.mem_cons_self with ⟨result, made⟩
        rcases ih (fun other member => each other (List.mem_cons_of_mem _ member)) with
          ⟨results, run⟩
        exact ⟨result :: results, mapM_ok.mpr (.cons made (mapM_ok.mp run))⟩

theorem componentCheckDependencies_mem {layer : Layer} {dependencies : List String}
    {dependency : String}
    (member : dependency ∈ componentCheckDependencies layer dependencies) :
    dependency = "microk8s-node" ∨ dependency = "dns" ∨ dependency ∈ dependencies ∨
      dependency = "storage" ∧ layer = .storage := by
  cases layer <;> simp [componentCheckDependencies] at member ⊢ <;> tauto

section Component

variable {registry : HealthRegistry} {componentId : ComponentId} {subject : Subject}

theorem componentSubject_ok :
    componentSubject registry componentId = .ok subject ↔ ∃ checks,
      List.Forall₂ (fun one check =>
          checkSpec componentId (registry.registry.dependencies componentId) one = .ok check)
        ((registry.checks componentId).filter DeclaredCheck.required) checks ∧
      subject =
        { id := componentId
          displayName := registry.displayName componentId
          dependencies := (["microk8s-node", "dns"] ++ registry.registry.dependencies componentId ++
            (if checks.any (fun check => decide (check.layer = .storage)) then ["storage"]
              else [])).eraseDups
          checks := checks
          remediation := "/docs/health-checks.md#" ++ componentId } := by
  simp only [componentSubject, bind_ok, mapM_ok, pure_ok, @eq_comm Subject subject]

theorem componentSubject_id (made : componentSubject registry componentId = .ok subject) :
    subject.id = componentId := by
  rcases componentSubject_ok.mp made with ⟨checks, _, rfl⟩
  rfl

theorem componentSubject_dependencies
    (made : componentSubject registry componentId = .ok subject) {dependency : String}
    (member : dependency ∈ subject.dependencies) :
    dependency ∈ infrastructureIds ∨
      dependency ∈ registry.registry.dependencies componentId := by
  rcases componentSubject_ok.mp made with ⟨checks, _, rfl⟩
  simp only [List.mem_eraseDups, List.mem_append] at member
  rcases member with (shared | own) | storage
  · simp at shared
    rcases shared with rfl | rfl <;> simp [infrastructureIds]
  · exact .inr own
  · split at storage <;> simp_all [infrastructureIds]

theorem profile_slashless {componentId : ComponentId} (member : componentId ∈ profileComponents) :
    '/' ∉ componentId.toList := by
  revert componentId
  decide

theorem profile_disjoint {componentId : ComponentId} (member : componentId ∈ profileComponents) :
    componentId ∉ infrastructureIds := by
  revert componentId
  decide

theorem componentSubject_sound (valid : ValidHealth registry)
    (declared : componentId ∈ registry.registry.componentIds)
    (made : componentSubject registry componentId = .ok subject) : subject.Sound := by
  rcases componentSubject_ok.mp made with ⟨checks, specs, rfl⟩
  constructor
  · intro check member dependency gate
    rcases made_mem specs member with ⟨one, _, found⟩
    rcases checkSpec_ok.mp found with ⟨layer, _, rfl⟩
    simp only [List.mem_eraseDups, List.mem_append]
    rcases componentCheckDependencies_mem gate with rfl | rfl | own | ⟨rfl, rfl⟩
    · simp
    · simp
    · exact .inl (.inr own)
    · refine .inr ?_
      have stored : checks.any (fun check => decide (check.layer = .storage)) = true :=
        List.any_eq_true.mpr ⟨_, member, by simp⟩
      simp [stored]
  · intro check member
    rcases made_mem specs member with ⟨one, inside, found⟩
    rcases checkSpec_ok.mp found with ⟨layer, _, rfl⟩
    simpa using (List.mem_filter.mp inside).2
  · intro check member
    rcases made_mem specs member with ⟨one, _, found⟩
    rcases checkSpec_ok.mp found with ⟨layer, _, rfl⟩
    rfl
  · intro check member workload
    rcases made_mem specs member with ⟨one, _, found⟩
    rcases checkSpec_ok.mp found with ⟨layer, _, rfl⟩
    rcases workload with rfl
    rfl
  · simp only [checkSpecs_ids specs]
    exact ((List.filter_sublist).map _).nodup (valid.checkIds componentId declared)
  · exact profile_slashless (valid.profiled componentId declared)

end Component

theorem infrastructure_sound {subject : Subject} (member : subject ∈ infrastructureSubjects) :
    subject.Sound := by
  simp only [infrastructureSubjects, List.mem_cons, List.not_mem_nil, or_false] at member
  rcases member with rfl | rfl | rfl | rfl | rfl <;>
    exact ⟨by simp [infrastructureSubject], by simp [infrastructureSubject],
      by simp [infrastructureSubject], by simp [infrastructureSubject],
      by simp [infrastructureSubject], by decide⟩

/-! ## All subjects -/

/-- Every subject depends only on what is known and on the subjects before it. -/
def GroundedFrom (known : List String) : List Subject → Prop
  | [] => True
  | subject :: rest =>
      (∀ dependency ∈ subject.dependencies, dependency ∈ known) ∧
        GroundedFrom (known ++ [subject.id]) rest

theorem groundedFrom_append {known : List String} {front back : List Subject} :
    GroundedFrom known (front ++ back) ↔
      GroundedFrom known front ∧ GroundedFrom (known ++ front.map Subject.id) back := by
  induction front generalizing known with
  | nil => simp [GroundedFrom]
  | cons subject front ih => simp [GroundedFrom, ih, and_assoc]

/-- The subjects in the order in which they are evaluated. -/
structure Arranged (subjects : List Subject) : Prop where
  distinct : (subjects.map Subject.id).Nodup
  grounded : GroundedFrom [] subjects
  sound : ∀ subject ∈ subjects, subject.Sound

theorem Arranged.front {front back : List Subject} (arranged : Arranged (front ++ back)) :
    Arranged front where
  distinct := by
    have distinct := arranged.distinct
    rw [List.map_append] at distinct
    exact distinct.of_append_left
  grounded := (groundedFrom_append.mp arranged.grounded).1
  sound subject member := arranged.sound subject (List.mem_append_left _ member)

/-- What a subject depends on has been evaluated. -/
theorem Arranged.evaluated {front back : List Subject} {subject : Subject}
    (arranged : Arranged (front ++ subject :: back)) {dependency : String}
    (member : dependency ∈ subject.dependencies) : dependency ∈ front.map Subject.id := by
  have grounded := (groundedFrom_append.mp arranged.grounded).2
  simpa using grounded.1 dependency member

theorem groundedFrom_components {registry : HealthRegistry} {front back : List ComponentId}
    {components : List Subject}
    (ordered : Ordered registry.registry.dependencies (front ++ back))
    (made : List.Forall₂ (fun componentId subject =>
      componentSubject registry componentId = .ok subject) back components) :
    GroundedFrom (infrastructureIds ++ front) components := by
  induction made generalizing front with
  | nil => trivial
  | @cons componentId subject back components one _ ih =>
      refine ⟨?_, ?_⟩
      · intro dependency member
        rcases componentSubject_dependencies one member with shared | own
        · exact List.mem_append_left _ shared
        · exact List.mem_append_right _ (ordered front componentId back rfl dependency own)
      · have later := @ih (front ++ [componentId]) (by simpa using ordered)
        rw [componentSubject_id one]
        simpa using later

theorem components_map_id {registry : HealthRegistry} {ids : List ComponentId}
    {components : List Subject}
    (made : List.Forall₂ (fun componentId subject =>
      componentSubject registry componentId = .ok subject) ids components) :
    components.map Subject.id = ids := by
  induction made with
  | nil => rfl
  | cons one _ ih => simp [ih, componentSubject_id one]

theorem infrastructure_map_id : infrastructureSubjects.map Subject.id = infrastructureIds := rfl

variable {engine : HealthEngine} {order : SetOrder} {subjects : List Subject}

theorem subjects_ok :
    engine.subjects order = .ok subjects ↔ ∃ ordered components,
      engine.registry.registry.dependencyOrder order [] = .ok ordered ∧
      List.Forall₂ (fun componentId subject =>
        componentSubject engine.registry componentId = .ok subject) ordered components ∧
      subjects = infrastructureSubjects ++ components := by
  unfold HealthEngine.subjects
  cases engine.registry.registry.dependencyOrder order [] with
  | error error => simp
  | ok ordered =>
      simp only [bind_ok, mapM_ok, pure_ok, @eq_comm _ subjects, Except.ok.injEq]
      constructor
      · intro parts
        rcases parts with ⟨components, made, all⟩
        exact ⟨ordered, components, rfl, made, all⟩
      · intro parts
        rcases parts with ⟨_, components, rfl, made, all⟩
        exact ⟨components, made, all⟩

theorem ordered_declared (valid : ValidHealth engine.registry) {ordered : List ComponentId}
    (run : engine.registry.registry.dependencyOrder order [] = .ok ordered)
    {componentId : ComponentId} (member : componentId ∈ ordered) :
    componentId ∈ engine.registry.registry.componentIds := by
  have inside := (ComponentRegistry.dependencyOrder_mem run componentId).mp member
  refine valid.valid.closure_declared ?_ inside
  intro other known
  simpa [ComponentRegistry.selection] using known

theorem arranged_of_subjects (valid : ValidHealth engine.registry)
    (run : engine.subjects order = .ok subjects) : Arranged subjects := by
  rcases subjects_ok.mp run with ⟨ordered, components, sorted, made, rfl⟩
  constructor
  · rw [List.map_append, components_map_id made, infrastructure_map_id]
    refine List.Nodup.append (by decide) (ComponentRegistry.dependencyOrder_nodup sorted) ?_
    intro id shared component
    exact profile_disjoint (valid.profiled id (ordered_declared valid sorted component)) shared
  · have base := @groundedFrom_components engine.registry [] ordered components
      (ComponentRegistry.dependencyOrder_ordered sorted) made
    refine groundedFrom_append.mpr ⟨?_, ?_⟩
    · simp [infrastructureSubjects, infrastructureSubject, GroundedFrom]
    · simpa [infrastructure_map_id] using base
  · intro subject member
    rcases List.mem_append.mp member with shared | component
    · exact infrastructure_sound shared
    · rcases made_mem made component with ⟨componentId, inside, one⟩
      exact componentSubject_sound valid (ordered_declared valid sorted inside) one

theorem infrastructure_listed (run : engine.subjects order = .ok subjects) {subject : Subject}
    (member : subject ∈ infrastructureSubjects) : subject ∈ subjects := by
  rcases subjects_ok.mp run with ⟨_, _, _, _, rfl⟩
  exact List.mem_append_left _ member

theorem component_listed (run : engine.subjects order = .ok subjects) {componentId : ComponentId}
    (known : componentId ∈ engine.registry.registry.componentIds) :
    ∃ subject ∈ subjects, componentSubject engine.registry componentId = .ok subject := by
  rcases subjects_ok.mp run with ⟨ordered, components, sorted, made, rfl⟩
  have inOrder : componentId ∈ ordered := by
    refine (ComponentRegistry.dependencyOrder_mem sorted componentId).mpr (Closure.of_mem ?_)
    simpa [ComponentRegistry.selection] using known
  rcases made_of_mem made inOrder with ⟨subject, inside, one⟩
  exact ⟨subject, List.mem_append_right _ inside, one⟩

/-- No required check of the registry is left out. -/
theorem declared_listed (run : engine.subjects order = .ok subjects) {componentId : ComponentId}
    (known : componentId ∈ engine.registry.registry.componentIds) {declared : DeclaredCheck}
    (member : declared ∈ engine.registry.checks componentId) (required : declared.required = true) :
    ∃ subject ∈ subjects, subject.id = componentId ∧ ∃ check ∈ subject.checks,
      check.id = declared.id ∧ check.probeType = declared.type ∧
        check.target = declared.target := by
  rcases component_listed run known with ⟨subject, inside, one⟩
  refine ⟨subject, inside, componentSubject_id one, ?_⟩
  rcases componentSubject_ok.mp one with ⟨checks, specs, rfl⟩
  rcases made_of_mem specs (List.mem_filter.mpr ⟨member, required⟩) with ⟨check, found, spec⟩
  rcases checkSpec_ok.mp spec with ⟨layer, _, rfl⟩
  exact ⟨_, found, rfl, rfl, rfl⟩

end FortifyLab.Health
