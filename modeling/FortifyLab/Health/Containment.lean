import FortifyLab.Health.Roots

/-! What one check can change: its own entry, and the items that depend on its subject. -/

namespace FortifyLab.Health

open Registry

/-! ## What a subject depends on -/

/-- The subject with the id lists the dependency. -/
def SubjectLists (subjects : List Subject) (id dependency : String) : Prop :=
  ∃ subject ∈ subjects, subject.id = id ∧ dependency ∈ subject.dependencies

/-- The id is the other one, or depends on it through any number of subjects. -/
abbrev Reaches (subjects : List Subject) : String → String → Prop :=
  Relation.ReflTransGen (SubjectLists subjects)

/-- A subject reaches nothing that comes after it. -/
theorem reaches_front {front back : List Subject} (arranged : Arranged (front ++ back))
    {id other : String} (member : id ∈ front.map Subject.id)
    (path : Reaches (front ++ back) id other) : other ∈ front.map Subject.id := by
  induction path with
  | refl => exact member
  | tail _ edge ih =>
      rcases edge with ⟨subject, inside, named, listed⟩
      rcases List.mem_map.mp ih with ⟨known, early, same⟩
      have equal : subject = known :=
        List.inj_on_of_nodup_map arranged.distinct inside (List.mem_append_left _ early)
          (named.trans same.symm)
      subst equal
      rcases List.append_of_mem early with ⟨before, after, split⟩
      have parts : Arranged (before ++ subject :: (after ++ back)) := by
        simpa [split] using arranged
      have earlier := parts.evaluated listed
      simp only [split, List.map_append, List.map_cons]
      exact List.mem_append_left _ earlier

/-- What a subject depends on does not depend on it. -/
theorem not_reaches_self {front back : List Subject} {subject : Subject}
    (arranged : Arranged (front ++ subject :: back)) {id : String}
    (member : id ∈ front.map Subject.id) :
    ¬ Reaches (front ++ subject :: back) id subject.id := by
  intro path
  have inFront := reaches_front arranged member path
  have distinct := arranged.distinct
  rw [List.map_append, List.map_cons] at distinct
  exact (List.nodup_append.mp distinct).2.2 _ inFront _ List.mem_cons_self rfl

/-! ## Rounds that read the same -/

section Congruence

variable {engine : HealthEngine} {probe changed : CheckSpec → Observation} {now : Int}
  {subject : Subject} {results others : List Item}

theorem mapM_congr {α β : Type} {first second : α → Except HealthError β} {items : List α}
    (same : ∀ item ∈ items, first item = second item) : items.mapM first = items.mapM second := by
  induction items with
  | nil => rfl
  | cons item items ih =>
      rw [List.mapM_cons, List.mapM_cons, same item List.mem_cons_self,
        ih (fun other member => same other (List.mem_cons_of_mem _ member))]

theorem blockersOf_congr (sound : subject.Sound)
    (same : ∀ dependency ∈ subject.dependencies,
      findItem results dependency = findItem others dependency) {check : CheckSpec}
    (member : check ∈ subject.checks) : blockersOf results check = blockersOf others check := by
  apply List.filter_congr
  intro dependency gate
  simp only [dependencyBlocks, same dependency (sound.gated check member dependency gate)]

theorem blockedDependencies_congr (sound : subject.Sound)
    (same : ∀ dependency ∈ subject.dependencies,
      findItem results dependency = findItem others dependency) :
    blockedDependencies subject results = blockedDependencies subject others := by
  have flat : subject.checks.flatMap (blockersOf results) =
      subject.checks.flatMap (blockersOf others) := by
    simp only [List.flatMap_def]
    rw [List.map_congr_left (fun check member => blockersOf_congr sound same member)]
  simp only [blockedDependencies, flat]

theorem checkEvidence_results (sound : subject.Sound)
    (same : ∀ dependency ∈ subject.dependencies,
      findItem results dependency = findItem others dependency) :
    engine.checkEvidence probe subject results now =
      engine.checkEvidence probe subject others now := by
  have blockers : ∀ check ∈ subject.checks, blockersOf results check = blockersOf others check :=
    fun check member => blockersOf_congr sound same member
  unfold HealthEngine.checkEvidence
  congr 1
  · rw [List.filter_congr (fun check member => by rw [blockers check member])]
  · rw [List.filter_congr (fun check member => by rw [blockers check member])]
    apply List.map_congr_left
    intro check member
    rw [blockers check (List.mem_of_mem_filter member)]

theorem checkEvidence_probe
    (agree : ∀ check ∈ subject.checks, changed check = probe check) :
    engine.checkEvidence changed subject results now =
      engine.checkEvidence probe subject results now := by
  unfold HealthEngine.checkEvidence
  congr 1
  apply List.map_congr_left
  intro check member
  rw [agree check (List.mem_of_mem_filter member)]

/-- The round of a subject reads the items it depends on and the answers of its checks. -/
theorem item_congr (sound : subject.Sound)
    (same : ∀ dependency ∈ subject.dependencies,
      findItem results dependency = findItem others dependency)
    (agree : ∀ check ∈ subject.checks, changed check = probe check) :
    engine.item changed subject others now = engine.item probe subject results now := by
  have roots : (blockedDependencies subject results).mapM (rootOf results) =
      (blockedDependencies subject results).mapM (rootOf others) := by
    apply mapM_congr
    intro dependency blocked
    rcases mem_blockedDependencies.mp blocked with ⟨check, member, blocker⟩
    have listed := sound.gated check member dependency (List.mem_filter.mp blocker).1
    simp only [rootOf, same dependency listed]
  unfold HealthEngine.item evaluate
  rw [checkEvidence_probe agree, ← checkEvidence_results sound same,
    ← blockedDependencies_congr sound same, roots]

/-- Two entries in the same place are the same, or are what became of the check itself. -/
def SameUpTo (check : CheckSpec) (entry other : Entry) : Prop :=
  entry = other ∨
    entry.id = check.id ∧ other.id = check.id ∧ entry.derived = false ∧ other.derived = false

theorem checkEvidence_upTo {check : CheckSpec}
    (agree : ∀ other, other ≠ check → changed other = probe other) :
    List.Forall₂ (SameUpTo check) (engine.checkEvidence probe subject results now)
      (engine.checkEvidence changed subject results now) := by
  unfold HealthEngine.checkEvidence
  refine List.rel_append ?_ ?_
  · rw [List.forall₂_map_left_iff, List.forall₂_map_right_iff, List.forall₂_same]
    intro other _
    by_cases own : other = check
    · subst own
      exact .inr ⟨rfl, rfl, rfl, rfl⟩
    · exact .inl (by rw [agree other own])
  · exact List.forall₂_same.mpr (fun _ _ => .inl rfl)

end Congruence

/-! ## Two evaluations -/

section Runs

variable {engine : HealthEngine} {probe changed : CheckSpec → Observation} {now : Int}
  {check : CheckSpec}

/-- Two items of the same subject: equal unless the subject reaches that of the check, and the
subject's own item differs in the evidence of the check only. -/
structure Kept (subjects : List Subject) (check : CheckSpec) (item other : Item) : Prop where
  id : item.id = other.id
  apart : ¬ Reaches subjects item.id check.subjectId → item = other
  own : item.id = check.subjectId →
    List.Forall₂ (SameUpTo check) item.evidence other.evidence
  blockers : ∀ id, ¬ Reaches subjects id check.subjectId →
    (isBlockedBy id item = isBlockedBy id other)

theorem isBlockedBy_iff {subject : Subject} {results : List Item} {item : Item}
    (run : engine.item probe subject results now = .ok item) {id : String} :
    isBlockedBy id item = true ↔ ∃ gated ∈ subject.checks, id ∈ blockersOf results gated := by
  rcases item_ok run with ⟨external, attached, made⟩
  simp only [isBlockedBy, made.evidence, List.any_eq_true, List.contains_iff_mem]
  constructor
  · intro parts
    rcases parts with ⟨entry, member, blocker⟩
    rcases List.mem_append.mp member with own | route
    · rcases mem_checkEvidence.mp own with ⟨_, _, _, rfl⟩ | ⟨gated, inside, _, rfl⟩
      · cases blocker
      · exact ⟨gated, inside, blocker⟩
    · rw [(externalEvidence_external attached route).2.2.1] at blocker
      cases blocker
  · intro parts
    rcases parts with ⟨gated, inside, blocker⟩
    have skipped : unavailableEvidence engine.runtime gated (blockersOf results gated) now ∈
        engine.checkEvidence probe subject results now :=
      mem_checkEvidence.mpr (.inr ⟨gated, inside, List.ne_nil_of_mem blocker, rfl⟩)
    exact ⟨_, List.mem_append_left _ skipped, blocker⟩

theorem findItem_kept {subjects : List Subject} {results others : List Item}
    (kept : List.Forall₂ (Kept subjects check) results others) {id : String}
    (apart : ¬ Reaches subjects id check.subjectId) :
    findItem results id = findItem others id := by
  induction kept with
  | nil => rfl
  | @cons item other results others first _ ih =>
      unfold findItem at ih ⊢
      rw [List.find?_cons, List.find?_cons, ← first.id]
      by_cases named : item.id = id
      · subst named
        simp [first.apart apart]
      · have unnamed : (item.id == id) = false := by simpa using named
        simp only [unnamed, ih]

theorem rounds_kept {subjects front back : List Subject} {results others : List Item}
    (arranged : Arranged subjects) (parts : subjects = front ++ back)
    (agree : ∀ other, other ≠ check → changed other = probe other)
    (rounds : Rounds engine probe now front results)
    (changes : Rounds engine changed now front others) :
    List.Forall₂ (Kept subjects check) results others := by
  induction rounds generalizing back others with
  | nil =>
      cases others with
      | nil => exact .nil
      | cons other others =>
          have length := changes.length
          simp at length
  | @snoc front results subject item before run ih =>
      rcases changes.concat with ⟨earlier, changedItem, rfl, beforeChanged, runChanged⟩
      have split : subjects = front ++ subject :: back := by simpa using parts
      have kept := ih split beforeChanged
      refine List.rel_append kept (.cons ?_ .nil)
      have inside : subject ∈ subjects := by simp [split]
      have sound := arranged.sound subject inside
      rcases item_ok run with ⟨external, attached, made⟩
      rcases item_ok runChanged with ⟨external', attached', made'⟩
      rw [attached, Except.ok.injEq] at attached'
      subst attached'
      constructor
      · rw [made.id, made'.id]
      · intro apart
        rw [made.id] at apart
        have lists : ∀ dependency ∈ subject.dependencies,
            findItem results dependency = findItem earlier dependency := by
          intro dependency listed
          apply findItem_kept kept
          intro path
          exact apart (.head ⟨subject, inside, rfl, listed⟩ path)
        have answers : ∀ other ∈ subject.checks, changed other = probe other := by
          intro other member
          apply agree
          intro same
          subst same
          exact apart (sound.named other member ▸ .refl)
        rw [item_congr sound lists answers, run, Except.ok.injEq] at runChanged
        exact runChanged
      · intro own
        have lists : ∀ dependency ∈ subject.dependencies,
            findItem results dependency = findItem earlier dependency := by
          intro dependency listed
          apply findItem_kept kept
          rw [← own, made.id, split]
          have order : Arranged (front ++ subject :: back) := split ▸ arranged
          exact not_reaches_self order (order.evaluated listed)
        rw [made.evidence, made'.evidence, ← checkEvidence_results sound lists]
        exact List.rel_append (checkEvidence_upTo agree)
          (List.forall₂_same.mpr (fun _ _ => .inl rfl))
      · intro id apart
        have found := findItem_kept kept apart
        have gates : ∀ gated : CheckSpec,
            id ∈ blockersOf results gated ↔ id ∈ blockersOf earlier gated := by
          intro gated
          simp only [blockersOf, List.mem_filter, dependencyBlocks, found]
        apply Bool.eq_iff_iff.mpr
        rw [isBlockedBy_iff run, isBlockedBy_iff runChanged]
        simp only [gates]

theorem downstreamImpact_kept {subjects : List Subject} {results others : List Item}
    (kept : List.Forall₂ (Kept subjects check) results others) {id : String}
    (apart : ¬ Reaches subjects id check.subjectId) :
    downstreamImpact results id = downstreamImpact others id := by
  have consumers : (results.filter (isBlockedBy id)).map Item.id =
      (others.filter (isBlockedBy id)).map Item.id := by
    induction kept with
    | nil => rfl
    | @cons item other results others first _ ih =>
        rw [List.filter_cons, List.filter_cons, ← first.blockers id apart]
        split
        · rw [List.map_cons, List.map_cons, first.id, ih]
        · exact ih
  rw [downstreamImpact, downstreamImpact, consumers]

theorem shown_kept {subjects : List Subject} {results others : List Item}
    (kept : List.Forall₂ (Kept subjects check) results others) :
    List.Forall₂ (Kept subjects check) (results.map (withImpact results))
      (others.map (withImpact others)) := by
  rw [List.forall₂_map_left_iff, List.forall₂_map_right_iff]
  refine kept.imp ?_
  intro item other same
  refine ⟨same.id, ?_, same.own, same.blockers⟩
  intro apart
  have equal : item = other := same.apart apart
  subst equal
  have impact : downstreamImpact results item.id = downstreamImpact others item.id :=
    downstreamImpact_kept kept apart
  simp only [withImpact, impact]

/-- Changing the answer of one check leaves every item as it was whose subject does not reach the
subject of the check, and there every other entry. -/
theorem document_kept {order : SetOrder} {subjects : List Subject}
    {document other : HealthDocument} (valid : ValidHealth engine.registry)
    (listed : engine.subjects order = .ok subjects)
    (agree : ∀ other, other ≠ check → changed other = probe other)
    (run : engine.document order probe now = .ok document)
    (runChanged : engine.document order changed now = .ok other) :
    List.Forall₂ (Kept subjects check) document.items other.items := by
  rcases document_ok run with ⟨subjects₁, items, listed₁, rounds, shown, _⟩
  rcases document_ok runChanged with ⟨subjects₂, others, listed₂, changes, shown', _⟩
  rw [listed, Except.ok.injEq] at listed₁ listed₂
  subst listed₁ listed₂
  rw [shown, shown']
  apply shown_kept
  exact rounds_kept (arranged_of_subjects valid listed) (List.append_nil subjects).symm agree rounds
    changes

end Runs

end FortifyLab.Health
