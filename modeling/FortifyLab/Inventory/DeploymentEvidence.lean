import Mathlib.Data.List.Sort
import Mathlib.Data.Finset.Card

/-! `_deployment_evidence`: what a component's pins say of its workloads and Helm releases. -/

namespace FortifyLab.Inventory

/-- A record of the protected Helm snapshot. -/
structure Release where
  revision : Int
  status : String
  chartVersion : String
  appVersion : String
  deriving DecidableEq

inductive Presence where
  | present
  | absent
  | unknown
  deriving DecidableEq

structure Image where
  name : String
  version : String
  deriving DecidableEq

structure WorkloadMetadata where
  declaredReleaseName : Option String
  chartVersion : Option String
  appVersion : Option String
  deriving DecidableEq

structure Resource where
  id : String
  state : Presence
  workloadMetadata : Option WorkloadMetadata
  runningImages : List Image
  deriving DecidableEq

/-- `component["version"]`: the pins, with one version for each name of an image. -/
structure Pins where
  chart : String
  images : List Image
  distinct : (images.map Image.name).Nodup

inductive EvidenceStatus where
  | available
  | stale
  | unavailable
  deriving DecidableEq

inductive InstalledState where
  | unavailable
  | stale
  | absent
  | installed
  | multiple
  deriving DecidableEq

structure Installed where
  state : InstalledState
  reason : String
  revisions : List Release
  latest : Option Release
  deriving DecidableEq

/-- Neither superseded nor uninstalled. -/
def Release.active (release : Release) : Bool :=
  release.status != "superseded" && release.status != "uninstalled"

/-- `_installed_release`. -/
def installedRelease (records : List Release) (status : EvidenceStatus) : Installed :=
  match status with
  | .stale => ⟨.stale, "snapshot-stale", [], none⟩
  | .unavailable => ⟨.unavailable, "snapshot-unavailable", [], none⟩
  | .available =>
      let ordered := records.insertionSort (fun one two => one.revision ≤ two.revision)
      match ordered.getLast? with
      | none => ⟨.absent, "release-not-installed", ordered, none⟩
      | some last =>
          if last.status = "uninstalled" then
            ⟨.absent, "release-not-installed", ordered, some last⟩
          else if (ordered.filter Release.active).length = 1 ∧ last.status = "deployed" then
            ⟨.installed, "current-release-observed", ordered, some last⟩
          else ⟨.multiple, "multiple-or-nonterminal-revisions", ordered, some last⟩

/-- The dictionary of the versions that run under each image's name, as its set of pairs. -/
def observedImages (resources : List Resource) : Finset Image :=
  (resources.flatMap Resource.runningImages).toFinset

/-- `".".join(version.split(".")[:2])`. -/
def family (version : String) : List Char :=
  List.intercalate ['.'] ((version.toList.splitOn '.').take 2)

/-- The versions that are compared by their family; `isDigit` is `str.isdigit` of one character. -/
def numeric (isDigit : Char → Bool) (version : String) : Bool :=
  version.toList.head?.any isDigit && version.toList.contains '.'

def numericFamilies (isDigit : Char → Bool) (images : Finset Image) : Finset (List Char) :=
  (images.filter (fun image => numeric isDigit image.version)).image
    (fun image => family image.version)

def versionsOf (images : Finset Image) (name : String) : Finset String :=
  (images.filter (fun image => image.name = name)).image Image.version

inductive DeploymentState where
  | unavailable
  | absent
  | retained
  | mixed
  | matched
  | drift
  deriving DecidableEq

/-- The chain of branches of `_deployment_evidence`; the dictionaries are equal when their pairs
are. -/
def deploymentState (isDigit : Char → Bool) (pins : Pins) (productVersion : String)
    (resources : List Resource) (status : EvidenceStatus) (installed : Installed) :
    DeploymentState :=
  let images := observedImages resources
  if status ≠ .available ∨ installed.state = .unavailable ∨ installed.state = .stale then
    .unavailable
  else if installed.state = .absent ∧ resources ≠ [] ∧
      ∀ item ∈ resources, item.state = .absent then .absent
  else if installed.state = .absent then .retained
  else if installed.state = .multiple then .mixed
  else if ∃ item ∈ resources, item.state ≠ .present then .mixed
  else if 1 < (numericFamilies isDigit images).card ∨
      ∃ image ∈ images, 1 < (versionsOf images image.name).card then .mixed
  else if images.image Image.name ≠ (pins.images.map Image.name).toFinset then .unavailable
  else if installed.latest.map Release.chartVersion = some pins.chart ∧
      installed.latest.map Release.appVersion = some productVersion ∧
      images = pins.images.toFinset then .matched
  else .drift

structure DeploymentEvidence where
  state : DeploymentState
  installedRelease : Installed
  workloads : List Resource
  deriving DecidableEq

/-- `_deployment_evidence`. -/
def deploymentEvidence (isDigit : Char → Bool) (pins : Pins) (productVersion : String)
    (resources : List Resource) (status : EvidenceStatus) (releases : List Release)
    (helmStatus : EvidenceStatus) : DeploymentEvidence :=
  let installed := installedRelease releases helmStatus
  ⟨deploymentState isDigit pins productVersion resources status installed, installed, resources⟩

/-! ## The exact definition -/

/-- The one release that is neither superseded nor uninstalled has the highest revision, and is
deployed. -/
structure Current (releases : List Release) (release : Release) : Prop where
  member : release ∈ releases
  only : ∀ other ∈ releases, other.active = true ↔ other = release
  highest : ∀ other ∈ releases, other.revision ≤ release.revision
  deployed : release.status = "deployed"

/-- The current release is the desired one, and exactly the pinned images run. -/
structure Exact (pins : Pins) (productVersion : String) (resources : List Resource)
    (releases : List Release) : Prop where
  current : ∃ release, Current releases release ∧ release.chartVersion = pins.chart ∧
    release.appVersion = productVersion
  present : ∀ item ∈ resources, item.state = .present
  images : observedImages resources = pins.images.toFinset

/-! ## The installed release -/

theorem revision_injective {releases : List Release}
    (distinct : (releases.map Release.revision).Nodup) {one two : Release}
    (first : one ∈ releases) (second : two ∈ releases) (same : one.revision = two.revision) :
    one = two :=
  List.inj_on_of_nodup_map distinct first second same

/-- The last record in the order of the revisions is the one with the highest. -/
theorem getLast_ordered {releases : List Release}
    (distinct : (releases.map Release.revision).Nodup) {last : Release} :
    (releases.insertionSort (fun one two => one.revision ≤ two.revision)).getLast? = some last ↔
      last ∈ releases ∧ ∀ other ∈ releases, other.revision ≤ last.revision := by
  have : Std.Total (fun one two : Release => one.revision ≤ two.revision) :=
    ⟨fun one two => Int.le_total one.revision two.revision⟩
  have : IsTrans Release (fun one two => one.revision ≤ two.revision) :=
    ⟨fun _ _ _ before after => Int.le_trans before after⟩
  have sorted := List.pairwise_insertionSort
    (fun one two : Release => one.revision ≤ two.revision) releases
  have members : ∀ release, release ∈ releases.insertionSort
      (fun one two => one.revision ≤ two.revision) ↔ release ∈ releases :=
    fun release => List.mem_insertionSort _
  have highest : ∀ found, (releases.insertionSort
      (fun one two => one.revision ≤ two.revision)).getLast? = some found →
      found ∈ releases ∧ ∀ other ∈ releases, other.revision ≤ found.revision := by
    intro found there
    obtain ⟨front, split⟩ := List.getLast?_eq_some_iff.mp there
    rw [split] at sorted members
    refine ⟨(members found).mp (by simp), fun other member => ?_⟩
    rcases List.mem_append.mp ((members other).mpr member) with before | same
    · exact (List.pairwise_append.mp sorted).2.2 other before found (by simp)
    · rw [List.mem_singleton.mp same]
  constructor
  · exact highest last
  · intro parts
    cases there : (releases.insertionSort
        (fun one two => one.revision ≤ two.revision)).getLast? with
    | none =>
        have empty := (members last).mpr parts.1
        rw [List.getLast?_eq_none_iff.mp there] at empty
        cases empty
    | some found =>
        have bounds := highest found there
        have same : found.revision = last.revision :=
          Int.le_antisymm (parts.2 found bounds.1) (bounds.2 last parts.1)
        rw [revision_injective distinct bounds.1 parts.1 same]

/-- One active record is counted exactly when a given active record is the only one. -/
theorem one_active_iff {releases : List Release}
    (distinct : (releases.map Release.revision).Nodup) {last : Release} (member : last ∈ releases)
    (active : last.active = true) :
    ((releases.insertionSort (fun one two => one.revision ≤ two.revision)).filter
        Release.active).length = 1 ↔ ∀ other ∈ releases, other.active = true → other = last := by
  have counted := ((List.perm_insertionSort (fun one two : Release =>
    one.revision ≤ two.revision) releases).filter Release.active).length_eq
  have inside : last ∈ releases.filter Release.active := List.mem_filter.mpr ⟨member, active⟩
  have once : (releases.filter Release.active).Nodup := (List.Nodup.of_map _ distinct).filter _
  rw [counted]
  constructor
  · intro one other known alive
    obtain ⟨only, alone⟩ := List.length_eq_one_iff.mp one
    have also : other ∈ releases.filter Release.active := List.mem_filter.mpr ⟨known, alive⟩
    rw [alone, List.mem_singleton] at inside also
    rw [inside, also]
  · intro only
    have alone : ∀ other ∈ releases.filter Release.active, other = last := fun other known =>
      only other (List.mem_filter.mp known).1 (List.mem_filter.mp known).2
    have single : releases.filter Release.active = [last] := by
      rw [List.eq_replicate_of_mem alone]
      have repeated := List.eq_replicate_of_mem alone ▸ once
      have short : (releases.filter Release.active).length ≤ 1 := List.nodup_replicate.mp repeated
      have some : 0 < (releases.filter Release.active).length := List.length_pos_of_mem inside
      have one : (releases.filter Release.active).length = 1 := by omega
      rw [one]
      rfl
    rw [single]
    rfl

theorem deployed_active {release : Release} (deployed : release.status = "deployed") :
    release.active = true := by
  simp [Release.active, deployed]

theorem installed_iff {releases : List Release}
    (distinct : (releases.map Release.revision).Nodup) {last : Release} :
    ((installedRelease releases .available).state = .installed ∧
        (installedRelease releases .available).latest = some last) ↔ Current releases last := by
  have ends := @getLast_ordered releases distinct
  simp only [installedRelease]
  cases there : (releases.insertionSort (fun one two => one.revision ≤ two.revision)).getLast? with
  | none =>
      simp only [reduceCtorEq, false_and, false_iff]
      intro current
      have found := ends.mpr ⟨current.member, current.highest⟩
      rw [there] at found
      cases found
  | some found =>
      have bounds := ends.mp there
      have latest : ∀ current, Current releases current → current = found := by
        intro current known
        have again := ends.mpr ⟨known.member, known.highest⟩
        rw [there, Option.some.injEq] at again
        exact again.symm
      dsimp only
      by_cases gone : found.status = "uninstalled"
      · simp only [gone, if_true, reduceCtorEq, false_and, false_iff]
        intro current
        have deployed := current.deployed
        rw [latest last current, gone] at deployed
        exact absurd deployed (by decide)
      · by_cases alone : ((releases.insertionSort (fun one two =>
            one.revision ≤ two.revision)).filter Release.active).length = 1 ∧
            found.status = "deployed"
        · have active := deployed_active alone.2
          have only := (one_active_iff distinct bounds.1 active).mp alone.1
          rw [if_neg gone, if_pos alone]
          simp only [true_and, Option.some.injEq]
          constructor
          · intro same
            subst same
            refine ⟨bounds.1, fun other known => ⟨only other known, ?_⟩, bounds.2, alone.2⟩
            intro same
            rw [same]
            exact active
          · intro current
            exact (latest last current).symm
        · rw [if_neg gone, if_neg alone]
          simp only [reduceCtorEq, false_and, false_iff]
          intro current
          have same := latest last current
          subst same
          refine alone ⟨(one_active_iff distinct bounds.1 (deployed_active current.deployed)).mpr
            (fun other known => (current.only other known).mp), current.deployed⟩

/-! ## The images -/

theorem versionsOf_pins (pins : Pins) (name : String) :
    (versionsOf pins.images.toFinset name).card ≤ 1 := by
  refine Finset.card_le_one.mpr (fun one first two second => ?_)
  simp only [versionsOf, Finset.mem_image, Finset.mem_filter, List.mem_toFinset] at first second
  obtain ⟨left, ⟨inLeft, nameLeft⟩, rfl⟩ := first
  obtain ⟨right, ⟨inRight, nameRight⟩, rfl⟩ := second
  rw [List.inj_on_of_nodup_map pins.distinct inLeft inRight (nameLeft.trans nameRight.symm)]

theorem names_pins (pins : Pins) :
    pins.images.toFinset.image Image.name = (pins.images.map Image.name).toFinset := by
  ext name
  simp

/-- Pins that agree with what runs are held back only for their families. -/
theorem pinned_iff (isDigit : Char → Bool) (pins : Pins) (images : Finset Image) :
    (¬ (1 < (numericFamilies isDigit images).card ∨
        ∃ image ∈ images, 1 < (versionsOf images image.name).card) ∧
      images.image Image.name = (pins.images.map Image.name).toFinset ∧
      images = pins.images.toFinset) ↔
      images = pins.images.toFinset ∧ (numericFamilies isDigit pins.images.toFinset).card ≤ 1 := by
  constructor
  · intro parts
    obtain ⟨coherent, _, same⟩ := parts
    rw [not_or] at coherent
    exact ⟨same, same ▸ Nat.le_of_not_lt coherent.1⟩
  · intro parts
    obtain ⟨same, one⟩ := parts
    subst same
    refine ⟨not_or.mpr ⟨Nat.not_lt.mpr one, ?_⟩, names_pins pins, rfl⟩
    intro many
    obtain ⟨image, _, versions⟩ := many
    exact absurd versions (Nat.not_lt.mpr (versionsOf_pins pins image.name))

/-! ## The state -/

theorem installedRelease_state (releases : List Release) :
    (installedRelease releases .available).state = .absent ∨
      (installedRelease releases .available).state = .multiple ∨
        ∃ last, (installedRelease releases .available).state = .installed ∧
          (installedRelease releases .available).latest = some last := by
  simp only [installedRelease]
  split
  · exact .inl rfl
  · next last _ =>
      split
      · exact .inl rfl
      · split
        · exact .inr (.inr ⟨last, rfl, rfl⟩)
        · exact .inr (.inl rfl)

section

variable (isDigit : Char → Bool) (pins : Pins) (productVersion : String)
  (resources : List Resource)

theorem state_absent {installed : Installed} (absent : installed.state = .absent) :
    deploymentState isDigit pins productVersion resources .available installed ≠ .matched := by
  simp only [deploymentState, absent]
  split_ifs <;> simp

theorem state_multiple {installed : Installed} (multiple : installed.state = .multiple) :
    deploymentState isDigit pins productVersion resources .available installed ≠ .matched := by
  simp [deploymentState, multiple]

theorem state_installed {installed : Installed} {last : Release}
    (there : installed.state = .installed) (latest : installed.latest = some last) :
    deploymentState isDigit pins productVersion resources .available installed = .matched ↔
      (∀ item ∈ resources, item.state = .present) ∧
        ¬ (1 < (numericFamilies isDigit (observedImages resources)).card ∨
          ∃ image ∈ observedImages resources,
            1 < (versionsOf (observedImages resources) image.name).card) ∧
        (observedImages resources).image Image.name = (pins.images.map Image.name).toFinset ∧
        (last.chartVersion = pins.chart ∧ last.appVersion = productVersion ∧
          observedImages resources = pins.images.toFinset) := by
  simp only [deploymentState, there, latest, Option.map_some, Option.some.injEq, reduceCtorEq,
    ne_eq, not_true_eq_false, or_self, false_and, if_false]
  by_cases missing : ∃ item ∈ resources, ¬ item.state = .present
  · have some : ¬ ∀ item ∈ resources, item.state = .present := by simpa using missing
    simp only [missing, some, if_true, false_and, reduceCtorEq]
  · have all : ∀ item ∈ resources, item.state = .present := by simpa using missing
    rw [if_neg missing]
    simp only [eq_true all, true_and]
    split
    · next mixed => simp [mixed]
    · next coherent =>
        split
        · next named => simp [named]
        · next named =>
            split
            · next equal => simp_all
            · next equal => simp_all

end

/-! ## One component -/

/-- Two images that are pinned to different families. -/
def skewedPins : Pins where
  chart := "24.4.0-2"
  images := [⟨"controller", "24.4.0.0060"⟩, ⟨"sensor", "25.1.0"⟩]
  distinct := by decide

def skewedResources : List Resource :=
  [⟨"scancentral-sast/controller", .present, none, [⟨"controller", "24.4.0.0060"⟩]⟩,
    ⟨"scancentral-sast/sensor", .present, none, [⟨"sensor", "25.1.0"⟩]⟩]

def skewedReleases : List Release := [⟨1, "deployed", "24.4.0-2", "24.4"⟩]

end FortifyLab.Inventory
