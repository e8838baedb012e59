import FortifyLab.Availability.Polling

/-! How long the monitor waits between two probes of an endpoint. -/

namespace FortifyLab.Availability

variable {settings : Settings} {texts : HostTexts} {curated : List Endpoint}

theorem jitter_pos (endpointId : String) : 0 < jitter endpointId := by
  have part : (0 : ℚ) ≤ (((endpointId.toUTF8.data.toList.map UInt8.toNat).sum % 21 : Nat) : ℚ) :=
    Nat.cast_nonneg _
  rw [jitter]
  linarith

theorem jitter_le (endpointId : String) : jitter endpointId ≤ 11 / 10 := by
  have part : (((endpointId.toUTF8.data.toList.map UInt8.toNat).sum % 21 : Nat) : ℚ) ≤ 20 := by
    exact_mod_cast Nat.le_of_lt_succ (Nat.mod_lt _ (by norm_num))
  rw [jitter]
  linarith

theorem backoff_le {few many : Nat} (less : few ≤ many) {one other : ProbeEvidence}
    (first : isReachable one = false) (second : isReachable other = false) :
    backoff settings few one ≤ backoff settings many other := by
  have capped : min few 4 ≤ min many 4 := min_le_min_right 4 less
  have powers : (2 : ℚ) ^ min few 4 ≤ 2 ^ min many 4 := pow_le_pow_right₀ (by norm_num) capped
  simp only [backoff, first, second, Bool.false_eq_true, if_false]
  exact mul_le_mul_of_nonneg_left powers settings.interval_pos.le

/-- More failures in a row do not shorten the wait. -/
theorem waiting_le (endpointId : String) {few many : Nat} (less : few ≤ many)
    {one other : ProbeEvidence} (first : isReachable one = false)
    (second : isReachable other = false) :
    waiting settings endpointId few one ≤ waiting settings endpointId many other :=
  mul_le_mul_of_nonneg_right (min_le_min_left _ (backoff_le less first second))
    (jitter_pos endpointId).le

/-- The jitter does not lift the wait above the cap. -/
def WithinCap (settings : Settings) (endpointId : String) (failures : Nat)
    (evidence : ProbeEvidence) : Prop :=
  jitter endpointId ≤ 1 ∨
    backoff settings failures evidence * jitter endpointId ≤ settings.maxBackoff

theorem waiting_le_iff (endpointId : String) (failures : Nat) (evidence : ProbeEvidence) :
    waiting settings endpointId failures evidence ≤ settings.maxBackoff ↔
      WithinCap settings endpointId failures evidence := by
  have positive : 0 < settings.maxBackoff := settings.interval_pos.trans_le settings.interval_le
  have jitters := jitter_pos endpointId
  constructor
  · intro short
    by_contra beyond
    simp only [WithinCap, not_or, not_le] at beyond
    rw [waiting, min_mul_of_nonneg _ _ jitters.le] at short
    have lifted : settings.maxBackoff * 1 < settings.maxBackoff * jitter endpointId :=
      mul_lt_mul_of_pos_left beyond.1 positive
    rw [mul_one] at lifted
    exact absurd short (not_le.mpr (lt_min lifted beyond.2))
  · intro within
    rcases within with low | short
    · calc
        waiting settings endpointId failures evidence ≤ settings.maxBackoff * 1 :=
          mul_le_mul (min_le_left _ _) low jitters.le positive.le
        _ = settings.maxBackoff := mul_one _
    · exact (mul_le_mul_of_nonneg_right (min_le_right _ _) jitters.le).trans short

/-! ## Over a run -/

/-- The condition at one step: every result that is recorded waits within the cap. -/
def StaysWithin (settings : Settings) (before : World) : Event → Prop
  | .record caller outcomes => ∀ call, before.calls caller = .probing call →
      ∀ entry ∈ call.due.zip outcomes, WithinCap settings entry.1.endpointId
        (failuresAfter (before.monitor.failures entry.1.endpointId) (safeProbe entry.2.1))
        (safeProbe entry.2.1)
  | _ => True

/-- What a state says of the latest results of an endpoint. -/
structure Bounded (settings : Settings) (world : World) (id : String) : Prop where
  due : ∀ probe rest, world.probed id = probe :: rest →
    world.monitor.nextDue id ≤ probe.now + settings.maxBackoff
  recovered : ∀ probe rest, world.probed id = probe :: rest →
    isReachable probe.evidence = true → world.monitor.failures id = 0
  slower : ∀ probe earlier rest, world.probed id = probe :: earlier :: rest →
    isReachable probe.evidence = false → isReachable earlier.evidence = false →
    waiting settings id (streak (earlier :: rest)) earlier.evidence ≤
      world.monitor.nextDue id - probe.now
  history : world.monitor.history id =
    ((world.probed id).map entryOf).take settings.historyLimit

/-- The latest result of every endpoint waits within the cap. -/
def Capped (settings : Settings) (world : World) : Prop :=
  ∀ id probe rest, world.probed id = probe :: rest →
    waiting settings id (streak (probe :: rest)) probe.evidence ≤ settings.maxBackoff

theorem records_capped {world : World} (capped : Capped settings world) (now : ℚ)
    {entries : List (ObservedRoute × Option ProbeEvidence × String)}
    (distinct : (entries.map (fun entry => entry.1.endpointId)).Nodup)
    (within : ∀ entry ∈ entries, WithinCap settings entry.1.endpointId
      (failuresAfter (streak (world.probed entry.1.endpointId)) (safeProbe entry.2.1))
      (safeProbe entry.2.1)) :
    Capped settings (entries.foldl (recordOne settings now) world) := by
  induction entries generalizing world with
  | nil => exact capped
  | cons entry entries ih =>
      rw [List.map_cons, List.nodup_cons] at distinct
      refine ih ?_ distinct.2 ?_
      · intro id probe rest recorded
        by_cases here : id = entry.1.endpointId
        · subst here
          simp only [recordOne, Function.update_self, List.cons.injEq] at recorded
          obtain ⟨rfl, rfl⟩ := recorded
          exact (waiting_le_iff _ _ _).mpr (within entry List.mem_cons_self)
        · simp only [recordOne, Function.update_of_ne here] at recorded
          exact capped id probe rest recorded
      · intro other member
        have apart : other.1.endpointId ≠ entry.1.endpointId := by
          intro same
          exact distinct.1 (List.mem_map.mpr ⟨other, member, same⟩)
        simp only [recordOne, Function.update_of_ne apart]
        exact within other (List.mem_cons_of_mem _ member)

theorem zip_ids_nodup {routes : List ObservedRoute}
    (distinct : (routes.map ObservedRoute.endpointId).Nodup)
    (outcomes : List (Option ProbeEvidence × String)) :
    ((routes.zip outcomes).map (fun entry => entry.1.endpointId)).Nodup := by
  have sublist : ((routes.zip outcomes).map Prod.fst).Sublist routes := by
    clear distinct
    induction routes generalizing outcomes with
    | nil => simp
    | cons route routes ih =>
        cases outcomes with
        | nil => simp
        | cons outcome outcomes => simpa using ih outcomes
  have ids := (sublist.map ObservedRoute.endpointId).nodup distinct
  rwa [List.map_map] at ids

theorem step_capped {world next : World} {event : Event} (kept : Kept settings world)
    (marked : Marked world) (capped : Capped settings world)
    (within : StaysWithin settings world event)
    (stepped : step settings texts curated world event = some next) : Capped settings next := by
  cases moved_of_step stepped with
  | enter _ _ _ _ _ _ => exact capped
  | release _ _ _ _ => exact capped
  | answer _ _ _ => exact capped
  | record caller outcomes call probing bound =>
      have distinct := marked.distinct caller
      rw [World.polled, probing] at distinct
      refine records_capped capped call.now (zip_ids_nodup distinct outcomes) ?_
      intro entry member
      rw [← kept.failures]
      exact within call probing entry member

theorem bounded_of {world : World} (kept : Kept settings world) (capped : Capped settings world)
    (id : String) : Bounded settings world id := by
  constructor
  · intro probe rest recorded
    rw [kept.nextDue id probe rest recorded]
    have short := capped id probe rest recorded
    linarith
  · intro probe rest recorded reachable
    rw [kept.failures, recorded, streak, failuresAfter, if_pos reachable]
  · intro probe earlier rest recorded first second
    rw [kept.nextDue id probe _ recorded, add_sub_cancel_left]
    refine waiting_le id ?_ second first
    have more : streak (probe :: earlier :: rest) = streak (earlier :: rest) + 1 := by
      simp [streak, failuresAfter, first]
    omega
  · exact kept.history id

/-- In every run whose results wait within the cap: each endpoint has one poller, whose mark ends
with it; and its next probe, failures and history are those of the latest results. -/
theorem polling_bounded (events : List Event) (world : World)
    (ran : run settings texts curated World.initial events = some world)
    (within : ∀ earlier event later before, events = earlier ++ event :: later →
      run settings texts curated World.initial earlier = some before →
      StaysWithin settings before event) :
    Marked world ∧ ∀ id, Bounded settings world id := by
  have all : Kept settings world ∧ Marked world ∧ Capped settings world := by
    refine @run_invariant settings texts curated (fun world => Kept settings world ∧
      Marked world ∧ Capped settings world) events World.initial world ran
      ⟨initial_kept, initial_marked, fun _ _ _ none => by cases none⟩ ?_
    intro earlier event later before next split reached invariants stepped
    obtain ⟨kept, marked, capped⟩ := invariants
    exact ⟨step_kept kept stepped, step_marked marked stepped,
      step_capped kept marked capped (within earlier event later before split reached) stepped⟩
  exact ⟨all.2.1, bounded_of all.1 all.2.2⟩

/-! ## The manager's own endpoint -/

def plainTexts : HostTexts := ⟨some, id, Char.isAlphanum⟩

def defaultSettings : Settings := .of 30 300 12

def managerRoute : ObservedRoute := ⟨"manager", "lab.example.test", true⟩

/-- A whole call of the first caller, whose probe of the manager ends with `outcome`. -/
def managerCall (now : ℚ) (outcome : Option ProbeEvidence) : List Event :=
  [.enter 0 now (some [managerRoute]), .record 0 [(outcome, "checked")], .release 0, .answer 0]

def reachableEvidence : ProbeEvidence := ⟨.reachable, "resolved", "valid", "status-200", 7, "ok"⟩

theorem polling_bounded_reachable : ∃ world,
    run defaultSettings plainTexts (endpoints []) World.initial
      (managerCall 0 (some reachableEvidence)) = some world ∧
    Marked world ∧ ∀ id, Bounded defaultSettings world id := by
  have runs : (run defaultSettings plainTexts (endpoints []) World.initial
      (managerCall 0 (some reachableEvidence))).isSome = true := by decide +kernel
  obtain ⟨world, ran⟩ := Option.isSome_iff_exists.mp runs
  refine ⟨world, ran, polling_bounded _ world ran ?_⟩
  intro earlier event later before split _
  have known : event ∈ managerCall 0 (some reachableEvidence) := by simp [split]
  simp only [managerCall, List.mem_cons, List.not_mem_nil, or_false] at known
  rcases known with rfl | rfl | rfl | rfl
  · trivial
  · intro call _ entry member
    have outcome : entry.2 = (some reachableEvidence, "checked") :=
      List.mem_singleton.mp (List.of_mem_zip member).2
    have short : backoff defaultSettings 0 reachableEvidence = 30 := by decide +kernel
    have cap : defaultSettings.maxBackoff = 300 := by decide +kernel
    have most := jitter_le entry.1.endpointId
    right
    rw [outcome]
    show backoff defaultSettings 0 reachableEvidence * _ ≤ _
    rw [short, cap]
    linarith
  · trivial
  · trivial

def failingRun : List Event :=
  managerCall 0 none ++ managerCall 100 none ++ managerCall 300 none ++ managerCall 600 none

/-- After four failures in a row the cap of 300 seconds is lifted to 321. -/
theorem manager_waits_longer : ∃ world,
    run defaultSettings plainTexts (endpoints []) World.initial failingRun = some world ∧
      ¬ Bounded defaultSettings world "manager" := by
  have runs : (run defaultSettings plainTexts (endpoints []) World.initial failingRun).map
      (fun world => (world.monitor.nextDue "manager",
        (world.probed "manager").head?.map Probed.now)) = some (921, some 600) := by
    decide +kernel
  obtain ⟨world, ran, seen⟩ := Option.map_eq_some_iff.mp runs
  refine ⟨world, ran, fun bounded => ?_⟩
  rw [Prod.mk.injEq] at seen
  obtain ⟨due, latest⟩ := seen
  cases recorded : world.probed "manager" with
  | nil =>
      rw [recorded] at latest
      cases latest
  | cons probe rest =>
      have short := bounded.due probe rest recorded
      have cap : defaultSettings.maxBackoff = 300 := by decide +kernel
      rw [recorded] at latest
      have time : probe.now = 600 := Option.some.inj latest
      rw [due, time, cap] at short
      norm_num at short

end FortifyLab.Availability
