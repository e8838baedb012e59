import FortifyLab.Availability.Waiting

/-! Of which host the answer to a call speaks. -/

namespace FortifyLab.Availability

variable {settings : Settings} {texts : HostTexts} {curated : List Endpoint}

/-! ## The calls of a run -/

def Phase.call? : Phase → Option Call
  | .idle => none
  | .probing call => some call
  | .closing call _ => some call
  | .answering call => some call

/-- Every call keeps the routes that were approved in it. -/
def Approves (texts : HostTexts) (curated : List Endpoint) (world : World) : Prop :=
  ∀ caller call, (world.calls caller).call? = some call →
    ∃ observed, call.routes = approvedRoutes texts curated observed

theorem approves_update {world : World} (approves : Approves texts curated world)
    (caller : Nat) (phase : Phase) (monitor : Monitor) (probed : String → List Probed)
    (known : ∀ call, phase.call? = some call →
      ∃ observed, call.routes = approvedRoutes texts curated observed) :
    Approves texts curated ⟨monitor, Function.update world.calls caller phase, probed⟩ := by
  intro other call found
  by_cases here : other = caller
  · subst here
    simp only [Function.update_self] at found
    exact known call found
  · simp only [Function.update_of_ne here] at found
    exact approves other call found

theorem step_approves {world next : World} {event : Event}
    (approves : Approves texts curated world)
    (stepped : step settings texts curated world event = some next) :
    Approves texts curated next := by
  cases moved_of_step stepped with
  | enter caller now observed call idle made =>
      refine approves_update approves caller _ _ _ (fun other found => ?_)
      have same : call = other := by
        by_cases none : call.due = []
        · simpa [none, Phase.call?] using found
        · simpa [none, Phase.call?] using found
      exact ⟨observed, by rw [← same, made]⟩
  | record caller outcomes call probing bound =>
      refine approves_update approves caller _ _ _ (fun other found => ?_)
      exact approves caller other (by rw [probing]; exact found)
  | release caller call finished closing =>
      refine approves_update approves caller _ _ _ (fun other found => ?_)
      cases finished with
      | true => exact approves caller other (by rw [closing]; exact found)
      | false => cases found
  | answer caller call answering =>
      exact approves_update approves caller _ _ _ (fun other found => by cases found)

/-! ## What an item shows -/

/-- The item shows the probes `shown`, latest first, and nothing else. -/
structure Shows (item : Item) (shown : List Probed) : Prop where
  history : item.history = shown.map entryOf
  latest : ∀ probe rest, shown = probe :: rest →
    item.result = resultOf item.result.id probe.host probe.evidence probe.checked
  none : shown = [] → item.result.state = .unknown ∧ item.result.checkedAt = .none

/-- The answer to a call: where a route is approved for an item, its address is that of the route,
and what it shows are probes of that host; other items have no address and no evidence. -/
structure Truthful (curated : List Endpoint) (world : World) (call : Call) : Prop where
  approved : ∀ routes, call.routes = some routes → ∀ route ∈ routes,
    ∀ item ∈ items curated world.monitor call, item.result.id = route.endpointId →
    item.result.url = some (urlOf route.host) ∧
      ∃ shown, shown <+: world.probed route.endpointId ∧ Shows item shown ∧
        ∀ probe ∈ shown, probe.host = route.host
  others : ∀ item ∈ items curated world.monitor call,
    (∀ routes, call.routes = some routes → ∀ route ∈ routes,
      item.result.id ≠ route.endpointId) →
    item.result.url = .none ∧ item.result.checkedAt = .none

/-- The latest probes of each approved endpoint were of the host that the call approves. -/
def Unmoved (settings : Settings) (world : World) (call : Call) : Prop :=
  ∀ routes, call.routes = some routes → ∀ route ∈ routes,
    ∀ probe ∈ (world.probed route.endpointId).take settings.historyLimit, probe.host = route.host

theorem itemOf_id {world : World} (kept : Kept settings world) (call : Call)
    (endpoint : Endpoint) : (itemOf world.monitor call endpoint).result.id = endpoint.id := by
  simp only [itemOf]
  split
  · rfl
  · split
    · rfl
    · rw [kept.results]
      cases world.probed endpoint.id <;> rfl

theorem itemOf_route {world : World} (kept : Kept settings world) {call : Call}
    {routes : List ObservedRoute} (known : call.routes = some routes) {endpoint : Endpoint}
    {route : ObservedRoute}
    (found : routes.find? (fun route => route.endpointId = endpoint.id) = some route) :
    (itemOf world.monitor call endpoint).result = match world.probed endpoint.id with
      | [] => unknown endpoint (some route)
      | probe :: _ => resultOf endpoint.id probe.host probe.evidence probe.checked := by
  simp only [itemOf, known, found, kept.results]
  cases world.probed endpoint.id <;> rfl

theorem find_route {routes : List ObservedRoute}
    (distinct : (routes.map ObservedRoute.endpointId).Nodup) {route : ObservedRoute}
    (member : route ∈ routes) {id : String} (same : route.endpointId = id) :
    routes.find? (fun other => other.endpointId = id) = some route := by
  cases found : routes.find? (fun other => decide (other.endpointId = id)) with
  | none => simpa [same] using List.find?_eq_none.mp found route member
  | some other =>
      have equal : other.endpointId = id := by simpa using List.find?_some found
      rw [List.inj_on_of_nodup_map distinct (List.mem_of_find?_eq_some found) member
        (equal.trans same.symm)]

/-- Where the hosts have not changed, what an item shows are the kept probes. -/
theorem truthful_of_unmoved {world : World} (kept : Kept settings world) {call : Call}
    {observed : Option (List ObservedRoute)}
    (approves : call.routes = approvedRoutes texts curated observed)
    (unmoved : Unmoved settings world call) : Truthful curated world call := by
  constructor
  · intro routes known route member item listed same
    obtain ⟨endpoint, _, rfl⟩ := List.mem_map.mp listed
    rw [itemOf_id kept] at same
    have distinct := approvedRoutes_nodup (approves.symm.trans known)
    have found := find_route distinct member same.symm
    have hosts := unmoved routes known route member
    have result := itemOf_route kept known found
    have history : (itemOf world.monitor call endpoint).history =
        ((world.probed route.endpointId).take settings.historyLimit).map entryOf := by
      rw [List.map_take, ← same]
      exact kept.history endpoint.id
    rw [same] at result
    cases recorded : world.probed route.endpointId with
    | nil =>
        rw [recorded] at result history
        refine ⟨by rw [result]; rfl, [], List.nil_prefix, ⟨?_, ?_, ?_⟩, by simp⟩
        · rw [history, List.take_nil]
        · exact fun _ _ none => by cases none
        · intro _
          rw [result]
          exact ⟨rfl, rfl⟩
    | cons probe rest =>
        rw [recorded] at result history hosts
        obtain ⟨limit, positive⟩ := Nat.exists_eq_add_of_lt settings.historyLimit_pos
        rw [Nat.zero_add] at positive
        have first := hosts probe (by rw [positive]; exact List.mem_cons_self)
        refine ⟨by rw [result, ← first]; rfl, (probe :: rest).take settings.historyLimit,
          List.take_prefix _ _, ⟨history, ?_, ?_⟩, hosts⟩
        · intro latest later shown
          rw [positive, List.take_succ_cons, List.cons.injEq] at shown
          rw [itemOf_id kept, result, ← shown.1]
          simp only [same]
        · intro none
          rw [positive] at none
          cases none
  · intro item listed apart
    obtain ⟨endpoint, _, rfl⟩ := List.mem_map.mp listed
    rw [itemOf_id kept] at apart
    simp only [itemOf]
    split
    · exact ⟨rfl, rfl⟩
    · next routes known =>
        split
        · exact ⟨rfl, rfl⟩
        · next route found =>
            have same : route.endpointId = endpoint.id := by simpa using List.find?_some found
            exact absurd same.symm (apart routes known route (List.mem_of_find?_eq_some found))

/-- The history of an item shows as many probes as are kept. -/
theorem unmoved_of_truthful {world : World} (kept : Kept settings world) {call : Call}
    {observed : Option (List ObservedRoute)}
    (approves : call.routes = approvedRoutes texts curated observed)
    (truthful : Truthful curated world call) : Unmoved settings world call := by
  intro routes known route member probe recent
  obtain ⟨endpoint, listed, same⟩ := approvedRoutes_known (approves.symm.trans known) member
  have item := itemOf_id kept call endpoint
  obtain ⟨_, shown, leads, shows, hosts⟩ := truthful.approved routes known route member
    (itemOf world.monitor call endpoint) (List.mem_map_of_mem listed) (item.trans same)
  have count : shown.length =
      ((world.probed route.endpointId).take settings.historyLimit).length := by
    have history : (itemOf world.monitor call endpoint).history =
        ((world.probed route.endpointId).map entryOf).take settings.historyLimit := by
      rw [← same]
      exact kept.history endpoint.id
    rw [shows.history] at history
    have lengths := congrArg List.length history
    simpa using lengths
  have whole : shown = (world.probed route.endpointId).take settings.historyLimit := by
    rw [List.prefix_iff_eq_take.mp leads, count, List.length_take]
    rw [List.take_eq_take_iff]
    omega
  exact hosts probe (whole ▸ recent)

/-- In every run, at every answer: the items are true of the approved hosts exactly where the
latest probes of each approved endpoint were of the host that the call approves. -/
theorem truthful_iff (events : List Event) (world : World)
    (ran : run settings texts curated World.initial events = some world) (caller : Nat)
    (call : Call) (answering : world.calls caller = .answering call) :
    Truthful curated world call ↔ Unmoved settings world call := by
  have both : Kept settings world ∧ Approves texts curated world := by
    refine @run_invariant settings texts curated (fun world => Kept settings world ∧
      Approves texts curated world) events World.initial world ran
      ⟨initial_kept, fun _ _ none => by cases none⟩ ?_
    intro _ _ _ before next _ _ invariants stepped
    exact ⟨step_kept invariants.1 stepped, step_approves invariants.2 stepped⟩
  obtain ⟨observed, approves⟩ := both.2 caller call (by rw [answering]; rfl)
  exact ⟨unmoved_of_truthful both.1 approves, truthful_of_unmoved both.1 approves⟩

/-! ## A manager that moves -/

/-- The routes of the call that the first caller answers. -/
def answered (world : World) : Option (List ObservedRoute) :=
  match world.calls 0 with
  | .answering call => call.routes
  | _ => none

theorem answering_of_answered {world : World} {routes : List ObservedRoute}
    (known : answered world = some routes) :
    ∃ call, world.calls 0 = .answering call ∧ call.routes = some routes := by
  unfold answered at known
  split at known
  · next call phase => exact ⟨call, phase, known⟩
  · cases known

def firstAnswer : List Event := (managerCall 0 (some reachableEvidence)).take 3

theorem truthful_iff_first : ∃ world call,
    run defaultSettings plainTexts (endpoints []) World.initial firstAnswer = some world ∧
      world.calls 0 = .answering call ∧
      (Truthful (endpoints []) world call ↔ Unmoved defaultSettings world call) := by
  have runs : (run defaultSettings plainTexts (endpoints []) World.initial firstAnswer).map
      answered = some (some [managerRoute]) := by decide +kernel
  obtain ⟨world, ran, known⟩ := Option.map_eq_some_iff.mp runs
  obtain ⟨call, phase, _⟩ := answering_of_answered known
  exact ⟨world, call, ran, phase, truthful_iff firstAnswer world ran 0 call phase⟩

/-- The manager answers, and is found under another host a second later. -/
def movedRun : List Event :=
  managerCall 0 (some reachableEvidence) ++
    [.enter 0 1 (some [⟨"manager", "lab.other.test", true⟩])]

theorem moved_manager_stale : ∃ world call,
    run defaultSettings plainTexts (endpoints []) World.initial movedRun = some world ∧
      world.calls 0 = .answering call ∧ ¬ Truthful (endpoints []) world call := by
  have runs : (run defaultSettings plainTexts (endpoints []) World.initial movedRun).map
      (fun world => (answered world, (world.monitor.results "manager").map
        (fun result => (result.id, result.url)))) =
      some (some [⟨"manager", "lab.other.test", true⟩],
        some ("manager", some "https://lab.example.test/")) := by
    decide +kernel
  obtain ⟨world, ran, seen⟩ := Option.map_eq_some_iff.mp runs
  rw [Prod.mk.injEq] at seen
  obtain ⟨call, phase, routes⟩ := answering_of_answered seen.1
  obtain ⟨result, stored, fields⟩ := Option.map_eq_some_iff.mp seen.2
  rw [Prod.mk.injEq] at fields
  refine ⟨world, call, ran, phase, fun truthful => ?_⟩
  have shown : (itemOf world.monitor call ⟨"manager", "lab"⟩).result = result := by
    simp [itemOf, routes, stored]
  have address := (truthful.approved _ routes ⟨"manager", "lab.other.test", true⟩
    (List.mem_singleton_self _) (itemOf world.monitor call ⟨"manager", "lab"⟩)
    (List.mem_map_of_mem List.mem_cons_self) (by rw [shown, fields.1])).1
  rw [shown, fields.2] at address
  exact absurd address (by decide +kernel)

end FortifyLab.Availability
