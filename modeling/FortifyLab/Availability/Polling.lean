import FortifyLab.Availability.Monitor

/-! What every run of the callers keeps: the polling marks, and the fields of what was recorded. -/

namespace FortifyLab.Availability

/-! ## What was recorded -/

/-- The failures in a row of the latest results. -/
def streak : List Probed → Nat
  | [] => 0
  | probe :: rest => failuresAfter (streak rest) probe.evidence

def entryOf (probe : Probed) : HistoryEntry :=
  ⟨probe.evidence.state, probe.checked, probe.evidence.latencyMs⟩

/-- The fields of the monitor are those of the results recorded for each endpoint. -/
structure Kept (settings : Settings) (world : World) : Prop where
  results : ∀ id, world.monitor.results id = (world.probed id).head?.map (fun probe =>
    resultOf id probe.host probe.evidence probe.checked)
  history : ∀ id, world.monitor.history id =
    ((world.probed id).map entryOf).take settings.historyLimit
  failures : ∀ id, world.monitor.failures id = streak (world.probed id)
  nextDue : ∀ id probe rest, world.probed id = probe :: rest → world.monitor.nextDue id =
    probe.now + waiting settings id (streak (probe :: rest)) probe.evidence

variable {settings : Settings} {texts : HostTexts} {curated : List Endpoint}

theorem recordOne_kept {world : World} (kept : Kept settings world) (now : ℚ)
    (entry : ObservedRoute × Option ProbeEvidence × String) :
    Kept settings (recordOne settings now world entry) := by
  obtain ⟨route, outcome, checked⟩ := entry
  constructor
  · intro id
    by_cases here : id = route.endpointId
    · subst here
      simp [recordOne, record]
    · simp only [recordOne, record, Function.update_of_ne here]
      exact kept.results id
  · intro id
    by_cases here : id = route.endpointId
    · subst here
      obtain ⟨limit, positive⟩ := Nat.exists_eq_add_of_lt settings.historyLimit_pos
      rw [Nat.zero_add] at positive
      simp only [recordOne, record, Function.update_self, kept.history, List.map_cons, positive,
        List.take_succ_cons, List.take_take]
      rw [min_eq_left (Nat.le_succ limit)]
      rfl
    · simp only [recordOne, record, Function.update_of_ne here]
      exact kept.history id
  · intro id
    by_cases here : id = route.endpointId
    · subst here
      simp only [recordOne, record, Function.update_self, kept.failures, streak]
    · simp only [recordOne, record, Function.update_of_ne here]
      exact kept.failures id
  · intro id probe rest recorded
    by_cases here : id = route.endpointId
    · subst here
      simp only [recordOne, Function.update_self, List.cons.injEq] at recorded
      obtain ⟨rfl, rfl⟩ := recorded
      simp only [recordOne, record, Function.update_self, kept.failures, streak]
    · simp only [recordOne, Function.update_of_ne here] at recorded
      simp only [recordOne, record, Function.update_of_ne here]
      exact kept.nextDue id probe rest recorded

theorem records_kept {world : World} (kept : Kept settings world) (now : ℚ)
    (entries : List (ObservedRoute × Option ProbeEvidence × String)) :
    Kept settings (entries.foldl (recordOne settings now) world) := by
  induction entries generalizing world with
  | nil => exact kept
  | cons entry entries ih => exact ih (recordOne_kept kept now entry)

/-- Recording touches neither the marks nor the callers. -/
theorem records_frame (now : ℚ) (world : World)
    (entries : List (ObservedRoute × Option ProbeEvidence × String)) :
    (entries.foldl (recordOne settings now) world).monitor.polling = world.monitor.polling ∧
      (entries.foldl (recordOne settings now) world).calls = world.calls := by
  induction entries generalizing world with
  | nil => exact ⟨rfl, rfl⟩
  | cons entry entries ih => exact ih (recordOne settings now world entry)

/-! ## Polling marks -/

/-- The endpoints that a caller polls. -/
def World.polled (world : World) (caller : Nat) : List String :=
  (world.calls caller).held.map ObservedRoute.endpointId

/-- The marks are those of the running callers, and each has one caller. -/
structure Marked (world : World) : Prop where
  polling : ∀ id, id ∈ world.monitor.polling ↔ ∃ caller, id ∈ world.polled caller
  distinct : ∀ caller, (world.polled caller).Nodup
  alone : ∀ one other, one ≠ other → (world.polled one).Disjoint (world.polled other)

theorem polled_update (world : World) (caller : Nat) (phase : Phase) (monitor : Monitor)
    (probed : String → List Probed) (other : Nat) :
    World.polled ⟨monitor, Function.update world.calls caller phase, probed⟩ other =
      if other = caller then phase.held.map ObservedRoute.endpointId else world.polled other := by
  by_cases here : other = caller
  · subst here
    simp [World.polled]
  · simp [World.polled, here]

/-- A caller that moves on with the routes it holds. -/
theorem Marked.hold {world next : World} (marked : Marked world)
    (polling : next.monitor.polling = world.monitor.polling)
    (polled : ∀ other, next.polled other = world.polled other) : Marked next := by
  constructor
  · intro id
    rw [polling, marked.polling]
    simp only [polled]
  · intro other
    rw [polled]
    exact marked.distinct other
  · intro one other apart
    rw [polled, polled]
    exact marked.alone one other apart

/-! ## Steps -/

/-- What an event does to the world. -/
inductive Moved (settings : Settings) (texts : HostTexts) (curated : List Endpoint)
    (world : World) : Event → World → Prop
  | enter (caller : Nat) (now : ℚ) (observed : Option (List ObservedRoute)) (call : Call) :
      world.calls caller = .idle →
      call = ⟨now, approvedRoutes texts curated observed, dueRoutes world.monitor now
        ((approvedRoutes texts curated observed).getD [])⟩ →
      Moved settings texts curated world (.enter caller now observed)
        ⟨{ world.monitor with
            polling := world.monitor.polling ++ call.due.map ObservedRoute.endpointId },
          Function.update world.calls caller
            (if call.due = [] then .answering call else .probing call), world.probed⟩
  | record (caller : Nat) (outcomes : List (Option ProbeEvidence × String)) (call : Call) :
      world.calls caller = .probing call → outcomes.length ≤ call.due.length →
      Moved settings texts curated world (.record caller outcomes)
        { (call.due.zip outcomes).foldl (recordOne settings call.now) world with
          calls := Function.update world.calls caller
            (.closing call (decide (outcomes.length = call.due.length))) }
  | release (caller : Nat) (call : Call) (finished : Bool) :
      world.calls caller = .closing call finished →
      Moved settings texts curated world (.release caller)
        ⟨{ world.monitor with
            polling := world.monitor.polling.filter (fun id =>
              !(call.due.map ObservedRoute.endpointId).contains id) },
          Function.update world.calls caller (if finished then .answering call else .idle),
          world.probed⟩
  | answer (caller : Nat) (call : Call) :
      world.calls caller = .answering call →
      Moved settings texts curated world (.answer caller)
        { world with calls := Function.update world.calls caller .idle }

theorem moved_of_step {world next : World} {event : Event}
    (stepped : step settings texts curated world event = some next) :
    Moved settings texts curated world event next := by
  cases event with
  | enter caller now observed =>
      cases phase : world.calls caller with
      | idle =>
          simp only [step, phase, Option.some.injEq] at stepped
          subst stepped
          exact .enter caller now observed _ phase rfl
      | _ => simp [step, phase] at stepped
  | record caller outcomes =>
      cases phase : world.calls caller with
      | probing call =>
          simp only [step, phase] at stepped
          split at stepped
          · next bound =>
              rw [Option.some.injEq] at stepped
              subst stepped
              exact .record caller outcomes call phase bound
          · cases stepped
      | _ => simp [step, phase] at stepped
  | release caller =>
      cases phase : world.calls caller with
      | closing call finished =>
          simp only [step, phase, Option.some.injEq] at stepped
          subst stepped
          exact .release caller call finished phase
      | _ => simp [step, phase] at stepped
  | answer caller =>
      cases phase : world.calls caller with
      | answering call =>
          simp only [step, phase, Option.some.injEq] at stepped
          subst stepped
          exact .answer caller call phase
      | _ => simp [step, phase] at stepped

theorem held_entered (call : Call) :
    (if call.due = [] then Phase.answering call else Phase.probing call).held = call.due := by
  by_cases none : call.due = []
  · simp [none, Phase.held]
  · simp [none, Phase.held]

theorem held_released (call : Call) (finished : Bool) :
    (if finished then Phase.answering call else Phase.idle).held = [] := by
  cases finished <;> rfl

theorem polled_idle {world : World} {caller : Nat} {phase : Phase}
    (known : world.calls caller = phase) (empty : phase.held = []) : world.polled caller = [] := by
  simp [World.polled, known, empty]

/-- The routes that a call takes were not marked, and are of different endpoints. -/
theorem due_fresh {world : World} {now : ℚ} {observed : Option (List ObservedRoute)} {id : String}
    (member : id ∈ (dueRoutes world.monitor now
      ((approvedRoutes texts curated observed).getD [])).map ObservedRoute.endpointId) :
    id ∉ world.monitor.polling := by
  obtain ⟨route, known, rfl⟩ := List.mem_map.mp member
  have due := (List.mem_filter.mp known).2
  simp only [Bool.and_eq_true, Bool.not_eq_true', List.contains_eq_mem, decide_eq_false_iff_not]
    at due
  exact due.2

theorem due_nodup (world : World) (now : ℚ) (observed : Option (List ObservedRoute)) :
    ((dueRoutes world.monitor now ((approvedRoutes texts curated observed).getD [])).map
      ObservedRoute.endpointId).Nodup := by
  refine (List.filter_sublist.map ObservedRoute.endpointId).nodup ?_
  cases approved : approvedRoutes texts curated observed with
  | none => exact List.nodup_nil
  | some routes => exact approvedRoutes_nodup approved

theorem step_marked {world next : World} {event : Event} (marked : Marked world)
    (stepped : step settings texts curated world event = some next) : Marked next := by
  cases moved_of_step stepped with
  | enter caller now observed call idle made =>
      have fresh : ∀ id ∈ call.due.map ObservedRoute.endpointId, id ∉ world.monitor.polling := by
        intro id member
        rw [made] at member
        exact due_fresh member
      have before := polled_idle idle rfl
      have after : ∀ other, World.polled ⟨{ world.monitor with
          polling := world.monitor.polling ++ call.due.map ObservedRoute.endpointId },
          Function.update world.calls caller
            (if call.due = [] then .answering call else .probing call), world.probed⟩ other =
          if other = caller then call.due.map ObservedRoute.endpointId
            else world.polled other := by
        intro other
        rw [polled_update, held_entered]
      constructor
      · intro id
        simp only [List.mem_append, marked.polling, after]
        constructor
        · intro either
          rcases either with ⟨other, member⟩ | new
          · refine ⟨other, ?_⟩
            have apart : other ≠ caller := by
              rintro rfl
              rw [before] at member
              cases member
            rwa [if_neg apart]
          · exact ⟨caller, by rwa [if_pos rfl]⟩
        · rintro ⟨other, member⟩
          by_cases here : other = caller
          · rw [if_pos here] at member
            exact .inr member
          · rw [if_neg here] at member
            exact .inl ⟨other, member⟩
      · intro other
        rw [after]
        by_cases here : other = caller
        · rw [if_pos here, made]
          exact due_nodup world now observed
        · rw [if_neg here]
          exact marked.distinct other
      · intro one other apart
        rw [after, after]
        by_cases first : one = caller
        · have second : other ≠ caller := fun same => apart (first.trans same.symm)
          rw [if_pos first, if_neg second]
          intro id member inside
          exact fresh id member ((marked.polling id).mpr ⟨other, inside⟩)
        · rw [if_neg first]
          by_cases second : other = caller
          · rw [if_pos second]
            intro id inside member
            exact fresh id member ((marked.polling id).mpr ⟨one, inside⟩)
          · rw [if_neg second]
            exact marked.alone one other apart
  | record caller outcomes call probing bound =>
      refine marked.hold (records_frame call.now world _).1 (fun other => ?_)
      rw [polled_update]
      by_cases here : other = caller
      · rw [if_pos here, here, World.polled, probing, Phase.held, Phase.held]
      · rw [if_neg here]
  | release caller call finished closing =>
      have held : world.polled caller = call.due.map ObservedRoute.endpointId := by
        rw [World.polled, closing]
        rfl
      have after : ∀ other, World.polled ⟨{ world.monitor with
          polling := world.monitor.polling.filter (fun id =>
            !(call.due.map ObservedRoute.endpointId).contains id) },
          Function.update world.calls caller (if finished then .answering call else .idle),
          world.probed⟩ other = if other = caller then [] else world.polled other := by
        intro other
        rw [polled_update, held_released]
        simp
      constructor
      · intro id
        simp only [after]
        simp only [List.mem_filter, marked.polling, Bool.not_eq_true', List.contains_eq_mem,
          decide_eq_false_iff_not]
        constructor
        · rintro ⟨⟨other, member⟩, outside⟩
          have apart : other ≠ caller := by
            rintro rfl
            rw [held] at member
            exact outside member
          exact ⟨other, by rwa [if_neg apart]⟩
        · rintro ⟨other, member⟩
          by_cases here : other = caller
          · rw [if_pos here] at member
            cases member
          · rw [if_neg here] at member
            refine ⟨⟨other, member⟩, fun inside => ?_⟩
            rw [← held] at inside
            exact marked.alone other caller here member inside
      · intro other
        rw [after]
        split
        · exact List.nodup_nil
        · exact marked.distinct other
      · intro one other apart
        rw [after, after]
        by_cases first : one = caller
        · rw [if_pos first]
          exact List.disjoint_nil_left _
        · rw [if_neg first]
          split
          · exact List.disjoint_nil_right _
          · exact marked.alone one other apart
  | answer caller call answering =>
      refine marked.hold rfl (fun other => ?_)
      rw [polled_update]
      by_cases here : other = caller
      · rw [if_pos here, here, polled_idle answering rfl]
        rfl
      · rw [if_neg here]

theorem initial_kept : Kept settings World.initial :=
  ⟨fun _ => rfl, fun _ => List.take_nil.symm, fun _ => rfl, fun _ _ _ recorded => by
    cases recorded⟩

theorem initial_marked : Marked World.initial := by
  constructor
  · intro id
    simp [World.initial, Monitor.initial, World.polled, Phase.held]
  · exact fun _ => List.nodup_nil
  · exact fun _ _ _ => List.disjoint_nil_left _

theorem step_kept {world next : World} {event : Event} (kept : Kept settings world)
    (stepped : step settings texts curated world event = some next) : Kept settings next := by
  cases moved_of_step stepped with
  | enter caller now observed call _ _ =>
      exact ⟨kept.results, kept.history, kept.failures, kept.nextDue⟩
  | record caller outcomes call _ _ =>
      have recorded := records_kept kept call.now (call.due.zip outcomes)
      exact ⟨recorded.results, recorded.history, recorded.failures, recorded.nextDue⟩
  | release caller call finished _ =>
      exact ⟨kept.results, kept.history, kept.failures, kept.nextDue⟩
  | answer caller call _ => exact ⟨kept.results, kept.history, kept.failures, kept.nextDue⟩

/-- An invariant that holds at the start and is kept by every step of a run. -/
theorem run_invariant {keeps : World → Prop} {events : List Event} {world final : World}
    (ran : run settings texts curated world events = some final) (start : keeps world)
    (steps : ∀ earlier event later before next, events = earlier ++ event :: later →
      run settings texts curated world earlier = some before → keeps before →
      step settings texts curated before event = some next → keeps next) : keeps final := by
  induction events generalizing world with
  | nil =>
      cases ran
      exact start
  | cons event events ih =>
      rw [run, Option.bind_eq_some_iff] at ran
      obtain ⟨next, stepped, rest⟩ := ran
      refine ih rest (steps [] event events world next rfl rfl start stepped) ?_
      intro earlier other later before after split reached
      refine steps (event :: earlier) other later before after (by rw [split]; rfl) ?_
      simp only [run, stepped, Option.bind_some, reached]

end FortifyLab.Availability
