import FortifyLab.Supervisor.Walks

/-! What a hold stops: no issue is claimed and no runner is launched while `paused` is stored
as true. -/

namespace FortifyLab.Supervisor

open Program Automaton

/-- A step that claims an issue or launches the runner. -/
def Starts (config : Config) : SiteRequest → Prop
  | .claim _ _ _ _ => True
  | .outside (.run command) => ∃ issue : Int, command = config.runnerCommand ++ [toString issue]
  | _ => False

/-- A claim that committed, or a runner that was launched. -/
def HasStarted (config : Config) : (request : SiteRequest) → SiteAnswer request → Prop
  | .claim _ _ _ _, claimed => claimed = true
  | request, _ => Starts config request

/-- The stored `paused` after a step. -/
def pausedBy (stored : Option String) : (request : SiteRequest) → SiteAnswer request → Option String
  | .change (.setSetting key value), _ => if key = "paused" then some value else stored
  | .change (.deleteSetting key), _ => if key = "paused" then none else stored
  | _, _ => stored

/-- The stored `paused` after the steps of a log. -/
def pausedAfter (start : Site) (log : SiteLog) : Option String :=
  log.foldl (fun stored entry => pausedBy stored entry.request entry.answer)
    (start.database.settings "paused")

/-- Nothing starts while `paused` is stored as true. -/
def HoldsRespected (config : Config) (start : Site)
    (log : SiteLog) : Prop :=
  ∀ before entry after, log = before ++ entry :: after →
    HasStarted config entry.request entry.answer → pausedAfter start before ≠ some "true"

/-- The command that stops a runner is not the one that starts it. -/
def StopsApart (config : Config) : Prop :=
  config.runnerStopCommand ≠ [] → config.runnerStopCommand ≠ config.runnerCommand

/-- The program may start something without reading `paused` again. -/
inductive MayStart (config : Config) : SiteProgram (Except Raised String) → Prop where
  | now {request : SiteRequest} {next : SiteAnswer request → SiteProgram (Except Raised String)}
      (starts : Starts config request) : MayStart config (.ask request next)
  | later {request : SiteRequest} {next : SiteAnswer request → SiteProgram (Except Raised String)}
      (answer : SiteAnswer request) (other : request ≠ .query (.setting "paused"))
      (may : MayStart config (next answer)) : MayStart config (.ask request next)

/-- A hold is stored only while no process may start anything without reading it. -/
def HoldsSettled (config : Config) (pool : SitePool) (action : SiteAction) : Prop :=
  ∀ index offer label next, action = .advance index offer →
    pool.threads[index]? = some ⟨label, .ask (.change (.setSetting "paused" "true")) next⟩ →
    ∀ thread ∈ pool.threads, ¬ MayStart config thread.program

/-! ## The pause flag is read before anything starts -/

/-- What starts something needs that `paused` was last read as not true. -/
def guard (config : Config) : Automaton SiteRequest SiteAnswer Bool where
  permits running step := Starts config step → running = true
  after running step answer := match step, answer with
    | .query (.setting key), stored =>
        if key = "paused" then decide (stored ≠ some "true") else running
    | _, _ => running

variable {library : Library} {config : Config} {process : Nat} {α β : Type}

/-- Only a claim and a command start anything. -/
theorem starts_request {request : SupervisorRequest} {step : SiteRequest}
    (starts : Starts config step) (steps : request.Steps library process step) :
    (∃ issue title milestone, request = .store (.claimIssue issue title milestone)) ∨
      ∃ command, request = .outside (.run command) ∧ step = .outside (.run command) := by
  cases request with
  | store call =>
      cases step with
      | claim issue title milestone created =>
          exact .inl ⟨issue, title, milestone, congrArg SupervisorRequest.store steps⟩
      | outside other => rcases steps with rfl | rfl | rfl <;> exact starts.elim
      | _ => exact starts.elim
  | outside asked =>
      rcases outside_steps steps with rfl | rfl | ⟨policy, _, rfl⟩ | rfl | ⟨policy, _, rfl⟩
      · cases asked with
        | run command => exact .inr ⟨command, rfl, rfl⟩
        | _ => exact starts.elim
      all_goals exact starts.elim

theorem guard_free : Unrestrictive (guard config) library config process := by
  intro request ordinary running step steps starts
  rcases starts_request starts steps with ⟨issue, title, milestone, rfl⟩ | ⟨command, rfl, _⟩
  · exact ordinary.elim
  · exact ordinary.elim

/-- What neither claims nor runs a command is permitted. -/
theorem guard_permits {request : SupervisorRequest}
    (claims : ∀ issue title milestone, request ≠ .store (.claimIssue issue title milestone))
    (runs : ∀ command, request ≠ .outside (.run command)) :
    Permits (guard config) library process request := by
  intro running step steps starts
  rcases starts_request starts steps with ⟨issue, title, milestone, same⟩ | ⟨command, same, _⟩
  · exact absurd same (claims issue title milestone)
  · exact absurd same (runs command)

theorem guard_moves (expected following initial : String) (payload : Value) :
    Permits (guard config) library process
      (.store (.advanceMilestone expected following initial payload)) :=
  guard_permits nofun nofun

/-- The requests that do not read the flag. -/
def Calm (request : SupervisorRequest) : Prop :=
  ∀ default, request ≠ .store (.get "paused" default)

theorem Calm.follows {body : SupervisorM α} (calm : OnlyAsks Calm body.run) :
    Follows (guard config).move (fun after _ => after = true) true
      (stepsOf library process body) := by
  apply follows_still
  refine onlyAsks_expandOnly (fun request other => ?_) calm
  apply (siteSteps_steps process request).mono
  intro step steps
  refine ⟨fun _ => rfl, fun answer => ?_⟩
  cases step with
  | query query =>
      cases query with
      | setting key =>
          have apart : key ≠ "paused" := by
            rintro rfl
            cases request with
            | store call =>
                rcases steps with ⟨default, rfl⟩
                exact other default rfl
            | outside asked => rcases outside_steps steps with
                same | same | ⟨_, _, same⟩ | same | ⟨_, _, same⟩ <;> cases same
          exact if_neg apart
      | _ => rfl
  | _ => rfl

/-- What does not read the flag, and then the rest with the flag as it was. -/
theorem Calm.thenFollows {first : SupervisorM α} {rest : α → SupervisorM β}
    (calm : OnlyAsks Calm first.run)
    (next : ∀ value, Follows (guard config).move (fun _ _ => True) true
      (stepsOf library process (rest value))) :
    Follows (guard config).move (fun _ _ => True) true (stepsOf library process (first >>= rest)) := by
  apply follows_expandBind (Calm.follows calm)
  · rintro after value rfl
    exact next value
  · intro after error _
    trivial

theorem Notifies.calm {kind : String} (request : SupervisorRequest)
    (notifies : Notifies kind request) : Calm request := by
  rintro default rfl
  exact notifies

theorem startRunner_calm (issue : Issue) : OnlyAsks Calm (startRunner config issue).run := by
  unfold startRunner
  split
  · refine only_attemptBind (only_world (by simp [Calm])) fun _ => ?_
    refine only_callBind (by simp [Calm]) fun _ => ?_
    exact only_call (by simp [Calm])
  · exact only_pure

theorem startIssue_calm (issue : Issue) (milestone : String) :
    OnlyAsks Calm (startIssue config issue milestone).run := by
  refine only_callBind (by simp [Calm]) fun claimed => ?_
  split
  · refine onlyAsks_bindExcept ((notifyOnce_notifies _).mono Notifies.calm) fun _ => ?_
    exact onlyAsks_bindExcept (startRunner_calm issue) fun _ => only_pure
  · exact only_pure

theorem activeMilestone_calm : OnlyAsks Calm (activeMilestone config).run := by
  refine only_callBind (by simp [Calm]) fun active => ?_
  split
  · exact only_pure
  · exact only_throw

theorem githubNextIssue_calm (milestone : String) (excluded : Option Int) :
    OnlyAsks Calm (githubNextIssue milestone excluded).run :=
  only_attemptBind (only_world (by simp [Calm])) fun _ => only_pure

theorem queueNextIssue_guarded (depth : Nat) (completedIssue : Option Int)
    (operatorApproved : Bool) :
    Roams (guard config) library process
      (queueNextIssue library config depth completedIssue operatorApproved) := by
  induction depth generalizing completedIssue operatorApproved with
  | zero => exact roams_throw
  | succ depth ih =>
      intro running
      have read : Follows (guard config).move
          (fun after result => ∀ value, result = .ok value → after = decide (value ≠ "true"))
          running (stepsOf library process (call (.get "paused" "false"))) := by
        intro stored
        refine ⟨_, ⟨fun starts => starts.elim, rfl⟩, ?_⟩
        rintro value known
        cases known
        cases stored with
        | none => rfl
        | some text => simp [guard]
      refine follows_expandBind read ?_ (fun _ _ _ => trivial)
      intro after paused known
      split
      · trivial
      · next going =>
        rw [known paused rfl, decide_eq_true going]
        refine Calm.thenFollows (only_worldBind (by simp [Calm]) fun _ => only_pure) ?_
        intro decision
        split
        · exact guard_free.thenRoams (startPolicy_ordinary _) (fun _ => roams_pure) true
        · refine Calm.thenFollows activeMilestone_calm fun milestone => ?_
          refine Calm.thenFollows (githubNextIssue_calm _ _) fun next => ?_
          split
          · apply milestoneComplete_roams guard_free
            apply offerMilestoneRollover_roams guard_free
            intro current following
            exact transitionMilestone_roams guard_free guard_moves (ih none false) _ _
          · exact (Calm.follows (startIssue_calm _ _)).mono (fun _ _ _ => trivial)

/-- Every body reads the flag before it starts anything. -/
theorem body_guarded (apart : StopsApart config) (task : Task) (start : Site) (running : Bool) :
    Follows (guard config).move (fun _ _ => True) running
      ((processes library config start).body task) := by
  have transition : ∀ payload actor, Roams (guard config) library task.process
      (transitionMilestone library config
        (queueNextIssue library config library.recursionLimit none false) payload actor) :=
    transitionMilestone_roams guard_free guard_moves (queueNextIssue_guarded _ _ _)
  have rollover : ∀ approvalId actor, Roams (guard config) library task.process
      (approveMilestoneRollover library config approvalId actor) :=
    approveMilestoneRollover_roams guard_free (fun _ _ => guard_permits nofun nofun) transition
  have approves : ∀ approvalId actor, Roams (guard config) library task.process
      (approve library config approvalId actor) := fun approvalId actor =>
    approve_roams guard_free (mergeApproved_roams guard_free (fun _ _ => guard_permits nofun nofun) · · actor)
      (queueNextIssue_guarded _ · _) approvalId
  have stops : ∀ issue : Int, config.runnerStopCommand ≠ [] → Permits (guard config) library
      task.process (.outside (.run (config.runnerStopCommand ++ [toString issue]))) := by
    rintro issue enabled running step rfl ⟨other, same⟩
    exact absurd (List.append_singleton_inj.mp same).1 (apart enabled)
  have callbacks : ∀ token actor, Roams (guard config) library task.process
      (executeCallback library config token actor) := fun token actor =>
    executeCallback_roams guard_free (fun _ _ => guard_permits nofun nofun)
      (fun row pr => performCallback_roams guard_free stops row actor pr
        (performApproval_roams guard_free (rollover · actor) (approves · actor) row pr)) token
  exact body_roams guard_free (queueNextIssue_guarded _)
    (offerMilestoneRollover_roams guard_free (fun _ _ => transition _ _)) approves task.duty
    (fun approvalId actor _ => rollover approvalId actor) (fun token actor _ => callbacks token actor)
    (fun _ _ _ => guard_permits nofun nofun) running

/-! ## Runs -/

theorem guarded_running {program : SiteProgram (Except Raised String)}
    (guarded : Follows (guard config).move (fun _ _ => True) false program) :
    Follows (guard config).move (fun _ _ => True) true program := by
  induction program with
  | done result => trivial
  | ask request next ih =>
      intro answer
      rcases guarded answer with ⟨after, ⟨permitted, rfl⟩, goes⟩
      refine ⟨_, ⟨fun _ => rfl, rfl⟩, ?_⟩
      cases request with
      | query query =>
          cases query with
          | setting key =>
              by_cases same : key = "paused"
              · simpa [guard, same] using goes
              · have still := ih answer (by simpa [guard, same] using goes)
                simpa [guard, same] using still
          | _ => exact ih answer goes
      | _ => exact ih answer goes

/-- Before the flag is read as not true nothing may start. -/
theorem not_mayStart {program : SiteProgram (Except Raised String)}
    (guarded : Follows (guard config).move (fun _ _ => True) false program) :
    ¬ MayStart config program := by
  intro may
  induction may with
  | @now request next starts =>
      have answers : Nonempty (SiteAnswer request) := by
        cases request with
        | claim => exact ⟨true⟩
        | outside asked =>
            cases asked with
            | run command => exact ⟨.ok ()⟩
            | _ => exact starts.elim
        | _ => exact starts.elim
      rcases answers with ⟨answer⟩
      rcases guarded answer with ⟨after, ⟨permitted, _⟩, _⟩
      exact absurd (permitted starts) nofun
  | @later request next answer other may ih =>
      rcases guarded answer with ⟨after, ⟨_, rfl⟩, goes⟩
      apply ih
      have still : (guard config).after false request answer = false := by
        cases request with
        | query query =>
            cases query with
            | setting key =>
                have apart : key ≠ "paused" := fun same => other (by rw [same])
                simp [guard, apart]
            | _ => rfl
        | _ => rfl
      rwa [still] at goes

/-- What a step leaves in `paused`. -/
theorem effect_paused (site : Site) (request : SiteRequest) (answer : SiteAnswer request) :
    (site.effect library request).database.settings "paused" =
      pausedBy (site.database.settings "paused") request answer := by
  rw [Site.effect_settings]
  cases request with
  | change change =>
      cases change with
      | setSetting key value => simp [Site.settingsAfter, pausedBy, Function.update_apply, eq_comm]
      | deleteSetting key => simp [Site.settingsAfter, pausedBy, Function.update_apply, eq_comm]
      | _ => rfl
  | claim issue title milestone created =>
      simp only [Site.settingsAfter, pausedBy]
      split <;> simp
  | advance expected following initial payload created =>
      simp only [Site.settingsAfter, pausedBy]
      split <;> simp
  | _ => rfl

variable {start : Site} {log : SiteLog} {pool : SitePool}

theorem reachable_paused
    {allowed : SitePool → SiteAction → Prop}
    (reached : (processes library config start).Reachable allowed log pool) :
    pool.shared.database.settings "paused" = pausedAfter start log :=
  Machine.reachable_view (fun site => site.database.settings "paused") pausedBy
    (fun shared _ _ request answer _ => effect_paused shared request answer) (fun _ => rfl) reached

/-- What is kept of every program: it is guarded, and under a hold it may start nothing. -/
def Held (config : Config) (site : Site) (program : SiteProgram (Except Raised String)) : Prop :=
  Follows (guard config).move (fun _ _ => True) true program ∧
    (site.database.settings "paused" = some "true" → ¬ MayStart config program)

/-- What a program may do after an answer, it may do before, unless it reads the flag. -/
theorem held_advance {site : Site} {index : Nat} {offer : (asked : Outside) → Reply asked}
    {request : SiteRequest} {next : SiteAnswer request → SiteProgram (Except Raised String)}
    {answer : SiteAnswer request} (held : Held config site (.ask request next))
    (replied : (processes library config start).reply site index offer request = some answer) :
    Follows (guard config).move (fun _ _ => True) true (next answer) ∧
      (site.database.settings "paused" = some "true" → ¬ MayStart config (next answer)) := by
  rcases held.1 answer with ⟨after, ⟨_, rfl⟩, goes⟩
  by_cases reads : request = .query (.setting "paused")
  · subst reads
    cases replied
    change Follows _ _ (decide (site.database.settings "paused" ≠ some "true"))
      (next (site.database.settings "paused")) at goes
    change Follows _ _ true (next (site.database.settings "paused")) ∧ _
    by_cases stored : site.database.settings "paused" = some "true"
    · rw [decide_eq_false (not_not_intro stored)] at goes
      exact ⟨guarded_running goes, fun _ => not_mayStart goes⟩
    · rw [decide_eq_true stored] at goes
      exact ⟨goes, fun same => absurd same stored⟩
  · have still : (guard config).after true request answer = true := by
      cases request with
      | query query =>
          cases query with
          | setting key =>
              have apart : key ≠ "paused" := fun same => reads (by rw [same])
              simp [guard, apart]
          | _ => rfl
      | _ => rfl
    rw [still] at goes
    exact ⟨goes, fun stored may => held.2 stored (.later answer reads may)⟩

theorem pausedBy_true {stored : Option String} {request : SiteRequest} {answer : SiteAnswer request}
    (after : pausedBy stored request answer = some "true") :
    stored = some "true" ∨ request = .change (.setSetting "paused" "true") := by
  cases request with
  | change change =>
      cases change with
      | setSetting key value =>
          by_cases same : key = "paused"
          · subst same
            exact .inr (by simpa [pausedBy] using after)
          · exact .inl (by simpa [pausedBy, same] using after)
      | deleteSetting key =>
          by_cases same : key = "paused"
          · simp [pausedBy, same] at after
          · exact .inl (by simpa [pausedBy, same] using after)
      | _ => exact .inl after
  | _ => exact .inl after

theorem reachable_held (apart : StopsApart config)
    (reached : (processes library config start).Reachable (HoldsSettled config) log pool) :
    ∀ thread ∈ pool.threads, Held config pool.shared thread.program := by
  have unstarted : ∀ (site : Site) (task : Task),
      Held config site ((processes library config start).body task) := fun site task => ⟨body_guarded apart task start true,
      fun _ => not_mayStart (body_guarded apart task start false)⟩
  refine Machine.reachable_programs (Held config) (fun _ => rfl) (fun site => unstarted site _)
    (fun site task _ => unstarted site task) (fun _ => ⟨trivial, fun _ => nofun⟩) ?_ reached
  intro pool index offer label request next answer settled held found replied
  have own := held _ (List.mem_of_getElem? found)
  have goes := held_advance own replied
  -- Where the step is a hold, its condition says that nobody may start anything.
  have nobody : pausedBy (pool.shared.database.settings "paused") request answer = some "true" →
      pool.shared.database.settings "paused" ≠ some "true" →
      ∀ thread ∈ pool.threads, ¬ MayStart config thread.program := by
    intro now before
    rcases pausedBy_true now with same | rfl
    · exact absurd same before
    · exact settled index offer label next rfl found
  constructor
  · refine ⟨goes.1, fun now => ?_⟩
    rw [show ((processes library config start).effect pool.shared index request) =
      pool.shared.effect library request from rfl, effect_paused _ _ answer] at now
    by_cases before : pool.shared.database.settings "paused" = some "true"
    · exact goes.2 before
    · intro may
      apply nobody now before _ (List.mem_of_getElem? found)
      refine .later answer ?_ may
      rintro rfl
      exact before now
  · intro thread member
    refine ⟨(held thread member).1, fun now => ?_⟩
    rw [show ((processes library config start).effect pool.shared index request) =
      pool.shared.effect library request from rfl, effect_paused _ _ answer] at now
    by_cases before : pool.shared.database.settings "paused" = some "true"
    · exact (held thread member).2 before
    · exact nobody now before thread member

/-- A queue that runs on by itself. -/
def runnerConfig : Config := { plainConfig with runnerCommand := ["start-runner"] }

def freshSite : Site := ⟨Database.empty, .none, fun _ => assistedPolicy⟩

/-- The action stores no hold. -/
def storesNoHold (pool : SitePool) : SiteAction → Bool
  | .advance index _ =>
      match pool.threads[index]? with
      | some ⟨_, .ask (.change (.setSetting key _)) _⟩ => key != "paused"
      | _ => true
  | _ => true

theorem holdsSettled_of_storesNoHold (pool : SitePool) (action : SiteAction)
    (none : storesNoHold pool action = true) : HoldsSettled config pool action := by
  rintro index offer label next rfl found
  simp [storesNoHold, found] at none

def startsSomething (log : SiteLog) : Bool :=
  log.any (fun entry =>
    match entry with
    | ⟨_, _, .claim _ _ _ _, claimed⟩ => claimed
    | _ => false)

theorem hasStarted_of_startsSomething (started : startsSomething log = true) :
    ∃ entry ∈ log, HasStarted config entry.request entry.answer := by
  rcases List.any_eq_true.mp started with ⟨entry, member, claims⟩
  refine ⟨entry, member, ?_⟩
  split at claims
  · exact claims
  · cases claims

/-- The log ends with a claim that committed under a hold. -/
def claimsHeld (start : Site) (log : SiteLog) : Bool :=
  match log.getLast? with
  | some ⟨_, _, .claim _ _ _ _, claimed⟩ =>
      claimed && decide (pausedAfter start log.dropLast = some "true")
  | _ => false

theorem not_holdsRespected (broken : claimsHeld start log = true) :
    ¬ HoldsRespected config start log := by
  intro respected
  unfold claimsHeld at broken
  split at broken
  · next index label issue title milestone created claimed last =>
    rw [Bool.and_eq_true, decide_eq_true_eq] at broken
    have split := (List.dropLast_append_getLast? _ last).symm
    exact respected _ _ [] split broken.1 broken.2
  · cases broken

/-- The queue is told that nothing is held; the hold is stored before the issue is claimed. -/
def heldScript : List SiteAction :=
  [.receive ⟨1, .queueNext none false⟩, .receive ⟨0, .hold "operator"⟩] ++
    List.replicate 3 (.advance 1 (outage 0 0)) ++ [.advance 2 (outage 0 0)] ++
    List.replicate 3 (.advance 1 (outage 0 0))

end FortifyLab.Supervisor
