import FortifyLab.Supervisor.QueueProgress
import FortifyLab.Supervisor.Walks

/-! What a call has seen when it moves the milestone: a whole `verify_milestone_rollover`. -/

namespace FortifyLab.Supervisor

open Program Automaton

/-- What a call shows of the checks of a rollover. -/
inductive MilestoneMark where
  | active (title : String)
  | approval (row : ApprovalRow)
  | milestones (found : List Milestone)
  | issues (milestone : String) (found : List Issue)

/-- A title names one milestone, and that one is as required. -/
def Names (found : List Milestone) (title : String) (required : Milestone → Prop) : Prop :=
  ∃ milestone, found.filter (fun item => item.title = title) = [milestone] ∧ required milestone

/-- The readings of a verification: the active milestone four times, GitHub's milestones before
and after, and the eligible issues. -/
structure Verification where
  active : String
  second : String
  third : String
  before : List Milestone
  fourth : String
  issues : List Issue
  later : List Milestone

def Verification.marks (verification : Verification) : List MilestoneMark :=
  [.active verification.active, .active verification.second, .active verification.third,
    .milestones verification.before, .active verification.fourth,
    .issues verification.fourth verification.issues, .milestones verification.later]

/-- The readings that a verification passes. -/
structure Verification.Passes (config : Config) (verification : Verification)
    (following : String) : Prop where
  active : verification.active ∈ authorizedMilestones config
  second : verification.second ∈ authorizedMilestones config
  third : verification.third ∈ authorizedMilestones config
  fourth : verification.fourth ∈ authorizedMilestones config
  next : (authorizedMilestones config)[(authorizedMilestones config).idxOf verification.second + 1]?
    = some following
  closed : Names verification.before verification.third
    (fun milestone => milestone.state = "closed" ∧ milestone.openIssues = 0)
  finished : verification.issues.filter (isEligible none) = []
  opened : Names verification.later following (fun milestone => milestone.state = "open")

/-- The milestone is moved only right after a verification that passed. -/
def verifier (config : Config) : Observer SiteRequest SiteAnswer MilestoneMark where
  mark exchange := match exchange with
    | ⟨.query (.setting key), stored⟩ =>
        if key = "active_milestone" then some (.active (stored.getD config.milestone)) else none
    | ⟨.query (.approval _), some row⟩ => some (.approval row)
    | ⟨.outside .milestones, .ok found⟩ => some (.milestones found)
    | ⟨.outside (.issueList milestone), .ok found⟩ => some (.issues milestone found)
    | _ => none
  permits marks request := match request with
    | .advance expected following initial _ _ =>
        (∀ row, .approval row ∈ marks → Offers row.action row.payload) →
        initial = config.milestone ∧ ∃ earlier, ∃ verification : Verification,
          marks = earlier ++ verification.marks ∧ verification.active = expected ∧
            verification.Passes config following
    | _ => True

variable {library : Library} {config : Config} {process : Nat} {α β : Type}

theorem verifier_permits {request : SupervisorRequest}
    (other : ∀ expected following initial payload,
      request ≠ .store (.advanceMilestone expected following initial payload)) :
    Permits (verifier config).automaton library process request := by
  intro marks step steps
  cases step with
  | advance expected following initial payload created =>
      cases request with
      | store call => exact absurd (congrArg SupervisorRequest.store steps) (other _ _ _ _)
      | outside asked =>
          rcases outside_steps steps with same | same | ⟨_, _, same⟩ | same | ⟨_, _, same⟩ <;>
            cases same
  | _ => trivial

theorem verifier_free : Unrestrictive (verifier config).automaton library config process := by
  intro request ordinary
  apply verifier_permits
  rintro expected following initial payload rfl
  exact ordinary

/-! ## The readings one by one -/

variable {marks : List MilestoneMark}

theorem activeMilestone_reads :
    Follows (verifier config).move
      (fun after result => ∀ active, result = .ok active →
        active ∈ authorizedMilestones config ∧ after = marks ++ [.active active]) marks
      (stepsOf library process (activeMilestone config)) := by
  intro stored
  refine ⟨_, ⟨trivial, rfl⟩, ?_⟩
  change Follows _ _ (marks ++ [.active (stored.getD config.milestone)])
    (stepsOf library process
      (if (authorizedMilestones config).contains (stored.getD config.milestone) = true then
        pure (stored.getD config.milestone) else fail _))
  split
  · next authorized =>
    rintro active same
    cases same
    exact ⟨List.contains_iff_mem.mp authorized, rfl⟩
  · exact nofun

theorem nextMilestone_reads :
    Follows (verifier config).move
      (fun after result => ∀ next, result = .ok next → ∃ active ∈ authorizedMilestones config,
        next = (authorizedMilestones config)[(authorizedMilestones config).idxOf active + 1]? ∧
          after = marks ++ [.active active]) marks
      (stepsOf library process (nextMilestone config)) := by
  refine follows_expandBind activeMilestone_reads ?_ (fun _ _ _ => nofun)
  rintro after active read next same
  cases same
  exact ⟨active, (read active rfl).1, rfl, (read active rfl).2⟩

theorem githubMilestone_reads (title : String) :
    Follows (verifier config).move
      (fun after result => ∀ milestone, result = .ok milestone → ∃ found : List Milestone,
        found.filter (fun item => item.title = title) = [milestone] ∧
          after = marks ++ [.milestones found]) marks
      (stepsOf library process (githubMilestone title)) := by
  rintro (raised | found)
  · refine ⟨_, ⟨trivial, rfl⟩, fun milestone same => ?_⟩
    cases same
  · refine ⟨_, ⟨trivial, rfl⟩, ?_⟩
    dsimp only [Program.bind, Function.comp, ExceptT.bindCont, pure, ExceptT.pure, ExceptT.mk]
    split
    · next milestone named =>
      rintro other same
      cases same
      exact ⟨found, named, rfl⟩
    · intro milestone same
      cases same

theorem githubNextIssue_reads (milestone : String) :
    Follows (verifier config).move
      (fun after result => ∀ issue, result = .ok issue → ∃ found : List Issue,
        issue = selectIssue (found.filter (isEligible none)) ∧
          after = marks ++ [.issues milestone found]) marks
      (stepsOf library process (githubNextIssue milestone none)) := by
  rintro (raised | found)
  · exact ⟨_, ⟨trivial, rfl⟩, nofun⟩
  · refine ⟨_, ⟨trivial, rfl⟩, ?_⟩
    rintro issue same
    cases same
    exact ⟨found, rfl, rfl⟩

theorem get_of_differs {payload : Value} {key text : String}
    (same : ¬ differs payload key (some text) = true) : payload.get key = some (.str text) := by
  cases found : payload.get key with
  | none => simp [differs, found, Value.isText] at same
  | some value =>
      simp only [differs, found, Option.getD_some, Bool.not_eq_true, Bool.not_eq_false',
        Value.isText_iff] at same
      rw [same]

theorem differs_none {payload : Value} {key text : String}
    (found : payload.get key = some (.str text)) : differs payload key none = true := by
  simp [differs, found, Value.same, Value.number]

theorem next_of_differs {payload : Value} {key text : String} {next : Option String}
    (found : payload.get key = some (.str text)) (same : ¬ differs payload key next = true) :
    next = some text := by
  cases next with
  | none => exact absurd (differs_none found) same
  | some other =>
      have known := get_of_differs same
      rw [found] at known
      cases known
      rfl

/-- A verification that passes has read what it requires. -/
theorem verifyMilestoneRollover_reads (payload : Value) :
    Follows (verifier config).move
      (fun after result => result = .ok () → ∃ verification : Verification,
        after = marks ++ verification.marks ∧
          payload.get "from" = some (.str verification.active) ∧
          ∀ following, payload.get "to" = some (.str following) →
            verification.Passes config following) marks
      (stepsOf library process (verifyMilestoneRollover library config payload)) := by
  unfold verifyMilestoneRollover
  split
  · exact nofun
  · refine follows_expandBind activeMilestone_reads ?_ (fun _ _ _ => nofun)
    rintro _ active read
    rcases read active rfl with ⟨first, rfl⟩
    split
    · exact nofun
    · next source =>
      refine follows_expandBind nextMilestone_reads ?_ (fun _ _ _ => nofun)
      rintro _ next read
      rcases read next rfl with ⟨second, known, rfl, rfl⟩
      split
      · exact nofun
      · next target =>
        refine follows_expandBind activeMilestone_reads ?_ (fun _ _ _ => nofun)
        rintro _ third read
        rcases read third rfl with ⟨thirdKnown, rfl⟩
        refine follows_expandBind (githubMilestone_reads third) ?_ (fun _ _ _ => nofun)
        rintro _ milestone read
        rcases read milestone rfl with ⟨before, named, rfl⟩
        split
        · exact nofun
        · next closed =>
          split
          · exact nofun
          · next empty =>
            refine follows_expandBind activeMilestone_reads ?_ (fun _ _ _ => nofun)
            rintro _ fourth read
            rcases read fourth rfl with ⟨fourthKnown, rfl⟩
            refine follows_expandBind (githubNextIssue_reads fourth) ?_ (fun _ _ _ => nofun)
            rintro _ eligible read
            rcases read eligible rfl with ⟨issues, rfl, rfl⟩
            split
            · exact nofun
            · next finished =>
              refine follows_field (fun value goal => ?_) nofun
              refine follows_expandBind (githubMilestone_reads (library.str value)) ?_
                (fun _ _ _ => nofun)
              rintro _ following read
              rcases read following rfl with ⟨later, opened, rfl⟩
              split
              · exact nofun
              · next open_ =>
                intro _
                refine ⟨⟨active, second, third, before, fourth, issues, later⟩,
                  by simp [Verification.marks], get_of_differs source, ?_⟩
                intro title goes
                cases goal.symm.trans goes
                refine ⟨first, known, thirdKnown, fourthKnown, next_of_differs goes target,
                  ⟨milestone, named, not_not.mp closed, not_not.mp empty⟩, ?_,
                  ⟨following, opened, not_not.mp open_⟩⟩
                rw [Option.isSome_iff_ne_none, not_not] at finished
                exact selectIssue_eq_none.mp finished

/-! ## The transition -/

/-- A request that shows nothing leaves the marks as they are. -/
theorem follows_unmarked {request : SiteRequest} {next : SiteAnswer request → SiteProgram α}
    {post : List MilestoneMark → α → Prop} (permitted : (verifier config).permits marks request)
    (unmarked : ∀ answer, (verifier config).mark ⟨request, answer⟩ = none)
    (goes : ∀ answer, Follows (verifier config).move post marks (next answer)) :
    Follows (verifier config).move post marks (.ask request next) := by
  intro answer
  refine ⟨marks, ⟨permitted, ?_⟩, goes answer⟩
  simp [Observer.automaton, unmarked]

theorem transitionMilestone_verified {payload : Value} {actor : String}
    {queueNext : SupervisorM (Option Issue)}
    (queue : Roams (verifier config).automaton library process queueNext)
    (offered : (∀ row, .approval row ∈ marks → Offers row.action row.payload) →
      ∃ title, payload.get "to" = some (.str title)) :
    Follows (verifier config).move (fun _ _ => True) marks
      (stepsOf library process (transitionMilestone library config queueNext payload actor)) := by
  refine follows_expandBind (verifyMilestoneRollover_reads payload) ?_ (fun _ _ _ => trivial)
  rintro _ _ read
  rcases read rfl with ⟨verification, rfl, source, passes⟩
  refine follows_unmarked trivial (fun _ => rfl) fun policy => ?_
  refine follows_field (fun from_ start => ?_) trivial
  rw [source] at start
  cases start
  refine follows_field (fun value goal => ?_) trivial
  refine follows_unmarked trivial (fun _ => rfl) fun time => ?_
  intro accepted
  refine ⟨_, ⟨fun read => ⟨rfl, marks, verification, rfl, rfl, ?_⟩, rfl⟩, ?_⟩
  · rcases offered (fun row member => read row (List.mem_append_left _ member)) with ⟨title, named⟩
    cases goal.symm.trans named
    exact passes title named
  · cases accepted with
    | false => trivial
    | true =>
        have roams : Roams (verifier config).automaton library process
            (call (.set "last_error" "") >>= fun _ => queueNext) :=
          anywhere_expandBind (roams_call (verifier_permits nofun)) fun _ => queue
        exact roams _

theorem queueNextIssue_verified (depth : Nat) (completedIssue : Option Int)
    (operatorApproved : Bool) :
    Roams (verifier config).automaton library process
      (queueNextIssue library config depth completedIssue operatorApproved) :=
  queueNextIssue_roams verifier_free
    (fun issue milestone => startIssue_roams verifier_free
      (fun _ _ _ => verifier_permits nofun) (fun _ => verifier_permits nofun) issue milestone)
    (fun _ queue _ following _ => transitionMilestone_verified queue fun _ => ⟨following, rfl⟩)
    depth completedIssue operatorApproved

theorem approveMilestoneRollover_verified (approvalId actor : String) :
    Roams (verifier config).automaton library process
      (approveMilestoneRollover library config approvalId actor) := by
  intro marks
  have read : Follows (verifier config).move
      (fun after result => ∀ row, result = .ok row → .approval row ∈ after) marks
      (stepsOf library process (call (.approval approvalId))) := by
    intro stored
    refine ⟨_, ⟨trivial, rfl⟩, ?_⟩
    cases stored with
    | none =>
        intro row same
        cases same
    | some row =>
        rintro other same
        cases same
        exact List.mem_append_right marks (List.mem_singleton_self _)
  refine follows_expandBind read ?_ (fun _ _ _ => trivial)
  intro start row known
  split
  · trivial
  · next action =>
    have rollover : row.action = .milestoneRollover := not_not.mp action
    refine follows_passing (verifier_free.roams (verifyMilestoneRollover_ordinary _)) ?_
      (fun _ _ _ => trivial)
    intro verified _ first
    refine follows_passing (roams_call (verifier_permits nofun)) ?_ (fun _ _ _ => trivial)
    intro decided _ second
    refine follows_expandBind (transitionMilestone_verified (queueNextIssue_verified _ _ _)
      (fun offers => offers row (second (first (known row rfl))) rollover)) ?_ (fun _ _ _ => trivial)
    intro after issue _
    refine follows_field (fun source _ => ?_) trivial
    refine follows_field (fun target _ => ?_) trivial
    refine anywhere_expandBind (roams_call (verifier_permits ?_)) (fun _ => ?_) after
    · exact nofun
    · split
      · exact roams_pure
      · exact roams_pure

/-- Whatever a process does, it moves the milestone only right after a verification. -/
theorem body_verified (start : Site) (task : Task) :
    Follows (verifier config).move (fun _ _ => True) []
      ((processes library config start).body task) := by
  have approves : ∀ approvalId actor, Roams (verifier config).automaton library task.process
      (approve library config approvalId actor) := fun approvalId actor =>
    approve_roams verifier_free (mergeApproved_roams verifier_free (fun _ _ => verifier_permits nofun) · · actor)
      (queueNextIssue_verified _ · _) approvalId
  have callbacks : ∀ token actor, Roams (verifier config).automaton library task.process
      (executeCallback library config token actor) := fun token actor =>
    executeCallback_roams verifier_free (fun _ _ => verifier_permits nofun)
      (fun row pr => performCallback_roams verifier_free (fun _ _ => verifier_permits nofun) row
        actor pr (performApproval_roams verifier_free
          (approveMilestoneRollover_verified · actor) (approves · actor) row pr)) token
  have offers : Roams (verifier config).automaton library task.process
      (offerMilestoneRollover library config
        (queueNextIssue library config library.recursionLimit none false)) :=
    offerMilestoneRollover_roams verifier_free fun _ following _ =>
      transitionMilestone_verified (queueNextIssue_verified _ _ _) fun _ => ⟨following, rfl⟩
  exact body_roams verifier_free (queueNextIssue_verified _) offers approves task.duty
    (fun approvalId actor _ => approveMilestoneRollover_verified approvalId actor)
    (fun token actor _ => callbacks token actor) (fun _ _ _ => verifier_permits nofun) []

end FortifyLab.Supervisor
