import FortifyLab.Supervisor.Walks

/-! What `approve_milestone_rollover` reports: the rollover that its own call made. -/

namespace FortifyLab.Supervisor

open Program Automaton

/-- What a call shows of a rollover: the approval it read, and the transitions it tried. -/
inductive RolloverMark where
  | read (approvalId : String) (approval : ApprovalRow)
  | tried (expected following : String) (audit : Value) (accepted : Bool)

/-- The operator whose rollover the process may approve. -/
def Duty.approver : Duty → Option String
  | .approveRollover _ actor => some actor
  | .callback _ actor => some actor
  | _ => none

variable (library : Library)

/-- The rollover of an approval was tried for an actor. -/
structure Tried (actor : String) (marks : List RolloverMark) (approvalId : String)
    (source target : Value) (accepted : Bool) : Prop where
  approved : ∃ approval, .read approvalId approval ∈ marks ∧
    approval.payload.get "from" = some source ∧ approval.payload.get "to" = some target
  tried : ∃ audit, .tried (library.str source) (library.str target) audit accepted ∈ marks ∧
    audit.get "actor" = some (.str actor)

/-- A rollover is recorded as approved once its transition was tried. -/
def reporter (approver : Option String) : Observer SiteRequest SiteAnswer RolloverMark where
  mark exchange := match exchange with
    | ⟨.query (.approval approvalId), some approval⟩ => some (.read approvalId approval)
    | ⟨.advance expected following _ audit _, accepted⟩ =>
        some (.tried expected following audit accepted)
    | _ => none
  permits marks request := match request with
    | .change (.insertEvent row) => row.kind = "milestone.rollover_approved" →
        ∃ actor approvalId source target accepted, approver = some actor ∧
          Tried library actor marks approvalId source target accepted ∧
          row.fingerprint = s!"approval:{approvalId}:rollover" ∧
          row.payload = .obj [("actor", .str actor), ("from", source), ("to", target)]
    | _ => True

variable {library} {config : Config} {process : Nat} {approver : Option String}

theorem Tried.mono {actor approvalId : String} {marks more : List RolloverMark}
    {source target : Value} {accepted : Bool}
    (tried : Tried library actor marks approvalId source target accepted)
    (grown : marks ⊆ more) : Tried library actor more approvalId source target accepted := by
  rcases tried with ⟨⟨approval, read, fields⟩, audit, tried, named⟩
  exact ⟨⟨approval, grown read, fields⟩, audit, grown tried, named⟩

/-- Whatever does not record an approved rollover is permitted. -/
theorem reporter_permits {request : SupervisorRequest}
    (other : ∀ fingerprint payload,
      request ≠ .store (.event fingerprint "milestone.rollover_approved" payload)) :
    Permits (reporter library approver).automaton library process request := by
  intro marks step steps
  cases step with
  | change change =>
      cases change with
      | insertEvent row =>
          intro kind
          rcases insertEvent_request steps with ⟨payload, same⟩
          exact absurd (kind ▸ same) (other _ _)
      | _ => trivial
  | _ => trivial

theorem reporter_free :
    Unrestrictive (reporter library approver).automaton library config process := by
  intro request ordinary
  apply reporter_permits
  rintro fingerprint payload rfl
  exact absurd ordinary (by simp [Ordinary, isOrdinaryKind])

theorem queueNextIssue_reports (depth : Nat) (completedIssue : Option Int)
    (operatorApproved : Bool) :
    Roams (reporter library approver).automaton library process
      (queueNextIssue library config depth completedIssue operatorApproved) :=
  queueNextIssue_roams reporter_free
    (fun issue milestone => startIssue_roams reporter_free
      (fun _ _ _ => reporter_permits nofun) (fun _ => reporter_permits nofun) issue milestone)
    (fun _ queue _ _ => transitionMilestone_roams reporter_free
      (fun _ _ _ _ => reporter_permits nofun) queue _ _)
    depth completedIssue operatorApproved

/-! ## The call that approves a rollover -/

/-- The transition of a payload was tried for an actor. -/
def Transitioned (library : Library) (payload : Value) (actor : String)
    (marks : List RolloverMark) : Prop :=
  ∃ source target audit accepted, payload.get "from" = some source ∧
    payload.get "to" = some target ∧
    .tried (library.str source) (library.str target) audit accepted ∈ marks ∧
    audit.get "actor" = some (.str actor)

theorem Transitioned.mono {payload : Value} {actor : String} {marks more : List RolloverMark}
    (transitioned : Transitioned library payload actor marks) (grown : marks ⊆ more) :
    Transitioned library payload actor more := by
  rcases transitioned with ⟨source, target, audit, accepted, start, goal, tried, named⟩
  exact ⟨source, target, audit, accepted, start, goal, grown tried, named⟩

theorem transitionMilestone_tried (payload : Value) (actor : String)
    {queueNext : SupervisorM (Option Issue)}
    (queue : Roams (reporter library approver).automaton library process queueNext)
    (marks : List RolloverMark) :
    Follows (reporter library approver).move
      (fun after result => ∀ issue, result = .ok issue → Transitioned library payload actor after)
      marks (stepsOf library process (transitionMilestone library config queueNext payload actor)) := by
  refine follows_passing (reporter_free.roams (verifyMilestoneRollover_ordinary _)) ?_ nofun
  intro verified _ _
  have policy : OnlyAsks (Ordinary config) (policyDecision .advanceMilestone).run :=
    policyDecision_ordinary _
  refine follows_passing (reporter_free.roams policy) ?_ nofun
  intro decided decision _
  refine follows_field (fun source start => ?_) nofun
  refine follows_field (fun target goal => ?_) nofun
  intro time
  refine ⟨_, ⟨trivial, rfl⟩, ?_⟩
  intro accepted
  refine ⟨_, ⟨trivial, rfl⟩, ?_⟩
  have transitioned : ∀ after, (reporter library approver).automaton.after
      ((reporter library approver).automaton.after decided (.outside .now) time)
      (.advance (library.str source) (library.str target) config.milestone
        (.obj [("actor", .str actor), ("decision", .str decision.name), ("from", source),
          ("to", target), ("preconditions", preconditions)]) (seconds time)) accepted ⊆ after →
      Transitioned library payload actor after := by
    intro after grown
    exact ⟨source, target, _, accepted, start, goal,
      grown (List.mem_append_right _ (List.mem_singleton.mpr rfl)), rfl⟩
  cases accepted with
  | false => exact fun _ _ => transitioned _ (List.Subset.refl _)
  | true =>
      refine follows_passing (roams_call (reporter_permits nofun)) ?_ nofun
      intro after _ grown
      refine (Observer.follows_grows (queue after)).mono ?_
      intro last result more issue _
      exact transitioned last (List.Subset.trans grown more.1)

/-- The event of a rollover that was tried. -/
theorem event_reports {actor approvalId : String} {source target : Value} {accepted : Bool}
    {marks : List RolloverMark}
    (tried : Tried library actor marks approvalId source target accepted) :
    Follows (reporter library (some actor)).move (fun _ _ => True) marks
      (stepsOf library process (call (.event s!"approval:{approvalId}:rollover"
        "milestone.rollover_approved"
        (.obj [("actor", .str actor), ("from", source), ("to", target)])))) := by
  intro time
  refine ⟨_, ⟨trivial, rfl⟩, ?_⟩
  intro recorded
  refine ⟨_, ⟨fun _ => ?_, rfl⟩, ?_⟩
  · exact ⟨actor, approvalId, source, target, accepted, rfl,
      tried.mono (List.subset_append_left _ _), rfl, rfl⟩
  · rcases recorded with error | count
    · cases error <;> trivial
    · trivial

/-- Whoever is told that the milestone advanced, the call has tried that transition. -/
theorem approveMilestoneRollover_reports (approvalId actor : String) (marks : List RolloverMark) :
    Follows (reporter library (some actor)).move
      (fun after result => ∀ text, result = .ok text → ∃ source target accepted rest,
        Tried library actor after approvalId source target accepted ∧
          text = s!"Advanced to {library.str target}" ++ rest) marks
      (stepsOf library process (approveMilestoneRollover library config approvalId actor)) := by
  have read : Follows (reporter library (some actor)).move
      (fun after result => ∀ row, result = .ok row → .read approvalId row ∈ after) marks
      (stepsOf library process (call (.approval approvalId))) := by
    intro stored
    refine ⟨_, ⟨trivial, rfl⟩, ?_⟩
    cases stored with
    | none =>
        intro row same
        cases same
    | some row =>
        rintro other same
        cases same
        exact List.mem_append_right marks (List.mem_singleton_self _)
  refine follows_expandBind read ?_ nofun
  intro start row known
  have approved := known row rfl
  split
  · exact nofun
  · refine follows_passing (reporter_free.roams (verifyMilestoneRollover_ordinary _)) ?_ nofun
    intro verified _ first
    refine follows_passing (roams_call (reporter_permits nofun)) ?_ nofun
    intro decided _ second
    refine follows_expandBind (Observer.follows_grows (transitionMilestone_tried row.payload actor
      (queueNextIssue_reports _ _ _) decided)) ?_ nofun
    rintro moved issue ⟨third, transitioned⟩
    rcases transitioned issue rfl with ⟨source, target, audit, accepted, from_, to_, tried, named⟩
    refine follows_field (fun other same => ?_) nofun
    rw [from_] at same
    cases same
    refine follows_field (fun other same => ?_) nofun
    rw [to_] at same
    cases same
    have happened : Tried library actor moved approvalId source target accepted :=
      ⟨⟨row, third (second (first approved)), from_, to_⟩, audit, tried, named⟩
    refine follows_expandBind (Observer.follows_grows (event_reports happened)) ?_ nofun
    rintro last recorded ⟨grown, _⟩
    have reported := happened.mono grown
    cases issue with
    | none =>
        rintro text same
        cases same
        exact ⟨source, target, accepted, "; no eligible issue is available", reported, rfl⟩
    | some issue =>
        rintro text same
        cases same
        exact ⟨source, target, accepted, s!"; issue #{issue.number} was started", reported,
          by simp [String.append_assoc]⟩

/-! ## Every process -/

/-- What a process that has ended was told. -/
def EndsReported (library : Library) (task : Task) (marks : List RolloverMark)
    (result : Except Raised String) : Prop :=
  ∀ approvalId actor text, task.duty = .approveRollover approvalId actor → result = .ok text →
    ∃ source target accepted rest, Tried library actor marks approvalId source target accepted ∧
      text = s!"Advanced to {library.str target}" ++ rest

theorem body_reports (start : Site) (task : Task) :
    Follows (reporter library task.duty.approver).move (EndsReported library task) []
      ((processes library config start).body task) := by
  have queue : ∀ depth completedIssue operatorApproved,
      Roams (reporter library task.duty.approver).automaton library task.process
        (queueNextIssue library config depth completedIssue operatorApproved) :=
    queueNextIssue_reports
  have approves : ∀ approvalId actor,
      Roams (reporter library task.duty.approver).automaton library task.process
        (approve library config approvalId actor) := fun approvalId actor =>
    approve_roams reporter_free (mergeApproved_roams reporter_free (fun _ _ => reporter_permits nofun) · · actor)
      (queue _ · _) approvalId
  have rollover : ∀ approvalId actor, task.duty.approver = some actor →
      Roams (reporter library task.duty.approver).automaton library task.process
        (approveMilestoneRollover library config approvalId actor) := by
    intro approvalId actor same marks
    rw [same]
    exact (approveMilestoneRollover_reports approvalId actor marks).mono (fun _ _ _ => trivial)
  have roams : Roams (reporter library task.duty.approver).automaton library task.process
      (task.duty.body library config) := by
    refine body_roams reporter_free (queue _) ?_ approves task.duty ?_ ?_ ?_
    · exact offerMilestoneRollover_roams reporter_free (fun _ _ => transitionMilestone_roams
        reporter_free (fun _ _ _ _ => reporter_permits nofun) (queue _ _ _) _ _)
    · intro approvalId actor same
      exact rollover approvalId actor (by rw [same]; rfl)
    · intro token actor same
      refine executeCallback_roams reporter_free (fun _ _ => reporter_permits nofun)
        (fun row pr => performCallback_roams reporter_free (fun _ _ => reporter_permits nofun) row
          actor pr (performApproval_roams reporter_free (fun approvalId => ?_) (approves · actor) row
            pr)) token
      exact rollover approvalId actor (by rw [same]; rfl)
    · exact fun _ _ _ => reporter_permits nofun
  rcases task with ⟨process, duty⟩
  cases duty with
  | approveRollover approvalId actor =>
      apply (approveMilestoneRollover_reports approvalId actor []).mono
      rintro after result told other another text same rfl
      cases same
      exact told text rfl
  | _ => exact (roams []).mono (fun _ _ _ => nofun)

/-! ## Runs -/

/-- The transition that an operator's approval asks for finds the supervisor running, the
milestone still active and the transition never made. -/
def TransitionsFree (pool : SitePool) (action : SiteAction) : Prop :=
  ∀ index offer task expected following initial audit created next actor,
    action = .advance index offer →
    pool.threads[index]? =
      some ⟨task, .ask (.advance expected following initial audit created) next⟩ →
    task.duty.approver = some actor → audit.get "actor" = some (.str actor) →
    canAdvance pool.shared.database expected following initial = true

/-- Among its exchanges are the approval's row and the transition from its `from` to its `to`,
which succeeded. -/
structure Moved (library : Library) (exchanges : List (Exchange SiteRequest SiteAnswer))
    (approvalId : String) (source target : Value) : Prop where
  approved : ∃ approval : ApprovalRow,
    ⟨.query (.approval approvalId), some approval⟩ ∈ exchanges ∧
      approval.payload.get "from" = some source ∧ approval.payload.get "to" = some target
  moved : ∃ initial audit created,
    ⟨.advance (library.str source) (library.str target) initial audit created, true⟩ ∈ exchanges

/-- An approved rollover is recorded, and answered, only by the call that made it. -/
structure RolloversHappened (library : Library) (log : SiteLog) (pool : SitePool) : Prop where
  recorded : ∀ before entry after row, log = before ++ entry :: after →
    entry.request = .change (.insertEvent row) → row.kind = "milestone.rollover_approved" →
    ∃ actor approvalId source target,
      Moved library (own before entry.thread) approvalId source target ∧
        row.fingerprint = s!"approval:{approvalId}:rollover" ∧
        row.payload = .obj [("actor", .str actor), ("from", source), ("to", target)]
  answered : ∀ index process approvalId actor text,
    pool.threads[index]? = some ⟨⟨process, .approveRollover approvalId actor⟩, .done (.ok text)⟩ →
    ∃ source target rest, Moved library (own log index) approvalId source target ∧
      text = s!"Advanced to {library.str target}" ++ rest

variable {start : Site} {log : SiteLog} {pool : SitePool}

theorem read_exchange {exchange : Exchange SiteRequest SiteAnswer} {approvalId : String}
    {approval : ApprovalRow}
    (shown : (reporter library approver).mark exchange = some (.read approvalId approval)) :
    exchange = ⟨.query (.approval approvalId), some approval⟩ := by
  unfold reporter at shown
  dsimp only at shown
  split at shown
  · cases shown
    rfl
  · cases shown
  · cases shown

theorem tried_exchange {exchange : Exchange SiteRequest SiteAnswer} {expected following : String}
    {audit : Value} {accepted : Bool}
    (shown : (reporter library approver).mark exchange =
      some (.tried expected following audit accepted)) :
    ∃ initial created, exchange = ⟨.advance expected following initial audit created, accepted⟩ := by
  unfold reporter at shown
  dsimp only at shown
  split at shown
  · cases shown
  · cases shown
    exact ⟨_, _, rfl⟩
  · cases shown

/-- Where transitions are free, one that was tried has succeeded. -/
theorem Tried.moved (reached : (processes library config start).Reachable TransitionsFree log pool)
    {first rest : SiteLog} (parts : log = first ++ rest) {index : Nat} {actor approvalId : String}
    {source target : Value} {accepted : Bool}
    (labelled : ∀ entry ∈ log, entry.thread = index → entry.label.duty.approver = some actor)
    (tried : Tried library actor
      ((own first index).filterMap (reporter library approver).mark) approvalId source target
      accepted) :
    Moved library (own first index) approvalId source target := by
  rcases tried with ⟨⟨approval, read, fields⟩, audit, tried, named⟩
  constructor
  · rcases List.mem_filterMap.mp read with ⟨exchange, member, shown⟩
    rw [read_exchange shown] at member
    exact ⟨approval, member, fields⟩
  · rcases List.mem_filterMap.mp tried with ⟨exchange, member, shown⟩
    rcases tried_exchange shown with ⟨initial, created, rfl⟩
    rcases mem_own.mp member with ⟨⟨thread, task, request, answer⟩, inside, rfl, same⟩
    cases same
    rcases List.append_of_mem inside with ⟨before, after, split⟩
    have whole : log = before ++ ⟨thread, task, _, answer⟩ :: (after ++ rest) := by
      rw [parts, split, List.append_assoc, List.cons_append]
    rcases Machine.reachable_met reached whole with ⟨earlier, offer, next, _, free, found, replied⟩
    have approver := labelled _ (by rw [whole]; simp) rfl
    have answered := free thread offer task _ _ initial audit created next actor rfl found approver
      named
    have succeeded : answer = true := by
      cases replied
      exact answered
    rw [succeeded] at member
    exact ⟨initial, audit, created, member⟩

/-- The entries of a thread have its task. -/
theorem reachable_task
    (reached : (processes library config start).Reachable TransitionsFree log pool) {index : Nat} {thread : Thread Task SiteRequest SiteAnswer (Except Raised String)}
    (found : pool.threads[index]? = some thread) :
    ∀ entry ∈ log, entry.thread = index → entry.label = thread.label := by
  rintro entry member rfl
  rcases Machine.reachable_label reached member with ⟨other, same, named⟩
  rw [found] at same
  cases same
  exact named.symm

/-- Where every transition that an approval asks for is free, every rollover that is reported
has happened. -/
theorem rollovers_happened
    (reached : (processes library config start).Reachable TransitionsFree log pool) :
    RolloversHappened library log pool where
  recorded := by
    intro before entry after row parts inserted kind
    have permitted := Observer.reachable_permits (body_reports start) reached parts
    rw [inserted] at permitted
    rcases permitted kind with
      ⟨actor, approvalId, source, target, accepted, approver, tried, fingerprint, payload⟩
    refine ⟨actor, approvalId, source, target, ?_, fingerprint, payload⟩
    apply tried.moved reached parts
    intro other member same
    have inside : entry ∈ log := by simp [parts]
    rcases Machine.reachable_label reached inside with ⟨thread, found, named⟩
    rw [reachable_task reached found other member same, named]
    exact approver
  answered := by
    intro index process approvalId actor text found
    rcases Observer.reachable_ends (body_reports start) reached found nofun approvalId actor text rfl
      rfl with ⟨source, target, accepted, rest, tried, told⟩
    refine ⟨source, target, rest, ?_, told⟩
    apply tried.moved reached (List.append_nil log).symm
    intro other member same
    rw [reachable_task reached found other member same]
    rfl

/-! ## Scripts -/

def rolloverConfig : Config := { plainConfig with milestones := ["v1", "v2"] }

/-- A pending approval of the rollover from the first milestone to the second. -/
def pendingRollover : ApprovalRow where
  id := "apr-id"
  action := .milestoneRollover
  payload := offeredPayload rolloverConfig "v1" "v2"
  planDigest := "digest"
  state := .pending
  createdAt := 900
  expiresAt := 4500
  decidedAt := none
  decidedBy := none
  reason := none

/-- GitHub closed the first milestone, opened the second and lists no issues. -/
def completed : (asked : Outside) → Reply asked
  | .issueList _ => .ok []
  | .milestones => .ok [⟨"v1", "closed", 0⟩, ⟨"v2", "open", 3⟩]
  | other => outage 0 0 other

def rolloverSite (settings : String → Option String) : Site :=
  ⟨{ Database.empty with settings := settings, approvals := [pendingRollover] }, .none,
    fun _ => assistedPolicy⟩

def approvesRollover (count : Nat) : List SiteAction :=
  [.receive ⟨0, .approveRollover "apr-id" "operator"⟩] ++
    List.replicate count (.advance 1 completed)

/-- What the first process after the boot was told. -/
def toldFirst (pool : SitePool) : Option String :=
  match (pool.threads[1]? : Option (Thread Task SiteRequest SiteAnswer (Except Raised String))) with
  | some ⟨⟨_, .approveRollover _ _⟩, .done (.ok text)⟩ => some text
  | _ => none

theorem told_of_toldFirst {text : String} (told : toldFirst pool = some text) :
    ∃ process approvalId actor, pool.threads[1]? =
      some ⟨⟨process, .approveRollover approvalId actor⟩, .done (.ok text)⟩ := by
  unfold toldFirst at told
  split at told
  · next process approvalId actor same found =>
    cases told
    exact ⟨process, approvalId, actor, found⟩
  · cases told

/-- The action tries no transition that is refused. -/
def refusesNone (pool : SitePool) : SiteAction → Bool
  | .advance index _ =>
      match pool.threads[index]? with
      | some ⟨_, .ask (.advance expected following initial _ _) _⟩ =>
          canAdvance pool.shared.database expected following initial
      | _ => true
  | _ => true

theorem transitionsFree_of_refusesNone (pool : SitePool) (action : SiteAction)
    (free : refusesNone pool action = true) : TransitionsFree pool action := by
  rintro index offer task expected following initial audit created next actor rfl found _ _
  simpa [refusesNone, found] using free

/-- The rollover of a supervisor that runs happens. -/
theorem rollovers_happened_running : ∃ log pool text,
    (processes plainLibrary rolloverConfig (rolloverSite fun _ => none)).Reachable TransitionsFree
      log pool ∧ toldFirst pool = some text ∧ RolloversHappened plainLibrary log pool := by
  have played : (playSite plainLibrary rolloverConfig (rolloverSite fun _ => none) refusesNone
      (approvesRollover 44)).any (fun run => (toldFirst run.2).isSome) = true := by
    decide +kernel
  obtain ⟨⟨log, pool⟩, run, answered⟩ := (Option.any_eq_true _ _).mp played
  obtain ⟨text, told⟩ := Option.isSome_iff_exists.mp answered
  have reached := reachable_playSite transitionsFree_of_refusesNone run
  exact ⟨log, pool, text, reached, told, rollovers_happened reached⟩

/-- A transition that succeeded. -/
def succeeds : Exchange SiteRequest SiteAnswer → Bool
  | ⟨.advance _ _ _ _ _, accepted⟩ => accepted
  | _ => false

/-- A paused supervisor answers that the milestone advanced. -/
theorem rollover_misreported :
    ¬ ∀ (library : Library) (config : Config) (start : Site) (log : SiteLog) (pool : SitePool),
      (processes library config start).Reachable (fun _ _ => True) log pool →
        RolloversHappened library log pool := by
  intro always
  have played : (playSite plainLibrary rolloverConfig
      (rolloverSite (Function.update (fun _ => none) "paused" (some "true"))) (fun _ _ => true)
      (approvesRollover 25)).any
      (fun run => (toldFirst run.2).isSome && !(own run.1 1).any succeeds) = true := by
    decide +kernel
  obtain ⟨⟨log, pool⟩, run, broken⟩ := (Option.any_eq_true _ _).mp played
  rw [Bool.and_eq_true, Bool.not_eq_true', List.any_eq_false] at broken
  obtain ⟨text, told⟩ := Option.isSome_iff_exists.mp broken.1
  obtain ⟨process, approvalId, actor, found⟩ := told_of_toldFirst told
  have happened := always _ _ _ log pool (reachable_playSite (fun _ _ _ => trivial) run)
  obtain ⟨source, target, rest, ⟨_, initial, audit, created, moved⟩, _⟩ :=
    happened.answered 1 process approvalId actor text found
  exact broken.2 _ moved rfl

end FortifyLab.Supervisor
