import FortifyLab.Supervisor.OpenTransactions
import FortifyLab.Supervisor.Statements

/-! When `queue_next_issue` claims an issue: exactly where the issue that the selection
prefers was never selected before. -/

namespace FortifyLab.Supervisor

open Connection Program

/-! ## The selection -/

/-- An issue of the list that no other goes before. -/
def IsFirst (issues : List Issue) (issue : Issue) : Prop :=
  issue ∈ issues ∧ ∀ other ∈ issues, goesBefore other issue = false

theorem not_goesBefore {left right : Issue} :
    goesBefore left right = false ↔
      isQueuedNext left = isQueuedNext right ∧ right.number ≤ left.number ∨
        isQueuedNext left = false ∧ isQueuedNext right = true := by
  unfold goesBefore
  cases isQueuedNext left <;> cases isQueuedNext right <;> simp

theorem goesBefore_irrefl (issue : Issue) : goesBefore issue issue = false :=
  not_goesBefore.mpr (.inl ⟨rfl, le_rfl⟩)

theorem not_goesBefore_trans {first second third : Issue} (left : goesBefore first second = false)
    (right : goesBefore second third = false) : goesBefore first third = false := by
  rw [not_goesBefore] at *
  rcases left with ⟨same, larger⟩ | ⟨late, early⟩
  · rcases right with ⟨alike, smaller⟩ | ⟨later, earlier⟩
    · exact .inl ⟨same.trans alike, by omega⟩
    · exact .inr ⟨same.trans later, earlier⟩
  · rcases right with ⟨alike, _⟩ | ⟨later, _⟩
    · exact .inr ⟨late, alike ▸ early⟩
    · simp [later] at early

theorem not_goesBefore_of_goesBefore {left right : Issue} (before : goesBefore left right = true) :
    goesBefore right left = false := by
  unfold goesBefore at *
  by_cases same : isQueuedNext left = isQueuedNext right
  · rw [if_pos same, decide_eq_true_eq] at before
    rw [if_pos same.symm]
    exact decide_eq_false (by omega)
  · rw [if_neg same] at before
    rw [if_neg (Ne.symm same)]
    cases right : isQueuedNext right with
    | false => rfl
    | true => exact absurd (before.trans right.symm) same

theorem same_number {first second : Issue} (left : goesBefore first second = false)
    (right : goesBefore second first = false) : first.number = second.number := by
  rw [not_goesBefore] at *
  rcases left with ⟨same, larger⟩ | ⟨late, early⟩
  · rcases right with ⟨_, smaller⟩ | ⟨later, earlier⟩
    · omega
    · simp [later, earlier] at same
  · simp [late, early] at right

theorem selectIssue_eq_none {issues : List Issue} : selectIssue issues = none ↔ issues = [] := by
  cases issues with
  | nil => simp [selectIssue]
  | cons head rest =>
      unfold selectIssue
      split
      · simp
      · split <;> simp

theorem selectIssue_first {issues : List Issue} {issue : Issue}
    (selected : selectIssue issues = some issue) : IsFirst issues issue := by
  induction issues generalizing issue with
  | nil => cases selected
  | cons head rest ih =>
      unfold selectIssue at selected
      cases known : selectIssue rest with
      | none =>
          rw [known] at selected
          cases selected
          rw [selectIssue_eq_none.mp known]
          simp [IsFirst, goesBefore_irrefl]
      | some best =>
          have first := ih known
          rw [known] at selected
          dsimp only at selected
          split at selected
          · next before =>
            cases selected
            constructor
            · exact List.mem_cons_of_mem _ first.1
            · exact List.forall_mem_cons.mpr ⟨not_goesBefore_of_goesBefore before, first.2⟩
          · next before =>
            cases selected
            constructor
            · exact List.mem_cons_self
            · refine List.forall_mem_cons.mpr ⟨goesBefore_irrefl _, ?_⟩
              intro other member
              exact not_goesBefore_trans (first.2 other member) (Bool.eq_false_iff.mpr before)

/-- The first issues of a list have one number. -/
theorem first_number {issues : List Issue} {first second : Issue} (left : IsFirst issues first)
    (right : IsFirst issues second) : first.number = second.number :=
  same_number (right.2 first left.1) (left.2 second right.1)

/-! ## What a claim leaves -/

variable {library : Library} {world : Surroundings} {config : Config}

/-- The issue holds the queue slot, and its selection for the milestone is recorded. -/
def Selected (issue : Int) (milestone : String) (database : Database) : Prop :=
  database.settings "current_issue" = some (toString issue) ∧
    database.hasEvent (Store.issueSelected issue milestone) = true

/-- Both what is committed and what the connection sees has the issue selected. -/
def Kept (issue : Int) (milestone : String) (state : OnConnection) : Prop :=
  Selected issue milestone state.1.saved ∧ Selected issue milestone state.1.seen

def LeavesSlot : Change → Prop
  | .setSetting key _ => key ≠ "current_issue"
  | .deleteSetting key => key ≠ "current_issue"
  | _ => True

variable {issue : Int} {milestone : String}

theorem write_selected {database next : Database} {change : Change} {count : Nat}
    (leaves : LeavesSlot change) (selected : Selected issue milestone database)
    (written : database.write change = some (count, next)) : Selected issue milestone next := by
  cases change with
  | setSetting key value =>
      cases written
      exact ⟨(Function.update_of_ne (Ne.symm leaves) _ _).trans selected.1, selected.2⟩
  | deleteSetting key =>
      cases written
      exact ⟨(Function.update_of_ne (Ne.symm leaves) _ _).trans selected.1, selected.2⟩
  | insertEvent row =>
      simp only [Database.write] at written
      split at written
      · cases written
      · cases written
        constructor
        · exact selected.1
        · have before := selected.2
          simp only [Database.hasEvent, List.any_append, Bool.or_eq_true] at before ⊢
          exact .inl before
  | insertNotification row =>
      simp only [Database.write] at written
      split at written <;> cases written
      exact selected
  | insertApproval row =>
      simp only [Database.write] at written
      split at written <;> cases written
      exact selected
  | insertToken row =>
      simp only [Database.write] at written
      split at written <;> cases written
      exact selected
  | repeatNotification fingerprint message payload now =>
      cases written
      exact selected
  | markNotification fingerprint state messageId now =>
      cases written
      exact selected
  | supersede id decidedAt reason =>
      cases written
      exact selected
  | expire id =>
      cases written
      exact selected
  | decide id verdict decidedAt actor reason =>
      cases written
      exact selected
  | consumeToken tokenHash now actor =>
      cases written
      exact selected

/-- The requests that do not change the queue slot. -/
def SparesSlot : Request → Prop
  | .statement (.change change) => LeavesSlot change
  | _ => True

theorem handle_kept {state : OnConnection} {request : Request}
    (kept : Kept issue milestone state) (spares : SparesSlot request) :
    Kept issue milestone (handle tables world state request).2 := by
  rcases state with ⟨connection, time⟩
  cases request with
  | outside asked => exact kept
  | statement sql =>
      cases sql with
      | query query => exact kept
      | beginImmediate => exact ⟨kept.1, kept.2⟩
      | commit => exact ⟨kept.2, kept.2⟩
      | rollback => exact ⟨kept.1, kept.1⟩
      | change change =>
          show Selected issue milestone (connection.after tables (.change change)).saved ∧
            Selected issue milestone (connection.after tables (.change change)).seen
          cases written : tables.write connection.seen change with
          | none =>
              simp only [Connection.after, written]
              exact kept
          | some result =>
              simp only [Connection.after, written]
              exact ⟨kept.1, write_selected spares kept.2 written⟩

/-! ## The calls after a claim -/

/-- The calls of `notify_once` and of the start of a runner. -/
def Announces : SupervisorRequest → Prop
  | .store (.upsertNotification _ _ _ _ _ _ _) => True
  | .store (.event _ _ _) => True
  | .store (.markNotification _ _ _) => True
  | .store (.set key _) => key ≠ "current_issue"
  | .store _ => False
  | .outside _ => True

attribute [local simp] runCall StoreCall.perform StoreCall.body Store.select Store.execute
  Store.beginImmediate Store.commit Store.rollback Store.outside Store.now Store.ask
  Store.raiseError Store.exceptIntegrity Store.refused Program.perform ExceptT.run
  ExceptT.mk ExceptT.lift ExceptT.bind ExceptT.bindCont ExceptT.pure ExceptT.tryCatch tryCatch
  tryCatchThe MonadExceptOf.tryCatch Bind.bind Pure.pure Program.bind Functor.map throw throwThe
  MonadExceptOf.throw handle Connection.answer Connection.after tables Database.read Database.write

theorem announces_leaves {made : StoreCall} {change : Change}
    (announces : Announces (.store made)) (makes : made.Makes library change) :
    LeavesSlot change := by
  cases made with
  | upsertNotification fingerprint kind severity message payload state digestBucket =>
      rcases makes with ⟨now, rfl⟩ | ⟨row, rfl, _⟩ <;> trivial
  | event fingerprint kind payload =>
      rcases makes with ⟨created, rfl⟩
      trivial
  | markNotification fingerprint state messageId =>
      rcases makes with ⟨now, rfl⟩
      trivial
  | set key value =>
      cases makes
      exact announces
  | _ => cases announces

theorem announces_kept (state : OnConnection) (request : SupervisorRequest)
    (kept : Kept issue milestone state) (announces : Announces request) :
    Kept issue milestone (runRequest library world state request).2 := by
  have spares : OnlyAsks SparesSlot (request.perform library) := by
    cases request with
    | outside asked => exact ⟨trivial, fun _ => trivial⟩
    | store made =>
        apply OnlyAsks.mono made.makes
        intro request changing
        cases request with
        | outside asked => trivial
        | statement sql =>
            cases sql with
            | change change => exact announces_leaves announces changing
            | _ => trivial
  exact (spares.keeps (fun state request => handle_kept) state kept).2

theorem updated_notification {database : Database} {fingerprint : String}
    {update : NotificationRow → NotificationRow}
    (same : ∀ row, (update row).fingerprint = row.fingerprint)
    (existing : (database.notification fingerprint).isSome) :
    ((database.updateNotification fingerprint update).2.notification fingerprint).isSome := by
  rw [Database.notification, List.find?_isSome] at *
  rcases existing with ⟨row, member, found⟩
  refine ⟨update row, ?_, by rw [same]; exact found⟩
  exact List.mem_map.mpr ⟨row, member, if_pos (of_decide_eq_true found)⟩

theorem inserted_notification {database : Database} {row : NotificationRow}
    (new : database.notification row.fingerprint = none) :
    ({ database with notifications := database.notifications ++ [row] } : Database).notification
      row.fingerprint = some row := by
  unfold Database.notification at *
  rw [List.find?_append, new]
  simp

/-- The calls that announce return, whatever the connection. -/
theorem announces_returns {made : StoreCall} (announces : Announces (.store made))
    (state : OnConnection) : ∃ value, (runRequest library world state (.store made)).1 = .ok value := by
  rcases state with ⟨connection, time⟩
  show ∃ value, (runCall library world made (connection, time)).1 = .ok value
  cases made with
  | upsertNotification fingerprint kind severity message payload state digestBucket =>
      cases existing : connection.seen.notification fingerprint with
      | some row =>
          have updated := @updated_notification connection.seen fingerprint (fun row =>
            { row with message, payload, occurrences := row.occurrences + 1,
                       updatedAt := seconds (world time .now) }) (fun _ => rfl) (by rw [existing]; rfl)
          rcases Option.isSome_iff_exists.mp updated with ⟨found, known⟩
          exact ⟨(found, false), by simp [Store.upsertNotification, Store.notification,
            Store.written, existing, known]⟩
      | none =>
          have known := @inserted_notification connection.seen ⟨fingerprint, kind, severity,
            message, payload, digestBucket, state, none, 1, seconds (world time .now)⟩ existing
          dsimp only at known
          refine ⟨(⟨fingerprint, kind, severity, message, payload, digestBucket, state, none, 1,
            seconds (world time .now)⟩, true), ?_⟩
          simp [Store.upsertNotification, Store.notification, Store.written, existing, known]
  | event fingerprint kind payload =>
      by_cases known : connection.seen.hasEvent fingerprint
      · exact ⟨false, by simp [Store.event, known]⟩
      · exact ⟨true, by simp [Store.event, known]⟩
  | markNotification fingerprint state messageId => exact ⟨(), by simp [Store.markNotification]⟩
  | set key value => exact ⟨(), by simp [Store.set]⟩
  | _ => cases announces

/-! ## What follows a claim -/

/-- Telegram raises nothing but what `notify_once` handles, and the runner can be launched. -/
structure Answering (world : Surroundings) : Prop where
  sends : ∀ time message actions raised,
    world time (.send message actions) = .error raised → ∃ text, raised = .supervisor text
  edits : ∀ time messageId message actions raised,
    world time (.edit messageId message actions) = .error raised → ∃ text, raised = .supervisor text
  launches : ∀ time command, world time (.run command) = .ok ()

def Returns {α : Type} (result : Except Raised α) : Prop := ∃ value, result = .ok value

def RaisesSupervisor {α : Type} (result : Except Raised α) : Prop :=
  ∀ raised, result = .error raised → ∃ text, raised = .supervisor text

section Keeping

variable {α : Type}

theorem keeps_call {made : StoreCall} (announces : Announces (.store made)) :
    Keeps (runRequest library world) (Kept issue milestone) Returns (call made).run :=
  fun state kept => ⟨announces_returns announces state, announces_kept state _ kept announces⟩

theorem keeps_world (asked : Outside) :
    Keeps (runRequest library world) (Kept issue milestone) Returns
      (Supervisor.world asked).run :=
  fun state kept => ⟨⟨_, rfl⟩, @announces_kept library world issue milestone state
    (.outside asked) kept trivial⟩

theorem keeps_returning {β : Type} {post : Except Raised β → Prop} {first : SupervisorM α}
    {rest : α → SupervisorM β}
    (start : Keeps (runRequest library world) (Kept issue milestone) Returns first.run)
    (continues : ∀ value, Keeps (runRequest library world) (Kept issue milestone) post
      (rest value).run) :
    Keeps (runRequest library world) (Kept issue milestone) post (first >>= rest).run := by
  refine keeps_bindExcept start (fun value _ => continues value) ?_
  rintro error ⟨value, same⟩
  cases same

theorem keeps_callBind {β : Type} {post : Except Raised β → Prop} {made : StoreCall}
    {rest : made.Result → SupervisorM β} (announces : Announces (.store made))
    (continues : ∀ value, Keeps (runRequest library world) (Kept issue milestone) post
      (rest value).run) :
    Keeps (runRequest library world) (Kept issue milestone) post (call made >>= rest).run :=
  keeps_returning (keeps_call announces) continues

theorem keeps_pure (value : α) :
    Keeps (runRequest library world) (Kept issue milestone) Returns
      (pure value : SupervisorM α).run := keeps_done ⟨value, rfl⟩

theorem keeps_attempt {asked : SupervisorM (Except Raised α)}
    {post : Except Raised α → Prop}
    (answered : Keeps (runRequest library world) (Kept issue milestone)
      (fun result => ∃ value, result = .ok value ∧ post value) asked.run) :
    Keeps (runRequest library world) (Kept issue milestone) post (attempt asked).run := by
  refine keeps_bindExcept answered ?_ ?_
  · rintro value ⟨other, same, met⟩
    cases same
    cases value with
    | ok value => exact keeps_done met
    | error raised => exact keeps_done met
  · rintro error ⟨other, same, _⟩
    cases same

theorem keeps_edit (answering : Answering world) (messageId message : String)
    (actions : List InlineAction) :
    Keeps (runRequest library world) (Kept issue milestone) RaisesSupervisor
      (attempt (Supervisor.world (.edit messageId message actions))).run := by
  apply keeps_attempt
  intro state kept
  exact ⟨⟨_, rfl, fun raised => answering.edits _ _ _ _ raised⟩,
    @announces_kept library world issue milestone state (.outside _) kept trivial⟩

theorem keeps_send (answering : Answering world) (message : String)
    (actions : List InlineAction) :
    Keeps (runRequest library world) (Kept issue milestone)
      RaisesSupervisor (attempt (Supervisor.world (.send message actions))).run := by
  apply keeps_attempt
  intro state kept
  exact ⟨⟨_, rfl, fun raised => answering.sends _ _ _ raised⟩,
    @announces_kept library world issue milestone state (.outside _) kept trivial⟩

theorem keeps_run (answering : Answering world) (command : List String) :
    Keeps (runRequest library world) (Kept issue milestone) Returns
      (attempt (Supervisor.world (.run command))).run := by
  apply keeps_attempt
  intro state kept
  exact ⟨⟨_, rfl, ⟨(), answering.launches _ _⟩⟩,
    @announces_kept library world issue milestone state (.outside _) kept trivial⟩

theorem Returns.raises {result : Except Raised α} (returns : Returns result) :
    RaisesSupervisor result := by
  rcases returns with ⟨value, rfl⟩
  exact nofun

theorem keeps_deliver (answering : Answering world) (row : NotificationRow)
    (created meaningful : Bool) (actions : List InlineAction) :
    Keeps (runRequest library world) (Kept issue milestone) RaisesSupervisor
      (deliver row created meaningful actions).run := by
  unfold deliver
  dsimp only
  split
  · exact keeps_edit answering _ _ _
  · split
    · refine keeps_bindExcept (keeps_send answering _ _) ?_ ?_
      · intro messageId _
        refine keeps_callBind trivial ?_
        intro _
        split
        · apply keeps_returning (keeps_world .now)
          intro time
          have other : Announces (.store (.set "last_meaningful_notification"
              (toString (seconds time)))) := by
            show "last_meaningful_notification" ≠ "current_issue"
            decide
          exact (keeps_call other).mono (fun _ => Returns.raises)
        · exact keeps_done nofun
      · intro error met raised same
        cases same
        exact met error rfl
    · exact keeps_done nofun

theorem keeps_deliveryFailed (fingerprint : String) :
    Keeps (runRequest library world) (Kept issue milestone) Returns
      (deliveryFailed fingerprint).run := by
  refine keeps_callBind trivial ?_
  intro _
  apply keeps_returning (keeps_world .now)
  intro time
  refine keeps_callBind trivial ?_
  intro created
  exact keeps_pure ()

theorem keeps_bucketOf (deferred : Bool) :
    Keeps (runRequest library world) (Kept issue milestone) Returns
      (bucketOf config deferred).run := by
  unfold bucketOf
  split
  · apply keeps_returning (keeps_world .now)
    intro time
    exact keeps_pure _
  · exact keeps_pure _

theorem keeps_notifyOnce (answering : Answering world) (notice : Notice) :
    Keeps (runRequest library world) (Kept issue milestone) Returns
      (notifyOnce config notice).run := by
  apply keeps_returning (keeps_world .now)
  intro time
  apply keeps_returning (keeps_bucketOf _)
  intro bucket
  refine keeps_callBind trivial ?_
  rintro ⟨row, created⟩
  refine keeps_callBind trivial ?_
  intro recorded
  split
  · exact keeps_pure ()
  · refine keeps_tryCatch (keeps_deliver answering row created notice.meaningful notice.actions)
      (fun value _ => ⟨value, rfl⟩) ?_
    intro raised supervisor
    rcases supervisor raised rfl with ⟨text, rfl⟩
    exact keeps_deliveryFailed notice.fingerprint

theorem keeps_startRunner (answering : Answering world) (started : Issue) :
    Keeps (runRequest library world) (Kept issue milestone) Returns
      (startRunner config started).run := by
  unfold startRunner
  split
  · apply keeps_returning (keeps_run answering _)
    intro _
    refine keeps_callBind trivial ?_
    intro recorded
    have other : "runner_state" ≠ "current_issue" := by decide
    exact keeps_call other
  · exact keeps_pure ()

end Keeping

/-! ## The claim -/

/-- The issue is claimed and returned: it was not selected before, and it holds the slot now. -/
def Progress (issues : List Issue) (milestone : String) (before : Database)
    (outcome : Except Raised (Option Issue) × OnConnection) : Prop :=
  ∃ issue ∈ issues, outcome.1 = .ok (some issue) ∧
    before.hasEvent (Store.issueSelected issue.number milestone) = false ∧
    Selected issue.number milestone outcome.2.1.saved

theorem claimIssue_busy (saved held : Database) (time : Nat) (title : String) :
    (runCall library world (.claimIssue issue title milestone) (⟨saved, some held⟩, time)).1 =
      .error (.sql .operational) := by
  simp [Store.claimIssue]

theorem claimIssue_kept (database : Database) (time : Nat) (title : String)
    (free : canClaim database issue milestone = true) :
    Kept issue milestone (runCall library world (.claimIssue issue title milestone)
      (closed database, time)).2 := by
  rw [canClaim, Bool.and_eq_true, decide_eq_true_eq, Bool.not_eq_true'] at free
  simp [Store.claimIssue, free.1, free.2, hasEvent_settings, Kept, Selected]
  simp [Connection.closed, Database.hasEvent]

theorem eval_call {α : Type} {made : StoreCall} {rest : made.Result → SupervisorM α}
    {state : OnConnection} :
    eval (runRequest library world) (call made >>= rest).run state =
      match (runCall library world made state).1 with
      | .ok value => eval (runRequest library world) (rest value).run
          (runCall library world made state).2
      | .error raised => (.error raised, (runCall library world made state).2) := by
  show eval _ (Program.ask _ _) state = _
  rw [eval_ask]
  show eval _ (ExceptT.bindCont rest (runCall library world made state).1)
    (runCall library world made state).2 = _
  cases (runCall library world made state).1 <;> rfl

theorem eval_get {α : Type} {key default : String} {rest : String → SupervisorM α}
    {connection : Connection Database} {time : Nat} :
    eval (runRequest library world) (call (.get key default) >>= rest).run (connection, time) =
      eval (runRequest library world)
        (rest ((connection.seen.settings key).getD default)).run (connection, time) := rfl

theorem eval_world {α : Type} {asked : Outside} {rest : Reply asked → SupervisorM α}
    {connection : Connection Database} {time : Nat} :
    eval (runRequest library world) (Supervisor.world asked >>= rest).run (connection, time) =
      eval (runRequest library world) (rest (world time asked)).run (connection, time + 1) := rfl

theorem eval_policyDecision {α : Type} {action : AutonomyAction}
    {rest : AutonomyDecision → SupervisorM α} {connection : Connection Database} {time : Nat} :
    eval (runRequest library world) (policyDecision action >>= rest).run (connection, time) =
      eval (runRequest library world) (rest ((world time .policy).decision action)).run
        (connection, time + 1) := rfl

theorem eval_activeMilestone {α : Type} {rest : String → SupervisorM α}
    {connection : Connection Database} {time : Nat}
    (active : (connection.seen.settings "active_milestone").getD config.milestone = milestone)
    (authorized : milestone ∈ authorizedMilestones config) :
    eval (runRequest library world) (activeMilestone config >>= rest).run (connection, time) =
      eval (runRequest library world) (rest milestone).run (connection, time) := by
  have read : eval (runRequest library world) (activeMilestone config >>= rest).run
      (connection, time) =
      eval (runRequest library world)
        ((if (authorizedMilestones config).contains
            ((connection.seen.settings "active_milestone").getD config.milestone)
          then pure ((connection.seen.settings "active_milestone").getD config.milestone)
          else fail "Active milestone is outside the configured authorization sequence") >>=
            rest).run (connection, time) := rfl
  rw [read, active, if_pos (List.contains_iff_mem.mpr authorized)]
  rfl

theorem eval_githubNextIssue {α : Type} {excluded : Option Int} {issues : List Issue}
    {rest : Option Issue → SupervisorM α} {connection : Connection Database} {time : Nat}
    (listed : world time (.issueList milestone) = .ok issues) :
    eval (runRequest library world) (githubNextIssue milestone excluded >>= rest).run
      (connection, time) =
      eval (runRequest library world) (rest (selectIssue (issues.filter (isEligible excluded)))).run
        (connection, time + 1) := by
  have answered : eval (runRequest library world)
      (attempt (Supervisor.world (.issueList milestone))).run (connection, time) =
      (.ok issues, (connection, time + 1)) := by
    unfold attempt
    rw [eval_world, listed]
    rfl
  show eval _ (((attempt (Supervisor.world (.issueList milestone))).run >>= _) >>= _) _ = _
  rw [eval_bind, eval_bind, answered]
  rfl

/-- A claim that succeeds is followed by a return. -/
theorem startIssue_run (answering : Answering world) (database : Database) (time : Nat)
    (started : Issue) :
    let outcome := eval (runRequest library world) (startIssue config started milestone).run
      (closed database, time)
    if canClaim database started.number milestone then
      outcome.1 = .ok (some started) ∧ Kept started.number milestone outcome.2
    else outcome.1 = .ok none := by
  dsimp only
  unfold startIssue
  rw [eval_call, (claimIssue_spec database time started.number started.title milestone).2]
  dsimp only
  split
  · next free =>
    have announced : Keeps (runRequest library world) (Kept started.number milestone)
        (fun result => result = .ok (some started))
        (notifyOnce config {
          fingerprint := s!"issue:{started.number}:queued"
          kind := "issue.queued"
          message := s!"▶️ Queued issue #{started.number}: {started.title}\n{started.url}"
          payload := [("issue", .int started.number), ("title", .str started.title)] } >>= fun _ =>
            startRunner config started >>= fun _ => pure (some started)).run := by
      apply keeps_returning (keeps_notifyOnce answering _)
      intro _
      apply keeps_returning (keeps_startRunner answering started)
      intro _
      exact keeps_done rfl
    exact announced _ (claimIssue_kept database time started.title free)
  · rfl

/-- The supervisor may start an issue of its active milestone, and one was never selected. -/
structure Ready (world : Surroundings) (config : Config) (database : Database) (time : Nat)
    (completedIssue : Option Int) (operatorApproved : Bool) (milestone : String)
    (issues : List Issue) : Prop where
  running : database.settings "paused" ≠ some "true"
  permitted : (world time .policy).decision .startNextIssue = .auto ∨
    (world time .policy).decision .startNextIssue = .approval ∧ operatorApproved = true
  active : (database.settings "active_milestone").getD config.milestone = milestone
  authorized : milestone ∈ authorizedMilestones config
  idle : (database.settings "current_issue").getD "" = ""
  listed : world (time + 1) (.issueList milestone) = .ok issues
  work : ∃ issue ∈ issues.filter (isEligible completedIssue),
    database.hasEvent (Store.issueSelected issue.number milestone) = false

variable {connection : Connection Database} {time : Nat} {completedIssue : Option Int}
  {operatorApproved : Bool} {issues : List Issue}

/-- Where the supervisor may start an issue, the whole call is the start of the selected one. -/
theorem queueNextIssue_run (depth : Nat) {chosen : Issue}
    (ready : Ready world config connection.seen time completedIssue operatorApproved milestone
      issues)
    (selected : selectIssue (issues.filter (isEligible completedIssue)) = some chosen) :
    eval (runRequest library world)
      (queueNextIssue library config (depth + 1) completedIssue operatorApproved).run
      (connection, time) =
      eval (runRequest library world) (startIssue config chosen milestone).run
        (connection, time + 2) := by
  have going : ((connection.seen.settings "paused").getD "false") ≠ "true" := by
    have running := ready.running
    cases known : connection.seen.settings "paused" with
    | none => decide
    | some value =>
        rintro rfl
        exact running known
  have allowed : ¬ ((world time .policy).decision .startNextIssue ≠ .auto ∧
      ¬ ((world time .policy).decision .startNextIssue = .approval ∧ operatorApproved = true)) := by
    rintro ⟨manual, unapproved⟩
    exact ready.permitted.elim manual unapproved
  unfold queueNextIssue
  rw [eval_get, if_neg going, eval_policyDecision, if_neg allowed,
    eval_activeMilestone ready.active ready.authorized, eval_githubNextIssue ready.listed, selected]

def openIssues : List Issue := [⟨5, "closed pull request", "", []⟩, ⟨6, "next", "", []⟩]

/-- A world in which GitHub lists some issues. -/
def listing (issues : List Issue) : Surroundings := fun time asked =>
  match asked with
  | .issueList _ => .ok issues
  | other => outage 0 time other

theorem listing_answering (issues : List Issue) : Answering (listing issues) where
  sends _ _ _ _ raised := by cases raised
  edits _ _ _ _ _ raised := by cases raised
  launches _ _ := rfl

/-- Issue 5 was selected once, and the queue slot is idle again. -/
def selectedOnce : Database :=
  { Database.empty with events := [⟨"issue:5:selected:v1", "issue.selected", .null, 1000⟩] }

end FortifyLab.Supervisor
