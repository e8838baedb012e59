import FortifyLab.Supervisor.Milestones
import FortifyLab.Supervisor.Orderly
import FortifyLab.Supervisor.Rollovers

/-! The queue slot and the active milestone over whole runs of any number of processes: both
move atomically, each issue is selected once, and the milestone only moves forward. -/

namespace FortifyLab.Supervisor

open Program Automaton

/-! ## The claims about a run -/

/-- The second follows the first directly in the sequence. -/
def Adjacent (sequence : List String) (current following : String) : Prop :=
  ∃ earlier later, sequence = earlier ++ current :: following :: later

/-- The last that a call has seen is a verification of the transition: the milestone active at
every reading and closed, without open or eligible issues, and the next one open. -/
def Verified (config : Config) (exchanges : List (Exchange SiteRequest SiteAnswer))
    (expected following : String) : Prop :=
  ∃ earlier before issues later,
    exchanges.filterMap (verifier config).mark = earlier ++
      [.active expected, .active expected, .active expected, .milestones before,
        .active expected, .issues expected issues, .milestones later] ∧
    Names before expected (fun milestone =>
      milestone.state = "closed" ∧ milestone.openIssues = 0) ∧
    issues.filter (isEligible none) = [] ∧
    Names later following (fun milestone => milestone.state = "open")

/-- A claim takes the empty queue slot: issue, title and event together. -/
structure SlotTaken (request : SiteRequest) (site next : Database) : Prop where
  idle : (site.settings "current_issue").getD "" = ""
  taken : ∃ (issue : Int) (title milestone : String) (created : Int),
    request = .claim issue title milestone created ∧
      next.settings "current_issue" = some (toString issue) ∧
      next.settings "current_issue_title" = some ((title.take 200).toString) ∧
      next.events = site.events ++ [⟨Store.issueSelected issue milestone, "issue.selected",
        Store.issueFields issue milestone, created⟩]

/-- The active milestone moves by one, together with its event, while nothing is paused. -/
structure MilestoneMoved (config : Config) (site next : Database) (expected following : String)
    (audit : Value) (created : Int) : Prop where
  adjacent : Adjacent (authorizedMilestones config) expected following
  running : site.settings "paused" ≠ some "true"
  active : (site.settings "active_milestone").getD config.milestone = expected
  moved : next.settings "active_milestone" = some following
  recorded : next.events = site.events ++ [⟨Store.milestoneAdvanced expected following,
    "milestone.rollover", audit, created⟩]

/-- The events of rollovers. -/
def rollovers (database : Database) : List EventRow :=
  database.events.filter (fun row => row.kind = "milestone.rollover")

/-- How the slot and the milestone move in a run. -/
structure QueueMoves (library : Library) (config : Config) (start : Site) (log : SiteLog) :
    Prop where
  slot : ∀ before entry after, log = before ++ entry :: after →
    let site := siteAfter library start before
    let next := site.effect library entry.request
    next.database.settings "current_issue" ≠ site.database.settings "current_issue" →
      next.database.settings "current_issue" = some "" ∨
        SlotTaken entry.request site.database next.database
  title : ∀ before entry after, log = before ++ entry :: after →
    let site := siteAfter library start before
    let next := site.effect library entry.request
    next.database.settings "current_issue_title" ≠ site.database.settings "current_issue_title" →
      SlotTaken entry.request site.database next.database
  claimedOnce : ∀ before first middle second after issue milestone title created title' created',
    log = before ++ first :: (middle ++ second :: after) →
    first.exchange = ⟨.claim issue title milestone created, true⟩ →
    second.exchange ≠ ⟨.claim issue title' milestone created', true⟩
  refused : ∀ before entry after issue title milestone created,
    log = before ++ entry :: after →
    entry.exchange = ⟨.claim issue title milestone created, false⟩ →
    (siteAfter library start before).effect library entry.request = siteAfter library start before
  milestone : ∀ before entry after, log = before ++ entry :: after →
    let site := siteAfter library start before
    let next := site.effect library entry.request
    next.database.settings "active_milestone" ≠ site.database.settings "active_milestone" →
      ∃ expected following initial audit created,
        entry.exchange = ⟨.advance expected following initial audit created, true⟩
  moves : ∀ before entry after expected following initial audit created,
    log = before ++ entry :: after →
    entry.exchange = ⟨.advance expected following initial audit created, true⟩ →
    let site := siteAfter library start before
    let next := site.effect library entry.request
    Verified config (own before entry.thread) expected following ∧
      MilestoneMoved config site.database next.database expected following audit created
  movedOnce : ∀ before first middle second after expected following initial audit created initial'
    audit' created', log = before ++ first :: (middle ++ second :: after) →
    first.exchange = ⟨.advance expected following initial audit created, true⟩ →
    second.exchange ≠ ⟨.advance expected following initial' audit' created', true⟩
  recorded : ∀ before entry after, log = before ++ entry :: after →
    (∀ expected following initial audit created,
      entry.exchange ≠ ⟨.advance expected following initial audit created, true⟩) →
    rollovers ((siteAfter library start before).effect library entry.request).database =
      rollovers (siteAfter library start before).database

variable {library : Library} {config : Config} {start : Site} {log : SiteLog} {pool : SitePool}
  {allowed : SitePool → SiteAction → Prop}

/-! ## What the marks stand for -/

theorem active_exchange {exchange : Exchange SiteRequest SiteAnswer} {title : String}
    (shown : (verifier config).mark exchange = some (.active title)) :
    ∃ stored : Option String, exchange = ⟨.query (.setting "active_milestone"), stored⟩ ∧
      stored.getD config.milestone = title := by
  unfold verifier at shown
  dsimp only at shown
  split at shown
  · next key stored =>
    split at shown
    · next same =>
      cases shown
      subst same
      exact ⟨stored, rfl, rfl⟩
    · cases shown
  · cases shown
  · cases shown
  · cases shown
  · cases shown

theorem approval_exchange {exchange : Exchange SiteRequest SiteAnswer} {row : ApprovalRow}
    (shown : (verifier config).mark exchange = some (.approval row)) :
    ∃ id, exchange = ⟨.query (.approval id), some row⟩ := by
  unfold verifier at shown
  dsimp only at shown
  split at shown
  · split at shown <;> cases shown
  · cases shown
    exact ⟨_, rfl⟩
  · cases shown
  · cases shown
  · cases shown

/-- The active milestone of a site. -/
def activeOf (config : Config) (site : Site) : String :=
  (site.database.settings "active_milestone").getD config.milestone

/-- Where the active milestone stands in the sequence. -/
def position (config : Config) (site : Site) : Nat :=
  (authorizedMilestones config).idxOf (activeOf config site)

theorem active_read (reached : (processes library config start).Reachable allowed log pool)
    {before after : SiteLog} {entry : Entry Task SiteRequest SiteAnswer} {title : String}
    (split : log = before ++ entry :: after)
    (shown : (verifier config).mark entry.exchange = some (.active title)) :
    activeOf config (siteAfter library start before) = title := by
  rcases reachable_answered reached split with ⟨_, offer, replied⟩
  rcases active_exchange shown with ⟨stored, same, rfl⟩
  rcases entry with ⟨thread, task, request, answer⟩
  cases same
  cases replied
  rfl

/-- The rollovers that a call has read are offers. -/
theorem approvals_read (offered : OffersStored start)
    (reached : (processes library config start).Reachable allowed log pool)
    {before after : SiteLog} (split : log = before ++ after) (index : Nat) (row : ApprovalRow)
    (shown : .approval row ∈ (own before index).filterMap (verifier config).mark) :
    Offers row.action row.payload := by
  rcases List.mem_filterMap.mp shown with ⟨exchange, member, shows⟩
  rcases approval_exchange shows with ⟨id, rfl⟩
  rcases mem_own.mp member with ⟨⟨thread, task, request, answer⟩, inside, _, same⟩
  cases same
  rcases List.append_of_mem inside with ⟨first, last, rfl⟩
  have parts : log = first ++ ⟨thread, task, .query (.approval id), some row⟩ :: (last ++ after) := by
    rw [split, List.append_assoc, List.cons_append]
  rcases reachable_answered reached parts with ⟨_, offer, replied⟩
  have found : (siteAfter library start first).database.approval id = some row := by
    simpa [Site.reply, Database.read] using replied
  exact reachable_offers offered reached parts row (List.mem_of_find?_eq_some found)

/-- Of two readings of one call the earlier one is the earlier in the run. -/
theorem reads_between (reached : (processes library config start).Reachable allowed log pool)
    {before after : SiteLog} (split : log = before ++ after) {index : Nat} {first second : String}
    {earlier rest : List MilestoneMark}
    (shown : (own before index).filterMap (verifier config).mark = earlier ++ .active first :: rest)
    (later : .active second ∈ rest) :
    ∃ start' middle last, before = start' ++ middle ++ last ∧
      activeOf config (siteAfter library start start') = first ∧
      activeOf config (siteAfter library start (start' ++ middle)) = second := by
  rcases Machine.own_shown_split shown with ⟨head, entry, tail, rfl, _, known, rfl⟩
  rcases List.mem_filterMap.mp later with ⟨exchange, member, shows⟩
  rcases mem_own.mp member with ⟨other, inside, _, rfl⟩
  rcases List.append_of_mem inside with ⟨middle, last, rfl⟩
  refine ⟨head, entry :: middle, other :: last, by simp, ?_, ?_⟩
  · exact active_read reached (by simpa using split) known
  · exact active_read reached (by simpa using split) shows

/-! ## Forward only -/

theorem adjacent_of_next {sequence : List String} {current following : String}
    (known : current ∈ sequence) (next : sequence[sequence.idxOf current + 1]? = some following) :
    Adjacent sequence current following := by
  rcases List.getElem?_eq_some_iff.mp next with ⟨bound, rfl⟩
  refine ⟨sequence.take (sequence.idxOf current), sequence.drop (sequence.idxOf current + 2), ?_⟩
  have here := List.idxOf_lt_length_of_mem known
  have first : sequence.drop (sequence.idxOf current) =
      current :: sequence.drop (sequence.idxOf current + 1) := by
    rw [List.drop_eq_getElem_cons here, List.getElem_idxOf here]
  calc
    sequence = sequence.take (sequence.idxOf current) ++ sequence.drop (sequence.idxOf current) :=
      (List.take_append_drop _ _).symm
    _ = _ := by rw [first, List.drop_eq_getElem_cons bound]

/-- The active milestone stands nowhere further back after more steps. -/
def ForwardTo (library : Library) (config : Config) (start : Site) (before : SiteLog) : Prop :=
  ∀ first middle last, before = first ++ middle ++ last →
    position config (siteAfter library start first) ≤
      position config (siteAfter library start (first ++ middle))

/-- A transition that succeeds was verified, every reading told of the milestone that is still
active, and the next one follows it. -/
theorem transition_verified (offered : OffersStored start)
    (reached : (processes library config start).Reachable allowed log pool)
    {before after : SiteLog} {entry : Entry Task SiteRequest SiteAnswer}
    {expected following initial : String} {audit : Value} {created : Int}
    (split : log = before ++ entry :: after)
    (succeeded : entry.exchange = ⟨.advance expected following initial audit created, true⟩)
    (forward : ForwardTo library config start before) :
    initial = config.milestone ∧ Verified config (own before entry.thread) expected following ∧
      expected ∈ authorizedMilestones config ∧
      (authorizedMilestones config)[(authorizedMilestones config).idxOf expected + 1]? =
        some following ∧
      canAdvance (siteAfter library start before).database expected following config.milestone =
        true := by
  rcases entry with ⟨thread, task, request, answer⟩
  cases succeeded
  rcases reachable_answered reached split with ⟨_, offer, replied⟩
  have permitted := Observer.reachable_permits (fun task => body_verified start task) reached split
  rcases permitted (approvals_read offered reached split thread) with
    ⟨rfl, earlier, verification, shown, rfl, passes⟩
  have free : canAdvance (siteAfter library start before).database verification.active following
      config.milestone = true := by
    simpa [Site.reply] using replied
  have active : activeOf config (siteAfter library start before) = verification.active := by
    simp only [canAdvance, Bool.and_eq_true, decide_eq_true_eq] at free
    exact free.1.1
  -- Every reading lies between the first one and the transition, which both saw the same.
  have steady : ∀ title ∈ authorizedMilestones config,
      .active title ∈ verification.marks.tail → title = verification.active := by
    intro title known later
    have parts : (own before thread).filterMap (verifier config).mark =
        earlier ++ .active verification.active :: verification.marks.tail := shown
    rcases reads_between reached split parts later with ⟨first, middle, last, rfl, opened, read⟩
    have up := forward first middle last rfl
    have down := forward (first ++ middle) last [] (by simp)
    unfold position at up down
    rw [opened, read] at up
    rw [read, active] at down
    exact (List.idxOf_inj known).mp (Nat.le_antisymm down up)
  have second := steady verification.second passes.second (by simp [Verification.marks])
  have third := steady verification.third passes.third (by simp [Verification.marks])
  have fourth := steady verification.fourth passes.fourth (by simp [Verification.marks])
  have next := passes.next
  have closed := passes.closed
  rw [second] at next
  rw [third] at closed
  refine ⟨rfl, ⟨earlier, verification.before, verification.issues, verification.later, ?_, closed,
    passes.finished, passes.opened⟩, passes.active, next, free⟩
  show (own before thread).filterMap (verifier config).mark = _
  rw [shown, Verification.marks, second, third, fourth]

/-- What a transition that succeeds needs, and what it makes of the database. -/
theorem advanced_spec {database : Database} {expected following initial : String}
    (free : canAdvance database expected following initial = true) (audit : Value) (created : Int) :
    (database.settings "active_milestone").getD initial = expected ∧
      database.settings "paused" ≠ some "true" ∧
      database.hasEvent (Store.milestoneAdvanced expected following) = false ∧
      (advanced database expected following initial audit created).hasEvent
        (Store.milestoneAdvanced expected following) = true ∧
      (advanced database expected following initial audit created).settings "active_milestone" =
        some following ∧
      (advanced database expected following initial audit created).events = database.events ++
        [⟨Store.milestoneAdvanced expected following, "milestone.rollover", audit, created⟩] := by
  have parts := free
  simp only [canAdvance, Bool.and_eq_true, decide_eq_true_eq, Bool.not_eq_true'] at parts
  refine ⟨parts.1.1, parts.1.2, parts.2, ?_, ?_, ?_⟩ <;> simp [advanced, free, Database.hasEvent]

/-- Only a transition that succeeds moves the active milestone. -/
theorem active_unmoved {site : Site} {offer : (asked : Outside) → Reply asked}
    {request : SiteRequest} {answer : SiteAnswer request} (orderly : Orderly request)
    (replied : site.reply offer request = some answer)
    (unmoved : ∀ expected following initial audit created,
      (⟨request, answer⟩ : Exchange SiteRequest SiteAnswer) ≠
        ⟨.advance expected following initial audit created, true⟩) :
    (site.effect library request).database.settings "active_milestone" =
      site.database.settings "active_milestone" := by
  rw [Site.effect_settings]
  cases request with
  | change change =>
      cases change with
      | setSetting key value =>
          exact Function.update_of_ne (Ne.symm orderly.1) _ _
      | deleteSetting key => exact orderly.elim
      | _ => rfl
  | claim issue title milestone created =>
      simp only [Site.settingsAfter]
      split <;> simp
  | advance expected following initial audit created =>
      cases replied
      simp only [Site.settingsAfter]
      split
      · next free => exact absurd (by rw [free]) (unmoved expected following initial audit created)
      · rfl
  | _ => rfl

theorem step_forward (distinct : (authorizedMilestones config).Nodup) (offered : OffersStored start)
    (reached : (processes library config start).Reachable allowed log pool)
    {before after : SiteLog} {entry : Entry Task SiteRequest SiteAnswer}
    (split : log = before ++ entry :: after) (forward : ForwardTo library config start before) :
    position config (siteAfter library start before) ≤
      position config (siteAfter library start (before ++ [entry])) := by
  rw [siteAfter_concat]
  by_cases succeeded : ∃ expected following initial audit created,
      entry.exchange = ⟨.advance expected following initial audit created, true⟩
  · rcases succeeded with ⟨expected, following, initial, audit, created, succeeded⟩
    rcases transition_verified offered reached split succeeded forward with
      ⟨rfl, _, known, next, free⟩
    have spec := advanced_spec free audit created
    rcases entry with ⟨thread, task, request, answer⟩
    cases succeeded
    rcases List.getElem?_eq_some_iff.mp next with ⟨bound, found⟩
    have after : activeOf config ((siteAfter library start before).effect library
        (.advance expected following config.milestone audit created)) = following := by
      show ((advanced _ _ _ _ _ _).settings "active_milestone").getD _ = _
      rw [spec.2.2.2.2.1]
      rfl
    unfold position
    rw [after, show activeOf config (siteAfter library start before) = expected from spec.1, ← found,
      distinct.idxOf_getElem _ bound]
    omega
  · rcases reachable_answered reached split with ⟨orderly, offer, replied⟩
    have same : activeOf config ((siteAfter library start before).effect library entry.request) =
        activeOf config (siteAfter library start before) := by
      unfold activeOf
      rw [active_unmoved orderly replied (fun expected following initial audit created same =>
        succeeded ⟨expected, following, initial, audit, created, same⟩)]
    unfold position
    rw [same]

theorem reachable_forward (distinct : (authorizedMilestones config).Nodup)
    (offered : OffersStored start)
    (reached : (processes library config start).Reachable allowed log pool) {before after : SiteLog}
    (split : log = before ++ after) : ForwardTo library config start before := by
  induction before using List.reverseRecOn generalizing after with
  | nil =>
      intro first middle last parts
      simp only [List.nil_eq, List.append_eq_nil_iff] at parts
      rcases parts with ⟨⟨rfl, rfl⟩, rfl⟩
      exact Nat.le_refl _
  | append_singleton before entry ih =>
      have whole : log = before ++ entry :: after := by simp [split]
      have forward := ih whole
      intro first middle last parts
      rcases List.eq_nil_or_concat last with rfl | ⟨earlier, other, rfl⟩
      · rcases List.eq_nil_or_concat middle with rfl | ⟨earlier, other, rfl⟩
        · simp
        · have same : before = first ++ earlier ∧ entry = other := by
            apply List.append_singleton_inj.mp
            simpa using parts
          rcases same with ⟨rfl, rfl⟩
          have near := step_forward distinct offered reached whole forward
          have far := forward first earlier [] (by simp)
          simpa using Nat.le_trans far near
      · have same : before = first ++ middle ++ earlier ∧ entry = other := by
          apply List.append_singleton_inj.mp
          simpa using parts
        exact forward first middle earlier same.1

/-! ## The slot and the events -/

theorem claimed_spec {database : Database} {issue : Int} {milestone : String}
    (free : canClaim database issue milestone = true) (title : String) (created : Int) :
    database.hasEvent (Store.issueSelected issue milestone) = false ∧
      (claimed database issue title milestone created).hasEvent
        (Store.issueSelected issue milestone) = true ∧
      SlotTaken (.claim issue title milestone created) database
        (claimed database issue title milestone created) := by
  have parts := free
  simp only [canClaim, Bool.and_eq_true, decide_eq_true_eq, Bool.not_eq_true'] at parts
  refine ⟨parts.2, ?_, parts.1, issue, title, milestone, created, rfl, ?_⟩
  · simp [claimed, free, Database.hasEvent]
  · simp [claimed, free]

theorem slot_moved {site : Site} {request : SiteRequest} (orderly : Orderly request)
    (moved : (site.effect library request).database.settings "current_issue" ≠
      site.database.settings "current_issue") :
    (site.effect library request).database.settings "current_issue" = some "" ∨
      SlotTaken request site.database (site.effect library request).database := by
  rw [Site.effect_settings] at moved ⊢
  cases request with
  | change change =>
      cases change with
      | setSetting key value =>
          by_cases same : key = "current_issue"
          · subst same
            simp [Site.settingsAfter, orderly.2.2 rfl]
          · exact absurd (Function.update_of_ne (Ne.symm same) _ _) moved
      | deleteSetting key => exact orderly.elim
      | _ => exact absurd rfl moved
  | claim issue title milestone created =>
      by_cases free : canClaim site.database issue milestone = true
      · exact .inr (claimed_spec free title created).2.2
      · simp [Site.settingsAfter, free] at moved
  | advance expected following initial audit created =>
      refine absurd ?_ moved
      simp only [Site.settingsAfter]
      split <;> simp
  | _ => exact absurd rfl moved

theorem title_moved {site : Site} {request : SiteRequest} (orderly : Orderly request)
    (moved : (site.effect library request).database.settings "current_issue_title" ≠
      site.database.settings "current_issue_title") :
    SlotTaken request site.database (site.effect library request).database := by
  rw [Site.effect_settings] at moved
  cases request with
  | change change =>
      cases change with
      | setSetting key value =>
          exact absurd (Function.update_of_ne (Ne.symm orderly.2.1) _ _) moved
      | deleteSetting key => exact orderly.elim
      | _ => exact absurd rfl moved
  | claim issue title milestone created =>
      by_cases free : canClaim site.database issue milestone = true
      · exact (claimed_spec free title created).2.2
      · simp [Site.settingsAfter, free] at moved
  | advance expected following initial audit created =>
      refine absurd ?_ moved
      simp only [Site.settingsAfter]
      split <;> simp
  | _ => exact absurd rfl moved

/-- Only a transition that succeeds records a rollover. -/
theorem rollovers_unmoved {site : Site} {offer : (asked : Outside) → Reply asked}
    {request : SiteRequest} {answer : SiteAnswer request} (orderly : Orderly request)
    (replied : site.reply offer request = some answer)
    (unmoved : ∀ expected following initial audit created,
      (⟨request, answer⟩ : Exchange SiteRequest SiteAnswer) ≠
        ⟨.advance expected following initial audit created, true⟩) :
    rollovers (site.effect library request).database = rollovers site.database := by
  cases request with
  | change change =>
      cases change with
      | insertEvent row =>
          simp only [Site.effect, Database.write]
          split
          · next written =>
            split at written <;> cases written
            simp [rollovers, orderly.2]
          · rfl
      | insertNotification row =>
          simp only [Site.effect, Database.write]
          split
          · next written => split at written <;> cases written; rfl
          · rfl
      | insertApproval row =>
          simp only [Site.effect, Database.write]
          split
          · next written => split at written <;> cases written; rfl
          · rfl
      | insertToken row =>
          simp only [Site.effect, Database.write]
          split
          · next written => split at written <;> cases written; rfl
          · rfl
      | _ => rfl
  | claim issue title milestone created =>
      simp only [Site.effect, claimed]
      split
      · simp [rollovers]
      · rfl
  | advance expected following initial audit created =>
      cases replied
      simp only [Site.effect, advanced]
      split
      · next free => exact absurd (by rw [free]) (unmoved expected following initial audit created)
      · rfl
  | _ => rfl

/-- An event that a step recorded stays known. -/
theorem event_known {before : SiteLog} {first : Entry Task SiteRequest SiteAnswer}
    {fingerprint : String} (middle : SiteLog)
    (recorded : ((siteAfter library start before).effect library
      first.request).database.hasEvent fingerprint = true) :
    (siteAfter library start (before ++ first :: middle)).database.hasEvent fingerprint = true := by
  have parts : before ++ first :: middle = (before ++ [first]) ++ middle := by simp
  rw [parts, siteAfter_append, siteAfter_concat]
  exact siteAfter_hasEvent recorded middle

/-- What a claim was told is whether the slot was free for it. -/
theorem claim_answered (reached : (processes library config start).Reachable allowed log pool)
    {before after : SiteLog} {entry : Entry Task SiteRequest SiteAnswer} {issue : Int}
    {title milestone : String} {created : Int} {accepted : Bool}
    (split : log = before ++ entry :: after)
    (told : entry.exchange = ⟨.claim issue title milestone created, accepted⟩) :
    entry.request = .claim issue title milestone created ∧
      canClaim (siteAfter library start before).database issue milestone = accepted := by
  rcases reachable_answered reached split with ⟨_, offer, replied⟩
  rcases entry with ⟨thread, task, request, answer⟩
  cases told
  exact ⟨rfl, by simpa [Site.reply] using replied⟩

theorem claimed_once (reached : (processes library config start).Reachable allowed log pool)
    {before middle after : SiteLog} {first second : Entry Task SiteRequest SiteAnswer}
    {issue : Int} {title title' milestone : String} {created created' : Int}
    (split : log = before ++ first :: (middle ++ second :: after))
    (taken : first.exchange = ⟨.claim issue title milestone created, true⟩) :
    second.exchange ≠ ⟨.claim issue title' milestone created', true⟩ := by
  intro again
  have earlier := claim_answered reached split taken
  have parts : log = (before ++ first :: middle) ++ second :: after := by simp [split]
  have later := claim_answered reached parts again
  have recorded : ((siteAfter library start before).effect library
      first.request).database.hasEvent (Store.issueSelected issue milestone) = true := by
    rw [earlier.1]
    exact (claimed_spec earlier.2 title created).2.1
  have fresh := (claimed_spec later.2 title' created').1
  rw [event_known middle recorded] at fresh
  cases fresh

/-- What a transition was told is whether it was free. -/
theorem advance_answered (reached : (processes library config start).Reachable allowed log pool)
    {before after : SiteLog} {entry : Entry Task SiteRequest SiteAnswer}
    {expected following initial : String} {audit : Value} {created : Int} {accepted : Bool}
    (split : log = before ++ entry :: after)
    (told : entry.exchange = ⟨.advance expected following initial audit created, accepted⟩) :
    entry.request = .advance expected following initial audit created ∧
      canAdvance (siteAfter library start before).database expected following initial =
        accepted := by
  rcases reachable_answered reached split with ⟨_, offer, replied⟩
  rcases entry with ⟨thread, task, request, answer⟩
  cases told
  exact ⟨rfl, by simpa [Site.reply] using replied⟩

theorem moved_once (reached : (processes library config start).Reachable allowed log pool)
    {before middle after : SiteLog} {first second : Entry Task SiteRequest SiteAnswer}
    {expected following initial initial' : String} {audit audit' : Value} {created created' : Int}
    (split : log = before ++ first :: (middle ++ second :: after))
    (moved : first.exchange = ⟨.advance expected following initial audit created, true⟩) :
    second.exchange ≠ ⟨.advance expected following initial' audit' created', true⟩ := by
  intro again
  have earlier := advance_answered reached split moved
  have parts : log = (before ++ first :: middle) ++ second :: after := by simp [split]
  have later := advance_answered reached parts again
  have recorded : ((siteAfter library start before).effect library
      first.request).database.hasEvent (Store.milestoneAdvanced expected following) = true := by
    rw [earlier.1]
    exact (advanced_spec earlier.2 audit created).2.2.2.1
  have fresh := (advanced_spec later.2 audit' created').2.2.1
  rw [event_known middle recorded] at fresh
  cases fresh

/-- In every run the slot and the milestone move together with their events, and the milestone
only forward. -/
theorem queue_moves (distinct : (authorizedMilestones config).Nodup) (offered : OffersStored start)
    (reached : (processes library config start).Reachable allowed log pool) :
    QueueMoves library config start log where
  slot before entry after split moved := slot_moved (reachable_answered reached split).1 moved
  title before entry after split moved := title_moved (reachable_answered reached split).1 moved
  claimedOnce before first middle second after issue milestone title created title' created' split
      taken := claimed_once reached split taken
  refused := by
    intro before entry after issue title milestone created split told
    rcases claim_answered reached split told with ⟨same, busy⟩
    rw [same]
    simp [Site.effect, claimed, busy]
  milestone := by
    intro before entry after split site next moved
    by_contra none
    rcases reachable_answered reached split with ⟨orderly, offer, replied⟩
    refine moved (active_unmoved orderly replied ?_)
    intro expected following initial audit created same
    exact none ⟨expected, following, initial, audit, created, same⟩
  moves := by
    intro before entry after expected following initial audit created split moved site next
    have forward := reachable_forward distinct offered reached split
    rcases transition_verified offered reached split moved forward with
      ⟨rfl, verified, known, follows, free⟩
    have spec := advanced_spec free audit created
    have same : next.database = advanced site.database expected following config.milestone audit
        created := by
      show (site.effect library entry.request).database = _
      rw [(advance_answered reached split moved).1]
      rfl
    refine ⟨verified, adjacent_of_next known follows, spec.2.1, spec.1, ?_, ?_⟩
    · rw [same]
      exact spec.2.2.2.2.1
    · rw [same]
      exact spec.2.2.2.2.2
  movedOnce before first middle second after expected following initial audit created initial'
      audit' created' split moved := moved_once reached split moved
  recorded := by
    intro before entry after split unmoved
    rcases reachable_answered reached split with ⟨orderly, offer, replied⟩
    exact rollovers_unmoved orderly replied unmoved

/-- An approved rollover from the first milestone to the second moves them so. -/
theorem queue_moves_rollover : ∃ log pool,
    (processes plainLibrary rolloverConfig (rolloverSite fun _ => none)).Reachable
      (fun _ _ => True) log pool ∧ (own log 1).any succeeds = true ∧
      QueueMoves plainLibrary rolloverConfig (rolloverSite fun _ => none) log := by
  have played : (playSite plainLibrary rolloverConfig (rolloverSite fun _ => none)
      (fun _ _ => true) (approvesRollover 44)).any
      (fun run => (own run.1 1).any succeeds) = true := by
    decide +kernel
  obtain ⟨⟨log, pool⟩, run, moved⟩ := (Option.any_eq_true _ _).mp played
  have reached : (processes plainLibrary rolloverConfig (rolloverSite fun _ => none)).Reachable
      (fun _ _ => True) log pool := reachable_playSite (fun _ _ _ => trivial) run
  have offered : OffersStored (rolloverSite fun _ => none) := by
    intro row member
    rw [List.mem_singleton.mp member]
    exact fun _ => ⟨"v2", rfl⟩
  exact ⟨log, pool, reached, moved, queue_moves (by decide) offered reached⟩

end FortifyLab.Supervisor
