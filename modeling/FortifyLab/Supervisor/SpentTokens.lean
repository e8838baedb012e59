import FortifyLab.Supervisor.Capabilities
import FortifyLab.Supervisor.Rollovers

/-! Tokens and merges over whole runs of any number of processes. -/

namespace FortifyLab.Supervisor

open Program Automaton

/-! ## The claims about a run -/

/-- The pull request may be merged at the commit. -/
structure ReadyToMerge (fresh : PullRequest) (sha : String) : Prop where
  head : fresh.headRefOid = sha
  opened : fresh.state = "OPEN"
  passed : checksState fresh = "passed"
  mergeable : fresh.mergeable = "MERGEABLE"
  ready : fresh.isDraft = false
  settled : fresh.mergeStateStatus ∈ ["CLEAN", "UNSTABLE"]

/-- The second verification of `approve`. -/
def mergeGates (library : Library) (config : Config) (fresh : PullRequest) (payload : Value)
    (actor : String) : SupervisorM Unit :=
  if actor = "autonomy-policy" then verifyAutonomousMerge library config fresh payload false
  else verifyMergePlan library fresh payload false

/-- What a call has done last is to read the pull request and to verify it successfully. -/
def MergeChecked (library : Library) (config : Config) (process : Nat) (told : Exchanges)
    (number : Int) (sha : String) : Prop :=
  ∃ earlier fresh payload actor checks, told = earlier ++
      ⟨.outside (.pullRequest number), .ok fresh⟩ :: checks ∧
    Reaches (stepsOf library process (mergeGates library config fresh payload actor)) checks
      (.done (.ok ())) ∧ ReadyToMerge fresh sha

/-- The call has consumed the token. -/
def Spent (library : Library) (token actor : String) (told : Exchanges) : Prop :=
  ∃ now, consumption (library.tokenHash token) now actor ∈ told

/-- What callbacks make of their tokens in a run. -/
structure TokensSpent (library : Library) (config : Config) (start : Site) (log : SiteLog) :
    Prop where
  once : ∀ before first middle second after hash now actor now' actor',
    log = before ++ first :: (middle ++ second :: after) →
    first.exchange = consumption hash now actor → second.exchange ≠ consumption hash now' actor'
  consumed : ∀ before entry after hash now actor, log = before ++ entry :: after →
    entry.exchange = consumption hash now actor →
    ∃ process token row checks pr time, entry.label = ⟨process, .callback token actor⟩ ∧
      hash = library.tokenHash token ∧ now = seconds time ∧
      (siteAfter library start before).database.callbackToken hash = some row ∧
      Consumable row actor now ∧
      own before entry.thread =
        ⟨.query (.callbackToken hash), some row⟩ :: checks ++ consulted hash time row ∧
      Reaches (stepsOf library process (prepareCallback library config row)) checks (.done (.ok pr))
  guarded : ∀ before entry after process token actor, log = before ++ entry :: after →
    entry.label = ⟨process, .callback token actor⟩ →
    ¬ Spent library token actor (own before entry.thread) →
    Prepares entry.request ∨
      ∃ now, entry.request = .change (.consumeToken (library.tokenHash token) now actor)
  untouched : ∀ before entry after process token actor, log = before ++ entry :: after →
    entry.label = ⟨process, .callback token actor⟩ →
    ¬ Spent library token actor (own (before ++ [entry]) entry.thread) →
    Untouched (siteAfter library start before) (siteAfter library start (before ++ [entry]))
  performed : ∀ before entry after process token actor, log = before ++ entry :: after →
    entry.label = ⟨process, .callback token actor⟩ →
    Spent library token actor (own before entry.thread) →
    entry.request = .query (.callbackToken (library.tokenHash token)) ∨
      ∃ checks spent pr rest next,
        (siteAfter library start before).database.callbackToken (library.tokenHash token) =
          some spent ∧
        own before entry.thread = checks ++ rest ∧ Spent library token actor checks ∧
        Reaches (stepsOf library process (performCallback library config spent actor pr)) rest
          (.ask entry.request next)
  merged : ∀ before entry after number sha, log = before ++ entry :: after →
    entry.request = .outside (.merge number sha) →
    MergeChecked library config entry.label.process (own before entry.thread) number sha

variable {library : Library} {config : Config} {start : Site} {process : Nat} {log : SiteLog}
  {pool : SitePool} {allowed : SitePool → SiteAction → Prop} {token actor : String}

/-! ## Merges -/

def merging (library : Library) (config : Config) (process : Nat) :
    Automaton SiteRequest SiteAnswer Exchanges where
  permits told request := ∀ number sha, request = .outside (.merge number sha) →
    MergeChecked library config process told number sha
  after told request answer := told ++ [⟨request, answer⟩]

theorem merge_request {asked : SupervisorRequest} {number : Int} {sha : String}
    (steps : asked.Steps library process (.outside (.merge number sha))) :
    asked = .outside (.merge number sha) := by
  cases asked with
  | outside asked =>
      rcases outside_steps steps with same | same | ⟨_, _, same⟩ | same | ⟨_, _, same⟩ <;> cases same
      rfl
  | store call => rcases steps with same | same | same <;> cases same

theorem merging_permits {asked : SupervisorRequest}
    (other : ∀ number sha, asked ≠ .outside (.merge number sha)) :
    Permits (merging library config process) library process asked := by
  rintro _ step steps number sha rfl
  exact absurd (merge_request steps) (other number sha)

theorem merging_free : Unrestrictive (merging library config process) library config process := by
  intro asked ordinary
  apply merging_permits
  rintro number sha rfl
  exact ordinary

/-- What a plan that is verified for a merge says of the pull request. -/
theorem verifyMergePlan_ready {fresh : PullRequest} {payload headSha : Value} {told : Exchanges}
    (read : payload.get "head_sha" = some headSha)
    (verified : Reaches (stepsOf library process (verifyMergePlan library fresh payload false)) told
      (.done (.ok ()))) : ReadyToMerge fresh (library.str headSha) := by
  unfold verifyMergePlan at verified
  rcases reaches_expandDone verified with ⟨early, late, value, rfl, reads, goes⟩
  unfold field at reads
  rw [read] at reads
  rcases reaches_done reads with ⟨_, same⟩
  cases same
  split at goes
  · cases (reaches_done goes).2
  · next head =>
    split at goes
    · cases (reaches_done goes).2
    · next opened =>
      split at goes
      · cases (reaches_done goes).2
      · next passed =>
        split at goes
        · cases (reaches_done goes).2
        · next mergeable =>
          split at goes
          · cases (reaches_done goes).2
          · next ready =>
            split at goes
            · next settled =>
              refine ⟨not_not.mp head, not_not.mp opened, not_not.mp passed, not_not.mp mergeable,
                by simpa using ready, ?_⟩
              simpa [allowedMergeStates] using settled
            · cases (reaches_done goes).2

theorem mergeGates_ready {fresh : PullRequest} {payload headSha : Value} {told : Exchanges}
    (read : payload.get "head_sha" = some headSha)
    (verified : Reaches (stepsOf library process (mergeGates library config fresh payload actor))
      told (.done (.ok ()))) : ReadyToMerge fresh (library.str headSha) := by
  unfold mergeGates at verified
  split at verified
  · rcases reaches_expandDone verified with ⟨_, _, _, _, plan, _⟩
    exact verifyMergePlan_ready read plan
  · exact verifyMergePlan_ready read verified

theorem mergeGates_ordinary (fresh : PullRequest) (payload : Value) (actor : String) :
    OnlyAsks (Ordinary config) (mergeGates library config fresh payload actor).run := by
  unfold mergeGates
  split
  · exact verifyAutonomousMerge_ordinary _ _ _
  · exact verifyMergePlan_ordinary _ _ _

/-- Ordinary steps are recorded as they are made. -/
theorem follows_recorded {α : Type} {body : SupervisorM α}
    (only : OnlyAsks (Ordinary config) body.run) (told : Exchanges) :
    Follows (merging library config process).move
      (fun after result => ∃ more, after = told ++ more ∧
        Reaches (stepsOf library process body) more (.done result)) told
      (stepsOf library process body) := by
  refine follows_traced (fun _ _ _ => rfl) ?_ told
  refine onlyAsks_expandOnly (fun asked ordinary => ?_) only
  apply (siteSteps_steps process asked).mono
  intro step steps role
  exact merging_free asked ordinary role step steps

/-- The end of `mergeApproved`: the verification, and the merge. -/
theorem verifiedMerge_merging {number : Int} {fresh : PullRequest} {payload : Value}
    {told earlier : Exchanges}
    (shown : told = earlier ++ [⟨.outside (.pullRequest number), .ok fresh⟩]) :
    Follows (merging library config process).move (fun _ _ => True) told
      (stepsOf library process (do
        mergeGates library config fresh payload actor
        let headSha ← field payload "head_sha"
        attempt (world (.merge number (library.str headSha)))
        return fresh)) := by
  refine follows_expandBind (follows_recorded (mergeGates_ordinary fresh payload actor) told) ?_
    (fun _ _ _ => trivial)
  rintro after ⟨⟩ ⟨checks, rfl, verified⟩
  apply follows_field
  · intro headSha read answer
    refine ⟨_, ⟨?_, rfl⟩, ?_⟩
    · rintro _ _ ⟨⟩
      exact ⟨earlier, fresh, payload, actor, checks, by simp [shown], verified,
        mergeGates_ready read verified⟩
    · cases answer <;> trivial
  · trivial

theorem mergeApproved_merging (pr : PullRequest) (payload : Value) (actor : String) :
    Roams (merging library config process) library process
      (mergeApproved library config pr payload actor) := by
  refine merging_free.thenRoams (planNumber_ordinary _) fun number => ?_
  extract_lets merged
  have continues : ∀ r, Roams (merging library config process) library process (merged r) := by
    intro _ told
    have reading : OnlyAsks (Ordinary config)
        (attempt (world (.pullRequest number)) : SupervisorM PullRequest).run :=
      only_attempt (only_world trivial)
    refine follows_expandBind (follows_recorded reading told) ?_ (fun _ _ _ => trivial)
    rintro after fresh ⟨more, rfl, read⟩
    have shown : more = [⟨.outside (.pullRequest number), .ok fresh⟩] := by
      rcases reaches_ask read with ⟨_, same⟩ | ⟨answer, rest, rfl, ends⟩
      · cases same
      · cases answer with
        | error raised => cases (reaches_done ends).2
        | ok other =>
            rcases reaches_done ends with ⟨rfl, same⟩
            cases same
            rfl
    extract_lets finish
    split
    · next policy =>
      have gates : mergeGates library config fresh payload actor =
          verifyAutonomousMerge library config fresh payload false := if_pos policy
      rw [← gates]
      exact verifiedMerge_merging (by rw [shown])
    · next operator =>
      have gates : mergeGates library config fresh payload actor =
          verifyMergePlan library fresh payload false := if_neg operator
      rw [← gates]
      exact verifiedMerge_merging (by rw [shown])
  split
  · exact merging_free.thenRoams (only_attempt (only_world trivial)) continues
  · exact continues ()

theorem queueNextIssue_merging (depth : Nat) (completedIssue : Option Int)
    (operatorApproved : Bool) :
    Roams (merging library config process) library process
      (queueNextIssue library config depth completedIssue operatorApproved) :=
  queueNextIssue_roams merging_free
    (startIssue_roams merging_free (fun _ _ _ => merging_permits nofun)
      (fun _ => merging_permits nofun))
    (fun _ queue _ _ =>
      transitionMilestone_roams merging_free (fun _ _ _ _ => merging_permits nofun) queue _ _)
    depth completedIssue operatorApproved

theorem body_merging (task : Task) :
    Roams (merging library config task.process) library task.process
      (task.duty.body library config) := by
  have transition : ∀ payload actor, Roams (merging library config task.process) library
      task.process (transitionMilestone library config
        (queueNextIssue library config library.recursionLimit none false) payload actor) :=
    transitionMilestone_roams merging_free (fun _ _ _ _ => merging_permits nofun)
      (queueNextIssue_merging _ _ _)
  have rollover : ∀ approvalId actor, Roams (merging library config task.process) library
      task.process (approveMilestoneRollover library config approvalId actor) :=
    approveMilestoneRollover_roams merging_free (fun _ _ => merging_permits nofun) transition
  have approves : ∀ approvalId actor, Roams (merging library config task.process) library
      task.process (approve library config approvalId actor) := fun approvalId actor =>
    approve_roams merging_free (mergeApproved_merging · · actor) (queueNextIssue_merging _ · _)
      approvalId
  have callbacks : ∀ token actor, Roams (merging library config task.process) library task.process
      (executeCallback library config token actor) := fun token actor =>
    executeCallback_roams merging_free (fun _ _ => merging_permits nofun)
      (fun row pr => performCallback_roams merging_free (fun _ _ => merging_permits nofun) row actor
        pr (performApproval_roams merging_free (rollover · actor) (approves · actor) row pr)) token
  exact body_roams merging_free (queueNextIssue_merging _)
    (offerMilestoneRollover_roams merging_free (fun _ _ => transition _ _)) approves task.duty
    (fun approvalId actor _ => rollover approvalId actor) (fun token actor _ => callbacks token actor)
    (fun _ _ _ => merging_permits nofun)

/-- Every merge of a run was verified right before. -/
theorem merge_checked (reached : (processes library config start).Reachable allowed log pool)
    {before after : SiteLog} {entry : Entry Task SiteRequest SiteAnswer} {number : Int}
    {sha : String} (split : log = before ++ entry :: after)
    (asked : entry.request = .outside (.merge number sha)) :
    MergeChecked library config entry.label.process (own before entry.thread) number sha := by
  let checks : Discipline (processes library config start) :=
    ⟨fun task => (merging library config task.process).permits, fun _ _ _ => True,
      fun task => body_merging task []⟩
  rcases checks.reachable_split reached split with ⟨_, _, _, _, legal⟩
  exact legal number sha asked

/-! ## Rows over a run -/

/-- A consumption that succeeded updated one row. -/
theorem consumption_counted (reached : (processes library config start).Reachable allowed log pool)
    {before after : SiteLog} {entry : Entry Task SiteRequest SiteAnswer} {hash : String} {now : Int}
    (split : log = before ++ entry :: after) (told : entry.exchange = consumption hash now actor) :
    entry.request = .change (.consumeToken hash now actor) ∧
      (siteAfter library start before).database.callbackTokens.countP
        (Database.isOpen hash now) = 1 := by
  rcases reachable_answered reached split with ⟨_, offer, replied⟩
  rcases entry with ⟨thread, task, request, answer⟩
  cases told
  simpa [Site.reply, Database.write] using replied

/-- A row that was consumed is the row of the token for good. -/
theorem spent_row (keyed : Keyed start) {before : SiteLog}
    {entry : Entry Task SiteRequest SiteAnswer} {hash : String} {now : Int}
    (asked : entry.request = .change (.consumeToken hash now actor))
    (counted : (siteAfter library start before).database.callbackTokens.countP
      (Database.isOpen hash now) = 1) (later : SiteLog) :
    ∃ row, row.consumedAt = some now ∧
      (siteAfter library start (before ++ entry :: later)).database.callbackToken hash =
        some row := by
  rcases consumed_row library (siteAfter_keyed library keyed before) counted actor with
    ⟨row, _, _, _, closed⟩
  have kept : Keyed ((siteAfter library start before).effect library entry.request) :=
    effect_keyed library (siteAfter_keyed library keyed before) _
  rw [← asked] at closed
  rcases siteAfter_token library kept closed later with ⟨last, found, same | ⟨fresh, _⟩⟩
  · refine ⟨{ row with consumedAt := some now, consumedBy := some actor }, rfl, ?_⟩
    have parts : before ++ entry :: later = (before ++ [entry]) ++ later := by simp
    rw [parts, siteAfter_append, siteAfter_concat, found, same]
  · cases fresh

/-- What a call has read of a token, and where in the run. -/
theorem token_read (reached : (processes library config start).Reachable allowed log pool)
    {before rest : SiteLog} (split : log = before ++ rest) {index : Nat} {told later : Exchanges}
    {hash : String} {row : TokenRow}
    (parts : own before index = told ++ ⟨.query (.callbackToken hash), some row⟩ :: later) :
    ∃ first entry last, before = first ++ entry :: last ∧
      (siteAfter library start first).database.callbackToken hash = some row := by
  have shown : (own before index).filterMap some =
      told ++ ⟨.query (.callbackToken hash), some row⟩ :: later := by
    rw [List.filterMap_some, parts]
  rcases Machine.own_shown_split shown with ⟨first, entry, last, rfl, _, same, _⟩
  refine ⟨first, entry, last, rfl, ?_⟩
  have whole : log = first ++ entry :: (last ++ rest) := by simp [split]
  rcases reachable_answered reached whole with ⟨_, offer, replied⟩
  rcases entry with ⟨thread, task, request, answer⟩
  cases same
  simpa [Site.reply, Database.read] using replied

/-- A row that is still fresh is the row that was read. -/
theorem read_fresh (keyed : Keyed start)
    (reached : (processes library config start).Reachable allowed log pool)
    {before rest : SiteLog} (split : log = before ++ rest) {index : Nat} {told later : Exchanges}
    {hash : String} {row last : TokenRow}
    (parts : own before index = told ++ ⟨.query (.callbackToken hash), some row⟩ :: later)
    (found : (siteAfter library start before).database.callbackToken hash = some last)
    (fresh : last.consumedAt = none) : row = last := by
  rcases token_read reached split parts with ⟨first, entry, rest', rfl, read⟩
  rcases siteAfter_token library (siteAfter_keyed library keyed first) read (entry :: rest')
    with ⟨other, known, same | ⟨_, consumed⟩⟩
  · rw [siteAfter_append, known] at found
    rw [← same]
    exact Option.some.inj found
  · rw [siteAfter_append, known] at found
    cases found
    rw [fresh] at consumed
    cases consumed

/-- The row that a call read after it had consumed the token stays the token's. -/
theorem spent_kept (keyed : Keyed start)
    (reached : (processes library config start).Reachable allowed log pool)
    {before rest : SiteLog} (split : log = before ++ rest) {index : Nat} {told later : Exchanges}
    {hash : String} {now : Int} {row : TokenRow}
    (parts : own before index = told ++ consumption hash now actor ::
      ⟨.query (.callbackToken hash), some row⟩ :: later) :
    (siteAfter library start before).database.callbackToken hash = some row := by
  have shown : (own before index).filterMap some = told ++ consumption hash now actor ::
      ⟨.query (.callbackToken hash), some row⟩ :: later := by
    rw [List.filterMap_some, parts]
  rcases Machine.own_shown_split shown with ⟨first, entry, last, rfl, _, same, others⟩
  have whole : log = first ++ entry :: (last ++ rest) := by simp [split]
  rcases consumption_counted reached whole (Option.some.inj same) with ⟨asked, counted⟩
  rw [List.filterMap_some] at others
  have again : own (first ++ entry :: last) index = own (first ++ [entry]) index ++
      ⟨.query (.callbackToken hash), some row⟩ :: later := by
    have regrouped : first ++ entry :: last = (first ++ [entry]) ++ last := by simp
    rw [regrouped, own_append, others]
  have shownLast : (own last index).filterMap some = [] ++
      ⟨.query (.callbackToken hash), some row⟩ :: later := by
    rw [List.filterMap_some, others]
    rfl
  rcases Machine.own_shown_split shownLast with ⟨middle, reading, tail, rfl, _, read, _⟩
  have split' : log = (first ++ entry :: middle) ++ reading :: (tail ++ rest) := by simp [split]
  rcases reachable_answered reached split' with ⟨_, offer, replied⟩
  rcases spent_row keyed asked counted middle with ⟨spent, consumed, found⟩
  have known : spent = row := by
    rcases reading with ⟨thread, task, request, answer⟩
    cases read
    simp only [Site.reply, Database.read, found, Option.some.injEq] at replied
    exact replied
  subst known
  rcases siteAfter_token library (siteAfter_keyed library keyed _) found (reading :: tail) with
    ⟨other, kept, same | ⟨fresh, _⟩⟩
  · have regrouped : first ++ entry :: (middle ++ reading :: tail) =
        (first ++ entry :: middle) ++ reading :: tail := by simp
    rw [regrouped, siteAfter_append, kept, same]
  · rw [consumed] at fresh
    cases fresh

/-! ## The stages of a callback in a run -/

theorem callback_stage (reached : (processes library config start).Reachable allowed log pool)
    {before after : SiteLog} {entry : Entry Task SiteRequest SiteAnswer}
    (split : log = before ++ entry :: after)
    (label : entry.label = ⟨process, .callback token actor⟩) :
    ∃ next, Reaches (stepsOf library process (executeCallback library config token actor))
      (own before entry.thread) (.ask entry.request next) := by
  have stage := Machine.reachable_stage reached split
  rw [label] at stage
  exact stage

/-- The checks of a callback consume nothing. -/
theorem prepared_unspent {candidate : TokenRow} {checks : Exchanges}
    {rest : SiteProgram (Except Raised (Option PullRequest))}
    (ran : Reaches (stepsOf library process (prepareCallback library config candidate)) checks rest)
    (hash : String) (now : Int) : consumption hash now actor ∉ checks := by
  intro member
  have only : OnlyAsks Prepares (stepsOf library process
      (prepareCallback library config candidate)) := prepareCallback_prepares candidate
  exact only.reached ran _ member

/-- Only a callback consumes, and only once its checks are over. -/
theorem consumed_after_checks (keyed : Keyed start)
    (reached : (processes library config start).Reachable allowed log pool)
    {before after : SiteLog} {entry : Entry Task SiteRequest SiteAnswer} {hash : String} {now : Int}
    (split : log = before ++ entry :: after) (told : entry.exchange = consumption hash now actor) :
    ∃ process token row checks pr time, entry.label = ⟨process, .callback token actor⟩ ∧
      hash = library.tokenHash token ∧ now = seconds time ∧
      (siteAfter library start before).database.callbackToken hash = some row ∧
      Consumable row actor now ∧
      own before entry.thread =
        ⟨.query (.callbackToken hash), some row⟩ :: checks ++ consulted hash time row ∧
      Reaches (stepsOf library process (prepareCallback library config row)) checks
        (.done (.ok pr)) := by
  rcases consumption_counted reached split told with ⟨asked, counted⟩
  rcases consumed_row library (siteAfter_keyed library keyed before) counted actor with
    ⟨row, found, fresh, _, _⟩
  have callback : ∃ process token other, entry.label = ⟨process, .callback token other⟩ := by
    by_contra none
    rcases Machine.reachable_stage reached split with ⟨next, stage⟩
    have other : ∀ token actor, entry.label.duty ≠ .callback token actor :=
      fun token actor same => none ⟨entry.label.process, token, actor, by rw [← same]⟩
    have roams : Roams sparing library entry.label.process (entry.label.duty.body library config) :=
      body_sparing other
    rcases follows_next (roams ()) stage entry.answer with ⟨_, spared⟩
    exact spared _ _ _ asked
  rcases callback with ⟨process, token, other, label⟩
  rcases callback_stage reached split label with ⟨next, stage⟩
  rcases callback_asks stage with ⟨_, same⟩ | ⟨candidate, rest, parts, ⟨others, prepares⟩ |
    ⟨checks, pr, later, rfl, passed, ⟨others, consumes⟩ |
      ⟨consumed, spent, performed, others, rfl, _, performs⟩⟩⟩
  · rw [asked] at same
    cases same
  · have prepared := (prepareCallback_prepares candidate).next prepares
    rw [asked] at prepared
    exact prepared.elim
  · rcases consume_asks consumes with ⟨_, same⟩ | ⟨_, _, same⟩ | ⟨time, read, consumable,
      ⟨rfl, same⟩ | ⟨_, same⟩⟩
    · rw [asked] at same
      cases same
    · rw [asked] at same
      cases same
    · rw [asked] at same
      cases same
      have opening : own before entry.thread = [] ++
          ⟨.query (.callbackToken (library.tokenHash token)), some candidate⟩ ::
            (checks ++ consulted (library.tokenHash token) time read) := parts
      have candidateRow : candidate = row := read_fresh keyed reached split opening found fresh
      have again : own before entry.thread = (⟨.query (.callbackToken (library.tokenHash token)),
          some candidate⟩ :: checks ++ [⟨.outside .now, time⟩]) ++
          ⟨.query (.callbackToken (library.tokenHash token)), some read⟩ :: [] := by
        rw [parts]
        simp [consulted]
      have readRow : read = row := read_fresh keyed reached split again found fresh
      subst candidateRow
      subst readRow
      exact ⟨process, token, _, checks, pr, time, label, rfl, rfl, found, consumable, parts, passed⟩
    · rw [asked] at same
      cases same
  · rcases follows_next (performCallback_sparing spent pr ()) performs entry.answer with ⟨_, spared⟩
    exact absurd asked (spared _ _ _)

theorem consumed_once (keyed : Keyed start)
    (reached : (processes library config start).Reachable allowed log pool)
    {before middle after : SiteLog} {first second : Entry Task SiteRequest SiteAnswer}
    {hash actor' : String} {now now' : Int}
    (split : log = before ++ first :: (middle ++ second :: after))
    (spent : first.exchange = consumption hash now actor) :
    second.exchange ≠ consumption hash now' actor' := by
  intro again
  have parts : log = (before ++ first :: middle) ++ second :: after := by simp [split]
  have earlier := consumption_counted reached split spent
  have later := consumption_counted reached parts again
  rcases spent_row keyed earlier.1 earlier.2 middle with ⟨row, consumed, found⟩
  rcases consumed_row library (siteAfter_keyed library keyed _) later.2 actor' with
    ⟨other, known, fresh, _, _⟩
  rw [found] at known
  cases known
  rw [consumed] at fresh
  cases fresh

/-- Before its consumption a callback only prepares. -/
theorem unspent_asks (reached : (processes library config start).Reachable allowed log pool)
    {before after : SiteLog} {entry : Entry Task SiteRequest SiteAnswer}
    (split : log = before ++ entry :: after)
    (label : entry.label = ⟨process, .callback token actor⟩)
    (unspent : ¬ Spent library token actor (own before entry.thread)) :
    Prepares entry.request ∨
      ∃ now, entry.request = .change (.consumeToken (library.tokenHash token) now actor) := by
  rcases callback_stage reached split label with ⟨next, stage⟩
  rcases callback_asks stage with ⟨_, same⟩ | ⟨candidate, rest, parts, ⟨others, prepares⟩ |
    ⟨checks, pr, later, rfl, passed, ⟨others, consumes⟩ |
      ⟨consumed, spent, performed, others, rfl, done, _⟩⟩⟩
  · rw [same]
    exact .inl trivial
  · exact .inl ((prepareCallback_prepares candidate).next prepares)
  · rcases consume_asks consumes with ⟨_, same⟩ | ⟨_, _, same⟩ | ⟨time, read, consumable,
      ⟨_, same⟩ | ⟨_, same⟩⟩
    · rw [same]
      exact .inl trivial
    · rw [same]
      exact .inl trivial
    · exact .inr ⟨_, same⟩
    · rw [same]
      exact .inl trivial
  · rcases consume_done done with ⟨time, row, _, rfl⟩
    refine absurd ⟨seconds time, ?_⟩ unspent
    rw [parts]
    simp

theorem unspent_untouched (keyed : Keyed start)
    (reached : (processes library config start).Reachable allowed log pool)
    {before after : SiteLog} {entry : Entry Task SiteRequest SiteAnswer}
    (split : log = before ++ entry :: after)
    (label : entry.label = ⟨process, .callback token actor⟩)
    (unspent : ¬ Spent library token actor (own (before ++ [entry]) entry.thread)) :
    Untouched (siteAfter library start before) (siteAfter library start (before ++ [entry])) := by
  rw [own_concat_self] at unspent
  have earlier : ¬ Spent library token actor (own before entry.thread) :=
    fun ⟨now, member⟩ => unspent ⟨now, List.mem_append_left _ member⟩
  rw [siteAfter_concat]
  rcases unspent_asks reached split label earlier with prepares | ⟨now, asked⟩
  · exact prepares.untouched _
  · rcases reachable_answered reached split with ⟨_, offer, replied⟩
    rcases entry with ⟨thread, task, request, answer⟩
    cases asked
    have counted : answer = .ok ((siteAfter library start before).database.callbackTokens.countP
        (Database.isOpen (library.tokenHash token) now)) := by
      simp only [Site.reply, Database.write, Option.some.injEq] at replied
      exact replied.symm
    have none : (siteAfter library start before).database.callbackTokens.countP
        (Database.isOpen (library.tokenHash token) now) = 0 := by
      have most := countP_isOpen_le (siteAfter_keyed library keyed before)
        (library.tokenHash token) now
      have other : (siteAfter library start before).database.callbackTokens.countP
          (Database.isOpen (library.tokenHash token) now) ≠ 1 := by
        intro one
        refine unspent ⟨now, List.mem_append_right _ ?_⟩
        rw [List.mem_singleton, Entry.exchange, counted, one]
        rfl
      omega
    refine ⟨?_, rfl⟩
    rw [Site.effect_tokens]
    refine (List.map_congr_left fun row member => ?_).trans (List.map_id _)
    have closed := List.countP_eq_zero.mp none row member
    simp [closed]

/-- After its consumption a callback performs the action of the row that it consumed. -/
theorem spent_asks (keyed : Keyed start)
    (reached : (processes library config start).Reachable allowed log pool)
    {before after : SiteLog} {entry : Entry Task SiteRequest SiteAnswer}
    (split : log = before ++ entry :: after)
    (label : entry.label = ⟨process, .callback token actor⟩)
    (consumed : Spent library token actor (own before entry.thread)) :
    entry.request = .query (.callbackToken (library.tokenHash token)) ∨
      ∃ checks spent pr rest next,
        (siteAfter library start before).database.callbackToken (library.tokenHash token) =
          some spent ∧
        own before entry.thread = checks ++ rest ∧ Spent library token actor checks ∧
        Reaches (stepsOf library process (performCallback library config spent actor pr)) rest
          (.ask entry.request next) := by
  rcases consumed with ⟨now, member⟩
  rcases callback_stage reached split label with ⟨next, stage⟩
  rcases callback_asks stage with ⟨_, same⟩ | ⟨candidate, rest, parts, ⟨others, prepares⟩ |
    ⟨checks, pr, later, rfl, passed, ⟨others, consumes⟩ |
      ⟨consumed, spent, performed, others, rfl, done, performs⟩⟩⟩
  · exact .inl same
  · rw [parts, List.mem_cons] at member
    rcases member with same | inside
    · cases same
    · exact absurd inside (prepared_unspent prepares _ _)
  · rcases consume_asks consumes with ⟨rfl, same⟩ | ⟨time, rfl, same⟩ | ⟨time, read, consumable,
      ⟨rfl, same⟩ | ⟨_, same⟩⟩
    · rw [parts, List.append_nil, List.mem_cons] at member
      rcases member with same | inside
      · cases same
      · exact absurd inside (prepared_unspent passed _ _)
    · exact .inl same
    · rw [parts, List.mem_cons, List.mem_append] at member
      rcases member with same | inside | last
      · cases same
      · exact absurd inside (prepared_unspent passed _ _)
      · simp [consulted, consumption] at last
    · exact .inl same
  · rcases consume_done done with ⟨time, row, consumable, rfl⟩
    refine .inr ⟨⟨.query (.callbackToken (library.tokenHash token)), some candidate⟩ :: checks ++
      (consulted (library.tokenHash token) time row ++
        [consumption (library.tokenHash token) (seconds time) actor,
          ⟨.query (.callbackToken (library.tokenHash token)), some spent⟩]), spent, pr, performed,
      others, ?_, ?_, ⟨seconds time, by simp⟩, performs⟩
    · have reread : own before entry.thread =
          (⟨.query (.callbackToken (library.tokenHash token)), some candidate⟩ :: checks ++
            consulted (library.tokenHash token) time row) ++
          consumption (library.tokenHash token) (seconds time) actor ::
            ⟨.query (.callbackToken (library.tokenHash token)), some spent⟩ :: performed := by
        rw [parts]
        simp
      exact spent_kept keyed reached split reread
    · rw [parts]
      simp

/-- In every run a token is consumed and performed at most once, by whom and when it may be,
and after every check of its approval. -/
theorem tokens_spent (keyed : Keyed start)
    (reached : (processes library config start).Reachable allowed log pool) :
    TokensSpent library config start log where
  once _ _ _ _ _ _ _ _ _ _ split spent := consumed_once keyed reached split spent
  consumed _ _ _ _ _ _ split told := consumed_after_checks keyed reached split told
  guarded _ _ _ _ _ _ split label unspent := unspent_asks reached split label unspent
  untouched _ _ _ _ _ _ split label unspent := unspent_untouched keyed reached split label unspent
  performed _ _ _ _ _ _ split label consumed := spent_asks keyed reached split label consumed
  merged _ _ _ _ _ split asked := merge_checked reached split asked

/-! ## A script -/

/-- The token of the button that defers a pending rollover. -/
def deferral : TokenRow where
  tokenHash := "token"
  approvalId := some "apr-id"
  action := "stay-milestone"
  actor := some "operator"
  payload := .obj []
  createdAt := 900
  expiresAt := 4500
  consumedAt := none
  consumedBy := none

def deferralSite : Site :=
  ⟨{ Database.empty with approvals := [pendingRollover], callbackTokens := [deferral] }, .none,
    fun _ => migrationPolicy plainLibrary.policies⟩

def pressesButton : List SiteAction :=
  [.receive ⟨0, .callback "token" "operator"⟩] ++ List.replicate 45 (.advance 1 completed)

/-- The token of a deferral is consumed, and the rollover deferred. -/
theorem tokens_spent_deferral : ∃ log pool,
    (processes plainLibrary rolloverConfig deferralSite).Reachable (fun _ _ => True) log pool ∧
      pool.shared.database.settings "paused" = some "true" ∧
      TokensSpent plainLibrary rolloverConfig deferralSite log := by
  have played : (playSite plainLibrary rolloverConfig deferralSite (fun _ _ => true)
      pressesButton).any
      (fun run => run.2.shared.database.settings "paused" = some "true") = true := by
    decide +kernel
  obtain ⟨⟨log, pool⟩, run, deferred⟩ := (Option.any_eq_true _ _).mp played
  have reached : (processes plainLibrary rolloverConfig deferralSite).Reachable (fun _ _ => True)
      log pool := reachable_playSite (fun _ _ _ => trivial) run
  have keyed : Keyed deferralSite := List.nodup_singleton _
  exact ⟨log, pool, reached, of_decide_eq_true deferred, tokens_spent keyed reached⟩

end FortifyLab.Supervisor
