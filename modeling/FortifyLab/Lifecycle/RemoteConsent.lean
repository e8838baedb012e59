import FortifyLab.Lifecycle.TokenRuns

/-! What a returned token stands for: one use at a time, one use in all unless a port was out,
and only what it was issued for; a plan that was sent out is acted on by one thread. -/

namespace FortifyLab.Lifecycle

open Registry Authorization Program

variable {remote : RemoteActions} {settings : Settings} {supply : Nat → String}
  {allowed : RemotePool → RemoteAction → Prop} {log before after : List RemoteEntry}
  {pool : RemotePool} {entry : RemoteEntry}

/-- An entry claims the token of a hash. -/
def ClaimsToken (entry : RemoteEntry) (hash : String) : Prop :=
  entry.exchange = ⟨.claim hash, true⟩

/-- A port that was out. -/
def PortOut (entry : RemoteEntry) : Prop :=
  (∃ incidentId actor, entry.exchange = ⟨.acknowledge incidentId actor, .error .outage⟩) ∨
    ∃ actor, entry.exchange = ⟨.pause actor, .error .outage⟩

theorem ClaimsToken.usage {hash : String} (claims : ClaimsToken entry hash) :
    tokenUsage hash entry = some (.taken entry.thread) := by
  rcases entry with ⟨thread, call, request, answer⟩
  have asked : (⟨request, answer⟩ : Exchange ActionRequest ActionAnswer) =
      ⟨.claim hash, true⟩ := claims
  cases asked
  simp [tokenUsage]

theorem portOut_of_shows (shows : Teaches entry.exchange .outage) : PortOut entry := by
  unfold PortOut
  generalize entry.exchange = exchange at shows
  cases shows with
  | unacknowledged incidentId actor => exact .inl ⟨incidentId, actor, rfl⟩
  | unpaused actor => exact .inr ⟨actor, rfl⟩

theorem found_exchange {hash : String} {row : CallbackRow}
    {exchange : Exchange ActionRequest ActionAnswer} (shows : Teaches exchange (.found hash row)) :
    exchange = ⟨.findCallback hash, some row⟩ := by
  cases shows
  rfl

theorem timed_exchange {now : Instant} {exchange : Exchange ActionRequest ActionAnswer}
    (shows : Teaches exchange (.timed now)) : exchange = ⟨.clock, now⟩ := by
  cases shows
  rfl

theorem claimed_exchange {hash : String} {exchange : Exchange ActionRequest ActionAnswer}
    (shows : Teaches exchange (.claimed hash)) : exchange = ⟨.claim hash, true⟩ := by
  cases shows
  rfl

theorem offered_by {row : CallbackRow} {planId : ApprovalId}
    (inserts : entry.request = .insertCallback row) (approves : row.action = "approve")
    (named : row.reference = planId) : offeredPlan entry = some planId := by
  rcases entry with ⟨thread, call, request, answer⟩
  have asked : request = .insertCallback row := inserts
  subst asked
  rw [← named]
  exact if_pos approves

/-- Between two claims of a token the first claimer gave it back, because a port was out. -/
theorem claimed_again (reached : (remoteManager remote settings supply).Reachable allowed log pool)
    {hash : String} {first second : RemoteEntry} {middle : List RemoteEntry}
    (split : log = before ++ first :: middle ++ second :: after)
    (claims : ClaimsToken first hash) (again : ClaimsToken second hash) :
    ∃ finish ∈ middle, finish.thread = first.thread ∧ finish.request = .finish hash true ∧
      ∃ port ∈ before ++ first :: middle, port.thread = first.thread ∧ PortOut port := by
  rcases (reachable_tokens reached).turns hash with ⟨standing, turns, _⟩
  have parts : log.filterMap (tokenUsage hash) =
      before.filterMap (tokenUsage hash) ++ .taken first.thread ::
        middle.filterMap (tokenUsage hash) ++ .taken second.thread ::
        after.filterMap (tokenUsage hash) := by
    rw [split, List.filterMap_append, List.filterMap_append, List.filterMap_cons_some claims.usage,
      List.filterMap_cons_some again.usage]
  rcases List.mem_filterMap.mp (turns.between parts) with ⟨finish, member, uses⟩
  generalize known : first.thread = thread at uses
  cases usesToken_of_usage uses with
  | returned _ call =>
      rcases List.append_of_mem member with ⟨early, late, rfl⟩
      refine ⟨_, member, rfl, rfl, ?_⟩
      have cut : log = (before ++ first :: early) ++ ⟨thread, call, .finish hash true, ()⟩ ::
          (late ++ second :: after) := by simp [split]
      rcases reachable_mayAsk reached cut with
        ⟨order, token, identity, row, called, now, marks, _, _⟩
      have shown : TokenMark.outage ∈
          (own (before ++ first :: early) thread).filterMap (tokenMark call) := by
        have shows := marks
        dsimp only at shows
        simp [shows]
      rcases shown_by shown with ⟨port, portIn, same, out⟩
      refine ⟨port, ?_, same, portOut_of_shows out⟩
      rw [← List.cons_append, ← List.append_assoc]
      exact List.mem_append_left _ portIn

/-- A token for anything but a port is claimed once. -/
theorem claimed_once (reached : (remoteManager remote settings supply).Reachable allowed log pool)
    {hash : String} {row : CallbackRow} (there : pool.shared.callback? hash = some row)
    (other : row.action ∉ portActions) {first second : RemoteEntry} (firstIn : first ∈ log)
    (secondIn : second ∈ log) (claims : ClaimsToken first hash)
    (again : ClaimsToken second hash) : first = second := by
  have story := (reachable_tokens reached).rows
  have never : ∀ {before middle after : List RemoteEntry} {left right : RemoteEntry},
      log = before ++ left :: middle ++ right :: after → ClaimsToken left hash →
      ClaimsToken right hash → False := by
    intro before middle after left right split leftClaims rightClaims
    rcases claimed_again reached split leftClaims rightClaims with ⟨finish, member, _, asks, _⟩
    have inLog : finish ∈ log := by simp [split, member]
    rcases story.returned finish inLog hash asks with ⟨same, present, port⟩
    rw [there] at present
    cases present
    exact other port
  by_contra different
  rcases split_two firstIn secondIn different with
    ⟨front, back, split, early⟩ | ⟨front, back, split, early⟩
  · rcases List.append_of_mem early with ⟨start, middle, rfl⟩
    exact never split again claims
  · rcases List.append_of_mem early with ⟨start, middle, rfl⟩
    exact never split claims again

/-- In every run a token is claimed again only after its last claimer gave it back because a
port was out, and a token for a plan or an operation is claimed once. -/
theorem tokens_single_use
    (reached : (remoteManager remote settings supply).Reachable allowed log pool) (hash : String) :
    (∀ before first middle second after, log = before ++ first :: middle ++ second :: after →
      ClaimsToken first hash → ClaimsToken second hash →
      ∃ finish ∈ middle, finish.thread = first.thread ∧ finish.request = .finish hash true ∧
        ∃ port ∈ before ++ first :: middle, port.thread = first.thread ∧ PortOut port) ∧
    (∀ row, pool.shared.callback? hash = some row → row.action ∉ portActions →
      ∀ first ∈ log, ∀ second ∈ log, ClaimsToken first hash → ClaimsToken second hash →
      first = second) := by
  constructor
  · intro before first middle second after split claims again
    exact claimed_again reached split claims again
  · intro row there other first firstIn second secondIn claims again
    exact claimed_once reached there other firstIn secondIn claims again

/-! ## A run -/

/-- A service with both ports. -/
def mobile : RemoteActions where
  authorization := ⟨600000000, 300000000, String.ofList⟩
  webBase := "https://lab"
  timestamp := toString
  incidentPort := true
  automationPort := true
  callbackTtl := 600000000

def tokenSupply (drawn : Nat) : String := String.ofList (List.replicate (drawn + 1) 't')

/-- A thread goes on; the incidents are out. -/
def remoteOn (thread count : Nat) (id : String) : List (RemotePool → RemoteAction) :=
  List.replicate count (fun pool => .advance thread (match pool.threads[thread]? with
    | some ⟨_, .ask (.manager request) _⟩ => .manager (.smooth id request)
    | some ⟨_, .ask (.acknowledge _ _) _⟩ => .port (.error .outage)
    | _ => .manager (.instant 0)))

def mobileManager : Machine RemoteState RemoteCall RemoteOffer ActionRequest ActionAnswer
    RemoteOutcome :=
  remoteManager mobile guardedSettings tokenSupply

def playRemote (script : List (RemotePool → RemoteAction)) :
    Option (List RemoteEntry × RemotePool) :=
  mobileManager.playLog (fun _ _ => true) [] mobileManager.initial script

theorem reachable_playRemote {script : List (RemotePool → RemoteAction)}
    (played : playRemote script = some (log, pool)) :
    mobileManager.Reachable (fun _ _ => True) log pool :=
  Machine.reachable_playLog (fun _ _ _ => trivial) script .initial played

/-- An incident's control is sent out and returned twice. -/
def acknowledgeTwice : List (RemotePool → RemoteAction) :=
  remoteOn 0 4 "" ++ [fun _ => .receive (.recoveryActions (some "incident") none operator)] ++
    remoteOn 1 5 "" ++ [fun _ => .receive (.execute .insertion "t" operator)] ++ remoteOn 2 7 "" ++
    [fun _ => .receive (.execute .insertion "t" operator)] ++ remoteOn 3 7 ""

theorem claimsToken_of_usage {hash : String} {thread : Nat}
    (uses : tokenUsage hash entry = some (.taken thread)) : ClaimsToken entry hash := by
  cases usesToken_of_usage uses
  rfl

theorem tokens_single_use_outage :
    ∃ log pool before first middle second after,
      mobileManager.Reachable (fun _ _ => True) log pool ∧
      log = before ++ first :: middle ++ second :: after ∧ ClaimsToken first "t" ∧
      ClaimsToken second "t" ∧ ∃ finish ∈ middle, finish.thread = first.thread ∧
        finish.request = .finish "t" true ∧
        ∃ port ∈ before ++ first :: middle, port.thread = first.thread ∧ PortOut port := by
  have played : (playRemote acknowledgeTwice).any (fun run =>
      decide (run.1.filterMap (tokenUsage "t") =
        [.taken 2, .returned 2, .taken 3, .returned 3])) = true := by decide +kernel
  rcases (Option.any_eq_true _ _).mp played with ⟨⟨log, pool⟩, run, uses⟩
  have reached := reachable_playRemote run
  rcases List.filterMap_eq_cons_iff.mp (of_decide_eq_true uses) with
    ⟨before, first, rest, split, _, taken, later⟩
  rcases List.filterMap_eq_cons_iff.mp later with ⟨early, finish, more, rfl, _, _, again⟩
  rcases List.filterMap_eq_cons_iff.mp again with ⟨late, second, after, rfl, _, takenAgain, _⟩
  have whole : log = before ++ first :: (early ++ finish :: (late ++ second :: after)) := split
  have parts : log = before ++ first :: (early ++ finish :: late) ++ second :: after := by
    simp [whole]
  exact ⟨log, pool, before, first, early ++ finish :: late, second, after, reached, parts,
    claimsToken_of_usage taken, claimsToken_of_usage takenAgain,
    (tokens_single_use reached "t").1 before first (early ++ finish :: late) second after parts
      (claimsToken_of_usage taken) (claimsToken_of_usage takenAgain)⟩

/-! ## What a token lets its holder do -/

/-- The requests that carry an action out. -/
def ActionRequest.acts : ActionRequest → Bool
  | .manager _ => true
  | .findPlan _ => true
  | .acknowledge _ _ => true
  | .pause _ => true
  | _ => false

/-- The request belongs to the action of a row. -/
def ActsFor (row : CallbackRow) : ActionRequest → Prop
  | .manager _ => row.action ∈ managerActions
  | .findPlan planId => row.action = "approve" ∧ planId = row.reference
  | .acknowledge incidentId actor => row.action = "acknowledge" ∧ incidentId = row.reference ∧
      actor = row.actor
  | .pause actor => row.action = "pause" ∧ actor = row.actor
  | _ => False

theorem actsFor_of_mayAsk {sha256 : List Char → String} {order : SetOrder} {token : String}
    {identity : ActorIdentity} {marks : List TokenMark} {request : ActionRequest}
    (may : mayAsk sha256 (.execute order token identity) marks request)
    (acts : request.acts = true) :
    ∃ hash row, HasClaimed sha256 token identity marks hash row ∧ ActsFor row request := by
  cases request with
  | manager request =>
      rcases may order token identity rfl with ⟨hash, row, claimed, known⟩
      exact ⟨hash, row, claimed, known⟩
  | findPlan planId =>
      rcases may with ⟨_, _, _, hash, row, same, claimed, approve, reference⟩
      cases same
      exact ⟨hash, row, claimed, approve, reference⟩
  | acknowledge incidentId actor =>
      rcases may with ⟨_, _, _, hash, row, same, claimed, action, reference, actor⟩
      cases same
      exact ⟨hash, row, claimed, action, reference, actor⟩
  | pause actor =>
      rcases may with ⟨_, _, _, hash, row, same, claimed, action, actor⟩
      cases same
      exact ⟨hash, row, claimed, action, actor⟩
  | _ => cases acts

/-- What stands behind a thread's action: a token issued to the same actor and session for
that action, which the thread claimed in time and holds. -/
structure TokenBehind (sha256 : List Char → String) (before : List RemoteEntry) (thread : Nat)
    (token : String) (identity : ActorIdentity) (hash : String) (row : CallbackRow)
    (now : Instant) : Prop where
  hashed : tokenHash sha256 token = some hash
  issued : ∃ issue ∈ before, ∃ issuer, issue.request = .insertCallback row ∧
    issue.label.identity = some issuer ∧ issuer.actor = identity.actor ∧
    issuer.sessionId = identity.sessionId
  named : row.tokenHash = hash ∧ row.actor = identity.actor ∧ row.sessionId = identity.sessionId
  timely : (∃ clock ∈ before, clock.thread = thread ∧ clock.exchange = ⟨.clock, now⟩) ∧
    now < row.expiresAt
  claimed : ∃ claim ∈ before, claim.thread = thread ∧ ClaimsToken claim hash
  held : InTurn (before.filterMap (tokenUsage hash)) (.held thread)

/-- Rows of one token in the same state are the same. -/
theorem CallbackRow.Alike.unique {stored row original : CallbackRow} (left : stored.Alike row)
    (right : stored.Alike original) (states : original.state = row.state) : original = row := by
  cases row
  cases original
  unfold CallbackRow.Alike at left right
  simp only at states
  rw [left] at right
  simp only [CallbackRow.mk.injEq] at right
  simp only [CallbackRow.mk.injEq]
  tauto

/-- What a row was issued as. -/
theorem issued_row (reached : (remoteManager remote settings supply).Reachable allowed log pool)
    {hash : String} {row : CallbackRow} (pending : row.state = .pending)
    (finder : RemoteEntry) (finderIn : finder ∈ log)
    (finds : finder.exchange = ⟨.findCallback hash, some row⟩) :
    row.tokenHash = hash ∧ ∃ issue ∈ log, ∃ issuer, issue.request = .insertCallback row ∧
      issue.label.identity = some issuer ∧ row.actor = issuer.actor ∧
      row.sessionId = issuer.sessionId := by
  have story := (reachable_tokens reached).rows
  rcases story.found finder finderIn hash row finds with ⟨stored, there, alike⟩
  rcases story.issued hash stored there with ⟨issue, issueIn, original, inserts, same⟩
  rcases List.append_of_mem issueIn with ⟨front, back, split⟩
  have legal := reachable_mayAsk reached split
  rw [inserts] at legal
  have whole : original = row := alike.unique same (legal.1.1.trans pending.symm)
  subst whole
  rcases legal.1.2 with ⟨issuer, mine, actor, session⟩
  refine ⟨?_, issue, issueIn, issuer, inserts, mine, actor, session⟩
  have hashed := RemoteState.callback?_hash there
  rw [alike] at hashed
  exact hashed

theorem token_behind
    (reached : (remoteManager remote settings supply).Reachable allowed log pool)
    (split : log = before ++ entry :: after) {order : SetOrder} {token : String}
    {identity : ActorIdentity} (called : entry.label = .execute order token identity)
    (acts : entry.request.acts = true) :
    ∃ hash row now, TokenBehind remote.authorization.sha256 before entry.thread token identity hash
      row now ∧ ActsFor row entry.request := by
  have legal := reachable_mayAsk reached split
  rw [called] at legal
  rcases actsFor_of_mayAsk legal acts with ⟨hash, row, claimed, actsFor⟩
  rcases claimed with ⟨now, marks, claimable⟩
  have follows : ∀ call, Follows (tokenObserver remote.authorization.sha256 call).move
      (fun _ _ => True) [] ((remoteManager remote settings supply).body call) :=
    RemoteCall.body_follows
  rcases (Observer.discipline follows).reachable_split reached split with ⟨earlier, _, start, _, _⟩
  have shows : ∀ mark ∈ [TokenMark.timed now, .found hash row, .claimed hash],
      ∃ shown ∈ before, shown.thread = entry.thread ∧ Teaches shown.exchange mark := by
    intro mark member
    rw [← marks] at member
    exact shown_by member
  rcases shows (.timed now) (by simp) with ⟨clock, clockIn, clockThread, timed⟩
  rcases shows (.found hash row) (by simp) with ⟨finder, finderIn, _, found⟩
  rcases shows (.claimed hash) (by simp) with ⟨claim, claimIn, claimThread, claims⟩
  rcases issued_row start claimable.pending finder finderIn (found_exchange found) with
    ⟨named, issue, issueIn, issuer, inserts, mine, actor, session⟩
  rcases (reachable_tokens start).turns hash with ⟨standing, turns, _⟩
  have finishes : Finishes remote.authorization.sha256 token identity
      ((own before entry.thread).filterMap (tokenMark (.execute order token identity))) hash row
      false := ⟨now, marks, claimable, fun impossible => (by cases impossible)⟩
  have held := holds_of_finishes finishes turns
  subst held
  refine ⟨hash, row, now, ?_, actsFor⟩
  exact {
    hashed := claimable.hashed
    issued := ⟨issue, issueIn, issuer, inserts, mine, actor.symm.trans claimable.actor,
      session.symm.trans claimable.session⟩
    named := ⟨named, claimable.actor, claimable.session⟩
    timely := ⟨⟨clock, clockIn, clockThread, timed_exchange timed⟩, claimable.timely⟩
    claimed := ⟨claim, claimIn, claimThread, claimed_exchange claims⟩
    held := turns }

/-- The incident that an `execute` acknowledges. -/
def acknowledges : RemoteEntry → Option String
  | ⟨_, .execute _ _ _, .acknowledge incidentId _, _⟩ => some incidentId
  | _ => none

theorem acknowledges_some {incidentId : String} (known : acknowledges entry = some incidentId) :
    ∃ order token identity actor, entry.label = .execute order token identity ∧
      entry.request = .acknowledge incidentId actor := by
  unfold acknowledges at known
  split at known
  · cases known
    exact ⟨_, _, _, _, rfl, rfl⟩
  · cases known

/-- A thread claimed the token that was issued for the approval of a plan. -/
def ApprovesPlan (log : List RemoteEntry) (planId : ApprovalId) (thread : Nat) : Prop :=
  ∃ claim ∈ log, ∃ issue ∈ log, ∃ row, claim.thread = thread ∧
    ClaimsToken claim row.tokenHash ∧ issue.request = .insertCallback row ∧
    row.action = "approve" ∧ row.reference = planId

/-- In every run a plan that was sent out is read only by a thread that claimed the token of
its approval, and only one thread ever does: the plan is carried out once. -/
theorem plan_approved_once
    (reached : (remoteManager remote settings supply).Reachable allowed log pool)
    (planId : ApprovalId) :
    (∀ entry ∈ log, entry.request = .findPlan planId → ApprovesPlan log planId entry.thread) ∧
    ∀ left right, ApprovesPlan log planId left → ApprovesPlan log planId right → left = right := by
  constructor
  · intro entry member asks
    rcases List.append_of_mem member with ⟨before, after, split⟩
    have legal := reachable_mayAsk reached split
    rw [asks] at legal
    rcases legal with ⟨order, token, identity, _, _, called, _⟩
    rcases token_behind reached split called (by rw [asks]; rfl) with
      ⟨hash, row, now, behind, actsFor⟩
    rw [asks] at actsFor
    rcases behind.issued with ⟨issue, issueIn, _, inserts, _⟩
    rcases behind.claimed with ⟨claim, claimIn, same, claims⟩
    rw [← behind.named.1] at claims
    refine ⟨claim, ?_, issue, ?_, row, same, claims, inserts, actsFor.1, actsFor.2.symm⟩
    · rw [split]
      exact List.mem_append_left _ claimIn
    · rw [split]
      exact List.mem_append_left _ issueIn
  · intro left right leftApproves rightApproves
    rcases leftApproves with
      ⟨claim, claimIn, issue, issueIn, row, rfl, claims, inserts, approves, named⟩
    rcases rightApproves with
      ⟨again, againIn, other, otherIn, same, rfl, claimsAgain, insertsOther, approvesOther, namedOther⟩
    have story := reachable_tokens reached
    have one : issue = other := story.plans.offer_unique issueIn otherIn
      (offered_by inserts approves named) (offered_by insertsOther approvesOther namedOther)
    subst one
    rw [inserts] at insertsOther
    cases insertsOther
    rcases story.rows.kept issue issueIn row inserts with ⟨stored, there, alike⟩
    have other : stored.action ∉ portActions := by
      rw [alike]
      simp [approves, portActions]
    rw [claimed_once reached there other claimIn againIn claims claimsAgain]

/-- The plan that an entry reads. -/
def readPlan : RemoteEntry → Option ApprovalId
  | ⟨_, _, .findPlan planId, _⟩ => some planId
  | _ => none

theorem readPlan_some {planId : ApprovalId} (known : readPlan entry = some planId) :
    entry.request = .findPlan planId := by
  unfold readPlan at known
  split at known
  · cases known
    rfl
  · cases known

/-- A plan is sent out and approved. -/
def approveStop : List (RemotePool → RemoteAction) :=
  remoteOn 0 4 "" ++
    [fun _ => .receive (.lifecyclePlan .insertion "stop" ["scancentral-sast"] operator)] ++
    remoteOn 1 11 "plan" ++ [fun _ => .receive (.execute .insertion "t" operator)] ++
    remoteOn 2 32 "operation"

theorem plan_approved_once_stop :
    ∃ log pool, mobileManager.Reachable (fun _ _ => True) log pool ∧
      ApprovesPlan log "plan" 2 ∧ ∀ other, ApprovesPlan log "plan" other → other = 2 := by
  have played : (playRemote approveStop).any (fun run =>
      run.1.any (fun entry => decide (entry.thread = 2) &&
        decide (readPlan entry = some "plan"))) = true := by decide +kernel
  rcases (Option.any_eq_true _ _).mp played with ⟨⟨log, pool⟩, run, some⟩
  rcases List.any_eq_true.mp some with ⟨entry, member, both⟩
  rcases Bool.and_eq_true_iff.mp both with ⟨mine, reads⟩
  have reached := reachable_playRemote run
  have once := plan_approved_once reached "plan"
  have approves := once.1 entry member (readPlan_some (of_decide_eq_true reads))
  rw [of_decide_eq_true mine] at approves
  exact ⟨log, pool, reached, approves, fun other again => once.2 other 2 again approves⟩

end FortifyLab.Lifecycle
