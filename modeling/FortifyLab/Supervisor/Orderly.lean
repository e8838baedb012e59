import FortifyLab.Supervisor.Walks

/-! Steps outside the explicit transactions leave the queue slot and the milestone alone; the
site after a log, and what it keeps. -/

namespace FortifyLab.Supervisor

open Program Automaton

/-! ## Steps that leave the slot and the milestone alone -/

/-- Outside the explicit transactions a step only empties the slot, and it stores no rollover
without a target. -/
def Orderly : SiteRequest → Prop
  | .change (.setSetting key value) => key ≠ "active_milestone" ∧ key ≠ "current_issue_title" ∧
      (key = "current_issue" → value = "")
  | .change (.deleteSetting _) => False
  | .change (.insertEvent row) => row.kind ≠ "issue.selected" ∧ row.kind ≠ "milestone.rollover"
  | .change (.insertApproval row) => Offers row.action row.payload
  | _ => True

def orderly : Automaton SiteRequest SiteAnswer Unit where
  permits _ := Orderly
  after _ _ _ := ()

/-- The requests whose steps are orderly. -/
def Tidy : SupervisorRequest → Prop
  | .store (.set key value) => key ≠ "active_milestone" ∧ key ≠ "current_issue_title" ∧
      (key = "current_issue" → value = "")
  | .store (.unset _) => False
  | .store (.event _ kind _) => kind ≠ "issue.selected" ∧ kind ≠ "milestone.rollover"
  | .store (.createApproval action payload _) => Offers action payload
  | _ => True

variable {library : Library} {config : Config} {process : Nat}

theorem Ordinary.tidy {request : SupervisorRequest} (ordinary : Ordinary config request) :
    Tidy request := by
  cases request with
  | outside asked => trivial
  | store call =>
      cases call with
      | set key value => exact ⟨ordinary.2.2, ordinary.2.1, ordinary.1⟩
      | unset key => exact ordinary
      | event fingerprint kind payload =>
          constructor
          · rintro rfl
            exact absurd ordinary (by simp [Ordinary, isOrdinaryKind])
          · rintro rfl
            exact absurd ordinary (by simp [Ordinary, isOrdinaryKind])
      | createApproval action payload ttl => exact ordinary
      | _ => trivial

theorem Tidy.permits {request : SupervisorRequest} (tidy : Tidy request) :
    Permits orderly library process request := by
  intro _ step steps
  cases request with
  | outside asked =>
      rcases outside_steps steps with rfl | rfl | ⟨_, _, rfl⟩ | rfl | ⟨_, _, rfl⟩ <;> trivial
  | store call =>
      cases step with
      | change change =>
          rcases steps with ⟨single, makes⟩
          cases call with
          | set key value =>
              cases makes
              exact tidy
          | unset key => exact tidy.elim
          | claimIssue => cases single
          | advanceMilestone => cases single
          | event fingerprint kind payload =>
              rcases makes with ⟨created, rfl⟩
              exact tidy
          | createApproval action payload ttl =>
              rcases makes with ⟨row, rfl, rfl, rfl, _⟩
              exact tidy
          | upsertNotification => rcases makes with ⟨_, rfl⟩ | ⟨_, rfl, _⟩ <;> trivial
          | markNotification => rcases makes with ⟨_, rfl⟩; trivial
          | supersedeMergeApprovals => rcases makes with ⟨_, _, _, rfl⟩; trivial
          | supersedeApprovalsForPullRequest => rcases makes with ⟨_, _, _, rfl⟩; trivial
          | decide => rcases makes with rfl | ⟨_, rfl⟩ <;> trivial
          | createCallbackToken => rcases makes with ⟨_, rfl, _⟩; trivial
          | consumeCallbackToken => rcases makes with ⟨_, rfl⟩; trivial
          | _ => exact makes.elim
      | _ => trivial

theorem orderly_free : Unrestrictive orderly library config process :=
  fun _ ordinary => ordinary.tidy.permits

theorem body_orderly (start : Site) (task : Task) (admitted : task.duty.isAdmitted) :
    Follows orderly.move (fun _ _ => True) () ((processes library config start).body task) := by
  have moves : ∀ expected following initial payload, Permits orderly library task.process
      (.store (.advanceMilestone expected following initial payload)) := fun _ _ _ _ =>
    Tidy.permits trivial
  have queue : ∀ depth completedIssue operatorApproved, Roams orderly library task.process
      (queueNextIssue library config depth completedIssue operatorApproved) :=
    queueNextIssue_roams orderly_free
      (startIssue_roams orderly_free (fun _ _ _ => Tidy.permits trivial)
        (fun _ => Tidy.permits trivial))
      (fun _ queue _ _ => transitionMilestone_roams orderly_free moves queue _ _)
  have transition : ∀ payload actor, Roams orderly library task.process
      (transitionMilestone library config
        (queueNextIssue library config library.recursionLimit none false) payload actor) :=
    transitionMilestone_roams orderly_free moves (queue _ _ _)
  have rollover : ∀ approvalId actor, Roams orderly library task.process
      (approveMilestoneRollover library config approvalId actor) :=
    approveMilestoneRollover_roams orderly_free
      (fun _ _ => Tidy.permits ⟨by decide, by decide⟩) transition
  have approves : ∀ approvalId actor, Roams orderly library task.process
      (approve library config approvalId actor) := fun approvalId actor =>
    approve_roams orderly_free (mergeApproved_roams orderly_free (fun _ _ => Tidy.permits trivial) · · actor)
      (queue _ · _) approvalId
  have callbacks : ∀ token actor, Roams orderly library task.process
      (executeCallback library config token actor) := fun token actor =>
    executeCallback_roams orderly_free (fun _ _ => Tidy.permits trivial)
      (fun row pr => performCallback_roams orderly_free (fun _ _ => Tidy.permits trivial) row actor
        pr (performApproval_roams orderly_free (rollover · actor) (approves · actor) row pr)) token
  refine body_roams orderly_free (queue _)
    (offerMilestoneRollover_roams orderly_free (fun _ _ => transition _ _)) approves task.duty
    (fun approvalId actor _ => rollover approvalId actor) (fun token actor _ => callbacks token actor)
    (fun key value same => Tidy.permits ?_) ()
  rw [same] at admitted
  simp only [Duty.isAdmitted, List.contains_eq_mem, List.mem_cons, List.not_mem_nil, or_false,
    Bool.not_eq_true', decide_eq_false_iff_not, not_or] at admitted
  exact ⟨admitted.2.2, admitted.2.1, fun same => absurd same admitted.1⟩

/-! ## The site after a log -/

/-- The site after the steps of a log. -/
def siteAfter (library : Library) (start : Site) (log : SiteLog) : Site :=
  log.foldl (fun site entry => site.effect library entry.request) start

theorem siteAfter_concat (start : Site) (log : SiteLog)
    (entry : Entry Task SiteRequest SiteAnswer) :
    siteAfter library start (log ++ [entry]) =
      (siteAfter library start log).effect library entry.request := by
  simp [siteAfter]

theorem siteAfter_append (start : Site) (first second : SiteLog) :
    siteAfter library start (first ++ second) =
      siteAfter library (siteAfter library start first) second := by
  simp [siteAfter]

variable {start : Site} {log : SiteLog} {pool : SitePool}
  {allowed : SitePool → SiteAction → Prop}

theorem reachable_site (reached : (processes library config start).Reachable allowed log pool) :
    pool.shared = siteAfter library start log := by
  have moves : ∀ (site : Site) (index : Nat) (request : SiteRequest),
      (processes library config start).effect site index request = site.effect library request :=
    fun _ _ _ => rfl
  exact Machine.reachable_view (fun site : Site => site)
    (fun site request _ => site.effect library request)
    (fun site index _ request _ _ => moves site index request) (fun _ => rfl) reached

/-- Every step was answered on the site that the steps before it left, and is orderly. -/
theorem reachable_answered (reached : (processes library config start).Reachable allowed log pool)
    {before after : SiteLog} {entry : Entry Task SiteRequest SiteAnswer}
    (split : log = before ++ entry :: after) :
    Orderly entry.request ∧ ∃ offer,
      (siteAfter library start before).reply offer entry.request = some entry.answer := by
  rcases Machine.reachable_met reached split with ⟨earlier, offer, next, known, _, found, replied⟩
  have keeps := Machine.reachable_programs
    (fun _ program => Follows orderly.move (fun _ _ => True) () program) (fun _ => rfl)
    (fun _ => body_orderly start _ rfl) (fun _ task admitted => body_orderly start task admitted)
    (fun _ => trivial)
    (fun pool index offer label request next answer _ held found _ => by
      rcases held _ (List.mem_of_getElem? found) answer with ⟨_, ⟨_, _⟩, goes⟩
      exact ⟨goes, fun thread member => held thread member⟩) known
  rcases keeps _ (List.mem_of_getElem? found) entry.answer with ⟨_, ⟨orderly, _⟩, _⟩
  refine ⟨orderly, offer, ?_⟩
  rw [← reachable_site known]
  exact replied

/-! ## Events and approvals are kept -/

theorem write_hasEvent {database after : Database} {change : Change} {count : Nat}
    (written : database.write change = some (count, after)) {fingerprint : String}
    (known : database.hasEvent fingerprint = true) : after.hasEvent fingerprint = true := by
  cases change with
  | insertEvent row =>
      simp only [Database.write] at written
      split at written
      · cases written
      · cases written
        simp only [Database.hasEvent, List.any_append, Bool.or_eq_true]
        exact .inl known
  | insertNotification row =>
      simp only [Database.write] at written
      split at written <;> cases written
      exact known
  | insertApproval row =>
      simp only [Database.write] at written
      split at written <;> cases written
      exact known
  | insertToken row =>
      simp only [Database.write] at written
      split at written <;> cases written
      exact known
  | _ =>
      cases written
      exact known

theorem effect_hasEvent {site : Site} {fingerprint : String}
    (known : site.database.hasEvent fingerprint = true) (request : SiteRequest) :
    (site.effect library request).database.hasEvent fingerprint = true := by
  cases request with
  | change change =>
      simp only [Site.effect]
      split
      · next written => exact write_hasEvent written known
      · exact known
  | claim issue title milestone created =>
      simp only [Site.effect, claimed]
      split
      · simp only [Database.hasEvent, List.any_append, Bool.or_eq_true]
        exact .inl known
      · exact known
  | advance expected following initial payload created =>
      simp only [Site.effect, advanced]
      split
      · simp only [Database.hasEvent, List.any_append, Bool.or_eq_true]
        exact .inl known
      · exact known
  | _ => exact known

theorem siteAfter_hasEvent {site : Site} {fingerprint : String}
    (known : site.database.hasEvent fingerprint = true) (log : SiteLog) :
    (siteAfter library site log).database.hasEvent fingerprint = true := by
  induction log generalizing site with
  | nil => exact known
  | cons entry rest ih => exact ih (effect_hasEvent known entry.request)

/-- No stored rollover lacks its target. -/
def OffersStored (site : Site) : Prop :=
  ∀ row ∈ site.database.approvals, Offers row.action row.payload

theorem write_offers {database after : Database} {change : Change} {count : Nat}
    (written : database.write change = some (count, after)) (orderly : Orderly (.change change))
    (stored : ∀ row ∈ database.approvals, Offers row.action row.payload) :
    ∀ row ∈ after.approvals, Offers row.action row.payload := by
  have updated : ∀ (id : String) (update : ApprovalRow → ApprovalRow),
      (∀ row, (update row).action = row.action ∧ (update row).payload = row.payload) →
      ∀ row ∈ (database.updateApproval id update).2.approvals, Offers row.action row.payload := by
    intro id update same row member
    rcases List.mem_map.mp member with ⟨old, known, rfl⟩
    split
    · rw [(same old).1, (same old).2]
      exact stored old known
    · exact stored old known
  cases change with
  | insertApproval row =>
      simp only [Database.write] at written
      split at written
      · cases written
      · cases written
        intro other member
        rcases List.mem_append.mp member with old | new
        · exact stored other old
        · rw [List.mem_singleton.mp new]
          exact orderly
  | supersede id decidedAt reason =>
      cases written
      exact updated id _ (fun _ => ⟨rfl, rfl⟩)
  | expire id =>
      cases written
      exact updated id _ (fun _ => ⟨rfl, rfl⟩)
  | decide id verdict decidedAt actor reason =>
      cases written
      exact updated id _ (fun _ => ⟨rfl, rfl⟩)
  | insertEvent row =>
      simp only [Database.write] at written
      split at written <;> cases written
      exact stored
  | insertNotification row =>
      simp only [Database.write] at written
      split at written <;> cases written
      exact stored
  | insertToken row =>
      simp only [Database.write] at written
      split at written <;> cases written
      exact stored
  | _ =>
      cases written
      exact stored

theorem effect_offers {site : Site} {request : SiteRequest} (orderly : Orderly request)
    (stored : OffersStored site) : OffersStored (site.effect library request) := by
  cases request with
  | change change =>
      simp only [OffersStored, Site.effect]
      split
      · next written => exact write_offers written orderly stored
      · exact stored
  | claim issue title milestone created =>
      simp only [OffersStored, Site.effect, claimed]
      split <;> exact stored
  | advance expected following initial payload created =>
      simp only [OffersStored, Site.effect, advanced]
      split <;> exact stored
  | _ => exact stored

theorem reachable_offers (offered : OffersStored start)
    (reached : (processes library config start).Reachable allowed log pool) {before after : SiteLog}
    (split : log = before ++ after) : OffersStored (siteAfter library start before) := by
  induction before using List.reverseRecOn generalizing after with
  | nil => exact offered
  | append_singleton before entry ih =>
      rw [siteAfter_concat]
      have parts : log = before ++ entry :: after := by simp [split]
      exact effect_offers (reachable_answered reached parts).1 (ih parts)

end FortifyLab.Supervisor
