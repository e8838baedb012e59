import FortifyLab.Lifecycle.Consented

/-! The table of approvals against the log: each row is what its accepted transitions
made of it, and each accepted request has its reasons. -/

namespace FortifyLab.Lifecycle

open Registry Authorization Program

variable {Label : Type}

/-- The move of an approval that an exchange made. -/
def moveOf (approvalId : ApprovalId) :
    Exchange Request Answer → Option (ApprovalState × ApprovalState)
  | ⟨.transition id expected state _, true⟩ =>
      if id = approvalId then some (expected, state) else none
  | _ => none

/-- The accepted moves of an approval, in order. -/
def acceptedMoves (log : List (Entry Label Request Answer)) (approvalId : ApprovalId) :
    List (ApprovalState × ApprovalState) :=
  log.filterMap (fun entry => moveOf approvalId entry.exchange)

@[simp] theorem acceptedMoves_nil (approvalId : ApprovalId) :
    acceptedMoves ([] : List (Entry Label Request Answer)) approvalId = [] := rfl

theorem acceptedMoves_append (first second : List (Entry Label Request Answer)) (approvalId : ApprovalId) :
    acceptedMoves (first ++ second) approvalId = acceptedMoves first approvalId ++ acceptedMoves second approvalId := by
  simp [acceptedMoves]

theorem moveOf_of_not_writes {exchange : Exchange Request Answer} (kept : ¬ Writes exchange)
    (approvalId : ApprovalId) : moveOf approvalId exchange = none := by
  unfold moveOf
  split
  · exact absurd trivial kept
  · rfl

theorem mem_acceptedMoves {log : List (Entry Label Request Answer)} {approvalId : ApprovalId}
    {expected state : ApprovalState} :
    (expected, state) ∈ acceptedMoves log approvalId ↔ ∃ entry ∈ log, ∃ document,
      entry.exchange = ⟨.transition approvalId expected state document, true⟩ := by
  unfold acceptedMoves
  rw [List.mem_filterMap]
  constructor
  · intro made
    rcases made with ⟨entry, member, made⟩
    unfold moveOf at made
    split at made
    · next id _ _ document same =>
      split at made
      · next equal =>
        cases made
        subst equal
        exact ⟨entry, member, document, same⟩
      · cases made
    · cases made
  · intro made
    rcases made with ⟨entry, member, document, same⟩
    exact ⟨entry, member, by simp [same, moveOf]⟩

/-- The request of an approval, with what it is bound to. -/
structure RequestedBy (service : AuthorizationService) (acts : Label → Acts)
    (log : List (Entry Label Request Answer)) (approval : Approval) : Prop where
  made : ∃ entry ∈ log, ∃ document plan identity risk now,
    entry.exchange = ⟨.insertApproval document, true⟩ ∧ (acts entry.label).requests plan identity ∧
    plan.risk = some risk ∧ document = service.requested plan identity approval.id now risk ∧
    approval.terms = document.terms

/-- The table agrees with the log of its requests. -/
structure Ledger (service : AuthorizationService) (acts : Label → Acts)
    (log : List (Entry Label Request Answer)) (approvals : List ApprovalRow) : Prop where
  keyed : (approvals.map ApprovalRow.id).Nodup
  column : ∀ row ∈ approvals, row.payload.id = row.id ∧ row.payload.state = row.state
  journey : ∀ row ∈ approvals, Journey row.state (acceptedMoves log row.id)
  unknown : ∀ id, (∀ row ∈ approvals, row.id ≠ id) → acceptedMoves log id = []
  requested : ∀ row ∈ approvals, RequestedBy service acts log row.payload
  found : ∀ entry ∈ log, ∀ id document,
    entry.exchange = ⟨.findApproval id, some document⟩ →
      ∃ row ∈ approvals, row.id = id ∧ row.payload.terms = document.terms
  decided : ∀ entry ∈ log, ∀ id document,
    entry.exchange = ⟨.transition id .pending .approved document, true⟩ →
      Decides service (acts entry.label) (own log entry.thread) id .pending .approved document

variable {service : AuthorizationService} {acts : Label → Acts}
  {log : List (Entry Label Request Answer)} {approvals : List ApprovalRow}

theorem RequestedBy.grow {approval : Approval} (requested : RequestedBy service acts log approval)
    (more : List (Entry Label Request Answer)) :
    RequestedBy service acts (log ++ more) approval := by
  rcases requested.made with ⟨entry, member, rest⟩
  exact ⟨entry, List.mem_append_left more member, rest⟩

theorem own_subset (log more : List (Entry Label Request Answer)) (index : Nat) :
    own log index ⊆ own (log ++ more) index := by
  rw [own_append]
  exact List.subset_append_left _ _

/-- An answer that changes no approval keeps the ledger. -/
theorem Ledger.kept (ledger : Ledger service acts log approvals)
    {entry : Entry Label Request Answer} (quiet : ¬ Writes entry.exchange)
    (read : ∀ id document, entry.exchange = ⟨.findApproval id, some document⟩ →
      ∃ row ∈ approvals, row.id = id ∧ row.payload.terms = document.terms) :
    Ledger service acts (log ++ [entry]) approvals where
  keyed := ledger.keyed
  column := ledger.column
  journey row member := by
    rw [acceptedMoves_append]
    simpa [acceptedMoves, moveOf_of_not_writes quiet] using ledger.journey row member
  unknown id absent := by
    rw [acceptedMoves_append, ledger.unknown id absent]
    simp [acceptedMoves, moveOf_of_not_writes quiet]
  requested row member := (ledger.requested row member).grow [entry]
  found known member id document same := by
    rcases List.mem_append.mp member with old | new
    · exact ledger.found known old id document same
    · rw [List.mem_singleton] at new
      subst new
      exact read id document same
  decided known member id document same := by
    rcases List.mem_append.mp member with old | new
    · exact (ledger.decided known old id document same).mono (own_subset _ _ _)
    · rw [List.mem_singleton] at new
      subst new
      rw [same] at quiet
      exact absurd trivial quiet

/-- What a thread has read is a row of the table, up to its decisions. -/
theorem Ledger.read (ledger : Ledger service acts log approvals) {index : Nat} {id : ApprovalId}
    {found : Approval} (read : ⟨.findApproval id, some found⟩ ∈ own log index) :
    ∃ row ∈ approvals, row.id = id ∧ row.payload.terms = found.terms := by
  rcases mem_own.mp read with ⟨entry, member, _, same⟩
  exact ledger.found entry member id found same

/-- Two rows of one id are one row. -/
theorem Ledger.unique (ledger : Ledger service acts log approvals) {left right : ApprovalRow}
    (first : left ∈ approvals) (second : right ∈ approvals) (same : left.id = right.id) :
    left = right :=
  List.inj_on_of_nodup_map ledger.keyed first second same

theorem Ledger.insert (ledger : Ledger service acts log approvals)
    {entry : Entry Label Request Answer} {document : Approval}
    (asked : entry.exchange = ⟨.insertApproval document, true⟩)
    (lawful : Lawful service (acts entry.label) (own log entry.thread) (.insertApproval document))
    (fresh : ∀ row ∈ approvals, row.id ≠ document.id) :
    Ledger service acts (log ++ [entry])
      (approvals ++ [⟨document.id, document.state, document⟩]) := by
  rcases lawful with ⟨plan, identity, risk, now, requests, policy, same⟩
  have pending : document.state = .pending := by rw [same]; rfl
  have still : ∀ id, acceptedMoves (log ++ [entry]) id = acceptedMoves log id := by
    intro id
    rw [acceptedMoves_append]
    simp [acceptedMoves, asked, moveOf]
  constructor
  · rw [List.map_append, List.nodup_append]
    refine ⟨ledger.keyed, by simp, ?_⟩
    intro id member other last
    rcases List.mem_map.mp member with ⟨row, there, rfl⟩
    simp only [List.map_cons, List.map_nil, List.mem_singleton] at last
    rw [last]
    exact fresh row there
  · intro row member
    rcases List.mem_append.mp member with old | new
    · exact ledger.column row old
    · cases List.mem_singleton.mp new
      exact ⟨rfl, rfl⟩
  · intro row member
    rw [still]
    rcases List.mem_append.mp member with old | new
    · exact ledger.journey row old
    · cases List.mem_singleton.mp new
      rw [ledger.unknown document.id fresh, pending]
      exact .requested
  · intro id absent
    rw [still]
    exact ledger.unknown id (fun row member => absent row (List.mem_append_left _ member))
  · intro row member
    rcases List.mem_append.mp member with old | new
    · exact (ledger.requested row old).grow [entry]
    · cases List.mem_singleton.mp new
      exact ⟨entry, by simp, document, plan, identity, risk, now, asked, requests, policy, same, rfl⟩
  · intro known member id found read
    rcases List.mem_append.mp member with old | new
    · rcases ledger.found known old id found read with ⟨row, there, named⟩
      exact ⟨row, List.mem_append_left _ there, named⟩
    · cases List.mem_singleton.mp new
      rw [asked] at read
      cases read
  · intro known member id approval decided
    rcases List.mem_append.mp member with old | new
    · exact (ledger.decided known old id approval decided).mono (own_subset _ _ _)
    · cases List.mem_singleton.mp new
      rw [asked] at decided
      cases decided

theorem Ledger.transition (ledger : Ledger service acts log approvals)
    {entry : Entry Label Request Answer} {id : ApprovalId} {expected state : ApprovalState}
    {document : Approval} (asked : entry.exchange = ⟨.transition id expected state document, true⟩)
    (lawful : Decides service (acts entry.label) (own log entry.thread) id expected state document)
    (stored : ∃ row ∈ approvals, row.id = id ∧ row.state = expected) :
    Ledger service acts (log ++ [entry])
      (approvals.map (ManagerState.transitionRow id expected state document)) := by
  rcases stored with ⟨target, there, named, now⟩
  rcases lawful.movesTo with ⟨move, reached⟩
  rcases lawful.read with ⟨found, read, terms⟩
  rcases ledger.read read with ⟨origin, present, known, same⟩
  have only : ∀ row ∈ approvals, row.id = id → row = target :=
    fun row member same => ledger.unique member there (same.trans named.symm)
  cases only origin present known
  have identified : document.id = id := by
    have ids : document.terms.id = target.payload.terms.id := by rw [terms, same]
    exact ids.trans ((ledger.column target there).1.trans named)
  have kept : ∀ row, (ManagerState.transitionRow id expected state document row).id = row.id := by
    intro row
    unfold ManagerState.transitionRow
    split <;> rfl
  have changed : ∀ row ∈ approvals, row.id = id →
      ManagerState.transitionRow id expected state document row = ⟨id, state, document⟩ := by
    intro row member same
    cases only row member same
    simp [ManagerState.transitionRow, named, now]
  have unchanged : ∀ row, row.id ≠ id →
      ManagerState.transitionRow id expected state document row = row := by
    intro row other
    simp [ManagerState.transitionRow, other]
  have travelled : ∀ other, acceptedMoves (log ++ [entry]) other = acceptedMoves log other ++
      (if id = other then [(expected, state)] else []) := by
    intro other
    rw [acceptedMoves_append]
    by_cases equal : id = other <;> simp [acceptedMoves, asked, moveOf, equal]
  constructor
  · rw [List.map_map]
    have same : approvals.map (ApprovalRow.id ∘ ManagerState.transitionRow id expected state document) =
        approvals.map ApprovalRow.id := List.map_congr_left (fun row _ => kept row)
    rw [same]
    exact ledger.keyed
  · intro after member
    rcases List.mem_map.mp member with ⟨row, before, rfl⟩
    by_cases same : row.id = id
    · rw [changed row before same]
      exact ⟨identified, reached⟩
    · rw [unchanged row same]
      exact ledger.column row before
  · intro after member
    rcases List.mem_map.mp member with ⟨row, before, rfl⟩
    rw [travelled, kept]
    by_cases same : row.id = id
    · rw [changed row before same, if_pos same.symm]
      cases only row before same
      have journey := ledger.journey target there
      rw [now] at journey
      exact journey.moved move
    · rw [unchanged row same, if_neg (Ne.symm same), List.append_nil]
      exact ledger.journey row before
  · intro other absent
    have missing : ∀ row ∈ approvals, row.id ≠ other := by
      intro row member
      have after := absent _ (List.mem_map_of_mem member)
      rwa [kept] at after
    have different : id ≠ other := by
      rw [← named]
      exact missing target there
    rw [travelled, if_neg different, List.append_nil]
    exact ledger.unknown other missing
  · intro after member
    rcases List.mem_map.mp member with ⟨row, before, rfl⟩
    by_cases equal : row.id = id
    · rw [changed row before equal]
      cases only row before equal
      rcases (ledger.requested target there).made with
        ⟨asking, member, request, plan, identity, risk, at_, made, requests, policy, built, bound⟩
      have sameId : document.id = target.payload.id :=
        identified.trans (named.symm.trans (ledger.column target there).1.symm)
      refine ⟨asking, List.mem_append_left _ member, request, plan, identity, risk, at_, made,
        requests, policy, ?_, ?_⟩
      · rw [sameId]
        exact built
      · exact (terms.trans same.symm).trans bound
    · rw [unchanged row equal]
      exact (ledger.requested row before).grow [entry]
  · intro known member asked' approval read
    rcases List.mem_append.mp member with old | new
    · rcases ledger.found known old asked' approval read with ⟨row, before, rowNamed, rowTerms⟩
      refine ⟨_, List.mem_map_of_mem before, ?_, ?_⟩
      · rw [kept]
        exact rowNamed
      · by_cases equal : row.id = id
        · rw [changed row before equal]
          cases only row before equal
          exact (terms.trans same.symm).trans rowTerms
        · rw [unchanged row equal]
          exact rowTerms
    · cases List.mem_singleton.mp new
      rw [asked] at read
      cases read
  · intro known member id approval decided
    rcases List.mem_append.mp member with old | new
    · exact (ledger.decided known old id approval decided).mono (own_subset _ _ _)
    · cases List.mem_singleton.mp new
      rw [asked] at decided
      cases decided
      exact lawful.mono (own_subset _ _ _)

theorem mem_of_findApproval {approvals : List ApprovalRow} {id : ApprovalId} {document : Approval}
    (found : (approvals.find? (fun row => decide (row.id = id))).map ApprovalRow.payload =
      some document) :
    ∃ row ∈ approvals, row.id = id ∧ row.payload = document := by
  rcases Option.map_eq_some_iff.mp found with ⟨row, found, same⟩
  exact ⟨row, List.mem_of_find?_eq_some found, by simpa using List.find?_some found, same⟩

theorem transitionRow_eq_self {approvals : List ApprovalRow} {id : ApprovalId}
    {expected next : ApprovalState} {document : Approval}
    (missing : ∀ row ∈ approvals, ¬ (row.id = id ∧ row.state = expected)) :
    approvals.map (ManagerState.transitionRow id expected next document) = approvals := by
  calc
    _ = approvals.map (fun row => row) :=
      List.map_congr_left (fun row member => if_neg (missing row member))
    _ = approvals := List.map_id _

/-- A request that is not an accepted write leaves the table alone. -/
theorem effect_kept {state : ManagerState} {index : Nat} {offer : Offer} {request : Request}
    {answer : Answer request} (replied : state.reply index offer request = some answer)
    (quiet : ¬ Writes ⟨request, answer⟩) :
    (state.effect index request).approvals = state.approvals := by
  cases request with
  | insertApproval document =>
      simp only [ManagerState.reply, Option.some.injEq] at replied
      subst replied
      by_cases taken : state.approvals.any (fun row => decide (row.id = document.id)) = true
      · simp only [ManagerState.effect, if_pos taken]
      · rw [Bool.eq_false_iff.mpr taken] at quiet
        exact absurd trivial quiet
  | transition id expected next document =>
      simp only [ManagerState.reply, Option.some.injEq] at replied
      subst replied
      apply transitionRow_eq_self
      intro row member matching
      have stored : state.approvals.any
          (fun row => decide (row.id = id ∧ row.state = expected)) = true := by
        rw [List.any_eq_true]
        exact ⟨row, member, decide_eq_true matching⟩
      rw [stored] at quiet
      exact quiet trivial
  | createRow document =>
      unfold ManagerState.effect
      dsimp only
      split <;> rfl
  | _ => rfl

/-- One legal request, answered, keeps the ledger. -/
theorem Ledger.step {state : ManagerState} (ledger : Ledger service acts log state.approvals)
    {index : Nat} {label : Label} {offer : Offer} {request : Request} {answer : Answer request}
    (lawful : Lawful service (acts label) (own log index) request)
    (replied : state.reply index offer request = some answer) :
    Ledger service acts (log ++ [⟨index, label, request, answer⟩])
      (state.effect index request).approvals := by
  by_cases quiet : Writes ⟨request, answer⟩
  · cases request with
    | insertApproval document =>
        simp only [ManagerState.reply, Option.some.injEq] at replied
        cases answer with
        | false => exact absurd quiet (fun impossible => impossible)
        | true =>
            have taken : ¬ state.approvals.any (fun row => decide (row.id = document.id)) = true := by
              simpa using replied
            simp only [ManagerState.effect, if_neg taken]
            exact ledger.insert rfl lawful (by simpa using taken)
    | transition id expected next document =>
        simp only [ManagerState.reply, Option.some.injEq] at replied
        cases answer with
        | false => exact absurd quiet (fun impossible => impossible)
        | true => exact ledger.transition rfl lawful (by simpa using replied)
    | _ => exact absurd quiet (fun impossible => impossible)
  · rw [effect_kept replied quiet]
    apply ledger.kept
    · exact quiet
    intro id document read
    cases read
    simp only [ManagerState.reply, Option.some.injEq] at replied
    rcases mem_of_findApproval replied with ⟨row, member, named, rfl⟩
    exact ⟨row, member, named, rfl⟩

end FortifyLab.Lifecycle
