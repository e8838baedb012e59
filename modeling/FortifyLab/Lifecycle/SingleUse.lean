import FortifyLab.Lifecycle.Grants

/-! An approval is used once, and every row of a risky operation has an approval of its
own. -/

namespace FortifyLab.Lifecycle

open Registry Authorization Program

variable {settings : Settings} {service : AuthorizationService}
  {allowed : ManagerPool → ManagerAction → Prop} {log : List ManagerEntry} {pool : ManagerPool}

/-- The accepted consumption of an approval. -/
def Consumption (entry : ManagerEntry) (id : ApprovalId) : Prop :=
  ∃ document, entry.exchange = ⟨.transition id .approved .consumed document, true⟩

theorem Consumption.moveOf {entry : ManagerEntry} {id : ApprovalId}
    (consumption : Consumption entry id) :
    moveOf id entry.exchange = some (.approved, .consumed) := by
  rcases consumption with ⟨document, same⟩
  rw [same]
  simp [Lifecycle.moveOf]

/-- Two entries of a list that both yield what a filter yields once are one entry. -/
theorem eq_of_filterMap_count {α β : Type} [BEq β] [LawfulBEq β] {list : List α} {yield : α → Option β}
    {value : β} (once : (list.filterMap yield).count value ≤ 1) {left right : α}
    (first : left ∈ list) (second : right ∈ list) (yieldsLeft : yield left = some value)
    (yieldsRight : yield right = some value) : left = right := by
  induction list with
  | nil => cases first
  | cons head rest ih =>
      have among : ∀ other ∈ rest, yield other = some value → yield head ≠ some value := by
        intro other member yields same
        rw [List.filterMap_cons_some same, List.count_cons_self] at once
        have positive : 0 < (rest.filterMap yield).count value :=
          List.count_pos_iff.mpr (List.mem_filterMap.mpr ⟨other, member, yields⟩)
        omega
      rcases List.mem_cons.mp first with rfl | later
      · rcases List.mem_cons.mp second with same | behind
        · exact same.symm
        · exact absurd yieldsLeft (among right behind yieldsRight)
      · rcases List.mem_cons.mp second with rfl | behind
        · exact absurd yieldsRight (among left later yieldsLeft)
        · refine ih (le_trans ?_ once) later behind
          exact ((List.sublist_cons_self head rest).filterMap yield).count_le value

/-- The row of an approval that was moved at all. -/
theorem Ledger.row_of_move {approvals : List ApprovalRow}
    (ledger : Ledger service Call.acts log approvals) {id : ApprovalId}
    {move : ApprovalState × ApprovalState} (made : move ∈ acceptedMoves log id) :
    ∃ row ∈ approvals, row.id = id ∧ Journey row.state (acceptedMoves log id) := by
  by_contra absent
  have missing : ∀ row ∈ approvals, row.id ≠ id := by
    intro row member same
    have journey := ledger.journey row member
    rw [same] at journey
    exact absent ⟨row, member, same, journey⟩
  rw [ledger.unknown id missing] at made
  cases made

theorem consumption_unique (configured : settings.authorization = some service)
    (reached : (manager settings).Reachable allowed log pool) {id : ApprovalId}
    {left right : ManagerEntry} (first : left ∈ log) (second : right ∈ log)
    (consumesLeft : Consumption left id) (consumesRight : Consumption right id) : left = right := by
  rcases reachable_ledger configured reached with ⟨ledger, _⟩
  have made : (ApprovalState.approved, ApprovalState.consumed) ∈ acceptedMoves log id := by
    rcases consumesLeft with ⟨document, same⟩
    exact mem_acceptedMoves.mpr ⟨left, first, document, same⟩
  rcases ledger.row_of_move made with ⟨row, _, _, journey⟩
  have once := journey.consumed_once
  unfold acceptedMoves at once
  have yieldsLeft : (fun entry : ManagerEntry => moveOf id entry.exchange) left =
      some (.approved, .consumed) := consumesLeft.moveOf
  have yieldsRight : (fun entry : ManagerEntry => moveOf id entry.exchange) right =
      some (.approved, .consumed) := consumesRight.moveOf
  exact eq_of_filterMap_count once first second yieldsLeft yieldsRight

/-- A consumed approval is in state consumed for good, and was never revoked. -/
theorem consumed_final (configured : settings.authorization = some service)
    (reached : (manager settings).Reachable allowed log pool) {id : ApprovalId}
    {entry : ManagerEntry} (member : entry ∈ log) (consumption : Consumption entry id) :
    (∃ row ∈ pool.shared.approvals, row.id = id ∧ row.state = .consumed) ∧
      acceptedMoves log id = [(.pending, .approved), (.approved, .consumed)] := by
  rcases reachable_ledger configured reached with ⟨ledger, _⟩
  have made : (ApprovalState.approved, ApprovalState.consumed) ∈ acceptedMoves log id := by
    rcases consumption with ⟨document, same⟩
    exact mem_acceptedMoves.mpr ⟨entry, member, document, same⟩
  rcases ledger.row_of_move made with ⟨row, there, named, journey⟩
  rcases journey.five with ⟨_, same⟩ | ⟨_, same⟩ | ⟨_, same⟩ | ⟨state, same⟩ | ⟨_, same⟩
  · rw [same] at made
    simp at made
  · rw [same] at made
    simp at made
  · rw [same] at made
    simp at made
  · exact ⟨⟨row, there, named, state⟩, same⟩
  · rw [same] at made
    simp at made

/-! ## Rows of risky operations -/

/-- The operation needs an approval. -/
def Risky (document : Document) : Prop :=
  ∃ risk, riskByOperation.lookup document.operation.name = some risk ∧ risk.approvalRequired = true

/-- The entry created the row of a risky operation. -/
def CreatedRisky (entry : ManagerEntry) (document : Document) : Prop :=
  entry.exchange = ⟨.createRow document, true⟩ ∧ Risky document

/-- The thread that created the row had consumed the approval for its operation. -/
def PaidWith (service : AuthorizationService) (log : List ManagerEntry) (created : ManagerEntry)
    (document : Document) (id : ApprovalId) : Prop :=
  ∃ before after consumption approval observed, log = before ++ created :: after ∧
    consumption ∈ before ∧ consumption.thread = created.thread ∧
    consumption.exchange = ⟨.transition id .approved .consumed approval, true⟩ ∧
    approval.planDigest = OperationPlan.digest service.sha256
      ⟨document.operation.name, document.components, observed⟩

theorem licensed_of_created (configured : settings.authorization = some service)
    (reached : (manager settings).Reachable allowed log pool)
    {before after : List ManagerEntry} {entry : ManagerEntry} {document : Document} {answer : Bool}
    (split : log = before ++ entry :: after)
    (created : entry.exchange = ⟨.createRow document, answer⟩) :
    Licensed service (own before entry.thread) document := by
  rcases (consent configured).reachable_split reached split with ⟨_, _, _, _, lawful⟩
  rcases exchange_cases created with ⟨thread, label, rfl⟩
  exact lawful

theorem paid_of_created (configured : settings.authorization = some service)
    (reached : (manager settings).Reachable allowed log pool) {created : ManagerEntry}
    {document : Document} (member : created ∈ log) (risky : CreatedRisky created document) :
    ∃ id, PaidWith service log created document id := by
  rcases List.append_of_mem member with ⟨before, after, split⟩
  rcases risky with ⟨exchanged, risk, policy, required⟩
  rcases (licensed_of_created configured reached split exchanged).approved risk policy required with
    ⟨id, approval, accepted, observed, bound⟩
  rcases mem_own.mp accepted with ⟨consumption, earlier, same, consumed⟩
  exact ⟨id, before, after, consumption, approval, observed, split, earlier, same, consumed, bound⟩

/-- Of two entries of a list one comes before the other. -/
theorem split_two {α : Type} {list : List α} {left right : α} (first : left ∈ list)
    (second : right ∈ list) (different : left ≠ right) :
    (∃ before after, list = before ++ left :: after ∧ right ∈ before) ∨
      ∃ before after, list = before ++ right :: after ∧ left ∈ before := by
  rcases List.append_of_mem first with ⟨before, after, rfl⟩
  rcases List.mem_append.mp second with early | late
  · exact .inl ⟨before, after, rfl, early⟩
  · rcases List.mem_cons.mp late with same | later
    · exact absurd same.symm different
    · rcases List.append_of_mem later with ⟨middle, rest, rfl⟩
      exact .inr ⟨before ++ left :: middle, rest, by simp, by simp⟩

/-- A thread creates one row at most. -/
theorem created_once (configured : settings.authorization = some service)
    (reached : (manager settings).Reachable allowed log pool) {left right : ManagerEntry}
    {first second : Document} (leftIn : left ∈ log) (rightIn : right ∈ log)
    (leftCreated : left.exchange = ⟨.createRow first, true⟩)
    (rightCreated : right.exchange = ⟨.createRow second, true⟩)
    (same : left.thread = right.thread) : left = right := by
  by_contra different
  rcases split_two leftIn rightIn different with
    ⟨before, after, split, early⟩ | ⟨before, after, split, early⟩
  · apply (licensed_of_created configured reached split leftCreated).first second true
    exact mem_own.mpr ⟨right, early, same.symm, rightCreated⟩
  · apply (licensed_of_created configured reached split rightCreated).first first true
    exact mem_own.mpr ⟨left, early, same, leftCreated⟩

theorem paid_distinct (configured : settings.authorization = some service)
    (reached : (manager settings).Reachable allowed log pool) {left right : ManagerEntry}
    {first second : Document} {id : ApprovalId}
    (leftCreated : CreatedRisky left first) (rightCreated : CreatedRisky right second)
    (leftPaid : PaidWith service log left first id)
    (rightPaid : PaidWith service log right second id) : left = right := by
  rcases leftPaid with ⟨before, after, consumption, approval, _, split, early, same, consumed, _⟩
  rcases rightPaid with ⟨before', after', consumption', approval', _, split', early', same',
    consumed', _⟩
  have equal : consumption = consumption' :=
    consumption_unique configured reached (by simp [split, early]) (by simp [split', early'])
      ⟨approval, consumed⟩ ⟨approval', consumed'⟩
  have threads : left.thread = right.thread := by rw [← same, ← same', equal]
  exact created_once configured reached (by simp [split]) (by simp [split']) leftCreated.1
    rightCreated.1 threads

/-! ## Moves of the rows -/

/-- What a legal request makes of a row of the table. -/
theorem row_effect {acts : Acts} {history : History} {state : ManagerState} {index : Nat}
    {request : Request} (lawful : Lawful service acts history request) {row : ApprovalRow}
    (there : row ∈ state.approvals) :
    ∃ after ∈ (state.effect index request).approvals, after.id = row.id ∧
      (after = row ∨ MovesTo row.state after.state) := by
  cases request with
  | insertApproval document =>
      refine ⟨row, ?_, rfl, .inl rfl⟩
      simp only [ManagerState.effect]
      split
      · exact there
      · exact List.mem_append_left _ there
  | transition id expected next document =>
      refine ⟨_, List.mem_map_of_mem there, ?_⟩
      unfold ManagerState.transitionRow
      split
      · next matching =>
        rw [matching.2]
        exact ⟨rfl, .inr (Decides.movesTo lawful).1⟩
      · exact ⟨rfl, .inl rfl⟩
  | createRow document =>
      refine ⟨row, ?_, rfl, .inl rfl⟩
      simp only [ManagerState.effect]
      split <;> exact there
  | _ => exact ⟨row, there, rfl, .inl rfl⟩

/-- What one action makes of a row of the table. -/
theorem row_moves (configured : settings.authorization = some service)
    (reached : (manager settings).Reachable allowed log pool) {action : ManagerAction}
    {next : ManagerPool} (acted : (manager settings).act pool action = some next)
    {row : ApprovalRow} (there : row ∈ pool.shared.approvals) :
    ∃ after ∈ next.shared.approvals, after.id = row.id ∧
      (after = row ∨ MovesTo row.state after.state) := by
  rcases (consent configured).reachable_traced reached with ⟨roles, annotated, traced⟩
  rcases annotated.evolves acted with ⟨_, evolves, _⟩
  generalize (manager settings).entries pool action = entries at evolves
  cases evolves with
  | advanced found replied moved alone =>
      rcases moved with ⟨call, history, role, lawful, _⟩
      exact row_effect lawful there
  | spawned found replied moved spawns =>
      rcases moved with ⟨call, history, role, lawful, _⟩
      exact row_effect lawful there
  | admitted admits => exact ⟨row, there, rfl, .inl rfl⟩
  | restarted => exact ⟨row, there, rfl, .inl rfl⟩

/-- Approvals are single-use: their column, their journeys, and the one `authorize` that
an approval lets through, with the approval in time and no revocation behind it. -/
structure SingleUse (service : AuthorizationService) (log : List ManagerEntry)
    (pool : ManagerPool) : Prop where
  column : ∀ row ∈ pool.shared.approvals, row.payload.state = row.state
  journey : ∀ row ∈ pool.shared.approvals, Journey row.state (acceptedMoves log row.id)
  once : ∀ left right leftPlan rightPlan leftIdentity rightIdentity id leftProvider rightProvider
    leftRisk rightRisk,
    Ended pool left (.authorize leftPlan leftIdentity (some id) leftProvider) (.authorized (.ok ())) →
    Ended pool right (.authorize rightPlan rightIdentity (some id) rightProvider)
      (.authorized (.ok ())) →
    leftPlan.risk = some leftRisk → leftRisk.approvalRequired = true →
    rightPlan.risk = some rightRisk → rightRisk.approvalRequired = true → left = right
  backed : ∀ index plan identity approvalId provider risk,
    Ended pool index (.authorize plan identity approvalId provider) (.authorized (.ok ())) →
    plan.risk = some risk → risk.approvalRequired = true →
    ∃ id document, approvalId = some id ∧ document.id = id ∧
      AcceptedFor service log identity document ∧
      ∀ previous, (previous, .revoked) ∉ acceptedMoves log id

theorem reachable_singleUse (configured : settings.authorization = some service)
    (reached : (manager settings).Reachable allowed log pool) : SingleUse service log pool where
  column row there := ((reachable_ledger configured reached).1.column row there).2
  journey := (reachable_ledger configured reached).1.journey
  once left right leftPlan rightPlan leftIdentity rightIdentity id leftProvider rightProvider
    leftRisk rightRisk leftEnded rightEnded leftPolicy leftRequired rightPolicy rightRequired := by
    rcases consumed_of_returned configured reached leftEnded leftPolicy leftRequired with
      ⟨_, _, _, _, ⟨rfl⟩, leftSplit⟩
    rcases consumed_of_returned configured reached rightEnded rightPolicy rightRequired with
      ⟨_, _, _, _, ⟨rfl⟩, rightSplit⟩
    have same : (⟨left, _, _, _⟩ : ManagerEntry) = ⟨right, _, _, _⟩ :=
      consumption_unique configured reached (by rw [leftSplit]; exact List.mem_append_cons_self)
        (by rw [rightSplit]; exact List.mem_append_cons_self) ⟨_, rfl⟩ ⟨_, rfl⟩
    exact congrArg Entry.thread same
  backed index plan identity approvalId provider risk ended policy required := by
    rcases consumed_of_returned configured reached ended policy required with
      ⟨id, consumption, before, after, named, split⟩
    rcases backed_of_consumed configured reached split with
      ⟨_, _, _, planned, document, observed, now, ⟨_, rfl, rfl, rfl⟩, backed⟩
    have final := consumed_final configured reached (by rw [split]; exact List.mem_append_cons_self)
      ⟨consumption, rfl⟩
    refine ⟨id, document, named, backed.named, ?_, ?_⟩
    · rw [split]
      exact backed.accepted.grow _
    · intro previous revoked
      rw [final.2] at revoked
      simp at revoked

end FortifyLab.Lifecycle
