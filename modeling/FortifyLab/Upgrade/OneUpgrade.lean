import FortifyLab.Upgrade.Reached

/-! Upgrades that run together. A plan becomes one operation at most; nothing keeps the
operation of a second plan from starting beside an active one. -/

namespace FortifyLab.Upgrade.Roles

open Program Registry Authorization

variable {service : ProfileUpgradeService} {identifiers : Identifiers}
  {state after : ServiceState} {roles : Nat → Role} {role other : Role} {index : Nat}

/-- The operation is the only one that may be queued, running or cancelling. -/
def OnlyActive (state : ServiceState) (id : String) : Prop :=
  ∀ other, state.Active other → other = id

/-- At most one operation is active. -/
def OneActive (state : ServiceState) : Prop := ∀ id, state.Active id → OnlyActive state id

/-- No other operation has a row that is queued, running or cancelling. -/
def aloneIn (table : UpgradeTable) (id : String) : Bool :=
  table.rows.all (fun row => match row with
    | .plan _ => true
    | .operation stored => stored.state.terminal || decide (stored.id = id))

/-- The action is no write of an operation by a call from outside while another operation is
active. -/
def writesAlone (pool : ServicePool) : ServiceAction → Bool
  | .advance index _ =>
      match pool.threads[index]? with
      | some ⟨call, .ask (.put (.operation document)) _⟩ =>
          !call.outside || aloneIn pool.shared.table document.id
      | _ => true
  | _ => true

def WritesAlone (pool : ServicePool) (action : ServiceAction) : Prop :=
  writesAlone pool action = true

/-- The plan that the answer to a request has consumed. -/
def consumedPlan (entry : Entry Call ServiceRequest ServiceAnswer) : Option String :=
  match entry.request, entry.answer with
  | .consumePlan planId, answer => bif answer then some planId else none
  | _, _ => none

/-- The plan of an operation that is queued. -/
def queuedPlan (entry : Entry Call ServiceRequest ServiceAnswer) : Option String :=
  match entry.request with
  | .put (.operation document) =>
      if document.state = .queued then some document.planId else none
  | _ => none

/-- A mutating call of the adapter has begun and is not finished. -/
def adapting (thread : Thread Call ServiceRequest ServiceAnswer Outcome) : Bool :=
  thread.program.asks.any Adapts

/-- A plan is consumed once, and queues one operation. -/
structure PlansOnce (log : ServiceLog) : Prop where
  consumed : (log.filterMap consumedPlan).Nodup
  queued : (log.filterMap queuedPlan).Nodup

/-- Upgrades do not run together. -/
structure OneAtATime (pool : ServicePool) : Prop where
  active : OneActive pool.shared
  calls : ∀ (left right : Nat) first second, pool.threads[left]? = some first →
    pool.threads[right]? = some second → adapting first = true → adapting second = true →
    left = right

/-! ## Plans -/

/-- An operation of the plan is stored. -/
def Executed (state : ServiceState) (planId : String) : Prop := ¬ state.Unexecuted planId

/-- What a run says about its plans. -/
structure Logged (log : ServiceLog) (state : ServiceState) : Prop extends PlansOnce log where
  spent : ∀ planId ∈ log.filterMap consumedPlan, state.Spent planId
  executed : ∀ planId ∈ log.filterMap queuedPlan, Executed state planId

theorem executed_of_rows (rows : ∀ id row, state.table.find id = some row →
      ∃ later, after.table.find id = some later ∧ row.Like later) {planId : String}
    (executed : Executed state planId) : Executed after planId := by
  intro unexecuted
  apply executed
  intro id stored found same
  rcases rows id _ found with ⟨later, known, like⟩
  rcases like.operation with ⟨version, rfl, planned⟩
  exact unexecuted id version known (planned.trans same)

theorem rows_of_table (same : after.table = state.table) (id : String) (row : UpgradeRow)
    (found : state.table.find id = some row) :
    ∃ later, after.table.find id = some later ∧ row.Like later :=
  ⟨row, by rw [same]; exact found, UpgradeRow.Like.refl row⟩

/-- A move loses no row. -/
theorem Kept.moves_rows (kept : Kept identifiers state roles) {request : ServiceRequest}
    {answer : ServiceAnswer request}
    (moved : Moves (roles index) request answer other) (id : String) (row : UpgradeRow)
    (found : state.table.find id = some row) :
    ∃ later, (effect state request).table.find id = some later ∧ row.Like later := by
  cases moved with
  | free answer unwritten => exact rows_of_table (unwritten_table unwritten) id row found
  | acted answer task adapts => exact rows_of_table (adapts_table adapts) id row found
  | interrupted call task => exact (Carried.interrupt state).forth id row found
  | reviewed now task => exact (kept.carried_review task now).forth id row found
  | @filed target planRow call task =>
      have mine := kept.each index
      rw [Role.Kept, task] at mine
      have missing : state.table.find (UpgradeRow.plan planRow).id = none := mine.2.2
      exact (grows_added missing).rows id row found
  | consumed planId call task => exact (Carried.consume state planId).forth id row found
  | refused planId call task => exact (Carried.consume state planId).forth id row found
  | @placed submitted identity confirmation operation call task =>
      have mine := kept.each index
      rw [Role.Kept, task] at mine
      have missing : state.table.find (UpgradeRow.operation operation).id = none := mine.2.2.1
      exact (grows_added missing).rows id row found
  | marked now call task => exact (kept.carried_mark task now).forth id row found
  | saved task continues running => exact (kept.carried_save task continues).forth id row found
  | ended task continues terminal => exact (kept.carried_save task continues).forth id row found
  | _ => exact rows_of_table rfl id row found

theorem nodup_filterMap_concat {α β : Type} {select : α → Option β} {log : List α} {entry : α}
    (nodup : (log.filterMap select).Nodup)
    (fresh : ∀ item, select entry = some item → item ∉ log.filterMap select) :
    ((log ++ [entry]).filterMap select).Nodup := by
  rw [List.filterMap_append]
  cases selected : select entry with
  | none => simpa [selected] using nodup
  | some item =>
      have last : [entry].filterMap select = [item] := by simp [selected]
      rw [last, ← List.concat_eq_append]
      exact nodup.concat (fresh item selected)

theorem mem_filterMap_concat {α β : Type} {select : α → Option β} {log : List α} {entry : α}
    {item : β} (member : item ∈ (log ++ [entry]).filterMap select) :
    item ∈ log.filterMap select ∨ select entry = some item := by
  rw [List.filterMap_append, List.mem_append, List.mem_filterMap] at member
  rcases member with before | last
  · exact .inl (List.mem_filterMap.mpr before)
  · rw [List.mem_filterMap] at last
    rcases last with ⟨other, single, selected⟩
    rw [List.mem_singleton.mp single] at selected
    exact .inr selected

/-- A plan is consumed where it was not consumed before. -/
theorem consumedPlan_some {label : Call} {request : ServiceRequest} {offer : Offer}
    {answer : ServiceAnswer request} {planId : String}
    (consumed : consumedPlan ⟨index, label, request, answer⟩ = some planId)
    (replied : reply identifiers state offer request = answer) :
    request = .consumePlan planId ∧ state.table.consumable planId = true := by
  cases request with
  | consumePlan other =>
      cases answer with
      | false => cases consumed
      | true =>
          cases consumed
          exact ⟨rfl, replied⟩
  | _ => cases consumed

theorem queuedPlan_some {label : Call} {request : ServiceRequest}
    {answer : ServiceAnswer request} {planId : String}
    (queued : queuedPlan ⟨index, label, request, answer⟩ = some planId) :
    ∃ document, request = .put (.operation document) ∧ document.state = .queued ∧
      document.planId = planId := by
  unfold queuedPlan at queued
  split at queued
  · next document same =>
    split at queued
    · next state => exact ⟨document, same, state, Option.some.inj queued⟩
    · cases queued
  · cases queued

/-- An operation is queued for a plan that has none. -/
theorem Kept.queues (kept : Kept identifiers state roles) {request : ServiceRequest}
    {answer : ServiceAnswer request} (moved : Moves (roles index) request answer other)
    {document : UpgradeOperation} (same : request = .put (.operation document))
    (queued : document.state = .queued) : state.Unexecuted document.planId := by
  cases moved with
  | free answer unwritten =>
      rw [same] at unwritten
      cases unwritten
  | acted answer task adapts =>
      rw [same] at adapts
      cases adapts
  | @placed submitted identity confirmation operation call task =>
      have mine := kept.each index
      rw [Role.Kept, task] at mine
      cases same
      exact mine.2.2.2.2.2
  | @marked operationId row now call task =>
      cases row with
      | plan row => cases same
      | operation stored =>
          cases same
          cases queued
  | saved task continues running =>
      cases same
      rw [running] at queued
      cases queued
  | ended task continues terminal =>
      cases same
      rw [queued] at terminal
      cases terminal
  | _ => cases same

theorem Logged.step {log : ServiceLog} (logged : Logged log state)
    (kept : Kept identifiers state roles) {label : Call} {request : ServiceRequest}
    {offer : Offer} {answer : ServiceAnswer request}
    (moved : Moves (roles index) request answer other)
    (replied : reply identifiers state offer request = answer) :
    Logged (log ++ [⟨index, label, request, answer⟩]) (effect state request) where
  consumed := by
    refine nodup_filterMap_concat logged.consumed ?_
    intro planId consumed member
    rcases consumedPlan_some consumed replied with ⟨_, consumable⟩
    exact unspent_of_consumable consumable (logged.spent planId member)
  queued := by
    refine nodup_filterMap_concat logged.queued ?_
    intro planId queued member
    rcases queuedPlan_some queued with ⟨document, same, state, rfl⟩
    exact logged.executed _ member (kept.queues moved same state)
  spent planId member := by
    rcases mem_filterMap_concat member with before | last
    · exact spent_of_rows (kept.moves_rows moved) (logged.spent planId before)
    · rcases consumedPlan_some last replied with ⟨rfl, consumable⟩
      exact spent_consume consumable
  executed planId member := by
    rcases mem_filterMap_concat member with before | last
    · exact executed_of_rows (kept.moves_rows moved) (logged.executed planId before)
    · rcases queuedPlan_some last with ⟨document, rfl, _, rfl⟩
      intro unexecuted
      exact unexecuted document.id document (UpgradeTable.find_put_self _ _) rfl

theorem logged_of_table {log : ServiceLog} (logged : Logged log state)
    (same : after.table = state.table) : Logged log after where
  toPlansOnce := logged.toPlansOnce
  spent planId member := spent_of_rows (rows_of_table same) (logged.spent planId member)
  executed planId member := executed_of_rows (rows_of_table same) (logged.executed planId member)

theorem evolves_logged {pool next : ServicePool} {later : Nat → Role} {action : ServiceAction}
    {log entries : ServiceLog} (kept : Kept identifiers pool.shared roles)
    (logged : Logged log pool.shared)
    (evolves : (upgradeProtocol service identifiers).Evolves pool roles action entries next
      later) : Logged (log ++ entries) next.shared := by
  cases evolves with
  | advanced found replied moved alone => exact logged.step kept moved (Option.some.inj replied)
  | spawned found replied moved spawns => exact logged.step kept moved (Option.some.inj replied)
  | admitted admits =>
      rw [List.append_nil]
      exact logged
  | restarted =>
      rw [List.append_nil]
      exact logged_of_table logged rfl

/-! ## Active operations -/

theorem OneActive.less (one : OneActive state) (less : ∀ id, after.Active id → state.Active id) :
    OneActive after :=
  fun id active other also => one id (less id active) other (less other also)

theorem active_of_table (same : after.table = state.table) (id : String)
    (active : after.Active id) : state.Active id := by
  rcases active with ⟨stored, found, going⟩
  exact ⟨stored, by rw [← same]; exact found, going⟩

/-- The row of the only active operation is written. -/
theorem oneActive_put {document : UpgradeOperation} (only : OnlyActive state document.id) :
    OneActive { state with table := state.table.put (.operation document) } := by
  have named : ∀ id, ServiceState.Active
      { state with table := state.table.put (.operation document) } id → id = document.id := by
    rintro id ⟨stored, found, going⟩
    rcases find_added found with ⟨same, _⟩ | before
    · exact same
    · exact only id ⟨stored, before, going⟩
  intro id active other also
  rw [named id active, named other also]

/-- A plan is written. -/
theorem oneActive_plan (one : OneActive state) (row : PlanRow) :
    OneActive { state with table := state.table.put (.plan row) } := by
  apply one.less
  rintro id ⟨stored, found, going⟩
  rcases find_added found with ⟨_, impossible⟩ | before
  · cases impossible
  · exact ⟨stored, before, going⟩

theorem oneActive_interrupt (state : ServiceState) :
    OneActive (effect state .interruptActive) := by
  rintro id ⟨stored, found, going⟩
  change (state.table.update _ UpgradeRow.interrupt_id).find id = _ at found
  rw [UpgradeTable.find_update, Option.map_eq_some_iff] at found
  rcases found with ⟨row, _, interrupted⟩
  have ended := interrupt_active row
  rw [interrupted, UpgradeRow.active, going] at ended
  cases ended

theorem Kept.oneActive_review (kept : Kept identifiers state roles) (one : OneActive state)
    {operation : UpgradeOperation} {rest : List UpgradeOperation}
    (task : (roles index).task = .opening (operation :: rest)) (now : Instant) :
    OneActive (effect state (.updatePayload (operation.review now))) := by
  have mine := kept.each index
  rw [Role.Kept, task] at mine
  have interrupted := (mine.2.2 operation List.mem_cons_self).2
  apply one.less
  rintro id ⟨stored, found, going⟩
  change (state.table.update _ (UpgradeRow.setPayload_id _)).find id = _ at found
  rw [UpgradeTable.find_update, Option.map_eq_some_iff] at found
  rcases found with ⟨row, known, written⟩
  unfold UpgradeRow.setPayload at written
  split at written
  · cases written
    have ended : operation.state.terminal = false := going
    rw [interrupted] at ended
    cases ended
  · exact ⟨stored, written ▸ known, going⟩

theorem oneActive_consume (one : OneActive state) (planId : String) :
    OneActive (effect state (.consumePlan planId)) := by
  apply one.less
  rintro id ⟨stored, found, going⟩
  exact ⟨stored, operation_consume found, going⟩

/-- A worker writes the row of the only active operation, which is its own. -/
theorem Kept.onlyActive (kept : Kept identifiers state roles) (one : OneActive state)
    {held document : UpgradeOperation} (task : (roles index).task = .working held)
    (continues : Continues held document) : OnlyActive state document.id := by
  rw [continues.id]
  exact one held.id (kept.works task).2.2.1

/-- A move, unless it writes an operation beside an active one. -/
theorem Kept.moves_oneActive (kept : Kept identifiers state roles) (one : OneActive state)
    {request : ServiceRequest} {answer : ServiceAnswer request}
    (moved : Moves (roles index) request answer other)
    (alone : ∀ call document, (roles index).call = some call → call.outside = true →
      request = .put (.operation document) → OnlyActive state document.id) :
    OneActive (effect state request) := by
  have same : (effect state request).table = state.table → OneActive (effect state request) :=
    fun table => one.less (active_of_table table)
  cases moved with
  | free answer unwritten => exact same (unwritten_table unwritten)
  | acted answer task adapts => exact same (adapts_table adapts)
  | interrupted call task => exact oneActive_interrupt state
  | reviewed now task => exact kept.oneActive_review one task now
  | @filed target row call task => exact oneActive_plan one row
  | consumed planId call task => exact oneActive_consume one planId
  | refused planId call task => exact oneActive_consume one planId
  | placed call task => exact oneActive_put (alone _ _ call rfl rfl)
  | @marked operationId row now call task =>
      cases row with
      | plan row => exact oneActive_plan one _
      | operation stored => exact oneActive_put (alone _ _ call rfl rfl)
  | saved task continues running => exact oneActive_put (kept.onlyActive one task continues)
  | ended task continues terminal => exact oneActive_put (kept.onlyActive one task continues)
  | _ => exact same rfl

theorem onlyActive_of_aloneIn {id : String} (alone : aloneIn state.table id = true) :
    OnlyActive state id := by
  rintro other ⟨stored, found, going⟩
  have named : stored.id = other := UpgradeTable.find_id found
  have checked := List.all_eq_true.mp alone _ (List.mem_of_find?_eq_some found)
  dsimp only at checked
  rw [going, named] at checked
  exact of_decide_eq_true checked

theorem onlyActive_of_writesAlone {pool : ServicePool} {offer : Offer} {call : Call}
    {document : UpgradeOperation} {next : Unit → ServiceProgram Outcome}
    (meets : WritesAlone pool (.advance index offer))
    (found : pool.threads[index]? = some ⟨call, .ask (.put (.operation document)) next⟩)
    (outside : call.outside = true) : OnlyActive pool.shared document.id := by
  unfold WritesAlone writesAlone at meets
  dsimp only at meets
  rw [found] at meets
  dsimp only at meets
  rw [outside] at meets
  exact onlyActive_of_aloneIn meets

theorem advance_oneActive {pool : ServicePool} {offer : Offer} {label : Call}
    {request : ServiceRequest} {next : ServiceAnswer request → ServiceProgram Outcome}
    {answer : ServiceAnswer request} (meets : WritesAlone pool (.advance index offer))
    (annotated : (upgradeProtocol service identifiers).Annotated pool roles)
    (kept : Kept identifiers pool.shared roles) (one : OneActive pool.shared)
    (found : pool.threads[index]? = some ⟨label, .ask request next⟩)
    (moved : Moves (roles index) request answer other) :
    OneActive (effect pool.shared request) := by
  refine kept.moves_oneActive one moved ?_
  rintro call document known outside rfl
  have called : (roles index).call = none ∨ (roles index).call = some label :=
    annotated.called index _ found
  rw [known] at called
  rcases called with impossible | same
  · cases impossible
  · cases Option.some.inj same
    exact onlyActive_of_writesAlone meets found outside

theorem evolves_oneActive {pool next : ServicePool} {later : Nat → Role}
    {action : ServiceAction} {entries : ServiceLog} (meets : WritesAlone pool action)
    (annotated : (upgradeProtocol service identifiers).Annotated pool roles)
    (kept : Kept identifiers pool.shared roles) (one : OneActive pool.shared)
    (evolves : (upgradeProtocol service identifiers).Evolves pool roles action entries next
      later) : OneActive next.shared := by
  cases evolves with
  | advanced found _ moved _ => exact advance_oneActive meets annotated kept one found moved
  | spawned found _ moved _ => exact advance_oneActive meets annotated kept one found moved
  | admitted _ => exact one
  | restarted => exact one.less (active_of_table rfl)

/-! ## Every run -/

/-- A thread in a call of the adapter works on an active operation of its own. -/
theorem adapting_works {pool : ServicePool}
    (annotated : (upgradeProtocol service identifiers).Annotated pool roles)
    (kept : Kept identifiers pool.shared roles)
    {thread : Thread Call ServiceRequest ServiceAnswer Outcome}
    (found : pool.threads[index]? = some thread) (adapts : adapting thread = true) :
    ∃ id, (roles index).row = some id ∧ pool.shared.Active id := by
  have follows := annotated.follows index thread found
  rcases thread with ⟨label, program⟩
  have works : ∀ {held}, (roles index).task = .working held →
      ∃ id, (roles index).row = some id ∧ pool.shared.Active id :=
    fun task => ⟨_, (kept.works task).2.1, (kept.works task).2.2.1⟩
  cases program with
  | done result => cases adapts
  | ask request next =>
      cases request with
      | upgrade component version deadline =>
          rcases follows (.ok () : Except Unit Unit) with ⟨after, moved, _⟩
          cases moved with
          | free answer unwritten => cases unwritten
          | acted answer task _ => exact works task
      | rollback component version deadline =>
          rcases follows (.ok () : Except Unit Unit) with ⟨after, moved, _⟩
          cases moved with
          | free answer unwritten => cases unwritten
          | acted answer task _ => exact works task
      | _ => cases adapts

theorem initial_logged : Logged [] (machine service identifiers).initial.shared where
  consumed := List.nodup_nil
  queued := List.nodup_nil
  spent planId member := by cases member
  executed planId member := by cases member

/-- In every run, a plan is consumed once and queues one operation. -/
theorem plans_once {allowed : ServicePool → ServiceAction → Prop} {log : ServiceLog}
    {pool : ServicePool} (reached : (machine service identifiers).Reachable allowed log pool) :
    PlansOnce log := by
  have always := reachable_with (fun log pool _ => Logged log pool.shared) initial_logged
    (fun _ _ _ _ _ _ _ _ _ kept logged evolves => evolves_logged kept logged evolves) reached
  rcases always with ⟨_, _, _, logged⟩
  exact logged.toPlansOnce

theorem reachable_oneActive {log : ServiceLog} {pool : ServicePool}
    (reached : (machine service identifiers).Reachable WritesAlone log pool) :
    ∃ roles, (upgradeProtocol service identifiers).Annotated pool roles ∧
      Kept identifiers pool.shared roles ∧ OneActive pool.shared := by
  refine reachable_with (fun _ pool _ => OneActive pool.shared) ?_ ?_ reached
  · rintro id ⟨stored, found, _⟩
    cases found
  · intro log pool roles action entries next later meets annotated kept one evolves
    exact evolves_oneActive meets annotated kept one evolves

/-- In every run in which no call writes an operation while another one is active: every
plan is consumed once and queues one operation, at most one operation is active, and at most
one thread calls the adapter. -/
theorem one_upgrade {log : ServiceLog} {pool : ServicePool}
    (reached : (machine service identifiers).Reachable WritesAlone log pool) :
    PlansOnce log ∧ OneAtATime pool := by
  rcases reachable_oneActive reached with ⟨roles, annotated, kept, one⟩
  refine ⟨plans_once reached, one, ?_⟩
  intro left right first second leftFound rightFound leftAdapts rightAdapts
  rcases adapting_works annotated kept leftFound leftAdapts with ⟨id, owned, active⟩
  rcases adapting_works annotated kept rightFound rightAdapts with ⟨other, also, running⟩
  have same : other = id := one id active other running
  exact kept.rows left right id owned (same ▸ also)

/-- One upgrade on its own, in its call of the adapter. -/
theorem one_upgrade_alone : ∃ log pool thread,
    (machine exampleService countingIdentifiers).Reachable WritesAlone log pool ∧
      pool.threads[3]? = some thread ∧ adapting thread = true ∧ PlansOnce log ∧
      OneAtATime pool := by
  have played : (playExample writesAlone (submitScript ++ goOn 3 10)).any
      (fun pool => (pool.threads[3]?).any adapting) = true := by
    decide +kernel
  rcases (Option.any_eq_true _ _).mp played with ⟨pool, run, works⟩
  rcases (Option.any_eq_true _ _).mp works with ⟨thread, found, adapts⟩
  rcases reachable_playExample (fun _ _ permitted => permitted) run with ⟨log, reached⟩
  rcases one_upgrade reached with ⟨once, one⟩
  exact ⟨log, pool, thread, reached, found, adapts, once, one⟩

/-! ## Two at a time -/

/-- Two plans are made of the same observation, and both are submitted. -/
def twoPlansScript : List (ServicePool → ServiceAction) :=
  planScript ++ arrive (.plan "fortify-24.4-eval.2") ++ goOn 2 4 ++
    arrive (.submit "upgrade-plan-" exampleIdentity (some exampleConfirmation)) ++ goOn 3 9 ++
    arrive (.submit "upgrade-plan-a" exampleIdentity (some exampleConfirmation)) ++ goOn 5 9 ++
    goOn 4 10 ++ goOn 6 10

/-- The service lets two upgrades call the adapter at the same time. -/
theorem upgrade_beside_upgrade :
    ¬ ∀ (service : ProfileUpgradeService) (identifiers : Identifiers) (log : ServiceLog)
      (pool : ServicePool),
      (machine service identifiers).Reachable (fun _ _ => True) log pool →
      PlansOnce log ∧ OneAtATime pool := by
  intro always
  have played : (playExample (fun _ _ => true) twoPlansScript).any (fun pool =>
      (pool.threads[4]?).any adapting && (pool.threads[6]?).any adapting) = true := by
    decide +kernel
  rcases (Option.any_eq_true _ _).mp played with ⟨pool, run, holds⟩
  rcases Bool.and_eq_true_iff.mp holds with ⟨one, two⟩
  rcases (Option.any_eq_true _ _).mp one with ⟨first, firstFound, firstAdapts⟩
  rcases (Option.any_eq_true _ _).mp two with ⟨second, secondFound, secondAdapts⟩
  rcases reachable_playExample (fun _ _ _ => trivial) run with ⟨log, reached⟩
  have alone := (always exampleService countingIdentifiers log pool reached).2
  have same := alone.calls 4 6 first second firstFound secondFound firstAdapts secondAdapts
  exact absurd same (by decide)

end FortifyLab.Upgrade.Roles
