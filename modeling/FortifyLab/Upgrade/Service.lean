import FortifyLab.Library.Execution
import FortifyLab.Library.Pool
import FortifyLab.Upgrade.Execution

/-! The upgrade service over its store: calls and workers advance one request at a time in
any order, and a restart loses them. -/

namespace FortifyLab.Upgrade

open Registry Authorization

/-! ## The table -/

inductive PlanState where
  | consumed | cancelling | interrupted
  deriving DecidableEq, Repr

/-- A stored plan; one that was never consumed has no state. -/
structure PlanRow where
  plan : ProfileUpgradePlan
  state : Option PlanState
  error : Option String
  updatedAt : Option Instant

/-- A row of `profile_upgrades`; its state column is the state of the payload. -/
inductive UpgradeRow where
  | plan (row : PlanRow)
  | operation (operation : UpgradeOperation)

/-- `TERMINAL_STATES`. -/
def UpgradeState.terminal : UpgradeState → Bool
  | .succeeded | .failed | .cancelled | .timedOut | .interrupted => true
  | .queued | .running | .cancelling => false

namespace UpgradeRow

def id : UpgradeRow → String
  | .plan row => row.plan.id
  | .operation stored => stored.id

/-- `state IN ('queued','running','cancelling')`. -/
def active : UpgradeRow → Bool
  | .plan row => row.state = some .cancelling
  | .operation stored => !stored.state.terminal

def document : UpgradeRow → UpgradeDocument
  | .plan row => .plan row.plan
  | .operation stored => .operation stored

/-- The first statement of the store's constructor, on one row. -/
def interrupt (row : UpgradeRow) : UpgradeRow :=
  if row.active then
    match row with
    | .plan row => .plan { row with
        state := some .interrupted
        error := some "Manager restarted before profile upgrade completed" }
    | .operation stored => .operation { stored with
        state := .interrupted
        error := some "Manager restarted before profile upgrade completed" }
  else row

/-- `consume_plan` on one row. -/
def consume (planId : String) : UpgradeRow → UpgradeRow
  | .plan row => .plan (if row.plan.id = planId ∧ row.state = none then
      { row with state := some .consumed } else row)
  | .operation stored => .operation stored

/-- A new payload for the row of the operation. -/
def setPayload (operation : UpgradeOperation) (row : UpgradeRow) : UpgradeRow :=
  if row.id = operation.id then .operation operation else row

theorem interrupt_id (row : UpgradeRow) : row.interrupt.id = row.id := by
  unfold interrupt
  split
  · cases row <;> rfl
  · rfl

theorem consume_id (planId : String) (row : UpgradeRow) : (row.consume planId).id = row.id := by
  cases row with
  | operation stored => rfl
  | plan row =>
      dsimp only [consume]
      split <;> rfl

theorem setPayload_id (operation : UpgradeOperation) (row : UpgradeRow) :
    (row.setPayload operation).id = row.id := by
  unfold setPayload
  split
  · next same => exact same.symm
  · rfl

end UpgradeRow

/-- The table with its primary key. -/
structure UpgradeTable where
  rows : List UpgradeRow
  unique : (rows.map UpgradeRow.id).Nodup

namespace UpgradeTable

def empty : UpgradeTable := ⟨[], List.nodup_nil⟩

def find (table : UpgradeTable) (id : String) : Option UpgradeRow :=
  table.rows.find? (fun row => row.id = id)

/-- `INSERT OR REPLACE`. -/
def put (table : UpgradeTable) (row : UpgradeRow) : UpgradeTable where
  rows := table.rows.filter (fun other => other.id ≠ row.id) ++ [row]
  unique := by
    rw [List.map_append, List.nodup_append]
    refine ⟨table.unique.sublist (List.filter_sublist.map _), by simp, ?_⟩
    rintro id member other last rfl
    rcases List.mem_map.mp member with ⟨kept, within, rfl⟩
    have different := (List.mem_filter.mp within).2
    simp only [List.map_cons, List.map_nil, List.mem_singleton] at last
    simp [last] at different

/-- An update of every row that keeps the ids. -/
def update (table : UpgradeTable) (change : UpgradeRow → UpgradeRow)
    (keeps : ∀ row, (change row).id = row.id) : UpgradeTable where
  rows := table.rows.map change
  unique := by
    have same : UpgradeRow.id ∘ change = UpgradeRow.id := funext keeps
    rw [List.map_map, same]
    exact table.unique

/-- Whether `consume_plan` finds the plan unconsumed. -/
def consumable (table : UpgradeTable) (planId : String) : Bool :=
  match table.find planId with
  | some (.plan row) => row.state.isNone
  | _ => false

/-- What the constructor of the store selects. -/
def interrupted (table : UpgradeTable) : List UpgradeOperation :=
  table.rows.filterMap (fun row => match row with
    | .operation stored => if stored.state = .interrupted then some stored else none
    | .plan _ => none)

end UpgradeTable

/-! ## Requests -/

/-- What the service asks. Each statement of the store is preceded by `statement`, which
tells whether it runs. -/
inductive ServiceRequest where
  | survey
  | newUuid
  | now
  | monotonic
  | statement
  | get (documentId : String)
  | put (row : UpgradeRow)
  | consumePlan (planId : String)
  | interruptActive
  | interruptedOperations
  | updatePayload (operation : UpgradeOperation)
  | serve
  | addCancelled (operationId : String)
  | isCancelled (operationId : String)
  | startWorker (operationId : String) (plan : ProfileUpgradePlan) (target : PlatformProfile)
  | upgrade (component : ComponentId) (version : ComponentVersion) (deadline : Int)
  | rollbackCallable
  | rollback (component : ComponentId) (version : ComponentVersion) (deadline : Int)
  | verifyLayer (component : ComponentId) (deadline : Int)

def ServiceAnswer : ServiceRequest → Type
  | .survey => Surroundings
  | .newUuid => String
  | .now => Instant
  | .monotonic => Int
  | .statement => Except Unit Unit
  | .get _ => Option UpgradeRow
  | .put _ => Unit
  | .consumePlan _ => Bool
  | .interruptActive => Unit
  | .interruptedOperations => List UpgradeOperation
  | .updatePayload _ => Unit
  | .serve => Unit
  | .addCancelled _ => Unit
  | .isCancelled _ => Bool
  | .startWorker _ _ _ => Unit
  | .upgrade _ _ _ => Except Unit Unit
  | .rollbackCallable => Bool
  | .rollback _ _ _ => Except Unit Unit
  | .verifyLayer _ _ => Except Unit Bool

abbrev ServiceProgram := Program ServiceRequest ServiceAnswer

def inquire (request : ServiceRequest) : ServiceProgram (ServiceAnswer request) :=
  Program.perform request

/-- One statement of the store; where it fails nothing changes. -/
def attempted (request : ServiceRequest) :
    ServiceProgram (Except Unit (ServiceAnswer request)) := do
  match ← inquire .statement with
  | .error _ => return .error ()
  | .ok _ => return .ok (← inquire request)

/-! ## The constructor of the store -/

/-- The document of an interrupted operation as the constructor writes it again. -/
def UpgradeOperation.review (operation : UpgradeOperation) (now : Instant) : UpgradeOperation :=
  { operation with
    recovery.required := true
    recovery.status := .operatorReviewRequired
    recovery.action := some ("Review retained evidence and verify authoritative health; " ++
      "a Manager restart does not prove rollback.")
    evidence := operation.evidence ++ [.managerRestarted now] }

/-- The loop over the interrupted operations; whether every statement ran. -/
def reviewEach : List UpgradeOperation → ServiceProgram Bool
  | [] => return true
  | operation :: rest => do
      let now ← inquire .now
      match ← attempted (.updatePayload (operation.review now)) with
      | .error _ => return false
      | .ok _ => reviewEach rest

/-- `UpgradeStore.__init__`; calls are served after it. -/
def openStore : ServiceProgram Unit := do
  match ← attempted .interruptActive with
  | .error _ => return ()
  | .ok _ =>
      match ← attempted .interruptedOperations with
      | .error _ => return ()
      | .ok operations =>
          let reviewed ← reviewEach operations
          if reviewed = true then inquire .serve else return ()

/-! ## The calls -/

namespace ProfileUpgradeService

variable (service : ProfileUpgradeService)

/-- `plan`. -/
def createPlan (targetProfileId : String) :
    ServiceProgram (Except UpgradeFailure ProfileUpgradePlan) := do
  let surroundings : Surroundings ← inquire .survey
  match service.plan surroundings "" targetProfileId with
  | .error failure => return .error failure
  | .ok plan => do
      let uuid : String ← inquire .newUuid
      let plan := { plan with id := "upgrade-plan-" ++ uuid }
      match ← attempted (.put (.plan ⟨plan, none, none, none⟩)) with
      | .error _ => return .error .raised
      | .ok _ => return .ok plan

/-- The end of `submit`: the queued operation and its thread. -/
def enqueue (operation : UpgradeOperation) (plan : ProfileUpgradePlan)
    (target : PlatformProfile) : ServiceProgram (Except UpgradeFailure UpgradeOperation) := do
  let uuid : String ← inquire .newUuid
  let operation := { operation with id := "upgrade-" ++ uuid }
  match ← attempted (.put (.operation operation)) with
  | .error _ => return .error .raised
  | .ok _ => do
      inquire (.startWorker operation.id plan target)
      return .ok operation

/-- `consume_plan` and what follows it. -/
def consumeAndEnqueue (operation : UpgradeOperation) (plan : ProfileUpgradePlan)
    (target : PlatformProfile) : ServiceProgram (Except UpgradeFailure UpgradeOperation) := do
  match ← attempted (.consumePlan plan.id) with
  | .error _ => return .error .raised
  | .ok consumed =>
      match (consumed : Bool) with
      | true => enqueue operation plan target
      | false => return .error (.stale "upgrade plan was already consumed or changed")

/-- `submit` of a document that was found. -/
def submitStored (row : UpgradeRow) (identity : ActorIdentity) (confirmation : Option String) :
    ServiceProgram (Except UpgradeFailure UpgradeOperation) := do
  let surroundings : Surroundings ← inquire .survey
  match service.submit surroundings (some row.document) "" identity confirmation true, row with
  | .error failure, _ => return .error failure
  | .ok (operation, target), .plan row => consumeAndEnqueue operation row.plan target
  | .ok _, .operation _ => return .error (.blocked "upgrade plan is invalid")

/-- `submit`. -/
def submitPlan (planId : String) (identity : ActorIdentity) (confirmation : Option String) :
    ServiceProgram (Except UpgradeFailure UpgradeOperation) := do
  match ← attempted (.get planId) with
  | .error _ => return .error .raised
  | .ok none => return .error (.blocked "upgrade plan or operation was not found")
  | .ok (some row) => service.submitStored row identity confirmation

end ProfileUpgradeService

/-- The row that `cancel` writes. -/
def UpgradeRow.cancelAt (row : UpgradeRow) (now : Instant) : UpgradeRow :=
  match row with
  | .plan row => .plan { row with state := some .cancelling, updatedAt := some now }
  | .operation stored => .operation { stored with state := .cancelling, updatedAt := now }

/-- The part of `cancel` after the check of the state. -/
def markCancelling (operationId : String) (row : UpgradeRow) :
    ServiceProgram (Except UpgradeFailure UpgradeRow) := do
  inquire (.addCancelled operationId)
  let now : Instant ← inquire .now
  match ← attempted (.put (row.cancelAt now)) with
  | .error _ => return .error .raised
  | .ok _ => return .ok (row.cancelAt now)

/-- `operation["state"]`, which a plan has only once it was consumed; whether it is one of
the terminal states. -/
def UpgradeRow.ended : UpgradeRow → Option Bool
  | .plan row => row.state.map (fun state => state = .interrupted)
  | .operation stored => some stored.state.terminal

/-- `cancel`. -/
def cancel (operationId : String) : ServiceProgram (Except UpgradeFailure UpgradeRow) := do
  match ← attempted (.get operationId) with
  | .error _ => return .error .raised
  | .ok none => return .error (.blocked "upgrade plan or operation was not found")
  | .ok (some row) =>
      match UpgradeRow.ended row with
      | none => return .error .raised
      | some true => return .ok row
      | some false => markCancelling operationId row

/-! ## The worker -/

/-- The requests of the thread, asked of the service it runs in. -/
def workerRequest (operationId : String) :
    (request : UpgradeRequest) → ServiceProgram (UpgradeAnswer request)
  | .cancelled => inquire (.isCancelled operationId)
  | .now => inquire .now
  | .monotonic => inquire .monotonic
  | .upgrade component version deadline => inquire (.upgrade component version deadline)
  | .rollbackCallable => inquire .rollbackCallable
  | .rollback component version deadline => inquire (.rollback component version deadline)
  | .verifyLayer component deadline => inquire (.verifyLayer component deadline)
  | .put document => attempted (.put (.operation document))

/-- `_run`. Only its own thread looks at the flag that it discards at its end. -/
def runWorker (operationId : String) (plan : ProfileUpgradePlan) (target : PlatformProfile) :
    ServiceProgram Unit := do
  match ← attempted (.get operationId) with
  | .ok (some (.operation stored)) =>
      (run plan target stored).expand (workerRequest operationId)
  | _ => return ()

/-! ## The machine -/

structure ServiceState where
  table : UpgradeTable
  cancelled : List String
  serving : Bool
  drawn : Nat

/-- `uuid4().hex`: fresh identifiers of hexadecimal digits. -/
structure Identifiers where
  uuid : Nat → String
  distinct : Function.Injective uuid
  hexadecimal : ∀ count, ∀ digit ∈ (uuid count).toList, digit ∈ "0123456789abcdef".toList

inductive Call where
  | openStore
  | plan (targetProfileId : String)
  | submit (planId : String) (identity : ActorIdentity) (confirmation : Option String)
  | cancel (operationId : String)
  | worker (operationId : String) (plan : ProfileUpgradePlan) (target : PlatformProfile)

/-- The calls arrive from outside; the rest the service starts itself. -/
def Call.outside : Call → Bool
  | .plan _ | .submit _ _ _ | .cancel _ => true
  | _ => false

inductive Outcome where
  | opened
  | planned (result : Except UpgradeFailure ProfileUpgradePlan)
  | submitted (result : Except UpgradeFailure UpgradeOperation)
  | cancelled (result : Except UpgradeFailure UpgradeRow)
  | ended
  | killed

/-- The outside world's part of an answer. -/
structure Offer where
  surroundings : Surroundings
  now : Instant
  monotonic : Int
  statement : Except Unit Unit
  adapter : Except Unit Unit
  callable : Bool
  verified : Except Unit Bool

def reply (identifiers : Identifiers) (state : ServiceState) (offer : Offer) :
    (request : ServiceRequest) → ServiceAnswer request
  | .survey => offer.surroundings
  | .newUuid => identifiers.uuid state.drawn
  | .now => offer.now
  | .monotonic => offer.monotonic
  | .statement => offer.statement
  | .get documentId => state.table.find documentId
  | .put _ => ()
  | .consumePlan planId => state.table.consumable planId
  | .interruptActive => ()
  | .interruptedOperations => state.table.interrupted
  | .updatePayload _ => ()
  | .serve => ()
  | .addCancelled _ => ()
  | .isCancelled operationId => decide (operationId ∈ state.cancelled)
  | .startWorker _ _ _ => ()
  | .upgrade _ _ _ => offer.adapter
  | .rollbackCallable => offer.callable
  | .rollback _ _ _ => offer.adapter
  | .verifyLayer _ _ => offer.verified

def effect (state : ServiceState) : ServiceRequest → ServiceState
  | .newUuid => { state with drawn := state.drawn + 1 }
  | .put row => { state with table := state.table.put row }
  | .consumePlan planId =>
      { state with table :=
        state.table.update (UpgradeRow.consume planId) (UpgradeRow.consume_id planId) }
  | .interruptActive =>
      { state with table := state.table.update UpgradeRow.interrupt UpgradeRow.interrupt_id }
  | .updatePayload operation =>
      { state with table :=
        state.table.update (UpgradeRow.setPayload operation) (UpgradeRow.setPayload_id operation) }
  | .serve => { state with serving := true }
  | .addCancelled operationId => { state with cancelled := operationId :: state.cancelled }
  | _ => state

def spawned : ServiceRequest → Option Call
  | .startWorker operationId plan target => some (.worker operationId plan target)
  | _ => none

def body (service : ProfileUpgradeService) : Call → ServiceProgram Outcome
  | .openStore => do
      openStore
      return .opened
  | .plan targetProfileId => do
      let result ← service.createPlan targetProfileId
      return .planned result
  | .submit planId identity confirmation => do
      let result ← service.submitPlan planId identity confirmation
      return .submitted result
  | .cancel operationId => do
      let result ← cancel operationId
      return .cancelled result
  | .worker operationId plan target => do
      runWorker operationId plan target
      return .ended

def machine (service : ProfileUpgradeService) (identifiers : Identifiers) :
    Machine ServiceState Call Offer ServiceRequest ServiceAnswer Outcome where
  body := body service
  reply := fun state _ offer request => some (reply identifiers state offer request)
  effect := fun state _ request => effect state request
  spawned := spawned
  admits := fun state call => call.outside && state.serving
  lost := fun state => { state with cancelled := [], serving := false }
  boot := .openStore
  killed := .killed
  fresh := ⟨.empty, [], false, 0⟩

abbrev ServicePool := Pool ServiceState Call ServiceRequest ServiceAnswer Outcome

abbrev ServiceAction := Action Call Offer

def countingUuid (count : Nat) : String := String.ofList (List.replicate count 'a')

theorem countingUuid_injective : Function.Injective countingUuid := by
  intro left right same
  have lengths := congrArg (fun text => text.toList.length) same
  simpa [countingUuid] using lengths

theorem countingUuid_hexadecimal (count : Nat) :
    ∀ digit ∈ (countingUuid count).toList, digit ∈ "0123456789abcdef".toList := by
  intro digit member
  have same : digit = 'a' := List.eq_of_mem_replicate (by simpa [countingUuid] using member)
  subst same
  decide

/-- Identifiers of growing length. -/
def countingIdentifiers : Identifiers where
  uuid := countingUuid
  distinct := countingUuid_injective
  hexadecimal := countingUuid_hexadecimal

end FortifyLab.Upgrade
