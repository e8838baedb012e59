import FortifyLab.Library.Trace
import FortifyLab.Secrets.SharedSecrets

/-! Where an accepted replacement ends: its last stored state against what the adapter,
the consumers, the deadline and the cancellation did in the run. -/

namespace FortifyLab.Secrets

open Registry (ComponentId)
open Program

abbrev SecretExchange := Exchange SecretRequest SecretAnswer

/-- The statements of the store succeed. -/
def Stores : SecretExchange → Prop
  | ⟨.statement, answer⟩ => (answer : Except SecretRaised Unit) = .ok ()
  | _ => True

/-! ## What a run did -/

def returns {α : Type} : Except SecretRaised α → Bool
  | .ok _ => true
  | .error _ => false

/-- The row that an exchange stores. -/
def written : SecretExchange → Option SecretUpdate
  | ⟨.create document, answer⟩ => if returns (α := Unit) answer then some document else none
  | ⟨.update document, _⟩ => some document
  | _ => none

def lastStored (exchanges : List SecretExchange) : Option SecretUpdate :=
  (exchanges.filterMap written).getLast?

/-- A call of a consumer: a restart and whether it returned, or a health check and whether
it reported the consumer healthy. -/
inductive ConsumerCall where
  | restart (consumer : ComponentId) (returned : Bool)
  | health (consumer : ComponentId) (healthy : Bool)
  deriving DecidableEq, Repr

def ConsumerCall.restarted : ConsumerCall → Option ComponentId
  | .restart consumer true => some consumer
  | _ => none

def reportsHealthy : Except SecretRaised Bool → Bool
  | .ok healthy => healthy
  | .error _ => false

def consumerCall : SecretExchange → Option ConsumerCall
  | ⟨.restart consumer _, answer⟩ => some (.restart consumer (returns (α := Unit) answer))
  | ⟨.healthy consumer _, answer⟩ => some (.health consumer (reportsHealthy answer))
  | _ => none

def consumerCalls (exchanges : List SecretExchange) : List ConsumerCall :=
  exchanges.filterMap consumerCall

/-- The consumers whose restart returned. -/
def restartedIn (exchanges : List SecretExchange) : List ComponentId :=
  (consumerCalls exchanges).filterMap ConsumerCall.restarted

/-- Each consumer restarted once and then reported healthy. -/
def allServed (consumers : List ComponentId) : List ConsumerCall :=
  consumers.flatMap (fun consumer => [.restart consumer true, .health consumer true])

/-- A call of the adapter's `rollback`, and what it did. -/
structure RollbackCall where
  target : SecretTarget
  revision : String
  result : Except SecretRaised Unit

def rollbackCall : SecretExchange → Option RollbackCall
  | ⟨.adapterRollback target revision _, answer⟩ => some ⟨target, revision, answer⟩
  | _ => none

def rollbackCalls (exchanges : List SecretExchange) : List RollbackCall :=
  exchanges.filterMap rollbackCall

def replaces : SecretExchange → Bool
  | ⟨.adapterReplace _ _ _, _⟩ => true
  | _ => false

def expired (deadline time : ℚ) : Bool := decide (deadline ≤ time)

/-- A cancellation or a deadline that was noticed, or a call of a consumer that failed. -/
def fails (deadline : ℚ) : SecretExchange → Bool
  | ⟨.isCancelled _, answer⟩ => (answer : Bool)
  | ⟨.monotonic, answer⟩ => expired deadline answer
  | ⟨.restart _ _, answer⟩ => !returns (α := Unit) answer
  | ⟨.healthy _ _, answer⟩ => !reportsHealthy answer
  | _ => false

/-- Every row stored in the run names the consumers restarted so far. -/
def NamesRestarted : List ComponentId → List SecretExchange → Prop
  | _, [] => True
  | before, exchange :: rest =>
      (∀ document, written exchange = some document → document.restartedConsumers = before) ∧
        NamesRestarted (before ++ restartedIn [exchange]) rest

/-! ## What the claim is about -/

/-- The adapter returned a revision that can be restored. -/
def Returned (answer : Except SecretRaised (Option String)) (revision : String) : Prop :=
  answer = .ok (some revision) ∧ revision ≠ ""

/-- A failure of `replace`, or one noticed after it. -/
def Failed (deadline : ℚ) (answer : Except SecretRaised (Option String))
    (after : List SecretExchange) : Prop :=
  (∃ raised, answer = .error raised) ∨ ∃ exchange ∈ after, fails deadline exchange = true

/-- The last stored row is true to what happened after the adapter was called. -/
structure Truthful (target : SecretTarget) (deadline : ℚ)
    (answer : Except SecretRaised (Option String)) (after : List SecretExchange)
    (final : SecretUpdate) : Prop where
  outcome : final.state = .succeeded ∨ final.state = .failed ∨ final.state = .rolledBack ∨
    final.state = .recoveryRequired
  succeeded : final.state = .succeeded → (∃ revision, answer = .ok revision) ∧
    consumerCalls after = allServed target.consumers
  once : (rollbackCalls after).length ≤ 1
  rolls : ∀ other revision, (∃ result, ⟨other, revision, result⟩ ∈ rollbackCalls after) ↔
    other = target ∧ Failed deadline answer after ∧ Returned answer revision
  rolledBack : final.state = .rolledBack ↔ ∃ call ∈ rollbackCalls after, call.result = .ok ()
  recoveryRequired : final.state = .recoveryRequired ↔
    ∃ call ∈ rollbackCalls after, ∃ raised, call.result = .error raised
  failed : final.state = .failed ↔
    Failed deadline answer after ∧ ¬ ∃ revision, Returned answer revision

/-- A run that called the adapter once and ended true to what happened. -/
structure Conducted (settings : WorkflowSettings) (target : SecretTarget)
    (exchanges : List SecretExchange) : Prop where
  ended : ∃ (source : SecretSource) (started : ℚ) (before after : List SecretExchange)
      (answer : Except SecretRaised (Option String)) (final : SecretUpdate),
    exchanges = before ++ ⟨.monotonic, started⟩ ::
      ⟨.adapterReplace target source (started + settings.timeout), answer⟩ :: after ∧
    (∀ exchange ∈ before ++ after, replaces exchange = false) ∧
    consumerCalls before = [] ∧ rollbackCalls before = [] ∧
    lastStored exchanges = some final ∧
    Truthful target (started + settings.timeout) answer after final
  names : ∀ early exchange late document, exchanges = early ++ exchange :: late →
    written exchange = some document → document.restartedConsumers = restartedIn early ∧
      restartedIn early <+: target.consumers

/-! ## Parts of a run -/

theorem consumerCalls_append (early late : List SecretExchange) :
    consumerCalls (early ++ late) = consumerCalls early ++ consumerCalls late :=
  List.filterMap_append

theorem rollbackCalls_append (early late : List SecretExchange) :
    rollbackCalls (early ++ late) = rollbackCalls early ++ rollbackCalls late :=
  List.filterMap_append

theorem restartedIn_append (early late : List SecretExchange) :
    restartedIn (early ++ late) = restartedIn early ++ restartedIn late := by
  simp [restartedIn, consumerCalls_append]

theorem NamesRestarted.append {before : List ComponentId} {early late : List SecretExchange}
    (first : NamesRestarted before early)
    (second : NamesRestarted (before ++ restartedIn early) late) :
    NamesRestarted before (early ++ late) := by
  induction early generalizing before with
  | nil => simpa [restartedIn, consumerCalls] using second
  | cons exchange rest ih =>
      refine ⟨first.1, ih first.2 ?_⟩
      rw [← List.singleton_append, restartedIn_append, ← List.append_assoc] at second
      exact second

/-- A row that is stored within a run names what was restarted before it. -/
theorem NamesRestarted.at {before : List ComponentId} {early late : List SecretExchange}
    {exchange : SecretExchange} {document : SecretUpdate}
    (names : NamesRestarted before (early ++ exchange :: late))
    (stores : written exchange = some document) :
    document.restartedConsumers = before ++ restartedIn early := by
  induction early generalizing before with
  | nil => simpa [restartedIn, consumerCalls] using names.1 document stores
  | cons head rest ih =>
      have later := ih names.2
      rw [later, List.append_assoc, ← restartedIn_append, List.singleton_append]

theorem restartedIn_allServed {exchanges : List SecretExchange} {consumers : List ComponentId}
    (calls : consumerCalls exchanges = allServed consumers) : restartedIn exchanges = consumers := by
  rw [restartedIn, calls]
  clear calls
  induction consumers with
  | nil => rfl
  | cons consumer rest ih =>
      rw [allServed, List.flatMap_cons, List.filterMap_append]
      exact congrArg (consumer :: ·) ih

theorem execute_ends (request : SecretRequest) :
    EndsGiven Stores (fun exchanges result => ∃ answer,
        exchanges = [⟨.statement, (.ok () : Except SecretRaised Unit)⟩, ⟨request, answer⟩] ∧
          result = .ok answer)
      (execute request) := by
  apply endsGiven_ask
  intro answer stores
  cases stores
  apply endsGiven_ask
  intro answer _
  exact endsGiven_done ⟨answer, rfl, rfl⟩

/-- The exchanges of a save. -/
def saving (now : String) (document : SecretUpdate) : List SecretExchange :=
  [⟨.now, now⟩, ⟨.statement, (.ok () : Except SecretRaised Unit)⟩, ⟨.update document, ()⟩]

theorem save_ends (document : SecretUpdate) :
    EndsGiven Stores (fun exchanges outcome => ∃ now,
        outcome = (none, { document with updatedAt := now }) ∧ exchanges = saving now outcome.2)
      (save document) := by
  apply endsGiven_perform
  intro now _
  refine endsGiven_bind (execute_ends _) ?_
  rintro early value ⟨answer, rfl, rfl⟩
  exact endsGiven_done ⟨now, rfl, rfl⟩

/-- A part of the loop over the consumers: what it called, and how it ended. -/
structure Restarts (deadline : ℚ) (consumers : List ComponentId) (document : SecretUpdate)
    (exchanges : List SecretExchange) (outcome : Option SecretRaised × SecretUpdate) : Prop where
  names : NamesRestarted document.restartedConsumers exchanges
  restarted : outcome.2.restartedConsumers = document.restartedConsumers ++ restartedIn exchanges
  part : restartedIn exchanges <+: consumers
  finished : outcome.1 = none → consumerCalls exchanges = allServed consumers ∧
    ∀ exchange ∈ exchanges, fails deadline exchange = false
  failed : outcome.1 ≠ none → ∃ exchange ∈ exchanges, fails deadline exchange = true
  rolls : rollbackCalls exchanges = []
  replaces : ∀ exchange ∈ exchanges, replaces exchange = false

/-- One part of the loop after another. -/
theorem Restarts.after {deadline : ℚ} {consumers more : List ComponentId}
    {document middle : SecretUpdate} {early late : List SecretExchange}
    {outcome : Option SecretRaised × SecretUpdate}
    (first : Restarts deadline consumers document early (none, middle))
    (second : Restarts deadline more middle late outcome) :
    Restarts deadline (consumers ++ more) document (early ++ late) outcome where
  names := first.names.append (first.restarted ▸ second.names)
  restarted := by
    rw [second.restarted, first.restarted, restartedIn_append, List.append_assoc]
  part := by
    rw [restartedIn_append, restartedIn_allServed (first.finished rfl).1]
    exact (List.prefix_append_right_inj consumers).mpr second.part
  finished none := by
    have before := first.finished rfl
    have after := second.finished none
    refine ⟨?_, List.forall_mem_append.mpr ⟨before.2, after.2⟩⟩
    rw [consumerCalls_append, before.1, after.1, allServed, allServed, allServed,
      List.flatMap_append]
  failed some := by
    obtain ⟨exchange, member, failing⟩ := second.failed some
    exact ⟨exchange, List.mem_append_right early member, failing⟩
  rolls := by rw [rollbackCalls_append, first.rolls, second.rolls, List.append_nil]
  replaces := List.forall_mem_append.mpr ⟨first.replaces, second.replaces⟩

/-- A part that raised ends the loop. -/
theorem Restarts.stop {deadline : ℚ} {consumers : List ComponentId} {document after : SecretUpdate}
    {exchanges : List SecretExchange} {raised : SecretRaised}
    (first : Restarts deadline consumers document exchanges (some raised, after))
    (more : List ComponentId) :
    Restarts deadline (consumers ++ more) document exchanges (some raised, after) :=
  { first with
    part := first.part.trans (List.prefix_append consumers more)
    finished := nofun }

/-- An exchange that stores no row, calls nothing and notices no failure. -/
structure Silent (deadline : ℚ) (exchange : SecretExchange) : Prop where
  written : written exchange = none
  call : consumerCall exchange = none
  rolls : rollbackCall exchange = none
  replaces : replaces exchange = false
  fails : fails deadline exchange = false

theorem names_unwritten {before : List ComponentId} {exchanges : List SecretExchange}
    (unwritten : ∀ exchange ∈ exchanges, written exchange = none) :
    NamesRestarted before exchanges := by
  induction exchanges generalizing before with
  | nil => trivial
  | cons exchange rest ih =>
      rw [List.forall_mem_cons] at unwritten
      refine ⟨?_, ih unwritten.2⟩
      intro document stores
      rw [unwritten.1] at stores
      cases stores

theorem names_update {before : List ComponentId} {document : SecretUpdate}
    (same : document.restartedConsumers = before) :
    NamesRestarted before [⟨.update document, ()⟩] := by
  refine ⟨?_, trivial⟩
  intro other stores
  have stored : some document = some other := stores
  cases stored
  exact same

theorem saving_names {before : List ComponentId} (now : String) {document : SecretUpdate}
    (same : document.restartedConsumers = before) :
    NamesRestarted before (saving now document) := by
  have silent : NamesRestarted before
      [⟨.now, now⟩, ⟨.statement, (.ok () : Except SecretRaised Unit)⟩] := by
    apply names_unwritten
    simp only [List.forall_mem_cons]
    exact ⟨rfl, rfl, List.forall_mem_nil _⟩
  exact silent.append (names_update (same.trans (List.append_nil before).symm))

theorem saving_fails (now : String) (document : SecretUpdate) (deadline : ℚ) :
    ∀ exchange ∈ saving now document, fails deadline exchange = false := by
  simp only [saving, List.forall_mem_cons]
  exact ⟨rfl, rfl, rfl, List.forall_mem_nil _⟩

theorem saving_replaces (now : String) (document : SecretUpdate) :
    ∀ exchange ∈ saving now document, replaces exchange = false := by
  simp only [saving, List.forall_mem_cons]
  exact ⟨rfl, rfl, rfl, List.forall_mem_nil _⟩

/-- An exchange that the loop passes over. -/
theorem Silent.restarts {deadline : ℚ} {exchange : SecretExchange}
    (silent : Silent deadline exchange) (document : SecretUpdate) : Restarts deadline [] document [exchange] (none, document) := by
  constructor <;> simp [NamesRestarted, restartedIn, consumerCalls, rollbackCalls, allServed,
    silent.written, silent.call, silent.rolls, silent.replaces, silent.fails]

theorem saving_restarts (deadline : ℚ) (now : String) {document saved : SecretUpdate}
    (same : saved.restartedConsumers = document.restartedConsumers) :
    Restarts deadline [] document (saving now saved) (none, saved) where
  names := saving_names now same
  restarted := same.trans (List.append_nil _).symm
  part := List.prefix_rfl
  finished _ := ⟨rfl, saving_fails now saved deadline⟩
  failed some := absurd rfl some
  rolls := rfl
  replaces := saving_replaces now saved

/-- The exchange at which the loop raises, other than a restart that returned. -/
theorem raising_restarts {deadline : ℚ} {consumers : List ComponentId} {document : SecretUpdate}
    {exchange : SecretExchange} {raised : SecretRaised} (failing : fails deadline exchange = true)
    (unwritten : written exchange = none) (restarts : restartedIn [exchange] = [])
    (rolls : rollbackCalls [exchange] = []) (unreplaced : replaces exchange = false) :
    Restarts deadline consumers document [exchange] (some raised, document) where
  names := names_unwritten (by simpa using unwritten)
  restarted := by rw [restarts, List.append_nil]
  part := by rw [restarts]; exact List.nil_prefix
  finished := nofun
  failed _ := ⟨exchange, List.mem_singleton_self exchange, failing⟩
  rolls := rolls
  replaces := by simpa using unreplaced

theorem checkDeadline_ends (deadline : ℚ) (operationId : String) (document : SecretUpdate) :
    EndsGiven Stores (fun exchanges raised =>
        Restarts deadline [] document exchanges (raised, document))
      (checkDeadline deadline operationId) := by
  apply endsGiven_perform
  intro cancelled _
  cases cancelled with
  | true => exact endsGiven_done (raising_restarts rfl rfl rfl rfl rfl)
  | false =>
      have passed : Restarts deadline [] document [⟨.isCancelled operationId, false⟩]
          (none, document) := Silent.restarts ⟨rfl, rfl, rfl, rfl, rfl⟩ document
      apply endsGiven_perform
      intro (time : ℚ) _
      apply endsGiven_done
      split
      · next late =>
        have expires : fails deadline ⟨.monotonic, time⟩ = true := decide_eq_true late
        exact passed.after (raising_restarts expires rfl rfl rfl rfl)
      · next early =>
        have inTime : fails deadline ⟨.monotonic, time⟩ = false := decide_eq_false early
        exact passed.after (Silent.restarts ⟨rfl, rfl, rfl, rfl, inTime⟩ document)

/-- A restart that returned, the row stored after it, and the health of the consumer. -/
def serving (deadline : ℚ) (consumer : ComponentId) (now : String) (saved : SecretUpdate)
    (health : Except SecretRaised Bool) : List SecretExchange :=
  ⟨.restart consumer deadline, (.ok () : Except SecretRaised Unit)⟩ ::
    (saving now saved ++ [⟨.healthy consumer deadline, health⟩])

theorem serving_restarts (deadline : ℚ) (consumer : ComponentId) (now : String)
    {document saved : SecretUpdate} {health : Except SecretRaised Bool}
    {raised : Option SecretRaised}
    (same : saved.restartedConsumers = document.restartedConsumers ++ [consumer])
    (reports : raised = none ↔ reportsHealthy health = true) :
    Restarts deadline [consumer] document (serving deadline consumer now saved health)
      (raised, saved) := by
  have called : consumerCalls (serving deadline consumer now saved health) =
      [.restart consumer true, .health consumer (reportsHealthy health)] := rfl
  have unreplaced : ∀ exchange ∈ serving deadline consumer now saved health,
      replaces exchange = false := by
    simp only [serving, List.forall_mem_cons, List.forall_mem_append]
    exact ⟨rfl, saving_replaces now saved, rfl, List.forall_mem_nil _⟩
  constructor
  · have restarted : NamesRestarted document.restartedConsumers
        [⟨.restart consumer deadline, (.ok () : Except SecretRaised Unit)⟩] :=
      names_unwritten (List.forall_mem_singleton.mpr rfl)
    have reported : NamesRestarted (document.restartedConsumers ++ [consumer])
        [⟨.healthy consumer deadline, health⟩] :=
      names_unwritten (List.forall_mem_singleton.mpr rfl)
    rw [← List.append_nil (document.restartedConsumers ++ [consumer])] at reported
    have stored : NamesRestarted (document.restartedConsumers ++ [consumer])
        (saving now saved ++ [⟨.healthy consumer deadline, health⟩]) :=
      (saving_names now same).append reported
    exact restarted.append stored
  · exact same
  · exact List.prefix_rfl
  · intro finished
    have healthy := reports.mp finished
    refine ⟨by rw [called, healthy]; rfl, ?_⟩
    simp only [serving, List.forall_mem_cons, List.forall_mem_append]
    refine ⟨rfl, saving_fails now saved deadline, ?_, List.forall_mem_nil _⟩
    change (!reportsHealthy health) = false
    rw [healthy]
    rfl
  · intro failed
    refine ⟨⟨.healthy consumer deadline, health⟩, by simp [serving], ?_⟩
    change (!reportsHealthy health) = true
    rw [Bool.not_eq_true', Bool.eq_false_iff]
    exact fun healthy => failed (reports.mpr healthy)
  · rfl
  · exact unreplaced

theorem verifyConsumer_ends (deadline : ℚ) (consumer : ComponentId) (document : SecretUpdate) :
    EndsGiven Stores (fun exchanges outcome => Restarts deadline [consumer] document
        (⟨.restart consumer deadline, (.ok () : Except SecretRaised Unit)⟩ :: exchanges) outcome)
      (verifyConsumer deadline consumer document) := by
  refine endsGiven_bind (save_ends _) ?_
  rintro early outcome ⟨now, rfl, rfl⟩
  apply endsGiven_perform
  intro (health : Except SecretRaised Bool) _
  rcases health with raised | healthy
  · exact endsGiven_done (serving_restarts deadline consumer now rfl (by simp [reportsHealthy]))
  · cases healthy with
    | true =>
        exact endsGiven_done (serving_restarts deadline consumer now rfl (by simp [reportsHealthy]))
    | false =>
        exact endsGiven_done (serving_restarts deadline consumer now rfl (by simp [reportsHealthy]))

theorem restartConsumer_ends (deadline : ℚ) (consumer : ComponentId) (document : SecretUpdate) :
    EndsGiven Stores (fun exchanges outcome =>
        Restarts deadline [consumer] document exchanges outcome)
      (restartConsumer deadline consumer document) := by
  refine endsGiven_bind (checkDeadline_ends deadline document.id document) ?_
  intro early raised checked
  cases raised with
  | some raised =>
      apply endsGiven_done
      rw [List.append_nil]
      exact checked.stop [consumer]
  | none =>
      refine endsGiven_bind (save_ends _) ?_
      rintro more outcome ⟨now, rfl, rfl⟩
      have saved : Restarts deadline [] document
          (saving now { document with state := .restarting, updatedAt := now })
          (none, { document with state := .restarting, updatedAt := now }) :=
        saving_restarts deadline now rfl
      apply endsGiven_perform
      intro (answer : Except SecretRaised Unit) _
      cases answer with
      | error raised =>
          apply endsGiven_done
          exact checked.after (saved.after (raising_restarts rfl rfl rfl rfl rfl))
      | ok value =>
          refine (verifyConsumer_ends deadline consumer _).mono ?_
          intro exchanges outcome served
          exact checked.after (saved.after served)

theorem restartConsumers_ends (deadline : ℚ) (consumers : List ComponentId)
    (document : SecretUpdate) :
    EndsGiven Stores (fun exchanges outcome =>
        Restarts deadline consumers document exchanges outcome)
      (restartConsumers deadline consumers document) := by
  induction consumers generalizing document with
  | nil =>
      apply endsGiven_done
      exact ⟨trivial, (List.append_nil _).symm, List.prefix_rfl,
        fun _ => ⟨rfl, List.forall_mem_nil _⟩, fun some => absurd rfl some, rfl,
        List.forall_mem_nil _⟩
  | cons consumer rest ih =>
      refine endsGiven_bind (restartConsumer_ends deadline consumer document) ?_
      rintro early ⟨raised, after⟩ first
      cases raised with
      | some raised =>
          apply endsGiven_done
          rw [List.append_nil]
          exact first.stop rest
      | none =>
          refine (ih after).mono ?_
          intro exchanges outcome others
          exact first.after others

/-! ## The rollback and the last save -/

/-- What follows the loop: it stores rows that name what was restarted, and calls nothing
but `rollback`. -/
structure Concludes (deadline : ℚ) (before : List ComponentId) (exchanges : List SecretExchange) :
    Prop where
  names : NamesRestarted before exchanges
  calls : consumerCalls exchanges = []
  replaces : ∀ exchange ∈ exchanges, replaces exchange = false
  fails : ∀ exchange ∈ exchanges, fails deadline exchange = false

theorem Concludes.append {deadline : ℚ} {before : List ComponentId}
    {early late : List SecretExchange} (first : Concludes deadline before early)
    (second : Concludes deadline before late) : Concludes deadline before (early ++ late) where
  names := by
    apply first.names.append
    rw [restartedIn, first.calls, List.filterMap_nil, List.append_nil]
    exact second.names
  calls := by rw [consumerCalls_append, first.calls, second.calls, List.append_nil]
  replaces := List.forall_mem_append.mpr ⟨first.replaces, second.replaces⟩
  fails := List.forall_mem_append.mpr ⟨first.fails, second.fails⟩

theorem concludes_nil (deadline : ℚ) (before : List ComponentId) : Concludes deadline before [] :=
  ⟨trivial, rfl, List.forall_mem_nil _, List.forall_mem_nil _⟩

theorem concludes_single {deadline : ℚ} {exchange : SecretExchange} (before : List ComponentId)
    (unwritten : written exchange = none) (uncalled : consumerCalls [exchange] = [])
    (unreplaced : replaces exchange = false) (unnoticed : fails deadline exchange = false) :
    Concludes deadline before [exchange] where
  names := names_unwritten (List.forall_mem_singleton.mpr unwritten)
  calls := uncalled
  replaces := List.forall_mem_singleton.mpr unreplaced
  fails := List.forall_mem_singleton.mpr unnoticed

theorem saving_concludes {before : List ComponentId} (deadline : ℚ) (now : String)
    {document : SecretUpdate} (same : document.restartedConsumers = before) :
    Concludes deadline before (saving now document) where
  names := saving_names now same
  calls := rfl
  replaces := saving_replaces now document
  fails := saving_fails now document deadline

/-- What the rollback makes of a failed update. -/
def rolledBackState : Except SecretRaised Unit → UpdateState
  | .ok _ => .rolledBack
  | .error _ => .recoveryRequired

theorem rollBack_ends (target : SecretTarget) (revision : String) (deadline : ℚ)
    (document : SecretUpdate) :
    EndsGiven Stores (fun exchanges final =>
        Concludes deadline document.restartedConsumers exchanges ∧
        final.restartedConsumers = document.restartedConsumers ∧
        ∃ result, rollbackCalls exchanges = [⟨target, revision, result⟩] ∧
          final.state = rolledBackState result)
      (rollBack target revision deadline document) := by
  refine endsGiven_bind (save_ends _) ?_
  rintro early outcome ⟨now, rfl, rfl⟩
  apply endsGiven_perform
  intro (result : Except SecretRaised Unit) _
  have saved : Concludes deadline document.restartedConsumers
      (saving now { document with state := .rollingBack, updatedAt := now }) :=
    saving_concludes deadline now rfl
  have called : Concludes deadline document.restartedConsumers
      (saving now { document with state := .rollingBack, updatedAt := now } ++
        [⟨.adapterRollback target revision deadline, result⟩]) :=
    saved.append (concludes_single _ rfl rfl rfl rfl)
  rcases result with raised | value
  · exact endsGiven_done ⟨called, rfl, .error raised, rfl, rfl⟩
  · exact endsGiven_done ⟨called, rfl, .ok value, rfl, rfl⟩

/-- Whether the `except` block rolls back, and where it leaves the update. -/
theorem recover_ends (target : SecretTarget) (deadline : ℚ) (revision : Option String)
    (raised : SecretRaised) (document : SecretUpdate) :
    EndsGiven Stores (fun exchanges final =>
        Concludes deadline document.restartedConsumers exchanges ∧
        final.restartedConsumers = document.restartedConsumers ∧
        ((rollbackCalls exchanges = [] ∧ final.state = .failed ∧
            ∀ other, revision = some other → other = "") ∨
          ∃ restored result, revision = some restored ∧ restored ≠ "" ∧
            rollbackCalls exchanges = [⟨target, restored, result⟩] ∧
            final.state = rolledBackState result))
      (recover target deadline revision raised document) := by
  unfold recover
  rcases revision with - | revision
  · exact endsGiven_done ⟨concludes_nil deadline _, rfl, .inl ⟨rfl, rfl, by simp⟩⟩
  · dsimp only
    split
    · next empty =>
      exact endsGiven_done ⟨concludes_nil deadline _, rfl, .inl ⟨rfl, rfl, by simp [empty]⟩⟩
    · next nonempty =>
      refine (rollBack_ends target revision deadline _).mono ?_
      rintro exchanges final ⟨concludes, same, result, called, state⟩
      exact ⟨concludes, same, .inr ⟨revision, result, rfl, nonempty, called, state⟩⟩

section Verdicts

variable {target : SecretTarget} {deadline : ℚ} {answer : Except SecretRaised (Option String)}
  {after : List SecretExchange} {final : SecretUpdate}

theorem truthful_succeeded {revision : Option String} (returned : answer = .ok revision)
    (calls : consumerCalls after = allServed target.consumers) (rolls : rollbackCalls after = [])
    (clean : ∀ exchange ∈ after, fails deadline exchange = false)
    (state : final.state = .succeeded) : Truthful target deadline answer after final := by
  have working : ¬ Failed deadline answer after := by
    rintro (⟨raised, same⟩ | ⟨exchange, member, failing⟩)
    · rw [returned] at same
      cases same
    · rw [clean exchange member] at failing
      cases failing
  constructor <;> simp [state, rolls, working]
  exact ⟨⟨revision, returned⟩, calls⟩

theorem truthful_failed (failed : Failed deadline answer after)
    (unrestorable : ∀ revision, ¬ Returned answer revision) (rolls : rollbackCalls after = [])
    (state : final.state = .failed) : Truthful target deadline answer after final := by
  constructor <;> simp [state, rolls, failed, unrestorable]

theorem truthful_rolledBack {revision : String} {result : Except SecretRaised Unit}
    (failed : Failed deadline answer after) (returned : Returned answer revision)
    (rolls : rollbackCalls after = [⟨target, revision, result⟩])
    (state : final.state = rolledBackState result) :
    Truthful target deadline answer after final := by
  have only : ∀ other, Returned answer other ↔ other = revision := by
    intro other
    constructor
    · intro same
      simpa using same.1.symm.trans returned.1
    · rintro rfl
      exact returned
  cases result <;>
    constructor <;> simp [state, rolledBackState, rolls, failed, only]

end Verdicts

/-! ## The whole update -/

/-- The exchanges from the call of `replace` of the adapter to the end of the `except` block,
and the document they leave. -/
structure Applied (target : SecretTarget) (deadline : ℚ) (before : List ComponentId)
    (answer : Except SecretRaised (Option String)) (after : List SecretExchange)
    (final : SecretUpdate) : Prop where
  truthful : Truthful target deadline answer after final
  names : NamesRestarted before after
  restarted : final.restartedConsumers = before ++ restartedIn after
  part : restartedIn after <+: target.consumers
  replaces : ∀ exchange ∈ after, replaces exchange = false

theorem applyUpdate_ends (target : SecretTarget) (source : SecretSource) (deadline : ℚ)
    (document : SecretUpdate) :
    EndsGiven Stores (fun exchanges final => ∃ answer after,
        exchanges = ⟨.adapterReplace target source deadline, answer⟩ :: after ∧
          Applied target deadline document.restartedConsumers answer after final)
      (applyUpdate target source deadline document) := by
  apply endsGiven_perform
  intro (answer : Except SecretRaised (Option String)) _
  rcases answer with raised | revision
  · refine (recover_ends target deadline none raised document).mono ?_
    rintro after final ⟨concludes, same, ⟨rolls, state, _⟩ | ⟨restored, _, impossible, _⟩⟩
    · have empty : restartedIn after = [] := by rw [restartedIn, concludes.calls]; rfl
      refine ⟨.error raised, after, rfl, ?_, concludes.names, ?_, ?_, concludes.replaces⟩
      · exact truthful_failed (.inl ⟨raised, rfl⟩) (fun revision returned => by cases returned.1)
          rolls state
      · rw [empty, same, List.append_nil]
      · rw [empty]
        exact List.nil_prefix
    · cases impossible
  · refine endsGiven_bind (restartConsumers_ends deadline target.consumers document) ?_
    rintro early ⟨raised, reached⟩ restarts
    rcases raised with - | raised
    · apply endsGiven_done
      have finished := restarts.finished rfl
      refine ⟨.ok revision, early, by rw [List.append_nil], ?_, restarts.names,
        restarts.restarted, restarts.part, restarts.replaces⟩
      exact truthful_succeeded rfl finished.1 restarts.rolls finished.2 rfl
    · refine (recover_ends target deadline revision raised reached).mono ?_
      rintro late final ⟨concludes, same, outcome⟩
      have empty : restartedIn late = [] := by rw [restartedIn, concludes.calls]; rfl
      have failed : Failed deadline (.ok revision) (early ++ late) := by
        obtain ⟨exchange, member, failing⟩ := restarts.failed (by simp)
        exact .inr ⟨exchange, List.mem_append_left late member, failing⟩
      refine ⟨.ok revision, early ++ late, rfl, ?_, ?_, ?_, ?_, ?_⟩
      · rcases outcome with ⟨rolls, state, none⟩ | ⟨restored, result, rfl, nonempty, rolls, state⟩
        · apply truthful_failed failed _ (by rw [rollbackCalls_append, restarts.rolls, rolls]; rfl)
            state
          rintro other ⟨returned, nonempty⟩
          exact nonempty (none other (Except.ok.inj returned))
        · exact truthful_rolledBack failed ⟨rfl, nonempty⟩
            (by rw [rollbackCalls_append, restarts.rolls, rolls]; rfl) state
      · apply restarts.names.append
        rw [← restarts.restarted]
        exact concludes.names
      · rw [same, restarts.restarted, restartedIn_append, empty, List.append_nil]
      · rw [restartedIn_append, empty, List.append_nil]
        exact restarts.part
      · exact List.forall_mem_append.mpr ⟨restarts.replaces, concludes.replaces⟩

theorem concludeUpdate_ends (deadline : ℚ) (document : SecretUpdate) :
    EndsGiven Stores (fun exchanges _ =>
        Concludes deadline document.restartedConsumers exchanges ∧ rollbackCalls exchanges = [] ∧
        ∃ now, exchanges.filterMap written = [{ document with updatedAt := now }])
      (concludeUpdate document) := by
  apply endsGiven_perform
  intro _ _
  refine endsGiven_bind (save_ends document) ?_
  rintro early outcome ⟨now, rfl, rfl⟩
  refine endsGiven_bind (execute_ends _) ?_
  rintro more result ⟨answer, rfl, rfl⟩
  have discards : Concludes deadline document.restartedConsumers
      [⟨.discardCancelled document.id, ()⟩] := concludes_single _ rfl rfl rfl rfl
  have saved : Concludes deadline document.restartedConsumers
      (saving now { document with updatedAt := now }) := saving_concludes deadline now rfl
  have states : Concludes deadline document.restartedConsumers
      [⟨.statement, (.ok () : Except SecretRaised Unit)⟩] := concludes_single _ rfl rfl rfl rfl
  have reads (row : Option SecretUpdate) : Concludes deadline document.restartedConsumers
      [⟨.get document.id, row⟩] := concludes_single _ rfl rfl rfl rfl
  have whole (row : Option SecretUpdate) :=
    discards.append (saved.append (states.append (reads row)))
  rcases (answer : Option SecretUpdate) with - | row
  · exact endsGiven_done ⟨whole none, rfl, now, rfl⟩
  · exact endsGiven_done ⟨whole (some row), rfl, now, rfl⟩

/-- What concludes the update leaves it true to what happened. -/
theorem Truthful.extend {target : SecretTarget} {deadline : ℚ}
    {answer : Except SecretRaised (Option String)} {after late : List SecretExchange}
    {final last : SecretUpdate} (truthful : Truthful target deadline answer after final)
    (calls : consumerCalls late = []) (rolls : rollbackCalls late = [])
    (clean : ∀ exchange ∈ late, fails deadline exchange = false)
    (state : last.state = final.state) :
    Truthful target deadline answer (after ++ late) last := by
  have sameRolls : rollbackCalls (after ++ late) = rollbackCalls after := by
    rw [rollbackCalls_append, rolls, List.append_nil]
  have sameFailures : Failed deadline answer (after ++ late) ↔ Failed deadline answer after := by
    have none : ¬ ∃ exchange ∈ late, fails deadline exchange = true := by
      rintro ⟨exchange, member, failing⟩
      rw [clean exchange member] at failing
      cases failing
    simp only [Failed, List.mem_append, or_and_right, exists_or, none, or_false]
  constructor
  · rw [state]
    exact truthful.outcome
  · rw [state, consumerCalls_append, calls, List.append_nil]
    exact truthful.succeeded
  · rw [sameRolls]
    exact truthful.once
  · simp only [sameRolls, sameFailures]
    exact truthful.rolls
  · rw [state, sameRolls]
    exact truthful.rolledBack
  · rw [state, sameRolls]
    exact truthful.recoveryRequired
  · rw [state, sameFailures]
    exact truthful.failed

theorem runUpdate_ends (settings : WorkflowSettings) (target : SecretTarget)
    (source : SecretSource) (document : SecretUpdate) :
    EndsGiven Stores (fun exchanges _ => ∃ (started : ℚ)
        (answer : Except SecretRaised (Option String)) (after : List SecretExchange)
        (final : SecretUpdate),
        exchanges = ⟨.monotonic, started⟩ ::
          ⟨.adapterReplace target source (started + settings.timeout), answer⟩ :: after ∧
        (after.filterMap written).getLast? = some final ∧
        Applied target (started + settings.timeout) document.restartedConsumers answer after final)
      (runUpdate settings target source document) := by
  apply endsGiven_perform
  intro (started : ℚ) _
  refine endsGiven_bind (applyUpdate_ends target source _ document) ?_
  rintro early reached ⟨answer, after, rfl, applied⟩
  refine (concludeUpdate_ends (started + settings.timeout) reached).mono ?_
  rintro late result ⟨concludes, rolls, now, stored⟩
  have empty : restartedIn late = [] := by rw [restartedIn, concludes.calls]; rfl
  refine ⟨started, answer, after ++ late, { reached with updatedAt := now }, rfl, ?_, ?_⟩
  · simp [List.filterMap_append, stored]
  · constructor
    · exact applied.truthful.extend concludes.calls rolls concludes.fails rfl
    · apply applied.names.append
      rw [← applied.restarted]
      exact concludes.names
    · rw [restartedIn_append, empty, List.append_nil]
      exact applied.restarted
    · rw [restartedIn_append, empty, List.append_nil]
      exact applied.part
    · exact List.forall_mem_append.mpr ⟨applied.replaces, concludes.replaces⟩

/-! ## What comes before the update -/

/-- Exchanges that store these rows and call neither the adapter nor a consumer. -/
structure Prelude (exchanges : List SecretExchange) (rows : List SecretUpdate) : Prop where
  calls : consumerCalls exchanges = []
  rolls : rollbackCalls exchanges = []
  replaces : ∀ exchange ∈ exchanges, replaces exchange = false
  stored : exchanges.filterMap written = rows

theorem Prelude.append {early late : List SecretExchange} {first second : List SecretUpdate}
    (before : Prelude early first) (after : Prelude late second) :
    Prelude (early ++ late) (first ++ second) where
  calls := by rw [consumerCalls_append, before.calls, after.calls, List.append_nil]
  rolls := by rw [rollbackCalls_append, before.rolls, after.rolls, List.append_nil]
  replaces := List.forall_mem_append.mpr ⟨before.replaces, after.replaces⟩
  stored := by rw [List.filterMap_append, before.stored, after.stored]

theorem names_of_uncalled {exchanges : List SecretExchange} (calls : consumerCalls exchanges = [])
    (fresh : ∀ row ∈ exchanges.filterMap written, row.restartedConsumers = []) :
    NamesRestarted [] exchanges := by
  induction exchanges with
  | nil => trivial
  | cons exchange rest ih =>
      have apart := consumerCalls_append [exchange] rest
      rw [List.singleton_append, calls, eq_comm, List.append_eq_nil_iff] at apart
      refine ⟨fun document stores => fresh document ?_, ?_⟩
      · exact List.mem_filterMap.mpr ⟨exchange, by simp, stores⟩
      · rw [restartedIn, apart.1]
        refine ih apart.2 ?_
        intro row member
        obtain ⟨other, inside, stores⟩ := List.mem_filterMap.mp member
        exact fresh row (List.mem_filterMap.mpr ⟨other, List.mem_cons_of_mem exchange inside, stores⟩)

/-- Requests made before a record is created. -/
def Preparing : SecretRequest → Prop
  | .resolveExternal _ | .authorize _ _ _ | .statement | .latestState _ => True
  | _ => False

theorem preparing_ends {α : Type} {program : SecretProgram α} (only : OnlyAsks Preparing program) :
    EndsGiven Stores (fun exchanges _ => Prelude exchanges []) program := by
  induction program with
  | done result => exact endsGiven_done ⟨rfl, rfl, List.forall_mem_nil _, rfl⟩
  | ask request next ih =>
      apply endsGiven_ask
      intro answer _
      refine (ih answer (only.2 answer)).mono ?_
      intro exchanges _ prelude
      have first : Prelude [⟨request, answer⟩] [] := by
        have prepares := only.1
        cases request <;>
          first
          | exact ⟨rfl, rfl, List.forall_mem_singleton.mpr rfl, rfl⟩
          | cases prepares
      exact first.append prelude

theorem validateSource_preparing (settings : WorkflowSettings) (target : SecretTarget)
    (source : SecretSource) : OnlyAsks Preparing (validateSource settings target source) := by
  unfold validateSource
  split
  · unfold validateExternal
    split
    · refine ⟨trivial, ?_⟩
      intro resolved
      cases (resolved : Option String) <;> trivial
    · trivial
  · trivial

theorem authorize_preparing (target : SecretTarget) (sourceType : String)
    (request : Replacement) : OnlyAsks Preparing (authorize target sourceType request) := by
  have executed : OnlyAsks Preparing (execute (.latestState target.identifier)) := by
    refine ⟨trivial, ?_⟩
    intro answer
    cases (answer : Except SecretRaised Unit) with
    | error raised => trivial
    | ok value => exact ⟨trivial, fun _ => trivial⟩
  refine onlyAsks_bind (onlyAsks_bind executed ?_) ?_
  · intro state
    cases state <;> trivial
  · intro state
    cases state with
    | error raised => trivial
    | ok state => exact ⟨trivial, fun _ => trivial⟩

theorem unreplaced {exchanges : List SecretExchange}
    (all : exchanges.all (fun exchange => !replaces exchange) = true) :
    ∀ exchange ∈ exchanges, replaces exchange = false := by
  simpa using all

theorem createRecord_ends (target : SecretTarget) (sourceType actor : String)
    (impact : SecretImpact) :
    EndsGiven Stores (fun exchanges result => match result with
        | .ok document => Prelude exchanges [document] ∧ document.restartedConsumers = []
        | .error _ => Prelude exchanges [])
      (createRecord target sourceType actor impact) := by
  apply endsGiven_perform
  intro (now : String) _
  apply endsGiven_perform
  intro (id : String) _
  refine endsGiven_bind (execute_ends _) ?_
  rintro early result ⟨(created : Except SecretRaised Unit), rfl, rfl⟩
  cases created with
  | error raised =>
      apply endsGiven_perform
      intro (_ : Unit) _
      exact endsGiven_done ⟨rfl, rfl, unreplaced rfl, rfl⟩
  | ok value =>
      apply endsGiven_perform
      intro (_ : Unit) _
      exact endsGiven_done ⟨⟨rfl, rfl, unreplaced rfl, rfl⟩, rfl⟩

theorem claim_ends (target : SecretTarget) (sourceType actor : String) (impact : SecretImpact) :
    EndsGiven Stores (fun exchanges result => match result with
        | .ok document => Prelude exchanges [document] ∧ document.restartedConsumers = []
        | .error _ => Prelude exchanges [])
      (claim target sourceType actor impact) := by
  apply endsGiven_perform
  intro (_ : Unit) _
  refine endsGiven_bind (execute_ends _) ?_
  rintro early result ⟨(active : Bool), rfl, rfl⟩
  cases active with
  | true =>
      apply endsGiven_perform
      intro (_ : Unit) _
      exact endsGiven_done ⟨rfl, rfl, unreplaced rfl, rfl⟩
  | false =>
      refine (createRecord_ends target sourceType actor impact).mono ?_
      intro exchanges result holds
      have locked : Prelude [⟨.acquire, ()⟩, ⟨.statement, (.ok () : Except SecretRaised Unit)⟩,
          ⟨.activeTarget target.identifier, false⟩] [] := ⟨rfl, rfl, unreplaced rfl, rfl⟩
      cases result with
      | ok document => exact ⟨locked.append holds.1, holds.2⟩
      | error raised => exact locked.append holds

/-- A run that created no record, or one that went through with the update. -/
def Settled (settings : WorkflowSettings) (target : SecretTarget)
    (exchanges : List SecretExchange) : Prop :=
  exchanges.filterMap written = [] ∨ Conducted settings target exchanges

theorem conducted_of_applied {settings : WorkflowSettings} {target : SecretTarget}
    {source : SecretSource} {document final : SecretUpdate}
    {before after : List SecretExchange} {started : ℚ}
    {answer : Except SecretRaised (Option String)} (prelude : Prelude before [document])
    (fresh : document.restartedConsumers = [])
    (stored : (after.filterMap written).getLast? = some final)
    (applied : Applied target (started + settings.timeout) document.restartedConsumers answer
      after final) :
    Conducted settings target (before ++ ⟨.monotonic, started⟩ ::
      ⟨.adapterReplace target source (started + settings.timeout), answer⟩ :: after) := by
  have called : restartedIn (before ++ ⟨.monotonic, started⟩ ::
      ⟨.adapterReplace target source (started + settings.timeout), answer⟩ :: after) =
        restartedIn after := by
    rw [restartedIn_append, restartedIn, prelude.calls]
    rfl
  have named : NamesRestarted [] before :=
    names_of_uncalled prelude.calls (by simp [prelude.stored, fresh])
  constructor
  · refine ⟨source, started, before, after, answer, final, rfl,
      List.forall_mem_append.mpr ⟨prelude.replaces, applied.replaces⟩, prelude.calls,
      prelude.rolls, ?_, applied.truthful⟩
    have rows : (before ++ ⟨.monotonic, started⟩ ::
        ⟨.adapterReplace target source (started + settings.timeout), answer⟩ :: after).filterMap
          written = before.filterMap written ++ after.filterMap written := List.filterMap_append
    rw [lastStored, rows, List.getLast?_append, stored]
    rfl
  · have silent : NamesRestarted []
        [⟨.monotonic, started⟩,
          ⟨.adapterReplace target source (started + settings.timeout), answer⟩] :=
      names_unwritten (List.forall_mem_cons.mpr ⟨rfl, List.forall_mem_singleton.mpr rfl⟩)
    have later := applied.names
    rw [fresh] at later
    have whole : NamesRestarted [] (before ++ ⟨.monotonic, started⟩ ::
        ⟨.adapterReplace target source (started + settings.timeout), answer⟩ :: after) := by
      apply named.append
      rw [restartedIn, prelude.calls]
      exact silent.append later
    intro early exchange late row split stores
    rw [split] at whole called
    refine ⟨whole.at stores, ?_⟩
    have front : restartedIn early <+: restartedIn (early ++ exchange :: late) := by
      rw [restartedIn_append]
      exact List.prefix_append _ _
    exact (called ▸ front).trans applied.part

theorem replaceWith_ends (settings : WorkflowSettings) (target : SecretTarget)
    (source : SecretSource) (impact : SecretImpact) (request : Replacement)
    {early : List SecretExchange} (prepared : Prelude early []) :
    EndsGiven Stores (fun late _ => Settled settings target (early ++ late))
      (replaceWith settings target source impact request) := by
  refine endsGiven_bind (preparing_ends (authorize_preparing target source.sourceType request)) ?_
  intro authorized result prelude
  cases result with
  | error raised =>
      apply endsGiven_done
      exact .inl (prepared.append (prelude.append ⟨rfl, rfl, List.forall_mem_nil _, rfl⟩)).stored
  | ok value =>
      refine endsGiven_bind (claim_ends target source.sourceType request.identity.actor impact) ?_
      intro claimed result outcome
      cases result with
      | error raised =>
          apply endsGiven_done
          have whole := prepared.append (prelude.append outcome)
          rw [List.append_nil]
          exact .inl whole.stored
      | ok document =>
          obtain ⟨created, fresh⟩ := outcome
          refine (runUpdate_ends settings target source document).mono ?_
          rintro exchanges _ ⟨started, answer, after, final, rfl, stored, applied⟩
          have whole := prepared.append (prelude.append created)
          rw [← List.append_assoc, ← List.append_assoc]
          rw [← List.append_assoc] at whole
          exact .inr (conducted_of_applied whole fresh stored applied)

theorem replaceTarget_ends (settings : WorkflowSettings) (target : SecretTarget)
    (request : Replacement) :
    EndsGiven Stores (fun exchanges _ => Settled settings target exchanges)
      (replaceTarget settings target request) := by
  refine endsGiven_bind (preparing_ends (validateSource_preparing settings target request.source)) ?_
  intro early result prelude
  have nothing : Settled settings target (early ++ []) := by
    rw [List.append_nil]
    exact .inl prelude.stored
  cases result with
  | error raised => exact endsGiven_done nothing
  | ok source =>
      dsimp only
      split
      · exact endsGiven_done nothing
      · split
        · exact endsGiven_done nothing
        · exact replaceWith_ends settings target source _ request prelude

/-! ## Every accepted replacement -/

def creates : SecretExchange → Bool
  | ⟨.create _, answer⟩ => returns (α := Unit) answer
  | _ => false

/-- The run created a record. -/
def Accepted (exchanges : List SecretExchange) : Prop := exchanges.any creates = true

/-- The components with a secret that is the Kubernetes Secret, in the registry's order. -/
def SecretRegistry.consumersOf (registry : SecretRegistry) (kubernetesSecret : String) :
    List ComponentId :=
  (registry.components.filter (fun component => component.secrets.any (fun secret =>
    secret.kubernetesSecret = kubernetesSecret))).map SecretComponent.id

theorem SecretRegistry.target_consumers {registry : SecretRegistry} {componentId : ComponentId}
    {secretId : String} {target : SecretTarget}
    (known : registry.target componentId secretId = .ok target) :
    target.consumers = registry.consumersOf target.kubernetesSecret ∧ target.consumers.Nodup := by
  have listed : target.consumers = registry.consumersOf target.kubernetesSecret := by
    unfold SecretRegistry.target at known
    split at known
    · cases known
    · split at known
      · cases known
      · cases known
        rfl
  refine ⟨listed, ?_⟩
  rw [listed]
  exact registry.uniqueIds.sublist (List.filter_sublist.map _)

theorem written_of_creates {exchange : SecretExchange} (created : creates exchange = true) :
    written exchange ≠ none := by
  obtain ⟨request, answer⟩ := exchange
  cases request with
  | create document =>
      have stored : written ⟨.create document, answer⟩ =
          if returns (α := Unit) answer then some document else none := rfl
      have returned : returns (α := Unit) answer = true := created
      rw [stored, returned]
      simp
  | _ => cases created

/-- Whatever the adapter, the consumers, the clock and the cancellations do, a replacement
that was accepted ends in a state that says what happened. -/
theorem replace_truthful {settings : WorkflowSettings} {request : Replacement}
    {exchanges : List SecretExchange} {result : Except SecretRaised SecretUpdate}
    (ran : Reaches (replace settings request) exchanges (.done result))
    (stores : ∀ exchange ∈ exchanges, Stores exchange) (accepted : Accepted exchanges) :
    ∃ target, settings.registry.target request.componentId request.secretId = .ok target ∧
      target.consumers = settings.registry.consumersOf target.kubernetesSecret ∧
      target.consumers.Nodup ∧ Conducted settings target exchanges := by
  obtain ⟨exchange, member, created⟩ := List.any_eq_true.mp accepted
  have stored : exchanges.filterMap written ≠ [] := by
    intro empty
    exact written_of_creates created (List.filterMap_eq_nil_iff.mp empty exchange member)
  unfold replace at ran
  cases known : settings.registry.target request.componentId request.secretId with
  | error raised =>
      rw [known] at ran
      cases ran
      exact absurd rfl stored
  | ok target =>
      rw [known] at ran
      have consumers := SecretRegistry.target_consumers known
      refine ⟨target, rfl, consumers.1, consumers.2, ?_⟩
      exact (replaceTarget_ends settings target request exchanges result ran stores).resolve_left
        stored

/-- Nothing fails but the health of some consumers. -/
def calmAnswer (healthy : ComponentId → Bool) : (request : SecretRequest) → SecretAnswer request
  | .resolveExternal _ => (none : Option String)
  | .authorize _ _ _ => (.ok () : Except SecretRaised Unit)
  | .now => "2026-01-01T00:00:00Z"
  | .newUuid => "update-1"
  | .monotonic => (0 : ℚ)
  | .statement => (.ok () : Except SecretRaised Unit)
  | .latestState _ => "unmanaged"
  | .activeTarget _ => false
  | .create _ => (.ok () : Except SecretRaised Unit)
  | .get _ => (none : Option SecretUpdate)
  | .isCancelled _ => false
  | .adapterReplace _ _ _ => (.ok (some "revision") : Except SecretRaised (Option String))
  | .adapterRollback _ _ _ => (.ok () : Except SecretRaised Unit)
  | .restart _ _ => (.ok () : Except SecretRaised Unit)
  | .healthy consumer _ => (.ok (healthy consumer) : Except SecretRaised Bool)
  | .acquire | .release | .update _ | .interruptActive _ | .serve | .addCancelled _
  | .discardCancelled _ => ()

theorem calmAnswer_stores (healthy : ComponentId → Bool) (request : SecretRequest) :
    Stores ⟨request, calmAnswer healthy request⟩ := by
  cases request <;> first | rfl | trivial

/-- The owner's credential is generated anew under the name of the first component. -/
def regeneration : Replacement :=
  ⟨"postgresql", "database-owner", ⟨"generated", .missing, none⟩, administrator, "approval",
    none, false⟩

/-- The run in which the second consumer does not come back. -/
def unhealthyRun : List SecretExchange × Except SecretRaised SecretUpdate :=
  (replace databaseSettings regeneration).play
    (calmAnswer (fun consumer => decide (consumer ≠ "scancentral-dast-core")))

/-- The second consumer stays unhealthy: both were restarted, and the revision is restored. -/
theorem replace_truthful_unhealthy :
    (lastStored unhealthyRun.1).map SecretUpdate.state = some .rolledBack ∧
      (lastStored unhealthyRun.1).map SecretUpdate.restartedConsumers =
        some ["postgresql", "scancentral-dast-core"] ∧
      ∃ target, databaseSecrets.target "postgresql" "database-owner" = .ok target ∧
        target.consumers = databaseSecrets.consumersOf target.kubernetesSecret ∧
        target.consumers.Nodup ∧ Conducted databaseSettings target unhealthyRun.1 := by
  refine ⟨by decide +kernel, by decide +kernel, ?_⟩
  apply replace_truthful (play_reaches _ (replace databaseSettings regeneration))
  · intro exchange member
    rw [play_answered _ _ exchange member]
    exact calmAnswer_stores _ exchange.1
  · show List.any _ creates = true
    decide +kernel

end FortifyLab.Secrets
