import FortifyLab.Library.Pool
import FortifyLab.Recovery.Workers

/-! The recovery service over its store: calls and workers advance one request at a
time in any order, and a restart loses them. -/

namespace FortifyLab.Recovery

/-- The two tables, the cancelled operations, whether the service is there, and how many
identifiers were drawn. -/
structure ServiceState where
  operations : String → Option RecoveryOperation
  artifacts : String → Option (Bool × Artifact)
  cancelled : List String
  serving : Bool
  drawn : Nat

namespace ServiceState

def empty : ServiceState where
  operations := fun _ => none
  artifacts := fun _ => none
  cancelled := []
  serving := false
  drawn := 0

/-- `put_operation`. -/
def putOperation (state : ServiceState) (document : RecoveryOperation) : ServiceState :=
  { state with operations := Function.update state.operations document.id (some document) }

/-- `put_artifact`. -/
def putArtifact (state : ServiceState) (document : Artifact) (complete : Bool) : ServiceState :=
  { state with artifacts := Function.update state.artifacts document.id (some (complete, document)) }

/-- A row as the store leaves it when it is opened. -/
def interruptRow (now : String) (row : RecoveryOperation) : RecoveryOperation :=
  if row.state.terminal then row
  else { row with
    state := .interrupted
    error := some "Manager restarted before recovery completed"
    updatedAt := now }

def interruptActive (state : ServiceState) (now : String) : ServiceState :=
  { state with operations := fun id => (state.operations id).map (interruptRow now) }

/-- What is left of the service when its process ends. -/
def stopped (state : ServiceState) : ServiceState :=
  { state with cancelled := [], serving := false }

end ServiceState

/-- What the service runs on: fresh identifiers, SHA-256 and `str`. -/
structure Platform where
  uuid : Nat → String
  distinct : Function.Injective uuid
  sha256 : String → String
  render : Value → String

/-- A service with the store it is opened over. -/
structure Service where
  profileId : String
  destination : Destination
  store : ServiceState

def Platform.settings (platform : Platform) (service : Service) : Settings where
  profileId := service.profileId
  destination := service.destination
  sha256 := platform.sha256
  render := platform.render

inductive Call where
  | openStore
  | submitBackup (actor : String)
  | submitRestore (backupId actor : String) (confirmation : Option String)
  | cancel (operationId : String)
  | worker (worker : Worker)
  deriving DecidableEq

/-- The calls arrive from outside; the rest the service starts itself. -/
def Call.outside : Call → Bool
  | .submitBackup _ | .submitRestore _ _ _ | .cancel _ => true
  | _ => false

inductive Outcome where
  | opened
  | answered (result : Except Raised RecoveryOperation)
  | ended (stored : Option RecoveryOperation)
  | killed

/-- The outside world's part of an answer. -/
structure Offer where
  now : String
  statement : Except Raised Unit
  backup : Except Raised Value
  restore : Except Raised Unit
  verify : Except Raised (List Value)

variable (platform : Platform) (service : Service)

def reply (state : ServiceState) (offer : Offer) :
    (request : RecoveryRequest) → RecoveryAnswer request
  | .now => offer.now
  | .newUuid => platform.uuid state.drawn
  | .statement => offer.statement
  | .putOperation _ => ()
  | .readOperation operationId => state.operations operationId
  | .putArtifact _ _ => ()
  | .readArtifact backupId => state.artifacts backupId
  | .interruptActive _ => ()
  | .serve => ()
  | .addCancelled _ => ()
  | .isCancelled operationId => decide (operationId ∈ state.cancelled)
  | .startWorker _ => ()
  | .adapterBackup _ _ => offer.backup
  | .adapterRestore _ _ => offer.restore
  | .adapterVerify _ _ => offer.verify

def effect (state : ServiceState) : RecoveryRequest → ServiceState
  | .newUuid => { state with drawn := state.drawn + 1 }
  | .putOperation document => state.putOperation document
  | .putArtifact document complete => state.putArtifact document complete
  | .interruptActive now => state.interruptActive now
  | .serve => { state with serving := true }
  | .addCancelled operationId => { state with cancelled := operationId :: state.cancelled }
  | _ => state

def spawned : RecoveryRequest → Option Call
  | .startWorker worker => some (.worker worker)
  | _ => none

/-- Calls arrive once the service is there. -/
def admits (state : ServiceState) (call : Call) : Bool := call.outside && state.serving

def body (settings : Settings) : Call → RecoveryProgram Outcome
  | .openStore => do
      openStore
      return .opened
  | .submitBackup actor => do
      let result ← submitBackup settings actor
      return .answered result
  | .submitRestore backupId actor confirmation => do
      let result ← submitRestore settings backupId actor confirmation
      return .answered result
  | .cancel operationId => do
      let result ← cancel operationId
      return .answered result
  | .worker (.backup operationId backupId) => do
      let stored ← runBackup settings operationId backupId
      return .ended stored
  | .worker (.restore operationId backupId) => do
      let stored ← runRestore settings operationId backupId
      return .ended stored

def machine : Machine ServiceState Call Offer RecoveryRequest RecoveryAnswer Outcome where
  body := body (platform.settings service)
  reply := fun state _ offer request => some (reply platform state offer request)
  effect := fun state _ request => effect state request
  spawned := spawned
  admits := admits
  lost := ServiceState.stopped
  boot := .openStore
  killed := .killed
  fresh := service.store

abbrev ServicePool := Pool ServiceState Call RecoveryRequest RecoveryAnswer Outcome

abbrev ServiceAction := Action Call Offer

/-- The stores that services on the platform leave behind, one service after the other. -/
inductive Platform.Leaves (allowed : ServicePool → ServiceAction → Prop) : ServiceState → Prop
  | empty : Platform.Leaves allowed .empty
  | closed {service : Service} {log : List (Entry Call RecoveryRequest RecoveryAnswer)}
      {pool : ServicePool} (opened : Platform.Leaves allowed service.store)
      (reached : (machine platform service).Reachable allowed log pool) :
      Platform.Leaves allowed pool.shared.stopped

/-- What a store becomes by one action of its service, or when the service is closed. -/
inductive Platform.Becomes (allowed : ServicePool → ServiceAction → Prop) :
    ServiceState → ServiceState → Prop
  | acted {service : Service} {log : List (Entry Call RecoveryRequest RecoveryAnswer)}
      {pool next : ServicePool} {action : ServiceAction}
      (opened : platform.Leaves allowed service.store)
      (reached : (machine platform service).Reachable allowed log pool)
      (meets : allowed pool action)
      (acted : (machine platform service).act pool action = some next) :
      Platform.Becomes allowed pool.shared next.shared
  | closed {service : Service} {log : List (Entry Call RecoveryRequest RecoveryAnswer)}
      {pool : ServicePool} (opened : platform.Leaves allowed service.store)
      (reached : (machine platform service).Reachable allowed log pool) :
      Platform.Becomes allowed pool.shared pool.shared.stopped

/-- The store later on, over any number of actions and services. -/
def Platform.Later (allowed : ServicePool → ServiceAction → Prop) :
    ServiceState → ServiceState → Prop :=
  Relation.ReflTransGen (platform.Becomes allowed)

/-- What a script makes of a store is a later store. -/
theorem later_play {platform : Platform} {service : Service}
    {permits : ServicePool → ServiceAction → Bool} {allowed : ServicePool → ServiceAction → Prop}
    (sound : ∀ pool action, permits pool action = true → allowed pool action)
    (opened : platform.Leaves allowed service.store)
    (script : List (ServicePool → ServiceAction))
    {log : List (Entry Call RecoveryRequest RecoveryAnswer)} {pool last : ServicePool}
    (reached : (machine platform service).Reachable allowed log pool)
    (played : (machine platform service).play permits pool script = some last) :
    platform.Later allowed pool.shared last.shared := by
  induction script generalizing log pool with
  | nil =>
      cases played
      exact .refl
  | cons scripted rest ih =>
      unfold Machine.play at played
      split at played
      · next permitted =>
        rcases Option.bind_eq_some_iff.mp played with ⟨next, acted, played⟩
        have meets := sound _ _ permitted
        exact .head (.acted opened reached meets acted) (ih (reached.step meets acted) played)
      · cases played

/-! ## Scripts -/

/-- Nothing fails. -/
def Offer.smooth : Offer where
  now := "2026-01-01T00:00:00Z"
  statement := .ok ()
  backup := .ok (.obj [("checksum", .str "sha256:00")])
  restore := .ok ()
  verify := .ok [.obj [("state", .str "passed")]]

def goOn (thread count : Nat) : List (ServicePool → ServiceAction) :=
  List.replicate count (fun _ => .advance thread .smooth)

def arrive (call : Call) : List (ServicePool → ServiceAction) := [fun _ => .receive call]

/-- A platform whose identifiers are of growing length. -/
def countingPlatform : Platform where
  uuid count := String.ofList (List.replicate count 'a')
  distinct left right same := by
    have lengths := congrArg (fun text => text.toList.length) same
    simpa using lengths
  sha256 := id
  render _ := ""

def labService : Service where
  profileId := "microk8s"
  destination := ⟨"primary", "local-protected", 30⟩
  store := .empty

def playLab (permits : ServicePool → ServiceAction → Bool)
    (script : List (ServicePool → ServiceAction)) : Option ServicePool :=
  (machine countingPlatform labService).play permits
    (machine countingPlatform labService).initial script

theorem reachable_playLab {permits : ServicePool → ServiceAction → Bool}
    {allowed : ServicePool → ServiceAction → Prop}
    (sound : ∀ pool action, permits pool action = true → allowed pool action)
    {script : List (ServicePool → ServiceAction)} {pool : ServicePool}
    (played : playLab permits script = some pool) :
    ∃ log, (machine countingPlatform labService).Reachable allowed log pool :=
  Machine.reachable_play sound script .initial played

end FortifyLab.Recovery
