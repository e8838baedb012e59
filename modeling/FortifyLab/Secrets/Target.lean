import FortifyLab.Authorization.Approval
import FortifyLab.Lifecycle.Operation

/-! Secrets of the registry, the sources a replacement may take, and its record. -/

namespace FortifyLab.Secrets

open Registry (ComponentId)

/-- One entry of a component's `secrets`. -/
structure SecretDeclaration where
  id : String
  kubernetesSecret : String
  classification : String
  deriving DecidableEq, Repr

structure SecretComponent where
  id : ComponentId
  secrets : List SecretDeclaration
  deriving DecidableEq, Repr

structure SecretRegistry where
  components : List SecretComponent
  uniqueIds : (components.map SecretComponent.id).Nodup

/-- The errors of the workflow by class, with their messages, those of the authorization
service, and any other exception. -/
inductive SecretRaised where
  | failed (message : String)
  | invalid (message : String)
  | conflict (message : String)
  | notFound (message : String)
  | denied (failure : Lifecycle.Failure)
  | other
  deriving DecidableEq, Repr

/-- The text of a `SecretWorkflowError`. -/
def SecretRaised.text : SecretRaised → String
  | .failed message | .invalid message | .conflict message | .notFound message => message
  | .denied _ | .other => ""

/-- `_safe_error`. -/
def safeError (raised : SecretRaised) : String :=
  if raised.text = "" then "secret update failed" else raised.text

structure SecretTarget where
  componentId : ComponentId
  secretId : String
  kubernetesSecret : String
  classification : String
  consumers : List ComponentId
  deriving DecidableEq, Repr

def SecretTarget.identifier (target : SecretTarget) : String :=
  target.componentId ++ "/" ++ target.secretId

def SecretTarget.isSscKey (target : SecretTarget) : Bool :=
  target.componentId = "ssc" && target.secretId = "ssc-material"

namespace SecretRegistry

variable (registry : SecretRegistry)

/-- `_target`. -/
def target (componentId : ComponentId) (secretId : String) : Except SecretRaised SecretTarget :=
  match registry.components.find? (fun component => component.id = componentId) with
  | none => .error (.invalid "secret target is not declared")
  | some component =>
      match component.secrets.find? (fun item => item.id = secretId) with
      | none => .error (.invalid "secret target is not declared")
      | some item => .ok {
          componentId := componentId
          secretId := secretId
          kubernetesSecret := item.kubernetesSecret
          classification := item.classification
          consumers := (registry.components.filter (fun other => other.secrets.any (fun secret =>
            secret.kubernetesSecret = item.kubernetesSecret))).map SecretComponent.id }

/-- The Kubernetes Secrets that the registry maps an identifier to. -/
def kubernetesSecrets (identifier : String) : List String :=
  registry.components.flatMap (fun component => (component.secrets.filter (fun item =>
    component.id ++ "/" ++ item.id = identifier)).map SecretDeclaration.kubernetesSecret)

/-- A target is one of the declared secrets. -/
theorem target_declared {componentId : ComponentId} {secretId : String} {target : SecretTarget}
    (known : registry.target componentId secretId = .ok target) :
    target.kubernetesSecret ∈ registry.kubernetesSecrets target.identifier := by
  unfold SecretRegistry.target at known
  split at known
  · cases known
  · next component found =>
    split at known
    · cases known
    · next item declared =>
      cases known
      have member := List.mem_of_find?_eq_some found
      have named : component.id = componentId := by simpa using List.find?_some found
      have within := List.mem_of_find?_eq_some declared
      have listed : item.id = secretId := by simpa using List.find?_some declared
      refine List.mem_flatMap.mpr ⟨component, member, List.mem_map_of_mem ?_⟩
      refine List.mem_filter.mpr ⟨within, ?_⟩
      simp [SecretTarget.identifier, named, listed]

end SecretRegistry

/-! ## Sources -/

inductive SourceValue where
  | missing
  | bytes (content : List UInt8)
  | text (value : String)
  deriving DecidableEq, Repr

structure SecretSource where
  sourceType : String
  value : SourceValue
  key : Option String
  deriving DecidableEq, Repr

/-- `SOURCE_TYPES`. -/
def sourceTypes : List String := ["external-path", "upload", "kubernetes-secret", "generated"]

def isAlphanumeric (character : Char) : Bool :=
  ('a' ≤ character && character ≤ 'z') || ('0' ≤ character && character ≤ '9')

/-- `NAME.fullmatch`. -/
def isName (text : String) : Bool :=
  text.toList.head?.any isAlphanumeric && text.toList.getLast?.any isAlphanumeric &&
    text.toList.all (fun character => isAlphanumeric character || character = '-' || character = '.')

def confirmSscKey : String := "REPLACE SSC SECRET.KEY AFTER VERIFIED BACKUP"

/-! ## Records -/

/-- What `plan` returns. -/
structure SecretImpact where
  target : String
  classification : String
  sourceType : String
  consumers : List ComponentId
  restartRequired : Bool
  expectedInterruption : String
  rollbackBoundary : String
  persistentDataBackupRequired : Bool
  healthVerificationRequired : Bool
  deriving DecidableEq, Repr

/-- `plan` of a target. -/
def SecretTarget.plan (target : SecretTarget) (sourceType : String) :
    Except SecretRaised SecretImpact :=
  if sourceTypes.contains sourceType then .ok {
    target := target.identifier
    classification := target.classification
    sourceType := sourceType
    consumers := target.consumers
    restartRequired := !target.consumers.isEmpty
    expectedInterruption := if target.consumers.isEmpty then "none" else "consumer restart"
    rollbackBoundary := if ["external-path", "upload", "generated"].contains sourceType then
      "adapter-revision" else "restore-reference"
    persistentDataBackupRequired := target.isSscKey
    healthVerificationRequired := !target.consumers.isEmpty }
  else .error (.invalid "secret source type is not allowed")

inductive UpdateState where
  | applying | restarting | verifying | rollingBack | succeeded | failed | rolledBack
  | recoveryRequired | interrupted
  deriving DecidableEq, Repr

/-- The states that `active_target` looks for. -/
def UpdateState.active : UpdateState → Bool
  | .applying | .restarting | .verifying | .rollingBack => true
  | _ => false

def UpdateState.name : UpdateState → String
  | .applying => "applying"
  | .restarting => "restarting"
  | .verifying => "verifying"
  | .rollingBack => "rolling-back"
  | .succeeded => "succeeded"
  | .failed => "failed"
  | .rolledBack => "rolled-back"
  | .recoveryRequired => "recovery-required"
  | .interrupted => "interrupted"

structure SecretUpdate where
  id : String
  target : String
  actor : String
  sourceType : String
  state : UpdateState
  createdAt : String
  updatedAt : String
  impact : SecretImpact
  restartedConsumers : List ComponentId
  error : Option String
  recovery : Option String
  deriving DecidableEq, Repr

end FortifyLab.Secrets
