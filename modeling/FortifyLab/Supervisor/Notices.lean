import FortifyLab.Supervisor.Calls
import FortifyLab.Supervisor.Diagnostics

/-! `notify_once`, and the policy a supervisor acts under. -/

namespace FortifyLab.Supervisor

variable (library : Library) (config : Config)

/-! ## Notifications -/

/-- The `try` block: a message that exists is edited, a new or pending one is sent. -/
def deliver (row : NotificationRow) (created meaningful : Bool) (actions : List InlineAction) :
    SupervisorM Unit := do
  let rendered := if 1 < row.occurrences then row.message ++ s!"\nOccurrences: {row.occurrences}"
    else row.message
  if row.messageId.getD "" ≠ "" then
    attempt (world (.edit (row.messageId.getD "") rendered actions))
  else if created || decide (row.state = .pending) then
    let messageId ← attempt (world (.send rendered actions))
    call (.markNotification row.fingerprint .delivered (some messageId))
    if meaningful then
      let time ← world .now
      call (.set "last_meaningful_notification" (toString (seconds time)))

/-- The handler of a delivery that failed. -/
def deliveryFailed (fingerprint : String) : SupervisorM Unit := do
  call (.markNotification fingerprint .pending none)
  let time ← world .now
  let _ ← call (.event s!"delivery:{fingerprint}:{seconds time}" "communications.delivery_failed"
    (.obj [("fingerprint", .str fingerprint), ("provider", .str "telegram")]))

/-- The digest day of a notification that is put off. -/
def bucketOf (deferred : Bool) : SupervisorM (Option String) := do
  if deferred then
    let time ← world .now
    return some (config.notifications.digestBucket time)
  else return none

structure Notice where
  fingerprint : String
  kind : String
  message : String
  payload : List (String × Value)
  severity : Severity := .info
  meaningful : Bool := false
  actions : List InlineAction := []

def Notice.isDeferred (notice : Notice) (time : ℚ) : Bool :=
  (config.notifications.quiet time && !notice.meaningful) ||
    (config.notifications.failuresOnly && decide (notice.severity ≠ .failure) &&
      !notice.meaningful)

def notifyOnce (notice : Notice) : SupervisorM Unit := do
  let sanitized := sanitizeDiagnostics 120 (.obj notice.payload)
  let time ← world .now
  let deferred := notice.isDeferred config time
  let bucket ← bucketOf config deferred
  let (row, created) ← call (.upsertNotification notice.fingerprint notice.kind notice.severity
    (sanitizeText 500 notice.message) sanitized (if deferred then .digest else .pending) bucket)
  let _ ← call (.event notice.fingerprint notice.kind sanitized)
  if deferred then return ()
  else
    exceptSupervisor (deliver row created notice.meaningful notice.actions)
      (fun _ => deliveryFailed notice.fingerprint)

/-! ## The policy -/

def policyDecision (action : AutonomyAction) : SupervisorM AutonomyDecision := do
  let policy ← world .policy
  return policy.decision action

/-- A text of decimal digits as a number. -/
def digits (text : String) : Option Nat :=
  if text ≠ "" ∧ text.toList.all Char.isDigit then
    some (text.toList.foldl (fun value digit => 10 * value + (digit.toNat - '0'.toNat)) 0)
  else none

/-- `audit_policy`. -/
def auditPolicy : SupervisorM Unit := do
  let previousDigest ← call (.get "autonomy_policy_digest" "")
  let previousGeneration ← call (.get "autonomy_policy_generation" "")
  let policy ← world .policy
  if previousDigest = policy.digest ∧ previousGeneration = toString policy.generation then
    return ()
  else
    let _ ← call (.event s!"autonomy-policy:{policy.generation}:{policy.digest}"
      "autonomy.policy_changed" (.obj [
        ("profile", .str policy.profile.name),
        ("generation", .int policy.generation),
        ("digest", .str policy.digest),
        ("previous_digest", if previousDigest = "" then .null else .str previousDigest),
        ("previous_generation", match digits previousGeneration with
          | some generation => .int generation
          | none => .null)]))
    call (.set "autonomy_policy_digest" policy.digest)
    call (.set "autonomy_policy_generation" (toString policy.generation))

/-- `replace_policy`: a policy without overrides is validated and installed. -/
def replacePolicy (profile : String) (generation : Nat) (expiresAt : Value) (now : ℚ) :
    SupervisorM (Except PolicyError EffectivePolicy) := do
  match effective library.policies (.str profile) (.int generation) (.obj []) expiresAt true now
    false with
  | .error error => return .error error
  | .ok policy =>
      let installed ← world (.installPolicy policy)
      if installed then return .ok policy
      else return .error (.policy "Autonomy policy could not be replaced")

/-- What `revert_expired_lease` tells the operator. -/
def announceReversion (expired reverted : EffectivePolicy) (expiredAt : String) :
    SupervisorM Unit := do
  let payload : List (String × Value) := [
    ("expired_profile", .str expired.profile.name),
    ("expired_generation", .int expired.generation),
    ("expired_at", .str expiredAt),
    ("profile", .str "assisted"),
    ("generation", .int reverted.generation)]
  notifyOnce config {
    fingerprint := s!"autonomy:expiry:{expired.generation}:{expiredAt}"
    kind := "autonomy.lease_expired"
    message := s!"⏱ Autonomous lease expired at {expiredAt}."
    payload := payload
    meaningful := true }
  notifyOnce config {
    fingerprint := s!"autonomy:reverted:{reverted.generation}"
    kind := "autonomy.reverted"
    message := "↩ Autonomy reverted to Assisted; automatic PR merging is disabled."
    payload := payload
    meaningful := true }

/-- The reversion of a lease that has run out. -/
def revertLease (expired : EffectivePolicy) (expiry now : ℚ) : SupervisorM Bool := do
  if config.autonomyPolicyFile then
    match ← replacePolicy library "assisted" (expired.generation + 1) .null now with
    | .error (.policy _) => do
        call (.set "autonomy_configuration_state" "expired-lease")
        fail "autonomous lease expired; Assisted reversion failed"
    | .error .typeError => throw .other
    | .ok policy => do
        world (.adopt policy)
        auditPolicy
        call (.set "autonomy_configuration_state" "active")
        announceReversion config expired policy (library.isoformat expiry)
        return true
  else
    call (.set "autonomy_configuration_state" "expired-lease")
    fail "autonomous lease expired; Assisted reversion unavailable"

/-- `revert_expired_lease`. -/
def revertExpiredLease : SupervisorM Bool := do
  let policy ← world .policy
  match policy.expiresAt with
  | none => return false
  | some expiry =>
      let now ← world .now
      if now < expiry then return false
      else revertLease library config policy expiry now

/-- What one process last attested; `none` where its text cannot be read. -/
def attestation (raw : String) : Option (Int × Int × String) := do
  let value ← library.loads raw
  let updatedAt ← library.int (← value.get "updated_at")
  let generation ← library.int (← value.get "generation")
  let digest ← value.get "digest"
  return (updatedAt, generation, library.str digest)

/-- The loop over the roles: the identities attested lately. -/
def recentIdentities (now : Int) :
    List String → List (Int × String) → SupervisorM (Option (List (Int × String)))
  | [], identities => return some identities
  | role :: rest, identities => do
      let raw ← call (.get s!"process_policy:{role}" "")
      if raw = "" then recentIdentities now rest identities
      else
        match attestation library raw with
        | none => return none
        | some (updatedAt, generation, digest) =>
            if now - updatedAt ≤ max 90 (config.pollSeconds * 3) then
              recentIdentities now rest (identities ++ [(generation, digest)])
            else recentIdentities now rest identities

/-- `configuration_state`. -/
def configurationState : SupervisorM String := do
  let persisted ← call (.get "autonomy_configuration_state" "active")
  if persisted = "expired-lease" ∨ persisted = "restart-required" then return persisted
  else
    let time ← world .now
    let policy ← world .policy
    match ← recentIdentities library config (seconds time)
      ["monitor", "listener", "runner", "status"] [(policy.generation, policy.digest)] with
    | none => return "mismatch"
    | some identities => return if identities.dedup.length = 1 then "active" else "mismatch"

end FortifyLab.Supervisor
