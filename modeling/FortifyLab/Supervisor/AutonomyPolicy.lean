import FortifyLab.Library.Checks
import FortifyLab.Library.Value
import Mathlib.Data.List.Sort

/-! `autonomy_policy.py`: profiles, their decisions and the policy file. Times are
seconds since the epoch. -/

namespace FortifyLab.Supervisor

def schemaVersion : String := "fortify.autonomy/v1alpha1"

/-- `ACTIONS`. -/
inductive AutonomyAction where
  | startNextIssue
  | closeCompletedIssue
  | advanceMilestone
  | retryIdempotentFailure
  | mergePullRequest
  | destructiveOperations
  | secretOperations
  | scopeChanges
  deriving DecidableEq

inductive AutonomyDecision where
  | auto
  | approval
  | disabled
  deriving DecidableEq

inductive Profile where
  | manual
  | assisted
  | autonomous
  deriving DecidableEq

namespace AutonomyAction

def name : AutonomyAction → String
  | startNextIssue => "start_next_issue"
  | closeCompletedIssue => "close_completed_issue"
  | advanceMilestone => "advance_milestone"
  | retryIdempotentFailure => "retry_idempotent_failure"
  | mergePullRequest => "merge_pull_request"
  | destructiveOperations => "destructive_operations"
  | secretOperations => "secret_operations"
  | scopeChanges => "scope_changes"

def all : List AutonomyAction :=
  [startNextIssue, closeCompletedIssue, advanceMilestone, retryIdempotentFailure,
    mergePullRequest, destructiveOperations, secretOperations, scopeChanges]

/-- `PROTECTED_ACTIONS`. -/
def protectedActions : List AutonomyAction :=
  [destructiveOperations, secretOperations, scopeChanges]

def parse (text : String) : Option AutonomyAction := all.find? (fun action => action.name = text)

theorem mem_all (action : AutonomyAction) : action ∈ all := by
  cases action <;> decide

end AutonomyAction

namespace AutonomyDecision

def name : AutonomyDecision → String
  | auto => "auto"
  | approval => "approval"
  | disabled => "disabled"

def parse : Value → Option AutonomyDecision
  | .str text => [auto, approval, disabled].find? (fun decision => decision.name = text)
  | _ => none

/-- How much a decision permits. -/
def permits : AutonomyDecision → Nat
  | auto => 2
  | approval => 1
  | disabled => 0

end AutonomyDecision

namespace Profile

def name : Profile → String
  | manual => "manual"
  | assisted => "assisted"
  | autonomous => "autonomous"

def parse (text : String) : Option Profile :=
  [manual, assisted, autonomous].find? (fun profile => profile.name = text)

/-- `PROFILE_DEFAULTS`. -/
def defaults : Profile → AutonomyAction → AutonomyDecision
  | manual, _ => .approval
  | assisted, .startNextIssue => .auto
  | assisted, .closeCompletedIssue => .auto
  | assisted, .advanceMilestone => .auto
  | assisted, .retryIdempotentFailure => .auto
  | assisted, .mergePullRequest => .approval
  | assisted, .destructiveOperations => .approval
  | assisted, .secretOperations => .approval
  | assisted, .scopeChanges => .approval
  | autonomous, .startNextIssue => .auto
  | autonomous, .closeCompletedIssue => .auto
  | autonomous, .advanceMilestone => .auto
  | autonomous, .retryIdempotentFailure => .auto
  | autonomous, .mergePullRequest => .auto
  | autonomous, .destructiveOperations => .approval
  | autonomous, .secretOperations => .approval
  | autonomous, .scopeChanges => .approval

end Profile

/-- What loading or replacing a policy raises: an `AutonomyPolicyError`, or the
`TypeError` of a profile that cannot be looked up. -/
inductive PolicyError where
  | policy (message : String)
  | typeError
  deriving DecidableEq

/-- What the digest is taken of. -/
structure CanonicalPolicy where
  profile : Profile
  generation : Nat
  expiresAt : Option ℚ
  decisions : AutonomyAction → AutonomyDecision

/-- The parts of Python's library that a policy file goes through: `fromisoformat` with
whether a timezone is given, `str` and the digest. -/
structure PolicyLibrary where
  timestamp : String → Option (ℚ × Bool)
  render : Value → String
  digest : CanonicalPolicy → String

structure EffectivePolicy where
  profile : Profile
  generation : Nat
  decisions : AutonomyAction → AutonomyDecision
  digest : String
  expiresAt : Option ℚ
  configured : Bool

def EffectivePolicy.decision (policy : EffectivePolicy) (action : AutonomyAction) :
    AutonomyDecision := policy.decisions action

variable (library : PolicyLibrary)

/-- The name that sorts first. -/
def firstName (names : List String) : Option String :=
  (names.insertionSort (fun left right => left ≤ right)).head?

/-- The loop over the overrides. -/
def applyOverrides (decisions : AutonomyAction → AutonomyDecision) :
    List (String × Value) → Except PolicyError (AutonomyAction → AutonomyDecision)
  | [] => .ok decisions
  | (name, value) :: rest =>
      match AutonomyAction.parse name, AutonomyDecision.parse value with
      | some action, some decision =>
          applyOverrides (Function.update decisions action decision) rest
      | _, _ => .error (.policy (s!"Unknown autonomy policy for {name}; " ++
          "expected auto, approval, or disabled"))

def checkProfile (profile : Value) : Except PolicyError Profile :=
  match profile with
  | .str text =>
      match Profile.parse text with
      | some profile => .ok profile
      | none => .error (.policy s!"Unknown autonomy profile: {text}")
  | .arr _ => .error .typeError
  | .obj _ => .error .typeError
  | other => .error (.policy s!"Unknown autonomy profile: {library.render other}")

def checkGeneration (generation : Value) : Except PolicyError Nat :=
  match generation with
  | .int (.ofNat generation) => .ok generation
  | _ => .error (.policy "Autonomy generation must be a non-negative integer")

def checkOverrides (profile : Profile) (overrides : Value) :
    Except PolicyError (AutonomyAction → AutonomyDecision) :=
  match overrides with
  | .obj fields =>
      match firstName ((fields.map Prod.fst).filter
        (fun name => (AutonomyAction.parse name).isNone)) with
      | some unknown => .error (.policy s!"Unknown autonomy action: {unknown}")
      | none => applyOverrides profile.defaults fields
  | _ => .error (.policy "Autonomy actions must be an object")

def checkProtected (decisions : AutonomyAction → AutonomyDecision) : Except PolicyError Unit :=
  match AutonomyAction.protectedActions.find? (fun action => decisions action ≠ .approval) with
  | some unsafeAction =>
      .error (.policy s!"Unsafe autonomy combination: {unsafeAction.name} must require approval")
  | none => .ok ()

/-- The expiry of an autonomous policy. -/
def checkLease (expiresAt : Value) (now : ℚ) (allowExpired : Bool) : Except PolicyError ℚ :=
  match expiresAt with
  | .str text =>
      if text = "" then
        .error (.policy "Autonomous profile requires a future expires_at timestamp")
      else
        match library.timestamp text with
        | none => .error (.policy "Autonomous expires_at must be an RFC 3339 timestamp")
        | some (_, false) => .error (.policy "Autonomous expires_at must include a timezone")
        | some (expiry, true) =>
            if expiry ≤ now ∧ allowExpired = false then
              .error (.policy "Autonomous policy has expired")
            else .ok expiry
  | _ => .error (.policy "Autonomous profile requires a future expires_at timestamp")

def checkExpiry (profile : Profile) (expiresAt : Value) (now : ℚ) (allowExpired : Bool) :
    Except PolicyError (Option ℚ) :=
  if profile = .autonomous then do
    let expiry ← checkLease library expiresAt now allowExpired
    return some expiry
  else
    match expiresAt with
    | .null => .ok none
    | _ => .error (.policy "expires_at is only valid for the autonomous profile")

/-- `_effective`. -/
def effective (profile generation overrides expiresAt : Value) (configured : Bool) (now : ℚ)
    (allowExpired : Bool) : Except PolicyError EffectivePolicy := do
  let profile ← checkProfile library profile
  let generation ← checkGeneration generation
  let decisions ← checkOverrides profile overrides
  checkProtected decisions
  let expiry ← checkExpiry library profile expiresAt now allowExpired
  return {
    profile := profile
    generation := generation
    decisions := decisions
    digest := library.digest ⟨profile, generation, expiry, decisions⟩
    expiresAt := expiry
    configured := configured }

/-- `migration_policy`. -/
def migrationPolicy : EffectivePolicy where
  profile := .assisted
  generation := 0
  decisions := Profile.assisted.defaults
  digest := library.digest ⟨.assisted, 0, none, Profile.assisted.defaults⟩
  expiresAt := none
  configured := false

/-- What `load_policy` finds: no path, a file that is refused or unreadable, or JSON. -/
inductive PolicyFile where
  | none
  | refused (message : String)
  | document (document : Value)

def policyFields : List String :=
  ["schema_version", "profile", "generation", "expires_at", "actions"]

/-- The checks of a document that is read. -/
def loadDocument (document : Value) (now : ℚ) (allowExpired : Bool) :
    Except PolicyError EffectivePolicy :=
  match document with
  | .obj fields =>
      match firstName ((fields.map Prod.fst).filter
        (fun name => !policyFields.contains name)) with
      | some unknown => .error (.policy s!"Unknown autonomy field: {unknown}")
      | none =>
          if ((document.get "schema_version").getD .null).isText schemaVersion then
            effective library ((document.get "profile").getD .null)
              ((document.get "generation").getD .null) ((document.get "actions").getD (.obj []))
              ((document.get "expires_at").getD .null) true now allowExpired
          else .error (.policy s!"Unsupported autonomy schema_version; expected {schemaVersion}")
  | _ => .error (.policy "Autonomy policy must be an object")

/-- `load_policy`. -/
def loadPolicy (file : PolicyFile) (now : ℚ) (allowExpired : Bool) :
    Except PolicyError EffectivePolicy :=
  match file with
  | .none => .ok (migrationPolicy library)
  | .refused message => .error (.policy message)
  | .document document => loadDocument library document now allowExpired

end FortifyLab.Supervisor
