import FortifyLab.Library.Json
import FortifyLab.Registry.ComponentRegistry

/-! The plan an approval is bound to, its risk and its digest. -/

namespace FortifyLab.Authorization

open Registry

inductive Risk where
  | routine | disruptive | high
  deriving DecidableEq, Repr

/-- `RISK_BY_OPERATION`. -/
def riskByOperation : List (String × Risk) :=
  [ ("install", .routine), ("configure", .routine), ("start", .routine),
    ("stop", .disruptive), ("restart", .disruptive), ("upgrade", .high),
    ("uninstall", .high), ("delete-data", .high), ("replace-secret", .high) ]

structure OperationPlan where
  operation : String
  targets : List ComponentId
  currentState : List (String × String)
  deriving DecidableEq, Repr

/-- `risk`; `none` stands for the refusal of an operation without a policy. -/
def OperationPlan.risk (plan : OperationPlan) : Option Risk :=
  riskByOperation.lookup plan.operation

/-- `APPROVAL_REQUIRED`. -/
def Risk.approvalRequired (risk : Risk) : Bool := risk ≠ .routine

/-- The state of the targets, keys sorted. -/
def OperationPlan.sortedState (plan : OperationPlan) : List (String × String) :=
  plan.currentState.mergeSort (fun left right => decide (left.1 ≤ right.1))

/-- The texts between the values of a plan's JSON document. -/
def digestFrame : List Char × List Char × List Char :=
  ("\x7b\"currentState\":".toList, ",\"operation\":".toList, ",\"targets\":".toList)

/-- The JSON document of `digest`, keys sorted and without blanks. -/
def OperationPlan.payload (plan : OperationPlan) : List Char :=
  digestFrame.1 ++ (Json.encodeStringMap plan.sortedState ++
    (digestFrame.2.1 ++ (Json.encodeString plan.operation ++
      (digestFrame.2.2 ++ (Json.encodeStrings plan.targets ++ ['}'])))))

/-- `digest` with the hash function left open. -/
def OperationPlan.digest (sha256 : List Char → String) (plan : OperationPlan) : String :=
  "sha256:" ++ sha256 plan.payload

/-- Two different texts with one hash. -/
def Collision (sha256 : List Char → String) : Prop :=
  ∃ left right, left ≠ right ∧ sha256 left = sha256 right

/-- The payload determines the operation, the ordered targets and the state. -/
theorem payload_inj {left right : OperationPlan} (same : left.payload = right.payload) :
    left.operation = right.operation ∧ left.targets = right.targets ∧
      left.sortedState = right.sortedState := by
  unfold OperationPlan.payload at same
  generalize digestFrame = frame at same
  rw [List.append_cancel_left_eq] at same
  obtain ⟨states, afterState⟩ := Json.encodeStringMap_prefixFree _ _ _ _ same
  rw [List.append_cancel_left_eq] at afterState
  obtain ⟨operations, afterOperation⟩ := Json.encodeString_prefixFree _ _ _ _ afterState
  rw [List.append_cancel_left_eq] at afterOperation
  obtain ⟨targets, _⟩ := Json.encodeStrings_prefixFree _ _ _ _ afterOperation
  exact ⟨operations, targets, states⟩

/-- Equal digests mean equal plans, or a collision of the hash function. -/
theorem digest_inj {sha256 : List Char → String} {left right : OperationPlan}
    (same : left.digest sha256 = right.digest sha256) :
    left.payload = right.payload ∨ Collision sha256 := by
  by_cases equal : left.payload = right.payload
  · exact .inl equal
  · exact .inr ⟨_, _, equal, (String.append_right_inj _).mp same⟩

/-- With a collision-free hash equal digests mean one operation, one tuple of targets
and one state of them. -/
theorem digest_determines {sha256 : List Char → String} (distinct : ¬ Collision sha256)
    {left right : OperationPlan} (same : left.digest sha256 = right.digest sha256) :
    left.operation = right.operation ∧ left.targets = right.targets ∧
      left.currentState.Perm right.currentState := by
  rcases digest_inj same with payloads | collision
  · rcases payload_inj payloads with ⟨operations, targets, states⟩
    refine ⟨operations, targets, ?_⟩
    have sorted : left.currentState.Perm left.sortedState := (List.mergeSort_perm _ _).symm
    rw [states] at sorted
    exact sorted.trans (List.mergeSort_perm _ _)
  · exact absurd collision distinct

end FortifyLab.Authorization
