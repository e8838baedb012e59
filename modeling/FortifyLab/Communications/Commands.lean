import FortifyLab.Library.Checks
import FortifyLab.Library.Digits
import FortifyLab.Library.Value

/-! The read commands of the communications service, its messages, and the callbacks that stand for
commands. -/

namespace FortifyLab.Communications

inductive CommandKind where
  | summary
  | health
  | preflight
  | incidents
  | history
  | help
  deriving DecidableEq

def CommandKind.value : CommandKind → String
  | .summary => "summary"
  | .health => "health"
  | .preflight => "preflight"
  | .incidents => "incidents"
  | .history => "history"
  | .help => "help"

def isLowerOrDigit (character : Char) : Bool :=
  ('a' ≤ character && character ≤ 'z') || ('0' ≤ character && character ≤ '9')

/-- `SAFE_COMPONENT`. -/
def isSafeComponent (component : String) : Bool :=
  match component.toList with
  | [] => false
  | first :: rest => isLowerOrDigit first && decide (rest.length ≤ 63) &&
      rest.all (fun character => isLowerOrDigit character || character == '-')

structure ReadCommand where
  kind : CommandKind
  page : Nat
  component : Option String
  inRange : 1 ≤ page ∧ page ≤ 1000
  safe : ∀ value ∈ component, isSafeComponent value = true
  deriving DecidableEq

/-- What a call raises: a `ValueError`, or a `ManagerResponseInvalid`. -/
inductive Raised where
  | valueError
  | responseInvalid
  deriving DecidableEq

/-- `ReadCommand(…)`. -/
def readCommand (kind : CommandKind) (page : Nat) (component : Option String) :
    Except Raised ReadCommand :=
  if inRange : 1 ≤ page ∧ page ≤ 1000 then
    if safe : ∀ value ∈ component, isSafeComponent value = true then
      .ok ⟨kind, page, component, inRange, safe⟩
    else .error .valueError
  else .error .valueError

structure Action where
  label : String
  command : ReadCommand
  deriving DecidableEq

def maxMessage : Nat := 3500

structure Message where
  text : String
  actions : List Action
  replaceKey : Option String
  bounded : text ≠ "" ∧ text.length ≤ maxMessage
  few : actions.length ≤ 6
  deriving DecidableEq

/-- `Message(…)`. -/
def message (text : String) (actions : List Action) (replaceKey : Option String) :
    Except Raised Message :=
  if bounded : text ≠ "" ∧ text.length ≤ maxMessage then
    if few : actions.length ≤ 6 then .ok ⟨text, actions, replaceKey, bounded, few⟩
    else .error .valueError
  else .error .valueError

theorem message_ok {text : String} {actions : List Action} {replaceKey : Option String}
    (bounded : text ≠ "" ∧ text.length ≤ maxMessage) (few : actions.length ≤ 6) :
    message text actions replaceKey = .ok ⟨text, actions, replaceKey, bounded, few⟩ := by
  rw [message, dif_pos bounded, dif_pos few]

/-! ## Callbacks -/

/-- `len(value.encode())`. -/
def encodedSize (value : String) : Nat := (value.toList.map Char.utf8Size).sum

def callbackText (command : ReadCommand) : String :=
  "read:" ++ command.kind.value ++ ":" ++ command.page.repr ++ ":" ++ command.component.getD "-"

/-- `encode_callback`. -/
def encodeCallback (command : ReadCommand) : Except Raised String :=
  if 64 < encodedSize (callbackText command) then .error .valueError
  else .ok (callbackText command)

@[simp] theorem encodedSize_append (front back : String) :
    encodedSize (front ++ back) = encodedSize front + encodedSize back := by
  simp [encodedSize]

theorem encodedSize_ascii {value : String}
    (ascii : ∀ character ∈ value.toList, character.utf8Size = 1) :
    encodedSize value = value.length := by
  have ones : value.toList.map Char.utf8Size = List.replicate value.toList.length 1 := by
    rw [List.eq_replicate_iff]
    simpa using ascii
  simp [encodedSize, ones, String.length_toList]

theorem utf8Size_digit {character : Char} (digit : character.isDigit = true) :
    character.utf8Size = 1 := by
  have bounds : character.toNat ≤ 57 := by
    simp only [Char.isDigit, Bool.and_eq_true, decide_eq_true_eq] at digit
    exact digit.2
  have small : character.val ≤ 0x7f := by
    show character.val.toNat ≤ 127
    exact Nat.le_trans bounds (by decide)
  simp [Char.utf8Size, small]

theorem encodedSize_page {page : Nat} (small : page ≤ 1000) : encodedSize page.repr ≤ 4 := by
  rw [encodedSize_ascii (fun character member => utf8Size_digit (isDigit_of_mem_natRepr member))]
  exact Nat.length_repr_le_iff (by decide) |>.mpr (Nat.lt_of_le_of_lt small (by decide))

theorem encodedSize_kind (kind : CommandKind) : encodedSize kind.value ≤ 9 := by
  cases kind <;> decide

/-- A command without a component fits into a callback. -/
theorem encodeCallback_ok {command : ReadCommand} (bare : command.component = none) :
    ∃ text, encodeCallback command = .ok text ∧ encodedSize text ≤ 64 := by
  have fits : encodedSize (callbackText command) ≤ 64 := by
    have page := encodedSize_page command.inRange.2
    have kind := encodedSize_kind command.kind
    have start : encodedSize "read:" = 5 := by decide
    have colon : encodedSize ":" = 1 := by decide
    have dash : encodedSize "-" = 1 := by decide
    simp only [callbackText, bare, Option.getD_none, encodedSize_append]
    omega
  exact ⟨callbackText command, if_neg (Nat.not_lt.mpr fits), fits⟩

end FortifyLab.Communications
