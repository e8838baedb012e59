import FortifyLab.Library.Connection
import FortifyLab.Library.Value
import Mathlib.Data.List.Sort

/-! The supervisor's database: its tables, and the statements `Store` runs on them. -/

namespace FortifyLab.Supervisor

inductive ApprovalAction where
  | mergePr
  | milestoneRollover
  deriving DecidableEq

inductive ApprovalState where
  | pending
  | approved
  | rejected
  | superseded
  | expired
  deriving DecidableEq

/-- The two states an operator or the policy decides on. -/
inductive Verdict where
  | approved
  | rejected
  deriving DecidableEq

def Verdict.state : Verdict → ApprovalState
  | approved => .approved
  | rejected => .rejected

structure ApprovalRow where
  id : String
  action : ApprovalAction
  payload : Value
  planDigest : String
  state : ApprovalState
  createdAt : Int
  expiresAt : Int
  decidedAt : Option Int
  decidedBy : Option String
  reason : Option String

structure EventRow where
  fingerprint : String
  kind : String
  payload : Value
  createdAt : Int

structure TokenRow where
  tokenHash : String
  approvalId : Option String
  action : String
  actor : Option String
  payload : Value
  createdAt : Int
  expiresAt : Int
  consumedAt : Option Int
  consumedBy : Option String

inductive Severity where
  | info
  | failure
  deriving DecidableEq

inductive DeliveryState where
  | pending
  | digest
  | delivered
  deriving DecidableEq

structure NotificationRow where
  fingerprint : String
  kind : String
  severity : Severity
  message : String
  payload : Value
  digestBucket : Option String
  state : DeliveryState
  messageId : Option String
  occurrences : Nat
  updatedAt : Int

structure Database where
  settings : String → Option String
  approvals : List ApprovalRow
  events : List EventRow
  callbackTokens : List TokenRow
  notifications : List NotificationRow

def Database.empty : Database := ⟨fun _ => none, [], [], [], []⟩

inductive Query where
  | setting (key : String)
  | event (fingerprint : String)
  | notification (fingerprint : String)
  | approval (id : String)
  | pendingApproval (action : ApprovalAction) (digest : String) (now : Int)
  | pendingApprovals (action : ApprovalAction) (now : Int)
  | callbackToken (tokenHash : String)

abbrev Rows : Query → Type
  | .setting _ => Option String
  | .event _ => Bool
  | .notification _ => Option NotificationRow
  | .approval _ => Option ApprovalRow
  | .pendingApproval _ _ _ => Option ApprovalRow
  | .pendingApprovals _ _ => List ApprovalRow
  | .callbackToken _ => Option TokenRow

inductive Change where
  | setSetting (key value : String)
  | deleteSetting (key : String)
  | insertEvent (row : EventRow)
  | repeatNotification (fingerprint message : String) (payload : Value) (now : Int)
  | insertNotification (row : NotificationRow)
  | markNotification (fingerprint : String) (state : DeliveryState) (messageId : Option String)
      (now : Int)
  | insertApproval (row : ApprovalRow)
  | supersede (id : String) (decidedAt : Int) (reason : String)
  | expire (id : String)
  | decide (id : String) (verdict : Verdict) (decidedAt : Int) (actor reason : String)
  | insertToken (row : TokenRow)
  | consumeToken (tokenHash : String) (now : Int) (actor : String)

namespace Database

def approval (database : Database) (id : String) : Option ApprovalRow :=
  database.approvals.find? (fun row => row.id = id)

def isPending (action : ApprovalAction) (now : Int) (row : ApprovalRow) : Bool :=
  decide (row.action = action) && decide (row.state = .pending) && decide (now < row.expiresAt)

/-- Newest first. -/
def pendingApprovals (database : Database) (action : ApprovalAction) (now : Int) :
    List ApprovalRow :=
  (database.approvals.filter (isPending action now)).insertionSort
    (fun left right => right.createdAt ≤ left.createdAt)

def hasEvent (database : Database) (fingerprint : String) : Bool :=
  database.events.any (fun row => row.fingerprint = fingerprint)

def notification (database : Database) (fingerprint : String) : Option NotificationRow :=
  database.notifications.find? (fun row => row.fingerprint = fingerprint)

def callbackToken (database : Database) (tokenHash : String) : Option TokenRow :=
  database.callbackTokens.find? (fun row => row.tokenHash = tokenHash)

def read (database : Database) : (query : Query) → Rows query
  | .setting key => database.settings key
  | .event fingerprint => database.hasEvent fingerprint
  | .notification fingerprint => database.notification fingerprint
  | .approval id => database.approval id
  | .pendingApproval action digest now =>
      (database.pendingApprovals action now).find? (fun row => row.planDigest = digest)
  | .pendingApprovals action now => database.pendingApprovals action now
  | .callbackToken tokenHash => database.callbackToken tokenHash

/-- `UPDATE approvals SET … WHERE id = ?`. -/
def updateApproval (database : Database) (id : String) (update : ApprovalRow → ApprovalRow) :
    Nat × Database :=
  (database.approvals.countP (fun row => row.id = id),
    { database with
      approvals := database.approvals.map (fun row => if row.id = id then update row else row) })

def updateNotification (database : Database) (fingerprint : String)
    (update : NotificationRow → NotificationRow) : Nat × Database :=
  (database.notifications.countP (fun row => row.fingerprint = fingerprint),
    { database with
      notifications := database.notifications.map
        (fun row => if row.fingerprint = fingerprint then update row else row) })

/-- The condition of the conditional update of a callback token. -/
def isOpen (tokenHash : String) (now : Int) (row : TokenRow) : Bool :=
  decide (row.tokenHash = tokenHash) && row.consumedAt.isNone && decide (now < row.expiresAt)

/-- The foreign key of a callback token. -/
def referenceHolds (database : Database) : Option String → Bool
  | none => true
  | some id => (database.approval id).isSome

def write (database : Database) : Change → Option (Nat × Database)
  | .setSetting key value =>
      some (1, { database with settings := Function.update database.settings key (some value) })
  | .deleteSetting key =>
      some ((database.settings key).toList.length,
        { database with settings := Function.update database.settings key none })
  | .insertEvent row =>
      if database.hasEvent row.fingerprint then none
      else some (1, { database with events := database.events ++ [row] })
  | .repeatNotification fingerprint message payload now =>
      some (database.updateNotification fingerprint (fun row =>
        { row with message, payload, occurrences := row.occurrences + 1, updatedAt := now }))
  | .insertNotification row =>
      if (database.notification row.fingerprint).isSome then none
      else some (1, { database with notifications := database.notifications ++ [row] })
  | .markNotification fingerprint state messageId now =>
      some (database.updateNotification fingerprint (fun row =>
        { row with state, messageId := messageId <|> row.messageId, updatedAt := now }))
  | .insertApproval row =>
      if (database.approval row.id).isSome then none
      else some (1, { database with approvals := database.approvals ++ [row] })
  | .supersede id decidedAt reason =>
      some (database.updateApproval id (fun row =>
        { row with state := .superseded, decidedAt := some decidedAt, reason := some reason }))
  | .expire id => some (database.updateApproval id (fun row => { row with state := .expired }))
  | .decide id verdict decidedAt actor reason =>
      some (database.updateApproval id (fun row =>
        { row with
          state := verdict.state
          decidedAt := some decidedAt
          decidedBy := some actor
          reason := some reason }))
  | .insertToken row =>
      if (database.callbackToken row.tokenHash).isSome || !database.referenceHolds row.approvalId
      then none
      else some (1, { database with callbackTokens := database.callbackTokens ++ [row] })
  | .consumeToken tokenHash now actor =>
      some (database.callbackTokens.countP (isOpen tokenHash now),
        { database with
          callbackTokens := database.callbackTokens.map (fun row =>
            if isOpen tokenHash now row then
              { row with consumedAt := some now, consumedBy := some actor }
            else row) })

end Database

def tables : Tables Database Query Change Rows := ⟨Database.read, Database.write⟩

end FortifyLab.Supervisor
