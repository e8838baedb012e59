import FortifyLab.Supervisor.Notices

/-! `notify_once` and `deliver_digest`, one call after another, with what Telegram accepted. -/

namespace FortifyLab.Supervisor

/-- What Telegram accepted: a message of one notification, an edit, or a digest of rows. -/
inductive Post where
  | sent (messageId text fingerprint : String)
  | edited (messageId text fingerprint : String)
  | digest (messageId text current : String) (rows : List NotificationRow)

def Post.messageId : Post → String
  | .sent messageId _ _ => messageId
  | .edited messageId _ _ => messageId
  | .digest messageId _ _ _ => messageId

/-- The notifications whose texts were delivered in a message. -/
def Post.fingerprints : Post → List String
  | .sent _ _ fingerprint => [fingerprint]
  | .edited _ _ fingerprint => [fingerprint]
  | .digest _ _ _ rows => rows.map NotificationRow.fingerprint

def Post.text : Post → String
  | .sent _ text _ => text
  | .edited _ text _ => text
  | .digest _ text _ _ => text

structure Desk where
  database : Database
  posts : List Post

namespace Desk

/-! ## The tables -/

/-- `event`; a fingerprint that is there is left alone. -/
def addEvent (database : Database) (row : EventRow) : Database :=
  match database.write (.insertEvent row) with
  | some (_, after) => after
  | none => database

/-- A row as `mark_notification` leaves it. -/
def marked (row : NotificationRow) (state : DeliveryState) (messageId : Option String)
    (now : Int) : NotificationRow :=
  { row with state, messageId := messageId <|> row.messageId, updatedAt := now }

/-- `mark_notification`. -/
def mark (database : Database) (fingerprint : String) (state : DeliveryState)
    (messageId : Option String) (now : Int) : Database :=
  (database.updateNotification fingerprint (fun row => marked row state messageId now)).2

/-- A row that is stored again. -/
def repeated (row old : NotificationRow) : NotificationRow :=
  { old with
    message := row.message
    payload := row.payload
    occurrences := old.occurrences + 1
    updatedAt := row.updatedAt }

@[simp] theorem repeated_state (row old : NotificationRow) :
    (repeated row old).state = old.state := rfl

@[simp] theorem repeated_messageId (row old : NotificationRow) :
    (repeated row old).messageId = old.messageId := rfl

/-- `upsert_notification`: the stored row, and whether it is new. -/
def upsert (database : Database) (row : NotificationRow) : NotificationRow × Bool × Database :=
  match database.notification row.fingerprint with
  | some old =>
      (repeated row old, false, (database.updateNotification row.fingerprint (repeated row)).2)
  | none => (row, true, { database with notifications := database.notifications ++ [row] })

def remember (database : Database) (key value : String) : Database :=
  { database with settings := Function.update database.settings key (some value) }

/-! ## `notify_once` -/

/-- What one call reads of the clock, and what Telegram answers it. -/
structure Notifying where
  decided : ℚ
  bucketed : ℚ
  stored : ℚ
  recorded : ℚ
  marked : ℚ
  reply : Except Raised String

variable (config : Config)

/-- The row that a call stores when its fingerprint is new. -/
def newRow (notice : Notice) (notifying : Notifying) : NotificationRow where
  fingerprint := notice.fingerprint
  kind := notice.kind
  severity := notice.severity
  message := sanitizeText 500 notice.message
  payload := sanitizeDiagnostics 120 (.obj notice.payload)
  digestBucket := if notice.isDeferred config notifying.decided then
    some (config.notifications.digestBucket notifying.bucketed) else none
  state := if notice.isDeferred config notifying.decided then .digest else .pending
  messageId := none
  occurrences := 1
  updatedAt := seconds notifying.stored

def rendered (row : NotificationRow) : String :=
  if 1 < row.occurrences then row.message ++ s!"\nOccurrences: {row.occurrences}" else row.message

/-- The handler of a delivery that failed. -/
def deliveryFailed (database : Database) (fingerprint : String) (time : ℚ) : Database :=
  addEvent (mark database fingerprint .pending none (seconds time))
    ⟨s!"delivery:{fingerprint}:{seconds time}", "communications.delivery_failed",
      .obj [("fingerprint", .str fingerprint), ("provider", .str "telegram")], seconds time⟩

/-- The `try` block with its handler; other errors than a `SupervisorError` end the call. -/
def deliver (desk : Desk) (notice : Notice) (notifying : Notifying) (row : NotificationRow)
    (created : Bool) : Desk :=
  if row.messageId.getD "" ≠ "" then
    match notifying.reply with
    | .ok _ => { desk with
        posts := desk.posts ++ [.edited (row.messageId.getD "") (rendered row) row.fingerprint] }
    | .error (.supervisor _) => { desk with
        database := deliveryFailed desk.database row.fingerprint notifying.marked }
    | .error _ => desk
  else if created || decide (row.state = .pending) then
    match notifying.reply with
    | .ok messageId =>
        let marked := mark desk.database row.fingerprint .delivered (some messageId)
          (seconds notifying.marked)
        { database := if notice.meaningful then
            remember marked "last_meaningful_notification" (toString (seconds notifying.marked))
            else marked
          posts := desk.posts ++ [.sent messageId (rendered row) row.fingerprint] }
    | .error (.supervisor _) => { desk with
        database := deliveryFailed desk.database row.fingerprint notifying.marked }
    | .error _ => desk
  else desk

/-- `notify_once`. -/
def notifyOnce (notice : Notice) (notifying : Notifying) (desk : Desk) : Desk :=
  let (row, created, stored) := upsert desk.database (newRow config notice notifying)
  let recorded := addEvent stored ⟨notice.fingerprint, notice.kind,
    sanitizeDiagnostics 120 (.obj notice.payload), seconds notifying.recorded⟩
  if notice.isDeferred config notifying.decided then { desk with database := recorded }
  else deliver { desk with database := recorded } notice notifying row created

/-! ## `deliver_digest` -/

/-- `ORDER BY updated_at, fingerprint`. -/
def comesBefore (left right : NotificationRow) : Prop :=
  left.updatedAt < right.updatedAt ∨
    left.updatedAt = right.updatedAt ∧ left.fingerprint ≤ right.fingerprint

instance (left right : NotificationRow) : Decidable (comesBefore left right) := by
  unfold comesBefore
  infer_instance

/-- The rows of digests that have ended. -/
def isDue (current : String) (row : NotificationRow) : Bool :=
  decide (row.state = .digest) && row.digestBucket.any (fun bucket => bucket < current)

/-- The rows that one digest takes. -/
def digestRows (database : Database) (current : String) : List NotificationRow :=
  ((database.notifications.filter (isDue current)).insertionSort comesBefore).take 25

def severityName : Severity → String
  | .info => "info"
  | .failure => "failure"

def digestLine (row : NotificationRow) : String :=
  s!"- [{severityName row.severity}] {row.message} (x{row.occurrences}, ref {row.fingerprint})"

def digestHeader (bucket : String) : String := s!"Fortify SDLC digest ({bucket})"

/-- `"\n".join(lines)`. -/
def digestText (bucket : String) (rows : List NotificationRow) : List Char :=
  List.intercalate ['\n'] ((digestHeader bucket :: rows.map digestLine).map String.toList)

/-- What one digest reads of the clock, and what Telegram answers it. -/
structure Digesting where
  time : ℚ
  marked : String → ℚ
  reply : Except Raised String

/-- The bucket that is not yet over. -/
def Digesting.current (digesting : Digesting) : String :=
  config.notifications.digestBucket digesting.time

def markAll (database : Database) (rows : List NotificationRow) (messageId : String)
    (marked : String → ℚ) : Database :=
  rows.foldl (fun database row =>
    mark database row.fingerprint .delivered (some messageId) (seconds (marked row.fingerprint)))
    database

/-- `deliver_digest`. -/
def deliverDigest (digesting : Digesting) (desk : Desk) : Desk :=
  let current := digesting.current config
  match digestRows desk.database current with
  | [] => desk
  | first :: rest =>
      let bucket := first.digestBucket.getD ""
      match digesting.reply with
      | .ok messageId =>
          { database := markAll desk.database (first :: rest) messageId digesting.marked
            posts := desk.posts ++ [.digest messageId
              (String.ofList ((digestText bucket (first :: rest)).take 3500)) current
              (first :: rest)] }
      | .error (.supervisor _) => { desk with
          database := addEvent desk.database
            ⟨s!"digest-delivery:{bucket}:{seconds digesting.time}",
              "communications.delivery_failed",
              .obj [("provider", .str "telegram"), ("type", .str "digest")],
              seconds digesting.time⟩ }
      | .error _ => desk

/-! ## Sequences of calls -/

inductive Call where
  | notify (notice : Notice) (notifying : Notifying)
  | digest (digesting : Digesting)

def step (desk : Desk) : Call → Desk
  | .notify notice notifying => notifyOnce config notice notifying desk
  | .digest digesting => deliverDigest config digesting desk

def run (desk : Desk) (calls : List Call) : Desk := calls.foldl (step config) desk

theorem run_append (desk : Desk) (earlier later : List Call) :
    run config desk (earlier ++ later) = run config (run config desk earlier) later :=
  List.foldl_append

/-! ## The row of a fingerprint -/

theorem notification_fingerprint {database : Database} {fingerprint : String}
    {row : NotificationRow} (found : database.notification fingerprint = some row) :
    row.fingerprint = fingerprint := by
  simpa using List.find?_some found

@[simp] theorem addEvent_notifications (database : Database) (row : EventRow) :
    (addEvent database row).notifications = database.notifications := by
  simp only [addEvent, Database.write]
  split
  · next after written =>
      split at written
      · cases written
      · cases written
        rfl
  · rfl

@[simp] theorem remember_notifications (database : Database) (key value : String) :
    (remember database key value).notifications = database.notifications := rfl

/-- An update that keeps fingerprints updates the row of its fingerprint. -/
theorem notification_update (database : Database) (fingerprint : String)
    (update : NotificationRow → NotificationRow)
    (keeps : ∀ row, (update row).fingerprint = row.fingerprint) (other : String) :
    (database.updateNotification fingerprint update).2.notification other =
      if other = fingerprint then (database.notification fingerprint).map update
      else database.notification other := by
  simp only [Database.notification, Database.updateNotification]
  induction database.notifications with
  | nil => simp
  | cons row rows ih =>
      by_cases here : row.fingerprint = fingerprint
      · by_cases same : other = fingerprint
        · subst same
          simp [here, keeps]
        · have apart : ¬ fingerprint = other := fun equal => same equal.symm
          simp only [same, if_false] at ih
          simp [here, keeps, same, apart, ih]
      · by_cases found : row.fingerprint = other
        · have apart : ¬ other = fingerprint := fun equal => here (found.trans equal)
          simp [found, apart]
        · by_cases same : other = fingerprint
          · subst same
            simp only [if_true] at ih
            simp [here, ih]
          · simp only [same, if_false] at ih
            simp [here, found, same, ih]

theorem update_fingerprints (database : Database) (fingerprint : String)
    (update : NotificationRow → NotificationRow)
    (keeps : ∀ row, (update row).fingerprint = row.fingerprint) :
    (database.updateNotification fingerprint update).2.notifications.map
        NotificationRow.fingerprint =
      database.notifications.map NotificationRow.fingerprint := by
  simp only [Database.updateNotification, List.map_map]
  refine List.map_congr_left (fun row _ => ?_)
  simp only [Function.comp]
  split
  · exact keeps row
  · rfl

theorem notification_mark (database : Database) (fingerprint : String) (state : DeliveryState)
    (messageId : Option String) (now : Int) (other : String) :
    (mark database fingerprint state messageId now).notification other =
      if other = fingerprint then
        (database.notification fingerprint).map (fun row => marked row state messageId now)
      else database.notification other :=
  notification_update database fingerprint (fun row => marked row state messageId now)
    (fun _ => rfl) other

theorem mark_fingerprints (database : Database) (fingerprint : String) (state : DeliveryState)
    (messageId : Option String) (now : Int) :
    (mark database fingerprint state messageId now).notifications.map
        NotificationRow.fingerprint =
      database.notifications.map NotificationRow.fingerprint :=
  update_fingerprints database fingerprint _ (fun _ => rfl)

theorem notification_of_notifications {one two : Database}
    (same : one.notifications = two.notifications) (fingerprint : String) :
    one.notification fingerprint = two.notification fingerprint := by
  simp only [Database.notification, same]

/-! ## What one `notify_once` does -/

/-- The stored row: the old one repeated, or the new one. -/
inductive Stored (database : Database) (row : NotificationRow) : NotificationRow → Bool → Prop where
  | repeated (old : NotificationRow) :
      database.notification row.fingerprint = some old →
      Stored database row (repeated row old) false
  | created : database.notification row.fingerprint = none → Stored database row row true

theorem Stored.fingerprint {database : Database} {row stored : NotificationRow} {created : Bool}
    (known : Stored database row stored created) : stored.fingerprint = row.fingerprint := by
  cases known with
  | repeated old found =>
      show old.fingerprint = row.fingerprint
      exact notification_fingerprint found
  | created _ => rfl

theorem upsert_spec (database : Database) (row : NotificationRow) :
    ∃ stored created after, upsert database row = (stored, created, after) ∧
      Stored database row stored created ∧
      (∀ other, after.notification other =
        if other = row.fingerprint then some stored else database.notification other) ∧
      (created = false → after.notifications.map NotificationRow.fingerprint =
        database.notifications.map NotificationRow.fingerprint) ∧
      (created = true → after.notifications.map NotificationRow.fingerprint =
        database.notifications.map NotificationRow.fingerprint ++ [row.fingerprint]) := by
  cases found : database.notification row.fingerprint with
  | some old =>
      refine ⟨repeated row old, false,
        (database.updateNotification row.fingerprint (repeated row)).2,
        by simp only [upsert, found], .repeated old found, ?_, ?_, by simp⟩
      · intro other
        rw [notification_update database row.fingerprint (repeated row) (fun _ => rfl), found]
        rfl
      · intro _
        exact update_fingerprints database row.fingerprint _ (fun _ => rfl)
  | none =>
      refine ⟨row, true, { database with notifications := database.notifications ++ [row] },
        by simp only [upsert, found], .created found, ?_, by simp, by simp⟩
      intro other
      by_cases same : other = row.fingerprint
      · subst same
        simp only [Database.notification] at found
        simp [Database.notification, found]
      · have apart : ¬ row.fingerprint = other := fun equal => same equal.symm
        simp [Database.notification, same, apart]

/-- How a call ends, once its row is stored: the messages, and the row of its fingerprint. -/
inductive Ended (posts : List Post) (notifying : Notifying) (deferred : Bool) (fingerprint : String)
    (stored : NotificationRow) : List Post → NotificationRow → Prop where
  | quiet : Ended posts notifying deferred fingerprint stored posts stored
  | failed (now : Int) :
      Ended posts notifying deferred fingerprint stored posts (marked stored .pending none now)
  | edited (messageId text : String) : deferred = false → stored.messageId = some messageId →
      messageId ≠ "" → Ended posts notifying deferred fingerprint stored
        (posts ++ [.edited messageId text fingerprint]) stored
  | sent (messageId text : String) (now : Int) : stored.messageId.getD "" = "" →
      notifying.reply = .ok messageId → Ended posts notifying deferred fingerprint stored
        (posts ++ [.sent messageId text fingerprint])
        (marked stored .delivered (some messageId) now)

theorem deliver_spec {desk : Desk} {notice : Notice} {notifying : Notifying}
    {row : NotificationRow} {created : Bool}
    (there : desk.database.notification row.fingerprint = some row) :
    ∃ final, Ended desk.posts notifying false row.fingerprint row
        (deliver desk notice notifying row created).posts final ∧
      (∀ other, (deliver desk notice notifying row created).database.notification other =
        if other = row.fingerprint then some final else desk.database.notification other) ∧
      (deliver desk notice notifying row created).database.notifications.map
          NotificationRow.fingerprint =
        desk.database.notifications.map NotificationRow.fingerprint := by
  have same : ∀ other, desk.database.notification other =
      if other = row.fingerprint then some row else desk.database.notification other := by
    intro other
    by_cases equal : other = row.fingerprint
    · rw [if_pos equal, equal, there]
    · rw [if_neg equal]
  have failed : ∀ time other,
      (deliveryFailed desk.database row.fingerprint time).notification other =
        if other = row.fingerprint then some (marked row .pending none (seconds time))
        else desk.database.notification other := by
    intro time other
    rw [deliveryFailed, notification_of_notifications (addEvent_notifications _ _),
      notification_mark, there]
    rfl
  have failedPrints : ∀ time,
      (deliveryFailed desk.database row.fingerprint time).notifications.map
          NotificationRow.fingerprint =
        desk.database.notifications.map NotificationRow.fingerprint := by
    intro time
    rw [deliveryFailed, addEvent_notifications, mark_fingerprints]
  by_cases edits : row.messageId.getD "" ≠ ""
  · have known : row.messageId = some (row.messageId.getD "") := by
      cases id : row.messageId with
      | none => simp [id] at edits
      | some messageId => rfl
    simp only [deliver, edits, ne_eq, not_false_eq_true, if_true]
    cases reply : notifying.reply with
    | ok messageId => exact ⟨row, .edited _ _ rfl known edits, same, rfl⟩
    | error raised =>
        cases raised with
        | supervisor message => exact ⟨_, .failed _, failed _, failedPrints _⟩
        | sql error => exact ⟨row, .quiet, same, rfl⟩
        | other => exact ⟨row, .quiet, same, rfl⟩
  · simp only [deliver, edits, if_false]
    by_cases sends : (created || decide (row.state = .pending)) = true
    · simp only [sends, if_true]
      cases reply : notifying.reply with
      | ok messageId =>
          refine ⟨_, .sent messageId (rendered row) (seconds notifying.marked)
            (not_not.mp edits) reply, ?_, ?_⟩
          · intro other
            have marks := notification_mark desk.database row.fingerprint .delivered
              (some messageId) (seconds notifying.marked) other
            rw [there] at marks
            cases notice.meaningful <;> exact marks
          · have marks := mark_fingerprints desk.database row.fingerprint .delivered
              (some messageId) (seconds notifying.marked)
            cases notice.meaningful <;> exact marks
      | error raised =>
          cases raised with
          | supervisor message => exact ⟨_, .failed _, failed _, failedPrints _⟩
          | sql error => exact ⟨row, .quiet, same, rfl⟩
          | other => exact ⟨row, .quiet, same, rfl⟩
    · rw [if_neg sends]
      exact ⟨row, .quiet, same, rfl⟩

/-- One call stores its row and ends; it leaves the rows of other fingerprints alone. -/
theorem notifyOnce_spec (notice : Notice) (notifying : Notifying) (desk : Desk) :
    ∃ stored created final,
      Stored desk.database (newRow config notice notifying) stored created ∧
      Ended desk.posts notifying (notice.isDeferred config notifying.decided) notice.fingerprint
        stored (notifyOnce config notice notifying desk).posts final ∧
      (∀ other, (notifyOnce config notice notifying desk).database.notification other =
        if other = notice.fingerprint then some final
        else desk.database.notification other) ∧
      (created = false → (notifyOnce config notice notifying desk).database.notifications.map
          NotificationRow.fingerprint =
        desk.database.notifications.map NotificationRow.fingerprint) ∧
      (created = true → (notifyOnce config notice notifying desk).database.notifications.map
          NotificationRow.fingerprint =
        desk.database.notifications.map NotificationRow.fingerprint ++ [notice.fingerprint]) := by
  obtain ⟨stored, created, after, made, known, rows, old, new⟩ :=
    upsert_spec desk.database (newRow config notice notifying)
  have named : stored.fingerprint = notice.fingerprint := known.fingerprint
  simp only [notifyOnce, made]
  have recorded : ∀ other, (addEvent after ⟨notice.fingerprint, notice.kind,
      sanitizeDiagnostics 120 (.obj notice.payload), seconds notifying.recorded⟩).notification
        other = if other = notice.fingerprint then some stored
          else desk.database.notification other := by
    intro other
    rw [notification_of_notifications (addEvent_notifications _ _)]
    exact rows other
  cases deferred : notice.isDeferred config notifying.decided with
  | true =>
      simp only [if_true]
      exact ⟨stored, created, stored, known, .quiet, recorded,
        fun repeats => by rw [addEvent_notifications]; exact old repeats,
        fun creates => by rw [addEvent_notifications]; exact new creates⟩
  | false =>
      simp only [Bool.false_eq_true, if_false]
      obtain ⟨final, ended, final', prints⟩ := @deliver_spec ⟨addEvent after _, desk.posts⟩ notice
        notifying stored created (by rw [recorded, named, if_pos rfl])
      rw [named] at ended final'
      refine ⟨stored, created, final, known, ended, ?_, ?_, ?_⟩
      · intro other
        rw [final' other, recorded]
        split
        · rfl
        · rfl
      · intro repeats
        rw [prints, addEvent_notifications]
        exact old repeats
      · intro creates
        rw [prints, addEvent_notifications]
        exact new creates

/-! ## What one digest does -/

theorem digestRows_due {database : Database} {current : String} {row : NotificationRow}
    (member : row ∈ digestRows database current) :
    row ∈ database.notifications ∧ row.state = .digest ∧
      ∃ bucket, row.digestBucket = some bucket ∧ bucket < current := by
  have sorted := List.mem_of_mem_take member
  rw [List.mem_insertionSort, List.mem_filter] at sorted
  have due := sorted.2
  simp only [isDue, Bool.and_eq_true, decide_eq_true_eq] at due
  cases bucket : row.digestBucket with
  | none => simp [bucket] at due
  | some name =>
      simp only [bucket, Option.any_some, decide_eq_true_eq] at due
      exact ⟨sorted.1, due.1, name, rfl, due.2⟩

theorem notification_of_mem {database : Database} {row : NotificationRow}
    (distinct : (database.notifications.map NotificationRow.fingerprint).Nodup)
    (member : row ∈ database.notifications) :
    database.notification row.fingerprint = some row := by
  cases found : database.notification row.fingerprint with
  | none => simpa using List.find?_eq_none.mp found row member
  | some other =>
      have same := notification_fingerprint found
      rw [List.inj_on_of_nodup_map distinct (List.mem_of_find?_eq_some found) member same]

theorem markAll_spec (rows : List NotificationRow) (messageId : String) (time : String → ℚ)
    (database : Database) :
    (∀ other, (markAll database rows messageId time).notification other =
        if other ∈ rows.map NotificationRow.fingerprint then
          (database.notification other).map (fun row =>
            marked row .delivered (some messageId) (seconds (time other)))
        else database.notification other) ∧
      (markAll database rows messageId time).notifications.map NotificationRow.fingerprint =
        database.notifications.map NotificationRow.fingerprint := by
  induction rows generalizing database with
  | nil => simp [markAll]
  | cons row rows ih =>
      have rest := ih (mark database row.fingerprint .delivered (some messageId)
        (seconds (time row.fingerprint)))
      rw [markAll, List.foldl_cons]
      refine ⟨fun other => ?_, rest.2.trans (mark_fingerprints ..)⟩
      rw [← markAll, rest.1 other, notification_mark]
      by_cases first : other = row.fingerprint
      · subst first
        by_cases again : row.fingerprint ∈ rows.map NotificationRow.fingerprint
        · cases database.notification row.fingerprint <;> simp [again, marked]
        · simp [again]
      · simp [first]

end Desk

end FortifyLab.Supervisor
