import FortifyLab.Supervisor.Digest
import FortifyLab.Supervisor.OpenTransactions

/-! What the digests of a run deliver and mark. -/

namespace FortifyLab.Supervisor.Desk

/-! ## Texts -/

theorem intercalate_cons {separator first : List Char} {texts : List (List Char)} :
    separator.intercalate (first :: texts) = first ++ texts.flatMap (separator ++ ·) := by
  induction texts generalizing first with
  | nil => simp
  | cons second rest ih =>
      rw [List.intercalate_cons_cons, ih, List.flatMap_cons]
      simp only [List.append_assoc]

/-- The lines of a digest, each after a line break. -/
theorem digestText_eq (bucket : String) (rows : List NotificationRow) :
    digestText bucket rows = (digestHeader bucket).toList ++
      rows.flatMap (fun row => '\n' :: (digestLine row).toList) := by
  simp only [digestText, List.map_cons, intercalate_cons, List.map_map, List.flatMap_map]
  rfl

theorem infix_digestText {bucket : String} {rows : List NotificationRow} {row : NotificationRow}
    (member : row ∈ rows) : (digestLine row).toList <:+: digestText bucket rows := by
  obtain ⟨before, after, rfl⟩ := List.append_of_mem member
  rw [digestText_eq, List.flatMap_append, List.flatMap_cons]
  exact ⟨(digestHeader bucket).toList ++
    (before.flatMap (fun row => '\n' :: (digestLine row).toList) ++ ['\n']),
    after.flatMap (fun row => '\n' :: (digestLine row).toList), by simp⟩

variable (config : Config)

/-- The digest is not longer than what is sent of it. -/
def Fits (desk : Desk) (digesting : Digesting) : Prop :=
  ∀ first rest, digestRows desk.database (digesting.current config) = first :: rest →
    (digestText (first.digestBucket.getD "") (first :: rest)).length ≤ 3500

instance (desk : Desk) (digesting : Digesting) : Decidable (Fits config desk digesting) :=
  match rows : digestRows desk.database (digesting.current config) with
  | [] => isTrue (by simp [Fits, rows])
  | first :: rest =>
      decidable_of_iff ((digestText (first.digestBucket.getD "") (first :: rest)).length ≤ 3500)
        (by simp [Fits, rows])

/-- What is marked was delivered with its complete line, after its bucket had ended; a failed send
marks nothing. -/
structure Delivers (before : Desk) (digesting : Digesting) (after : Desk) : Prop where
  marks : ∀ fingerprint row, after.database.notification fingerprint = some row →
    row.state = .delivered →
    (∀ old, before.database.notification fingerprint = some old → old.state ≠ .delivered) →
    ∃ messageId text rows, digesting.reply = .ok messageId ∧
      after.posts = before.posts ++
        [.digest messageId text (digesting.current config) rows] ∧
      fingerprint ∈ rows.map NotificationRow.fingerprint ∧
      (digestLine row).toList <:+: text.toList ∧
      ∃ bucket, row.digestBucket = some bucket ∧ bucket < digesting.current config
  refused : (∀ messageId, digesting.reply ≠ .ok messageId) →
    after.database.notifications = before.database.notifications ∧ after.posts = before.posts

section

variable {config}

/-- A digest marks nothing, or the rows that it posts. -/
theorem deliverDigest_cases (digesting : Digesting) (desk : Desk) :
    ((deliverDigest config digesting desk).database.notifications = desk.database.notifications ∧
        (deliverDigest config digesting desk).posts = desk.posts) ∨
      ∃ messageId first rest, digesting.reply = .ok messageId ∧
        digestRows desk.database (digesting.current config) = first :: rest ∧
        (deliverDigest config digesting desk).database =
          markAll desk.database (first :: rest) messageId digesting.marked ∧
        (deliverDigest config digesting desk).posts = desk.posts ++ [.digest messageId
          (String.ofList ((digestText (first.digestBucket.getD "") (first :: rest)).take 3500))
          (digesting.current config) (first :: rest)] := by
  simp only [deliverDigest]
  cases found : digestRows desk.database (digesting.current config) with
  | nil => exact .inl ⟨rfl, rfl⟩
  | cons first rest =>
      cases reply : digesting.reply with
      | ok messageId => exact .inr ⟨messageId, first, rest, rfl, rfl, rfl, rfl⟩
      | error raised =>
          cases raised with
          | supervisor message => exact .inl ⟨addEvent_notifications _ _, rfl⟩
          | sql error => exact .inl ⟨rfl, rfl⟩
          | other => exact .inl ⟨rfl, rfl⟩

theorem delivers_of_fits {digesting : Digesting} {desk : Desk}
    (distinct : (desk.database.notifications.map NotificationRow.fingerprint).Nodup)
    (fits : Fits config desk digesting) :
    Delivers config desk digesting (deliverDigest config digesting desk) := by
  rcases deliverDigest_cases digesting desk with kept | posted
  · constructor
    · intro fingerprint row found delivered fresh
      rw [notification_of_notifications kept.1] at found
      exact absurd delivered (fresh row found)
    · exact fun _ => kept
  · obtain ⟨messageId, first, rest, reply, rows, tables, posts⟩ := posted
    constructor
    · intro fingerprint row found delivered fresh
      rw [tables, (markAll_spec (first :: rest) messageId digesting.marked _).1] at found
      by_cases marked : fingerprint ∈ (first :: rest).map NotificationRow.fingerprint
      · obtain ⟨sent, member, rfl⟩ := List.mem_map.mp marked
        have due := digestRows_due (rows ▸ member)
        rw [if_pos marked, notification_of_mem distinct due.1] at found
        cases found
        refine ⟨messageId, _, first :: rest, reply, posts, marked, ?_, due.2.2⟩
        rw [String.toList_ofList, List.take_of_length_le (fits first rest rows)]
        exact @infix_digestText _ (first :: rest) sent member
      · rw [if_neg marked] at found
        exact absurd delivered (fresh row found)
    · intro refused
      exact absurd reply (refused messageId)

end

/-! ## Marked once -/

/-- The fingerprints of each digest. -/
def digests (posts : List Post) : List (List String) :=
  posts.filterMap (fun post => match post with
    | .digest _ _ _ rows => some (rows.map NotificationRow.fingerprint)
    | _ => none)

/-- What was in a digest is not put off any more. -/
structure Sound (desk : Desk) : Prop where
  distinct : (desk.database.notifications.map NotificationRow.fingerprint).Nodup
  gone : ∀ digest ∈ digests desk.posts, ∀ fingerprint ∈ digest,
    ∃ row, desk.database.notification fingerprint = some row ∧ row.state ≠ .digest
  once : (digests desk.posts).Pairwise List.Disjoint

section

variable {config}

theorem digests_append (posts more : List Post) :
    digests (posts ++ more) = digests posts ++ digests more :=
  List.filterMap_append

theorem Ended.digests {posts after : List Post} {notifying : Notifying} {deferred : Bool}
    {fingerprint : String} {stored final : NotificationRow}
    (ended : Ended posts notifying deferred fingerprint stored after final) :
    digests after = digests posts := by
  cases ended with
  | quiet => rfl
  | failed _ => rfl
  | edited messageId text _ _ _ =>
      rw [digests_append]
      exact List.append_nil _
  | sent messageId text now _ _ =>
      rw [digests_append]
      exact List.append_nil _

theorem Ended.state {posts after : List Post} {notifying : Notifying} {deferred : Bool}
    {fingerprint : String} {stored final : NotificationRow}
    (ended : Ended posts notifying deferred fingerprint stored after final)
    (settled : stored.state ≠ .digest) : final.state ≠ .digest := by
  cases ended with
  | quiet => exact settled
  | failed _ => simp [marked]
  | edited _ _ _ _ _ => exact settled
  | sent _ _ _ _ _ => simp [marked]

theorem notification_none {database : Database} {fingerprint : String}
    (none : database.notification fingerprint = none) :
    fingerprint ∉ database.notifications.map NotificationRow.fingerprint := by
  intro member
  obtain ⟨row, known, rfl⟩ := List.mem_map.mp member
  simpa using List.find?_eq_none.mp none row known

theorem sound_notify {desk : Desk} (sound : Sound desk) (notice : Notice)
    (notifying : Notifying) : Sound (notifyOnce config notice notifying desk) := by
  obtain ⟨stored, created, final, known, ended, rows, old, new⟩ :=
    notifyOnce_spec config notice notifying desk
  constructor
  · cases known with
    | repeated before found =>
        rw [old rfl]
        exact sound.distinct
    | created found =>
        rw [new rfl]
        refine List.nodup_append.mpr ⟨sound.distinct, List.nodup_singleton _, ?_⟩
        intro one member other single same
        rw [same, List.mem_singleton.mp single] at member
        have unknown : desk.database.notification notice.fingerprint = none := found
        exact notification_none unknown member
  · intro digest member fingerprint inside
    rw [ended.digests] at member
    obtain ⟨row, found, settled⟩ := sound.gone digest member fingerprint inside
    rw [rows]
    by_cases same : fingerprint = notice.fingerprint
    · rw [if_pos same]
      refine ⟨final, rfl, ended.state ?_⟩
      rw [same] at found
      cases known with
      | repeated before there =>
          have equal : some row = some before := found.symm.trans there
          rw [Option.some.injEq] at equal
          rw [equal, ← repeated_state (newRow config notice notifying)] at settled
          exact settled
      | created none =>
          have both : some row = Option.none := found.symm.trans none
          cases both
    · rw [if_neg same]
      exact ⟨row, found, settled⟩
  · rw [ended.digests]
    exact sound.once

theorem sound_digest {desk : Desk} (sound : Sound desk) (digesting : Digesting) :
    Sound (deliverDigest config digesting desk) := by
  rcases deliverDigest_cases digesting desk with kept | posted
  · constructor
    · rw [kept.1]
      exact sound.distinct
    · intro digest member fingerprint inside
      rw [kept.2] at member
      rw [notification_of_notifications kept.1]
      exact sound.gone digest member fingerprint inside
    · rw [kept.2]
      exact sound.once
  · obtain ⟨messageId, first, rest, _, rows, tables, posts⟩ := posted
    have spec := markAll_spec (first :: rest) messageId digesting.marked desk.database
    have put : ∀ row ∈ first :: rest,
        desk.database.notification row.fingerprint = some row ∧ row.state = .digest := by
      intro row member
      have due := digestRows_due (rows ▸ member)
      exact ⟨notification_of_mem sound.distinct due.1, due.2.1⟩
    have added : digests (deliverDigest config digesting desk).posts = digests desk.posts ++
        [(first :: rest).map NotificationRow.fingerprint] := by
      rw [posts, digests_append]
      rfl
    constructor
    · rw [tables, spec.2]
      exact sound.distinct
    · intro digest member fingerprint inside
      rw [added, List.mem_append, List.mem_singleton] at member
      rw [tables, spec.1]
      by_cases here : fingerprint ∈ (first :: rest).map NotificationRow.fingerprint
      · obtain ⟨row, known, rfl⟩ := List.mem_map.mp here
        rw [if_pos here, (put row known).1]
        exact ⟨_, rfl, by simp [marked]⟩
      · rw [if_neg here]
        rcases member with before | same
        · exact sound.gone digest before fingerprint inside
        · exact absurd (same ▸ inside) here
    · rw [added]
      refine List.pairwise_append.mpr ⟨sound.once, List.pairwise_singleton _ _, ?_⟩
      intro digest before other single
      rw [List.mem_singleton.mp single]
      intro fingerprint inside here
      obtain ⟨row, known, rfl⟩ := List.mem_map.mp here
      obtain ⟨stored, found, settled⟩ := sound.gone digest before _ inside
      rw [(put row known).1, Option.some.injEq] at found
      subst found
      exact settled (put row known).2

theorem sound_run {desk : Desk} (sound : Sound desk) (calls : List Call) :
    Sound (run config desk calls) := by
  induction calls generalizing desk with
  | nil => exact sound
  | cons call calls ih =>
      cases call with
      | notify notice notifying => exact ih (sound_notify sound notice notifying)
      | digest digesting => exact ih (sound_digest sound digesting)

end

/-- Over every run, from any table with one row for a fingerprint, whose digests are all sent
whole: each digest delivers the complete line of what it marks, and only what is over; a failed one
marks nothing; and no notification is in two digests. -/
theorem digests_deliver (database : Database)
    (distinct : (database.notifications.map NotificationRow.fingerprint).Nodup)
    (calls : List Call)
    (fits : ∀ earlier digesting later, calls = earlier ++ .digest digesting :: later →
      Fits config (run config ⟨database, []⟩ earlier) digesting) :
    (∀ earlier digesting later, calls = earlier ++ .digest digesting :: later →
        Delivers config (run config ⟨database, []⟩ earlier) digesting
          (run config ⟨database, []⟩ (earlier ++ [.digest digesting]))) ∧
      (digests (run config ⟨database, []⟩ calls).posts).Pairwise List.Disjoint := by
  have start : Sound ⟨database, []⟩ := ⟨distinct, by simp [digests], by simp [digests]⟩
  constructor
  · intro earlier digesting later split
    rw [run_append]
    exact delivers_of_fits (sound_run start earlier).distinct (fits earlier digesting later split)
  · exact (sound_run start calls).once

/-- A notification put off to the day "a". -/
def deferred (message fingerprint : String) : NotificationRow where
  fingerprint := fingerprint
  kind := "kind"
  severity := .info
  message := message
  payload := .null
  digestBucket := some "a"
  state := .digest
  messageId := none
  occurrences := 1
  updatedAt := 0

def oneDeferred : Database := { Database.empty with notifications := [deferred "held" "f"] }

def dayConfig : Config := { plainConfig with
  notifications := { plainConfig.notifications with digestBucket := fun _ => "b" } }

def accepted : Digesting := ⟨0, fun _ => 0, .ok "7"⟩

theorem digests_deliver_single :
    (∀ earlier digesting later, [Call.digest accepted] = earlier ++ .digest digesting :: later →
        Delivers dayConfig (run dayConfig ⟨oneDeferred, []⟩ earlier) digesting
          (run dayConfig ⟨oneDeferred, []⟩ (earlier ++ [.digest digesting]))) ∧
      (digests (run dayConfig ⟨oneDeferred, []⟩ [.digest accepted]).posts).Pairwise
        List.Disjoint := by
  apply digests_deliver dayConfig oneDeferred (by decide) [.digest accepted]
  intro earlier digesting later split
  cases earlier with
  | cons _ earlier => simp at split
  | nil =>
      cases split
      decide +kernel

def sixDeferred (message : String) : List NotificationRow :=
  ["a", "b", "c", "d", "e", "f"].map (deferred message)

def crowded (message : String) : Database :=
  { Database.empty with notifications := sixDeferred message ++ [deferred message "z"] }

theorem digestRows_crowded (message : String) :
    digestRows (crowded message) "b" = sixDeferred message ++ [deferred message "z"] := by
  have due : ∀ fingerprint, isDue "b" (deferred message fingerprint) = true := by
    intro fingerprint
    simp only [isDue, deferred, Option.any_some, decide_true, Bool.true_and]
    decide
  have rows : (crowded message).notifications =
      ["a", "b", "c", "d", "e", "f", "z"].map (deferred message) := rfl
  have all : (crowded message).notifications.filter (isDue "b") =
      (crowded message).notifications := by
    rw [rows]
    refine List.filter_eq_self.mpr (fun row member => ?_)
    obtain ⟨fingerprint, _, rfl⟩ := List.mem_map.mp member
    exact due fingerprint
  have ordered : ["a", "b", "c", "d", "e", "f", "z"].Pairwise
      (fun left right : String => left ≤ right) := by decide
  have sorted : (crowded message).notifications.Pairwise comesBefore := by
    rw [rows]
    exact List.pairwise_map.mpr (ordered.imp (fun early => .inr ⟨rfl, early⟩))
  rw [digestRows, all, List.Pairwise.insertionSort_eq sorted]
  rfl

theorem digestLine_deferred (message fingerprint : String) :
    (digestLine (deferred message fingerprint)).toList =
      "- [info] ".toList ++ message.toList ++
        (" (x1, ref ".toList ++ (fingerprint.toList ++ [')'])) := by
  have once : Nat.toDigits 10 1 = ['1'] := rfl
  simp [digestLine, deferred, severityName, ToString.toString, once]

theorem digestText_crowded {message : String} (long : message.toList.length = 500)
    (without : 'z' ∉ message.toList) : 'z' ∉
      (digestText "a" (sixDeferred message ++ [deferred message "z"])).take 3500 := by
  have text : digestText "a" (sixDeferred message ++ [deferred message "z"]) =
      (digestText "a" (sixDeferred message) ++ '\n' :: ("- [info] ".toList ++ message.toList)) ++
        (" (x1, ref ".toList ++ ("z".toList ++ [')'])) := by
    rw [digestText_eq, List.flatMap_append, List.flatMap_singleton, digestLine_deferred,
      digestText_eq]
    simp only [List.append_assoc, List.cons_append]
  have header : digestHeader "a" = "Fortify SDLC digest (a)" := rfl
  rw [text, List.take_append_of_le_length]
  · have apart : ∀ fingerprint ∈ ["a", "b", "c", "d", "e", "f"], 'z' ∉ fingerprint.toList := by
      decide
    have lines : ∀ row ∈ sixDeferred message, 'z' ∉ (digestLine row).toList := by
      intro row member
      obtain ⟨fingerprint, known, rfl⟩ := List.mem_map.mp member
      have other : 'z' ∉ fingerprint.toList := apart fingerprint known
      simp [digestLine_deferred, without, other]
    intro member
    have inside := List.mem_of_mem_take member
    rw [digestText_eq, header, List.mem_append, List.mem_append, List.mem_flatMap] at inside
    rcases inside with (early | ⟨row, known, line⟩) | late
    · exact absurd early (by decide)
    · exact lines row known (List.mem_of_ne_of_mem (by decide) line)
    · simp [without] at late
  · rw [digestText_eq, header]
    simp only [sixDeferred, List.map_cons, List.map_nil, List.flatMap_cons, List.flatMap_nil,
      digestLine_deferred, List.length_append, List.length_cons, long]
    omega

/-- The lines of seven such messages are cut, and the last row is marked all the same. -/
theorem marked_crowded {message : String} (long : message.toList.length = 500)
    (without : 'z' ∉ message.toList) : ¬ Delivers dayConfig ⟨crowded message, []⟩ accepted
      (deliverDigest dayConfig accepted ⟨crowded message, []⟩) := by
  intro delivers
  have due := digestRows_crowded message
  have ended : deliverDigest dayConfig accepted ⟨crowded message, []⟩ =
      ⟨markAll (crowded message) (sixDeferred message ++ [deferred message "z"]) "7" (fun _ => 0),
        [.digest "7" (String.ofList ((digestText "a"
          (sixDeferred message ++ [deferred message "z"])).take 3500)) "b"
          (sixDeferred message ++ [deferred message "z"])]⟩ := by
    have current : accepted.current dayConfig = "b" := rfl
    simp only [deliverDigest, current, due]
    rfl
  have known : (crowded message).notification "z" = some (deferred message "z") := by
    simp [crowded, sixDeferred, Database.notification, deferred]
  have delivered : (deliverDigest dayConfig accepted ⟨crowded message, []⟩).database.notification
      "z" = some (marked (deferred message "z") .delivered (some "7") (seconds 0)) := by
    rw [ended, (markAll_spec _ _ _ _).1, known]
    simp [deferred]
  have before : ∀ old, (crowded message).notification "z" = some old →
      old.state ≠ .delivered := by
    intro old found
    rw [known] at found
    cases found
    simp [deferred]
  obtain ⟨messageId, text, rows, _, posts, _, line, _⟩ :=
    delivers.marks "z" _ delivered rfl before
  rw [ended, List.nil_append, List.singleton_inj, Post.digest.injEq] at posts
  rw [← posts.2.1] at line
  rw [String.toList_ofList] at line
  have inside : 'z' ∈ (digestLine (deferred message "z")).toList := by
    rw [digestLine_deferred]
    simp
  exact digestText_crowded long without (line.subset inside)

theorem crowded_digest_cut : ¬ Delivers dayConfig
    ⟨crowded (String.ofList (List.replicate 500 'x')), []⟩ accepted
    (deliverDigest dayConfig accepted
      ⟨crowded (String.ofList (List.replicate 500 'x')), []⟩) := by
  refine marked_crowded ?_ ?_
  · rw [String.toList_ofList, List.length_replicate]
  · rw [String.toList_ofList]
    exact fun member => absurd (List.eq_of_mem_replicate member) (by decide)

end FortifyLab.Supervisor.Desk
