import FortifyLab.Supervisor.DigestRuns
import Mathlib.Data.List.Pairwise

/-! The messages that notifications share, and the edits made to them. -/

namespace FortifyLab.Supervisor

/-- The id that Telegram gave a new message. -/
def Post.sentId : Post → Option String
  | .sent messageId _ _ => some messageId
  | .edited _ _ _ => none
  | .digest messageId _ _ _ => some messageId

/-- The message that an edit replaces. -/
def Post.editedId : Post → Option String
  | .sent _ _ _ => none
  | .edited messageId _ _ => some messageId
  | .digest _ _ _ _ => none

/-- An edit replaces texts of its own notification only. -/
def Post.Respects (earlier later : Post) : Prop :=
  later.editedId = some earlier.messageId → ∀ other ∈ earlier.fingerprints,
    other ∈ later.fingerprints

/-- Two new messages have two ids. -/
def Post.Apart (one other : Post) : Prop :=
  ∀ messageId, one.sentId = some messageId → other.sentId ≠ some messageId

instance : Std.Symm Post.Apart where
  symm _ _ apart messageId sent again := apart messageId again sent

namespace Desk

theorem eq_of_sentId {posts : List Post} (apart : posts.Pairwise Post.Apart) {one other : Post}
    (first : one ∈ posts) (second : other ∈ posts) {messageId : String}
    (sent : one.sentId = some messageId) (again : other.sentId = some messageId) :
    one = other := by
  by_contra distinct
  exact apart.forall first second distinct messageId sent again

/-- `fingerprint` was delivered in the new message of this id. -/
def Delivered (posts : List Post) (messageId fingerprint : String) : Prop :=
  ∃ post ∈ posts, post.sentId = some messageId ∧ fingerprint ∈ post.fingerprints

theorem Delivered.append {posts : List Post} {messageId fingerprint : String}
    (delivered : Delivered posts messageId fingerprint) (more : List Post) :
    Delivered (posts ++ more) messageId fingerprint := by
  obtain ⟨post, member, sent, inside⟩ := delivered
  exact ⟨post, List.mem_append_left _ member, sent, inside⟩

/-- Message references lead to messages that delivered the notification. -/
structure Linked (desk : Desk) : Prop where
  rows : ∀ fingerprint row messageId, desk.database.notification fingerprint = some row →
    row.messageId = some messageId → messageId ≠ "" →
    Delivered desk.posts messageId fingerprint
  posts : ∀ post ∈ desk.posts, ∀ fingerprint ∈ post.fingerprints,
    Delivered desk.posts post.messageId fingerprint

section

variable {config : Config}

/-- A digest that delivered the notification of a call delivered no other. -/
def Alone (desk : Desk) (notice : Notice) : Prop :=
  ∀ digest ∈ digests desk.posts, notice.fingerprint ∈ digest → digest = [notice.fingerprint]

theorem fingerprints_alone {desk : Desk} {notice : Notice} (alone : Alone desk notice)
    {post : Post} (member : post ∈ desk.posts) (inside : notice.fingerprint ∈ post.fingerprints) :
    post.fingerprints = [notice.fingerprint] := by
  cases post with
  | sent messageId text fingerprint => rw [List.mem_singleton.mp inside]; rfl
  | edited messageId text fingerprint => rw [List.mem_singleton.mp inside]; rfl
  | digest messageId text current rows =>
      exact alone _ (List.mem_filterMap.mpr ⟨_, member, rfl⟩) inside

/-- What is in a message that delivered such a notification. -/
theorem Linked.owns {desk : Desk} (linked : Linked desk) (apart : desk.posts.Pairwise Post.Apart)
    {notice : Notice} (alone : Alone desk notice) {messageId : String}
    (delivered : Delivered desk.posts messageId notice.fingerprint) {post : Post}
    (member : post ∈ desk.posts) (same : post.messageId = messageId) :
    ∀ other ∈ post.fingerprints, other = notice.fingerprint := by
  intro other inside
  obtain ⟨new, known, sent, held⟩ := delivered
  obtain ⟨first, known', sent', held'⟩ := linked.posts post member other inside
  rw [same] at sent'
  rw [eq_of_sentId apart known' known sent' sent, fingerprints_alone alone known held] at held'
  exact List.mem_singleton.mp held'

theorem Stored.messageId {desk : Desk} {notice : Notice} {notifying : Notifying}
    {stored : NotificationRow} {created : Bool} (linked : Linked desk)
    (known : Stored desk.database (newRow config notice notifying) stored created)
    {messageId : String} (some' : stored.messageId = some messageId) (text : messageId ≠ "") :
    Delivered desk.posts messageId notice.fingerprint := by
  cases known with
  | created _ => cases some'
  | repeated old found =>
      rw [repeated_messageId] at some'
      exact linked.rows notice.fingerprint old messageId found some' text

theorem Linked.extend {before after : Desk} (linked : Linked before) (post : Post)
    (posts : after.posts = before.posts ++ [post])
    (rows : ∀ fingerprint row messageId, after.database.notification fingerprint = some row →
      row.messageId = some messageId → messageId ≠ "" →
      Delivered after.posts messageId fingerprint)
    (new : ∀ fingerprint ∈ post.fingerprints, Delivered after.posts post.messageId fingerprint) :
    Linked after := by
  refine ⟨rows, fun earlier member fingerprint inside => ?_⟩
  rw [posts, List.mem_append, List.mem_singleton] at member
  rcases member with old | rfl
  · rw [posts]
    exact (linked.posts earlier old fingerprint inside).append _
  · exact new fingerprint inside

theorem Linked.notify {desk : Desk} (linked : Linked desk) (notice : Notice)
    (notifying : Notifying) : Linked (notifyOnce config notice notifying desk) := by
  obtain ⟨stored, created, final, known, ended, rows, _⟩ :=
    notifyOnce_spec config notice notifying desk
  -- the row of the call refers to a delivered message, and so do the rows it leaves alone
  have table : ∀ more, (notifyOnce config notice notifying desk).posts = desk.posts ++ more →
      (∀ messageId, final.messageId = some messageId → messageId ≠ "" →
        Delivered (desk.posts ++ more) messageId notice.fingerprint) →
      ∀ fingerprint row messageId,
        (notifyOnce config notice notifying desk).database.notification fingerprint = some row →
        row.messageId = some messageId → messageId ≠ "" →
        Delivered (notifyOnce config notice notifying desk).posts messageId fingerprint := by
    intro more posts own fingerprint row messageId found reference text
    rw [posts]
    rw [rows] at found
    by_cases same : fingerprint = notice.fingerprint
    · rw [if_pos same, Option.some.injEq] at found
      subst found
      rw [same]
      exact own messageId reference text
    · rw [if_neg same] at found
      exact (linked.rows fingerprint row messageId found reference text).append more
  have stays : ∀ messageId, stored.messageId = some messageId → messageId ≠ "" →
      Delivered desk.posts messageId notice.fingerprint :=
    fun messageId => Stored.messageId linked known
  generalize after : (notifyOnce config notice notifying desk).posts = posts at ended
  cases ended with
  | quiet =>
      refine ⟨table [] (by simp [after]) (by simpa using stays), ?_⟩
      rw [after]
      exact linked.posts
  | failed now =>
      refine ⟨table [] (by simp [after]) (by simpa [marked] using stays), ?_⟩
      rw [after]
      exact linked.posts
  | edited messageId text _ reference filled =>
      refine linked.extend _ after (table _ after ?_) ?_
      · exact fun messageId reference text => (stays messageId reference text).append _
      · intro fingerprint inside
        rw [List.mem_singleton.mp inside, after]
        exact (stays messageId reference filled).append _
  | sent messageId text now _ _ =>
      have new : Delivered (desk.posts ++ [.sent messageId text notice.fingerprint]) messageId
          notice.fingerprint :=
        ⟨.sent messageId text notice.fingerprint, by simp, rfl, List.mem_singleton_self _⟩
      refine linked.extend _ after (table _ after ?_) ?_
      · intro other reference _
        have same : messageId = other := Option.some.inj reference
        rw [← same]
        exact new
      · intro fingerprint inside
        rw [List.mem_singleton.mp inside, after]
        exact new

theorem Linked.digest {desk : Desk} (linked : Linked desk) (digesting : Digesting) :
    Linked (deliverDigest config digesting desk) := by
  rcases deliverDigest_cases digesting desk with kept | posted
  · constructor
    · intro fingerprint row messageId found reference text
      rw [notification_of_notifications kept.1] at found
      rw [kept.2]
      exact linked.rows fingerprint row messageId found reference text
    · rw [kept.2]
      exact linked.posts
  · obtain ⟨messageId, first, rest, _, _, tables, posts⟩ := posted
    have new : ∀ fingerprint ∈ (first :: rest).map NotificationRow.fingerprint,
        Delivered (deliverDigest config digesting desk).posts messageId fingerprint := by
      intro fingerprint inside
      rw [posts]
      exact ⟨_, List.mem_append_right _ (List.mem_singleton_self _), rfl, inside⟩
    refine linked.extend _ posts ?_ new
    intro fingerprint row other found reference text
    rw [tables, (markAll_spec _ _ _ _).1] at found
    by_cases inside : fingerprint ∈ (first :: rest).map NotificationRow.fingerprint
    · rw [if_pos inside] at found
      obtain ⟨old, _, rfl⟩ := Option.map_eq_some_iff.mp found
      have same : messageId = other := Option.some.inj reference
      rw [← same]
      exact new fingerprint inside
    · rw [if_neg inside] at found
      rw [posts]
      exact (linked.rows fingerprint row other found reference text).append _

theorem posts_step (desk : Desk) (call : Call) :
    ∃ more, (step config desk call).posts = desk.posts ++ more := by
  cases call with
  | notify notice notifying =>
      obtain ⟨stored, created, final, _, ended, _⟩ := notifyOnce_spec config notice notifying desk
      show ∃ more, (notifyOnce config notice notifying desk).posts = desk.posts ++ more
      generalize (notifyOnce config notice notifying desk).posts = posts at ended
      cases ended with
      | quiet => exact ⟨[], by simp⟩
      | failed _ => exact ⟨[], by simp⟩
      | edited _ _ _ _ _ => exact ⟨_, rfl⟩
      | sent _ _ _ _ _ => exact ⟨_, rfl⟩
  | digest digesting =>
      rcases deliverDigest_cases digesting desk with kept | ⟨_, _, _, _, _, _, posts⟩
      · exact ⟨[], by simpa [step] using kept.2⟩
      · exact ⟨_, posts⟩

theorem Linked.step {desk : Desk} (linked : Linked desk) (call : Call) :
    Linked (step config desk call) := by
  cases call with
  | notify notice notifying => exact linked.notify notice notifying
  | digest digesting => exact linked.digest digesting

theorem respects_notify {desk : Desk} (linked : Linked desk)
    (own : desk.posts.Pairwise Post.Respects)
    (apart : desk.posts.Pairwise Post.Apart) (notice : Notice) (notifying : Notifying)
    (alone : notice.isDeferred config notifying.decided = false → Alone desk notice) :
    (notifyOnce config notice notifying desk).posts.Pairwise Post.Respects := by
  obtain ⟨stored, created, final, known, ended, _⟩ := notifyOnce_spec config notice notifying desk
  generalize (notifyOnce config notice notifying desk).posts = posts at ended
  cases ended with
  | quiet => exact own
  | failed _ => exact own
  | sent _ _ _ _ _ =>
      refine List.pairwise_append.mpr ⟨own, List.pairwise_singleton _ _, ?_⟩
      intro earlier _ later last edits
      rw [List.mem_singleton.mp last] at edits
      cases edits
  | edited messageId text immediate reference filled =>
      refine List.pairwise_append.mpr ⟨own, List.pairwise_singleton _ _, ?_⟩
      intro earlier member later last edits other inside
      rw [List.mem_singleton.mp last] at edits ⊢
      have delivered := Stored.messageId linked known reference filled
      have same : earlier.messageId = messageId := (Option.some.inj edits).symm
      exact List.mem_singleton.mpr
        (linked.owns apart (alone immediate) delivered member same other inside)

theorem respects_digest {desk : Desk} (own : desk.posts.Pairwise Post.Respects)
    (digesting : Digesting) :
    (deliverDigest config digesting desk).posts.Pairwise Post.Respects := by
  rcases deliverDigest_cases digesting desk with kept | ⟨_, _, _, _, _, _, posts⟩
  · rw [kept.2]
    exact own
  · rw [posts]
    refine List.pairwise_append.mpr ⟨own, List.pairwise_singleton _ _, ?_⟩
    intro earlier _ later last edits
    rw [List.mem_singleton.mp last] at edits
    cases edits

end

variable (config : Config)

/-- Over every run from a table without notifications: where no notification of a digest of several
is repeated at once, an edit replaces the texts of its own notification only. -/
theorem edits_own_message (database : Database) (empty : database.notifications = [])
    (calls : List Call)
    (apart : (run config ⟨database, []⟩ calls).posts.Pairwise Post.Apart)
    (alone : ∀ earlier notice notifying later,
      calls = earlier ++ .notify notice notifying :: later →
      notice.isDeferred config notifying.decided = false →
      Alone (run config ⟨database, []⟩ earlier) notice) :
    (run config ⟨database, []⟩ calls).posts.Pairwise Post.Respects := by
  suffices both : Linked (run config ⟨database, []⟩ calls) ∧
      (run config ⟨database, []⟩ calls).posts.Pairwise Post.Respects from both.2
  induction calls using List.reverseRecOn with
  | nil =>
      refine ⟨⟨?_, fun post member => absurd member List.not_mem_nil⟩, List.Pairwise.nil⟩
      intro fingerprint row messageId found
      simp [run, Database.notification, empty] at found
  | append_singleton calls call ih =>
      have ends : run config ⟨database, []⟩ (calls ++ [call]) =
          step config (run config ⟨database, []⟩ calls) call := run_append config _ _ _
      rw [ends] at apart ⊢
      obtain ⟨more, posts⟩ := posts_step (run config ⟨database, []⟩ calls) call
      rw [posts, List.pairwise_append] at apart
      obtain ⟨linked, own⟩ := ih apart.1 (fun earlier notice notifying later split =>
        alone earlier notice notifying (later ++ [call]) (by simp [split]))
      refine ⟨linked.step call, ?_⟩
      cases call with
      | digest digesting => exact respects_digest own digesting
      | notify notice notifying =>
          exact respects_notify linked own apart.1 notice notifying
            (alone calls notice notifying [] rfl)

instance (one other : Post) : Decidable (Post.Respects one other) :=
  inferInstanceAs (Decidable (_ → _))

instance (one other : Post) : Decidable (Post.Apart one other) :=
  decidable_of_iff (∀ messageId ∈ one.sentId, other.sentId ≠ some messageId)
    (by simp [Post.Apart, Option.mem_def])

def failuresConfig : Config := { plainConfig with
  notifications := { plainConfig.notifications with
    failuresOnly := true
    digestBucket := fun time => if time < 10 then "a" else "b" } }

def observed (fingerprint : String) (severity : Severity) : Call :=
  .notify { fingerprint, kind := "kind", message := "seen", payload := [], severity }
    ⟨0, 0, 0, 0, 0, .ok "8"⟩

/-- One observation is put off, and repeated as a failure after its digest. -/
def repeatedAlone : List Call :=
  [observed "f" .info, .digest ⟨20, fun _ => 20, .ok "7"⟩, observed "f" .failure]

theorem edits_own_message_repeated :
    (run failuresConfig ⟨Database.empty, []⟩ repeatedAlone).posts.Pairwise Post.Respects := by
  apply edits_own_message failuresConfig Database.empty rfl repeatedAlone
  · decide +kernel
  · intro earlier notice notifying later split _ digest member inside
    have known : ∀ n < 4, ∀ digest ∈ digests (run failuresConfig ⟨Database.empty, []⟩
        (repeatedAlone.take n)).posts, digest = ["f"] := by decide +kernel
    have short : earlier.length < 4 := by
      have length := congrArg List.length split
      simp [repeatedAlone] at length
      omega
    have prefixed : repeatedAlone.take earlier.length = earlier := by simp [split]
    have only := known earlier.length short
    rw [prefixed] at only
    rw [only digest member] at inside ⊢
    rw [List.mem_singleton.mp inside]

def repeatedTogether : List Call :=
  [observed "f" .info, observed "g" .info, .digest ⟨20, fun _ => 20, .ok "7"⟩,
    observed "f" .failure]

theorem edits_whole_digest :
    (run failuresConfig ⟨Database.empty, []⟩ repeatedTogether).posts.Pairwise Post.Apart ∧
      ¬ (run failuresConfig ⟨Database.empty, []⟩ repeatedTogether).posts.Pairwise
        Post.Respects := by
  constructor
  · decide +kernel
  · decide +kernel

end Desk

end FortifyLab.Supervisor
