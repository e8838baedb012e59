import Mathlib.Algebra.Order.Floor.Ring
import Mathlib.Data.Rat.Floor
import Mathlib.Order.SuccPred.Archimedean
import Mathlib.Tactic.Linarith

/-! `digest_bucket`: the digest day of an instant, in time zones whose offset changes. Days are
their ordinals, and times are microseconds from the beginning of day 0. -/

namespace FortifyLab.Supervisor

def dayMicroseconds : Int := 86400000000

/-- 1970-01-01. -/
def epochDay : Int := 719163

/-- What `fromtimestamp` makes of a timestamp: microseconds, halves to even. -/
def microseconds (timestamp : ℚ) : Int :=
  let low := ⌊timestamp * 1000000⌋
  let rest := timestamp * 1000000 - low
  if rest < 1 / 2 ∨ rest = 1 / 2 ∧ low % 2 = 0 then low else low + 1

/-- A function from instants to offsets with finitely many changes, each with its instant and the
offset from there on. -/
structure Zone where
  first : Int
  changes : List (Int × Int)
  increasing : changes.Pairwise (fun one two => one.1 < two.1)

def Zone.offset (zone : Zone) (instant : Int) : Int :=
  ((zone.changes.filter (fun change => change.1 ≤ instant)).getLast?.map Prod.snd).getD zone.first

/-- The local time of an instant. -/
def Zone.clock (zone : Zone) (instant : Int) : Int :=
  epochDay * dayMicroseconds + instant + zone.offset instant

structure DigestTime where
  hour : Nat
  minute : Nat
  valid : hour ≤ 23 ∧ minute ≤ 59

/-- How far into a day its digest is due. -/
def DigestTime.due (digest : DigestTime) : Int :=
  (60 * digest.hour + digest.minute) * 60000000

/-- `digest_bucket`. Both times are of one zone, so that they are compared by the wall clock. -/
def digestBucket (zone : Zone) (digest : DigestTime) (timestamp : ℚ) : Int :=
  let clock := zone.clock (microseconds timestamp)
  let day := clock / dayMicroseconds
  let boundary := day * dayMicroseconds + digest.due
  if clock < boundary then day - 1 else day

/-! ## Rounding -/

theorem microseconds_mono {earlier later : ℚ} (order : earlier ≤ later) :
    microseconds earlier ≤ microseconds later := by
  have scaled : earlier * 1000000 ≤ later * 1000000 := by linarith
  have floors : ⌊earlier * 1000000⌋ ≤ ⌊later * 1000000⌋ := Int.floor_le_floor scaled
  simp only [microseconds]
  rcases lt_or_eq_of_le floors with less | same
  · split <;> split <;> omega
  · rw [same]
    split
    · split <;> omega
    · next up =>
        have above : ¬ (later * 1000000 - ⌊later * 1000000⌋ < 1 / 2 ∨
            later * 1000000 - ⌊later * 1000000⌋ = 1 / 2 ∧ ⌊later * 1000000⌋ % 2 = 0) := by
          rintro (below | ⟨half, even⟩)
          · exact up (.inl (by linarith))
          · rcases lt_or_eq_of_le scaled with less | equal
            · exact up (.inl (by linarith))
            · exact up (.inr ⟨by rw [equal]; exact half, even⟩)
        rw [if_neg above]

/-- Every microsecond is an instant. -/
theorem microseconds_whole (instant : Int) : microseconds (instant / 1000000) = instant := by
  have scaled : (instant : ℚ) / 1000000 * 1000000 = instant :=
    div_mul_cancel₀ _ (by norm_num)
  have whole : ⌊(instant : ℚ) / 1000000 * 1000000⌋ = instant := by
    rw [scaled, Int.floor_intCast]
  rw [microseconds, whole]
  refine if_pos (.inl ?_)
  rw [scaled, sub_self]
  norm_num

/-! ## The wall clock -/

theorem offset_pred (zone : Zone) {instant : Int}
    (steady : ∀ change ∈ zone.changes, change.1 ≠ instant) :
    zone.offset (instant - 1) = zone.offset instant := by
  rw [Zone.offset, Zone.offset]
  have same : zone.changes.filter (fun change => change.1 ≤ instant - 1) =
      zone.changes.filter (fun change => change.1 ≤ instant) := by
    refine List.filter_congr (fun change member => ?_)
    have other := steady change member
    simp only [decide_eq_decide]
    omega
  rw [same]

/-- At a change the wall clock is set back over a digest time: that of `day` has passed before
the change, and is ahead after it. -/
def SetBack (zone : Zone) (digest : DigestTime) (instant : Int) : Prop :=
  ∃ day : Int, zone.clock instant < day * dayMicroseconds + digest.due ∧
    day * dayMicroseconds + digest.due ≤ zone.clock (instant - 1)

/-- No change of the offset sets the wall clock back over a digest time. -/
def SteadyDigests (zone : Zone) (digest : DigestTime) : Prop :=
  ∀ change ∈ zone.changes, ¬ SetBack zone digest change.1

section

variable {zone : Zone} {digest : DigestTime}

theorem due_bounds (digest : DigestTime) : 0 ≤ digest.due ∧ digest.due < dayMicroseconds := by
  have valid := digest.valid
  simp only [DigestTime.due, dayMicroseconds]
  omega

/-- The bucket is the last day whose digest was due by the wall clock. -/
theorem digestBucket_eq (timestamp : ℚ) :
    digestBucket zone digest timestamp =
      (zone.clock (microseconds timestamp) - digest.due) / dayMicroseconds := by
  have due := due_bounds digest
  simp only [digestBucket]
  by_cases ahead : zone.clock (microseconds timestamp) <
      zone.clock (microseconds timestamp) / dayMicroseconds * dayMicroseconds + digest.due
  · rw [if_pos ahead]
    simp only [dayMicroseconds] at due ahead ⊢
    omega
  · rw [if_neg ahead]
    simp only [dayMicroseconds] at due ahead ⊢
    omega

theorem le_digestBucket_iff {day : Int} {timestamp : ℚ} :
    day ≤ digestBucket zone digest timestamp ↔
      day * dayMicroseconds + digest.due ≤ zone.clock (microseconds timestamp) := by
  rw [digestBucket_eq, Int.le_ediv_iff_mul_le (by decide)]
  omega

theorem steady_step (steady : SteadyDigests zone digest) (instant : Int) {day : Int}
    (passed : day * dayMicroseconds + digest.due ≤ zone.clock (instant - 1)) :
    day * dayMicroseconds + digest.due ≤ zone.clock instant := by
  by_cases change : ∃ change ∈ zone.changes, change.1 = instant
  · obtain ⟨change, member, rfl⟩ := change
    by_contra ahead
    exact steady change member ⟨day, by omega, passed⟩
  · have same := @offset_pred zone instant (fun other member equal => change ⟨other, member, equal⟩)
    simp only [Zone.clock, same] at passed ⊢
    omega

/-- What has been due stays due. -/
theorem steady_run (steady : SteadyDigests zone digest) {earlier later : Int}
    (order : earlier ≤ later) {day : Int}
    (passed : day * dayMicroseconds + digest.due ≤ zone.clock earlier) :
    day * dayMicroseconds + digest.due ≤ zone.clock later := by
  induction later, order using Int.leInduction with
  | base => exact passed
  | succ instant _ ih =>
      refine steady_step steady (instant + 1) ?_
      rw [add_sub_cancel_right]
      exact ih

end

/-- Buckets do not decrease in time; and what is put off is not sent before the digest time that
follows it, by the wall clock. -/
def Monotonic (zone : Zone) (digest : DigestTime) : Prop :=
  ∀ created now : ℚ, created ≤ now →
    digestBucket zone digest created ≤ digestBucket zone digest now ∧
      (digestBucket zone digest created < digestBucket zone digest now →
        zone.clock (microseconds created) <
            (digestBucket zone digest created + 1) * dayMicroseconds + digest.due ∧
          (digestBucket zone digest created + 1) * dayMicroseconds + digest.due ≤
            zone.clock (microseconds now))

/-- For every zone and digest time: buckets are monotone in time exactly when no change of the
offset sets the wall clock back over a digest time. -/
theorem monotonic_iff (zone : Zone) (digest : DigestTime) :
    Monotonic zone digest ↔ SteadyDigests zone digest := by
  constructor
  · intro monotonic change _ back
    obtain ⟨day, ahead, passed⟩ := back
    have order : ((change.1 - 1 : Int) : ℚ) / 1000000 ≤ (change.1 : ℚ) / 1000000 := by
      have cast : ((change.1 - 1 : Int) : ℚ) ≤ (change.1 : ℚ) := by exact_mod_cast by omega
      linarith
    have before : day ≤ digestBucket zone digest ((change.1 - 1 : Int) / 1000000) := by
      rw [le_digestBucket_iff, microseconds_whole]
      exact passed
    have after : day ≤ digestBucket zone digest (change.1 / 1000000) :=
      le_trans before (monotonic _ _ order).1
    rw [le_digestBucket_iff, microseconds_whole] at after
    omega
  · intro steady created now order
    have later : digestBucket zone digest created ≤ digestBucket zone digest now := by
      rw [le_digestBucket_iff]
      exact steady_run steady (microseconds_mono order) (le_digestBucket_iff.mp (le_refl _))
    refine ⟨later, fun ended => ⟨?_, le_digestBucket_iff.mp ended⟩⟩
    by_contra passed
    have next := @le_digestBucket_iff zone digest (digestBucket zone digest created + 1) created
    omega

/-! ## One zone -/

/-- Europe/Berlin around the end of summer time on 25 October 2026. -/
def berlin : Zone where
  first := 7200000000
  changes := [(1792890000000000, 3600000000)]
  increasing := by simp

def halfPastTwo : DigestTime := ⟨2, 30, by decide⟩

/-- Half an hour after 2:40 in summer time it is 2:10, before the digest of the day. -/
theorem berlin_not_monotonic : ¬ Monotonic berlin halfPastTwo := by
  intro monotonic
  have order := (monotonic 1792888800 1792890600 (by norm_num)).1
  have before : digestBucket berlin halfPastTwo 1792888800 = 739914 := by decide +kernel
  have after : digestBucket berlin halfPastTwo 1792890600 = 739913 := by decide +kernel
  omega

end FortifyLab.Supervisor
