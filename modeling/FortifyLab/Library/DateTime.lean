import FortifyLab.Library.Digits

/-! Python's `datetime` in UTC: the calendar, the text of `isoformat`, and that the order of
the texts is the order of the times. -/

namespace FortifyLab

def isLeap (year : Nat) : Bool :=
  decide (year % 4 = 0) && (decide (year % 100 ≠ 0) || decide (year % 400 = 0))

def daysInMonth (year month : Nat) : Nat :=
  if month = 2 then if isLeap year then 29 else 28
  else if month = 4 ∨ month = 6 ∨ month = 9 ∨ month = 11 then 30
  else 31

/-- A day of the years 1 to 9999. -/
@[ext] structure Date where
  year : Nat
  month : Nat
  day : Nat
  inYears : 1 ≤ year ∧ year ≤ 9999
  inMonths : 1 ≤ month ∧ month ≤ 12
  inDays : 1 ≤ day ∧ day ≤ daysInMonth year month
  deriving DecidableEq

theorem daysInMonth_le (year month : Nat) : daysInMonth year month ≤ 31 := by
  unfold daysInMonth
  split
  · split <;> decide
  · split <;> decide

theorem daysInMonth_pos (year month : Nat) : 1 ≤ daysInMonth year month := by
  unfold daysInMonth
  split
  · split <;> decide
  · split <;> decide

namespace Date

def daysBeforeYear (year : Nat) : Nat :=
  (year - 1) * 365 + (year - 1) / 4 - (year - 1) / 100 + (year - 1) / 400

def daysBeforeMonth (year : Nat) : Nat → Nat
  | 0 => 0
  | 1 => 0
  | month + 2 => daysBeforeMonth year (month + 1) + daysInMonth year (month + 1)

/-- `toordinal`: 1 January of the year 1 is day 1. -/
def ordinal (date : Date) : Nat :=
  daysBeforeYear date.year + daysBeforeMonth date.year date.month + date.day

/-- The day before; `none` where the calendar begins. -/
def previous (date : Date) : Option Date :=
  if first : date.day = 1 then
    if january : date.month = 1 then
      if start : date.year = 1 then none
      else some ⟨date.year - 1, 12, 31, by have := date.inYears; omega, by decide, by decide, le_rfl⟩
    else some ⟨date.year, date.month - 1, daysInMonth date.year (date.month - 1), date.inYears,
      by have := date.inMonths; omega, daysInMonth_pos _ _, le_rfl⟩
  else some ⟨date.year, date.month, date.day - 1, date.inYears, date.inMonths,
    by have := date.inDays; omega⟩

/-- `date - timedelta(days=count)`; `none` is an `OverflowError`. -/
def minusDays (date : Date) : Nat → Option Date
  | 0 => some date
  | count + 1 => date.previous.bind (fun before => before.minusDays count)

theorem daysBeforeMonth_succ (year : Nat) {month : Nat} (positive : 1 ≤ month) :
    daysBeforeMonth year (month + 1) = daysBeforeMonth year month + daysInMonth year month := by
  obtain ⟨before, rfl⟩ : ∃ before, month = before + 1 := ⟨month - 1, by omega⟩
  rfl

theorem daysBeforeMonth_december (year : Nat) :
    daysBeforeMonth year 12 = if isLeap year then 335 else 334 := by
  by_cases leap : isLeap year = true <;> simp [daysBeforeMonth, daysInMonth, leap]

theorem isLeap_iff (year : Nat) : isLeap year = true ↔ 4 ∣ year ∧ (¬ 100 ∣ year ∨ 400 ∣ year) := by
  simp [isLeap, Nat.dvd_iff_mod_eq_zero]

/-- A year has as many days as its months. -/
theorem daysBeforeYear_succ {year : Nat} (positive : 1 ≤ year) :
    daysBeforeYear (year + 1) = daysBeforeYear year + daysBeforeMonth year 12 + 31 := by
  obtain ⟨before, rfl⟩ : ∃ before, year = before + 1 := ⟨year - 1, by omega⟩
  have centuries : before / 100 ≤ before / 4 := Nat.div_le_div_left (by decide) (by decide)
  have fourth : 100 ∣ before + 1 → 4 ∣ before + 1 := Nat.dvd_trans (by decide)
  have century : 400 ∣ before + 1 → 100 ∣ before + 1 := Nat.dvd_trans (by decide)
  rw [daysBeforeMonth_december, daysBeforeYear, daysBeforeYear, Nat.add_sub_cancel,
    Nat.add_sub_cancel, Nat.succ_div, Nat.succ_div, Nat.succ_div]
  simp only [isLeap_iff]
  by_cases four : 4 ∣ before + 1
  · by_cases hundred : 100 ∣ before + 1
    · by_cases most : 400 ∣ before + 1
      · simp only [four, hundred, most]
        simp
        omega
      · simp only [four, hundred, most]
        simp
        omega
    · have rare : ¬ 400 ∣ before + 1 := fun most => hundred (century most)
      simp only [four, hundred, rare]
      simp
      omega
  · have odd : ¬ 100 ∣ before + 1 := fun hundred => four (fourth hundred)
    have rare : ¬ 400 ∣ before + 1 := fun most => odd (century most)
    simp only [four, odd, rare]
    simp
    omega

theorem previous_ordinal {date before : Date} (known : date.previous = some before) :
    before.ordinal + 1 = date.ordinal := by
  have years := date.inYears
  have months := date.inMonths
  have days := date.inDays
  unfold previous at known
  split at known
  · next first =>
    split at known
    · next january =>
      split at known
      · cases known
      · next start =>
        cases known
        have whole := @daysBeforeYear_succ (date.year - 1) (by omega)
        rw [show date.year - 1 + 1 = date.year by omega] at whole
        have zero : daysBeforeMonth date.year 1 = 0 := rfl
        simp only [ordinal, january, first, whole, zero]
    · next january =>
      cases known
      have step := @daysBeforeMonth_succ date.year (date.month - 1) (by omega)
      rw [show date.month - 1 + 1 = date.month by omega] at step
      simp only [ordinal]
      omega
  · cases known
    simp only [ordinal]
    omega

theorem minusDays_ordinal {count : Nat} {date before : Date}
    (known : date.minusDays count = some before) : before.ordinal + count = date.ordinal := by
  induction count generalizing date with
  | zero =>
      cases known
      rfl
  | succ count ih =>
      rcases Option.bind_eq_some_iff.mp known with ⟨yesterday, previous, earlier⟩
      have step := previous_ordinal previous
      have rest := ih earlier
      omega

/-- The order of the calendar. -/
def Before (left right : Date) : Prop :=
  left.year < right.year ∨ left.year = right.year ∧
    (left.month < right.month ∨ left.month = right.month ∧ left.day < right.day)

theorem daysBeforeMonth_mono (year : Nat) {left right : Nat} (positive : 1 ≤ left)
    (later : left ≤ right) : daysBeforeMonth year left ≤ daysBeforeMonth year right := by
  induction right, later using Nat.le_induction with
  | base => exact le_rfl
  | succ month within ih =>
      rw [daysBeforeMonth_succ year (by omega)]
      omega

theorem daysBeforeYear_mono {left right : Nat} (positive : 1 ≤ left) (later : left ≤ right) :
    daysBeforeYear left ≤ daysBeforeYear right := by
  induction right, later using Nat.le_induction with
  | base => exact le_rfl
  | succ year within ih =>
      rw [daysBeforeYear_succ (by omega)]
      omega

theorem ordinal_le_year (date : Date) : date.ordinal ≤ daysBeforeYear (date.year + 1) := by
  have months := daysBeforeMonth_mono date.year date.inMonths.1 date.inMonths.2
  have days := date.inDays.2
  have short := daysInMonth_le date.year date.month
  rw [daysBeforeYear_succ date.inYears.1]
  unfold ordinal
  omega

theorem ordinal_lt_of_before {left right : Date} (before : left.Before right) :
    left.ordinal < right.ordinal := by
  have days := right.inDays.1
  rcases before with year | ⟨year, month | ⟨month, day⟩⟩
  · have years := @daysBeforeYear_mono (left.year + 1) right.year (by omega) year
    have whole := left.ordinal_le_year
    unfold ordinal at whole ⊢
    omega
  · have months := @daysBeforeMonth_mono right.year (left.month + 1) right.month (by omega) month
    rw [daysBeforeMonth_succ _ left.inMonths.1] at months
    have within := left.inDays.2
    rw [year] at within
    unfold ordinal
    rw [year]
    omega
  · unfold ordinal
    rw [year, month]
    omega

theorem before_trichotomy (left right : Date) :
    left.Before right ∨ left = right ∨ right.Before left := by
  rcases left with ⟨year, month, day, _, _, _⟩
  rcases right with ⟨year', month', day', _, _, _⟩
  simp only [Before, Date.mk.injEq]
  omega

theorem ordinal_lt_iff {left right : Date} : left.ordinal < right.ordinal ↔ left.Before right := by
  constructor
  · intro less
    rcases before_trichotomy left right with before | rfl | after
    · exact before
    · exact absurd less (Nat.lt_irrefl _)
    · have more := ordinal_lt_of_before after
      omega
  · exact ordinal_lt_of_before

theorem ordinal_eq_iff {left right : Date} : left.ordinal = right.ordinal ↔ left = right := by
  constructor
  · intro same
    rcases before_trichotomy left right with before | equal | after
    · have less := ordinal_lt_of_before before
      omega
    · exact equal
    · have more := ordinal_lt_of_before after
      omega
  · rintro rfl
    rfl

end Date

/-! ## Times -/

/-- A `datetime` in UTC. -/
structure DateTime where
  date : Date
  hour : Nat
  minute : Nat
  second : Nat
  microsecond : Nat
  inDay : hour < 24 ∧ minute < 60 ∧ second < 60 ∧ microsecond < 1000000
  deriving DecidableEq

/-- The length of a day in microseconds. -/
def dayLength : Nat := 24 * 60 * 60 * 1000000

namespace DateTime

/-- Microseconds since the day before 1 January of the year 1. -/
def instant (time : DateTime) : Nat :=
  1000000 * (60 * (60 * (24 * time.date.ordinal + time.hour) + time.minute) + time.second) +
    time.microsecond

/-- `time - timedelta(days=count)`. -/
def minusDays (time : DateTime) (count : Nat) : Option DateTime :=
  (time.date.minusDays count).map (fun date => { time with date := date })

theorem minusDays_instant {time before : DateTime} {count : Nat}
    (known : time.minusDays count = some before) :
    before.instant + count * dayLength = time.instant := by
  rcases Option.map_eq_some_iff.mp known with ⟨date, earlier, rfl⟩
  have days := Date.minusDays_ordinal earlier
  simp only [instant, dayLength]
  omega

/-- The fraction that `isoformat` writes: none for a whole second. -/
def fraction (microsecond : Nat) : List Char :=
  if microsecond = 0 then [] else '.' :: fixedWidth 6 microsecond

def zone : List Char := ['+', '0', '0', ':', '0', '0']

def isoChars (time : DateTime) : List Char :=
  fixedWidth 4 time.date.year ++ '-' :: (fixedWidth 2 time.date.month ++ '-' ::
    (fixedWidth 2 time.date.day ++ 'T' :: (fixedWidth 2 time.hour ++ ':' ::
      (fixedWidth 2 time.minute ++ ':' :: (fixedWidth 2 time.second ++
        (fraction time.microsecond ++ zone))))))

def isoformat (time : DateTime) : String := String.ofList time.isoChars

theorem cons_lt_same {head : Char} {left right : List Char} :
    head :: left < head :: right ↔ left < right := by
  rw [List.cons_lt_cons_iff]
  simp

theorem fraction_lt {left right : Nat} (leftFits : left < 1000000) (rightFits : right < 1000000) :
    fraction left ++ zone < fraction right ++ zone ↔ left < right := by
  unfold fraction
  by_cases leftZero : left = 0
  · by_cases rightZero : right = 0
    · simp [leftZero, rightZero]
    · rw [if_pos leftZero, if_neg rightZero]
      have less : ([] ++ zone : List Char) < '.' :: fixedWidth 6 right ++ zone :=
        List.cons_lt_cons_iff.mpr (.inl (by decide))
      exact iff_of_true less (by omega)
  · by_cases rightZero : right = 0
    · rw [if_neg leftZero, if_pos rightZero]
      have more : ¬ '.' :: fixedWidth 6 left ++ zone < ([] ++ zone : List Char) := by
        intro less
        rcases List.cons_lt_cons_iff.mp less with head | ⟨head, _⟩
        · exact absurd head (by decide)
        · exact absurd head (by decide)
      exact iff_of_false more (by omega)
    · rw [if_neg leftZero, if_neg rightZero, List.cons_append, List.cons_append, cons_lt_same,
        fixedWidth_append_lt leftFits rightFits]
      simp

/-- Comparing one part more. -/
theorem lex_assoc {less same less' same' rest : Prop} :
    (less ∨ same ∧ less') ∨ (same ∧ same') ∧ rest ↔ less ∨ same ∧ (less' ∨ same' ∧ rest) := by
  tauto

/-- The parts of the day that two times compare by. -/
def EarlierInDay (left right : DateTime) : Prop :=
  left.hour < right.hour ∨ left.hour = right.hour ∧
    (left.minute < right.minute ∨ left.minute = right.minute ∧
      (left.second < right.second ∨ left.second = right.second ∧
        left.microsecond < right.microsecond))

theorem isoChars_lt_iff {left right : DateTime} :
    left.isoChars < right.isoChars ↔
      left.date.Before right.date ∨ left.date = right.date ∧ left.EarlierInDay right := by
  have years := left.date.inYears
  have years' := right.date.inYears
  have months := left.date.inMonths
  have months' := right.date.inMonths
  have days := left.date.inDays
  have days' := right.date.inDays
  have short := daysInMonth_le left.date.year left.date.month
  have short' := daysInMonth_le right.date.year right.date.month
  have inDay := left.inDay
  have inDay' := right.inDay
  unfold isoChars
  rw [fixedWidth_append_lt (by omega) (by omega), cons_lt_same,
    fixedWidth_append_lt (by omega) (by omega), cons_lt_same,
    fixedWidth_append_lt (by omega) (by omega), cons_lt_same,
    fixedWidth_append_lt (by omega) (by omega), cons_lt_same,
    fixedWidth_append_lt (by omega) (by omega), cons_lt_same,
    fixedWidth_append_lt (by omega) (by omega),
    fraction_lt inDay.2.2.2 inDay'.2.2.2]
  rw [Date.Before, Date.ext_iff, lex_assoc, lex_assoc]
  rfl

theorem instant_lt_iff {left right : DateTime} :
    left.instant < right.instant ↔
      left.date.Before right.date ∨ left.date = right.date ∧ left.EarlierInDay right := by
  have inDay := left.inDay
  have inDay' := right.inDay
  unfold instant
  rw [parts_lt inDay.2.2.2 inDay'.2.2.2, parts_lt inDay.2.2.1 inDay'.2.2.1,
    parts_lt inDay.2.1 inDay'.2.1, parts_lt inDay.1 inDay'.1,
    parts_eq inDay.2.2.1 inDay'.2.2.1, parts_eq inDay.2.1 inDay'.2.1,
    parts_eq inDay.1 inDay'.1, Date.ordinal_lt_iff, Date.ordinal_eq_iff,
    lex_assoc, lex_assoc, lex_assoc]
  rfl

/-- The texts of two times compare like the times. -/
theorem isoChars_lt {left right : DateTime} :
    left.isoChars < right.isoChars ↔ left.instant < right.instant :=
  isoChars_lt_iff.trans instant_lt_iff.symm

theorem isoformat_lt {left right : DateTime} :
    left.isoformat < right.isoformat ↔ left.instant < right.instant := by
  rw [← isoChars_lt, isoformat, isoformat, String.lt_iff, String.toList_ofList, String.toList_ofList]

end DateTime

end FortifyLab
