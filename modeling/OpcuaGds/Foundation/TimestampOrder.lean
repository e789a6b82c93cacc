import Mathlib.Data.String.Basic
import OpcuaGds.Foundation.TimestampText
import OpcuaGds.Foundation.PythonText

/-! # The order of dates, times and their digits

Texts of digits of one length are in the order of their numbers, and the fields of a date and a
time are in the order of their instants. The text of a moment without its fraction is in the order
of its second.
-/

/-! ## Lists and digits -/

namespace List

/-- Where the fronts have one length, they are compared first. -/
theorem append_lt_append_iff_of_length {front other : List Char} {back rest : List Char}
    (same : front.length = other.length) :
    front ++ back < other ++ rest ↔ front < other ∨ front = other ∧ back < rest := by
  induction front generalizing other with
  | nil =>
      cases List.length_eq_zero_iff.mp same.symm
      rw [List.nil_append, List.nil_append, or_iff_right (List.not_lt_nil _), and_iff_right rfl]
  | cons c front ih =>
      cases other with
      | nil => exact absurd same (Nat.succ_ne_zero _)
      | cons d other =>
          rw [List.cons_append, List.cons_append, List.cons_lt_cons_iff, List.cons_lt_cons_iff,
            ih (Nat.succ.inj same), List.cons.injEq, and_or_left, or_assoc, and_assoc]

end List

namespace Timestamp

/-- The last digits of a number, as many as given. -/
def fixedDigits : Nat → Nat → List Char
  | 0, _ => []
  | width + 1, n => digitChar (n / 10 ^ width) :: fixedDigits width n

theorem length_fixedDigits (width n : Nat) : (fixedDigits width n).length = width := by
  induction width with
  | zero => rfl
  | succ width ih => rw [fixedDigits, List.length_cons, ih]

theorem digitChar_lt_iff (m n : Nat) : digitChar m < digitChar n ↔ m % 10 < n % 10 := by
  have table : ∀ a < 10, ∀ b < 10, Nat.digitChar a < Nat.digitChar b ↔ a < b := by decide
  exact table _ (Nat.mod_lt _ (by decide)) _ (Nat.mod_lt _ (by decide))

theorem digitChar_eq_iff (m n : Nat) : digitChar m = digitChar n ↔ m % 10 = n % 10 := by
  rw [le_antisymm_iff, ← not_lt, ← not_lt, digitChar_lt_iff, digitChar_lt_iff]
  omega

/-- Numbers in two parts are compared by their higher parts first. -/
theorem add_mul_lt_add_mul_iff {base low other high top : Nat} (below : low < base)
    (otherBelow : other < base) :
    low + base * high < other + base * top ↔ high < top ∨ high = top ∧ low < other := by
  rcases lt_trichotomy high top with less | rfl | more
  · have step : base * high + base ≤ base * top := Nat.mul_le_mul_left base less
    exact iff_of_true (by omega) (.inl less)
  · rw [or_iff_right (Nat.lt_irrefl high), and_iff_right rfl, Nat.add_lt_add_iff_right]
  · have step : base * top + base ≤ base * high := Nat.mul_le_mul_left base more
    exact iff_of_false (by omega) (by omega)

/-- Digits are in the order of their numbers. -/
theorem fixedDigits_lt_iff (width m n : Nat) :
    fixedDigits width m < fixedDigits width n ↔ m % 10 ^ width < n % 10 ^ width := by
  induction width with
  | zero =>
      rw [pow_zero, Nat.mod_one, Nat.mod_one]
      exact iff_of_false (List.not_lt_nil _) (Nat.lt_irrefl 0)
  | succ width ih =>
      have lower := Nat.mod_lt m (Nat.pow_pos (n := width) (by decide : 0 < 10))
      have higher := Nat.mod_lt n (Nat.pow_pos (n := width) (by decide : 0 < 10))
      rw [fixedDigits, fixedDigits, List.cons_lt_cons_iff, digitChar_lt_iff, digitChar_eq_iff, ih,
        Nat.mod_pow_succ, Nat.mod_pow_succ, add_mul_lt_add_mul_iff lower higher]

theorem fixedDigits_eq_iff (width m n : Nat) :
    fixedDigits width m = fixedDigits width n ↔ m % 10 ^ width = n % 10 ^ width := by
  rw [le_antisymm_iff, ← not_lt, ← not_lt, fixedDigits_lt_iff, fixedDigits_lt_iff]
  omega

theorem fixedDigits_lt_iff_of_lt {width m n : Nat} (small : m < 10 ^ width)
    (otherSmall : n < 10 ^ width) : fixedDigits width m < fixedDigits width n ↔ m < n := by
  rw [fixedDigits_lt_iff, Nat.mod_eq_of_lt small, Nat.mod_eq_of_lt otherSmall]

/-- The digits of a number in two parts. -/
theorem fixedDigits_append {more width : Nat} (high low : Nat) (small : low < 10 ^ width) :
    fixedDigits more high ++ fixedDigits width low =
      fixedDigits (more + width) (high * 10 ^ width + low) := by
  induction more with
  | zero =>
      rw [Nat.zero_add, fixedDigits, List.nil_append, fixedDigits_eq_iff,
        Nat.mul_add_mod_self_right]
  | succ more ih =>
      have whole : (high * 10 ^ width + low) / 10 ^ (more + width) = high / 10 ^ more := by
        rw [Nat.add_comm more, pow_add, ← Nat.div_div_eq_div_mul, Nat.mul_comm,
          Nat.mul_add_div (Nat.pow_pos (by decide)), Nat.div_eq_of_lt small, Nat.add_zero]
      rw [fixedDigits, List.cons_append, ih, Nat.succ_add, fixedDigits, whole]

/-! ## The calendar -/

theorem daysBeforeYear_succ {year : Nat} (first : 1 ≤ year) :
    daysBeforeYear (year + 1) = daysBeforeYear year + (365 + if isLeap year then 1 else 0) := by
  obtain ⟨before, rfl⟩ := Nat.exists_eq_add_of_le' first
  have centuries : before / 100 ≤ before / 4 := Nat.div_le_div_left (by decide) (by decide)
  have leap : isLeap (before + 1) = true ↔
      4 ∣ before + 1 ∧ (¬100 ∣ before + 1 ∨ 400 ∣ before + 1) := by
    rw [isLeap, Bool.and_eq_true, Bool.or_eq_true, beq_iff_eq, bne_iff_ne, beq_iff_eq,
      Nat.dvd_iff_mod_eq_zero, Nat.dvd_iff_mod_eq_zero, Nat.dvd_iff_mod_eq_zero]
  have fours : 100 ∣ before + 1 → 4 ∣ before + 1 := Nat.dvd_trans (by decide)
  have hundreds : 400 ∣ before + 1 → 100 ∣ before + 1 := Nat.dvd_trans (by decide)
  rw [daysBeforeYear, daysBeforeYear, Nat.add_sub_cancel, Nat.add_sub_cancel, Nat.succ_div,
    Nat.succ_div, Nat.succ_div]
  generalize before / 4 = quarter, before / 100 = hundredth, before / 400 = fourHundredth
    at centuries ⊢
  by_cases byFour : 4 ∣ before + 1
  · by_cases byHundred : 100 ∣ before + 1
    · by_cases byFourHundred : 400 ∣ before + 1
      · rw [if_pos byFour, if_pos byHundred, if_pos byFourHundred,
          if_pos (leap.mpr ⟨byFour, .inr byFourHundred⟩)]
        omega
      · rw [if_pos byFour, if_pos byHundred, if_neg byFourHundred, if_neg]
        · omega
        · exact fun isLeapYear => (leap.mp isLeapYear).2.elim (· byHundred) byFourHundred
    · rw [if_pos byFour, if_neg byHundred, if_neg fun whole => byHundred (hundreds whole),
        if_pos (leap.mpr ⟨byFour, .inl byHundred⟩)]
      omega
  · have notHundred : ¬100 ∣ before + 1 := fun whole => byFour (fours whole)
    rw [if_neg byFour, if_neg notHundred, if_neg fun whole => notHundred (hundreds whole),
      if_neg fun isLeapYear => byFour (leap.mp isLeapYear).1]
    omega

/-- A year ends before a later one begins. -/
theorem daysBeforeYear_add_le {year later : Nat} (first : 1 ≤ year) (before : year < later) :
    daysBeforeYear year + (365 + if isLeap year then 1 else 0) ≤ daysBeforeYear later := by
  induction later, before using Nat.le_induction with
  | base => rw [daysBeforeYear_succ first]
  | succ later after ih =>
      rw [daysBeforeYear_succ (first.trans (Nat.le_of_succ_le after))]
      exact ih.trans (Nat.le_add_right _ _)

theorem daysBeforeMonth_succ (year : Nat) {month : Nat} (first : 1 ≤ month) :
    daysBeforeMonth year (month + 1) = daysBeforeMonth year month + daysInMonth year month := by
  obtain ⟨before, rfl⟩ := Nat.exists_eq_add_of_le first
  rw [daysBeforeMonth, daysBeforeMonth, Nat.add_sub_cancel, Nat.add_sub_cancel_left,
    Nat.add_comm 1 before, List.range'_concat, List.map_append, List.sum_append, Nat.mul_comm,
    Nat.mul_one, Nat.add_comm 1 before]
  rfl

/-- A month ends before a later one begins. -/
theorem daysBeforeMonth_add_le_of_lt (year : Nat) {month later : Nat} (first : 1 ≤ month)
    (before : month < later) :
    daysBeforeMonth year month + daysInMonth year month ≤ daysBeforeMonth year later := by
  induction later, before using Nat.le_induction with
  | base => rw [daysBeforeMonth_succ year first]
  | succ later after ih =>
      rw [daysBeforeMonth_succ year (first.trans (Nat.le_of_succ_le after))]
      exact ih.trans (Nat.le_add_right _ _)

/-- A date as a number of eight digits. -/
def DateTime.dateNumber (moment : DateTime) : Nat :=
  (moment.year * 100 + moment.month) * 100 + moment.day

/-- A clock as a number of six digits. -/
def DateTime.clockNumber (moment : DateTime) : Nat :=
  (moment.hour * 100 + moment.minute) * 100 + moment.second

theorem DateTime.ordinal_lt_of_dateNumber_lt {moment later : DateTime}
    (before : moment.dateNumber < later.dateNumber) : moment.ordinal < later.ordinal := by
  have day := day_lt moment
  have laterDay := day_lt later
  obtain ⟨years, months, days⟩ := moment.validDate
  obtain ⟨laterYears, laterMonths, laterDays⟩ := later.validDate
  have inYear := daysBeforeMonth_add_le moment.year months
  unfold DateTime.dateNumber at before
  unfold DateTime.ordinal
  rcases Nat.lt_trichotomy moment.year later.year with earlier | same | after
  · have ends := daysBeforeYear_add_le years.1 earlier
    omega
  · rcases Nat.lt_trichotomy moment.month later.month with earlier | sameMonth | after
    · have ends := daysBeforeMonth_add_le_of_lt moment.year months.1 earlier
      rw [same] at ends ⊢
      rw [same] at days
      omega
    · rw [same, sameMonth] at before ⊢
      omega
    · omega
  · omega

theorem DateTime.dateNumber_lt_iff {moment later : DateTime} :
    moment.dateNumber < later.dateNumber ↔ moment.ordinal < later.ordinal := by
  refine ⟨DateTime.ordinal_lt_of_dateNumber_lt, fun before => ?_⟩
  rcases Nat.lt_trichotomy moment.dateNumber later.dateNumber with less | same | more
  · exact less
  · have day := day_lt moment
    have laterDay := day_lt later
    have months := moment.validDate.2.1
    have laterMonths := later.validDate.2.1
    unfold DateTime.dateNumber at same
    have year : moment.year = later.year := by omega
    have month : moment.month = later.month := by omega
    have dayOf : moment.day = later.day := by omega
    rw [DateTime.ordinal, DateTime.ordinal, year, month, dayOf] at before
    exact absurd before (Nat.lt_irrefl _)
  · exact absurd (DateTime.ordinal_lt_of_dateNumber_lt more) (Nat.lt_asymm before)

/-! ## Seconds -/

/-- The number of the second of a moment. -/
def DateTime.secondNumber (moment : DateTime) : Nat :=
  ((moment.ordinal * 24 + moment.hour) * 60 + moment.minute) * 60 + moment.second

theorem DateTime.micros_eq (moment : DateTime) :
    moment.micros = moment.secondNumber * 1000000 + moment.microsecond := rfl

/-- `YYYYMMDDTHHMMSS`. -/
def DateTime.secondText (moment : DateTime) : List Char :=
  fixedDigits 8 moment.dateNumber ++ 'T' :: fixedDigits 6 moment.clockNumber

theorem DateTime.length_secondText (moment : DateTime) : moment.secondText.length = 15 := by
  rw [secondText, List.length_append, List.length_cons, length_fixedDigits, length_fixedDigits]

theorem DateTime.dateNumber_lt (moment : DateTime) : moment.dateNumber < 10 ^ 8 := by
  have day := day_lt moment
  have years := moment.validDate.1
  have months := moment.validDate.2.1
  unfold DateTime.dateNumber
  omega

theorem DateTime.clockNumber_lt (moment : DateTime) : moment.clockNumber < 10 ^ 6 := by
  have clock := moment.validTime
  unfold DateTime.clockNumber
  omega

/-- The text of a second is in the order of its number. -/
theorem DateTime.secondText_lt_iff {moment later : DateTime} :
    moment.secondText < later.secondText ↔ moment.secondNumber < later.secondNumber := by
  have sameDate : fixedDigits 8 moment.dateNumber = fixedDigits 8 later.dateNumber ↔
      moment.ordinal = later.ordinal := by
    rw [le_antisymm_iff, ← not_lt, ← not_lt,
      fixedDigits_lt_iff_of_lt later.dateNumber_lt moment.dateNumber_lt,
      fixedDigits_lt_iff_of_lt moment.dateNumber_lt later.dateNumber_lt,
      DateTime.dateNumber_lt_iff, DateTime.dateNumber_lt_iff]
    omega
  rw [secondText, secondText, List.append_lt_append_iff_of_length
      ((length_fixedDigits 8 _).trans (length_fixedDigits 8 _).symm),
    fixedDigits_lt_iff_of_lt moment.dateNumber_lt later.dateNumber_lt,
    DateTime.dateNumber_lt_iff, sameDate, List.cons_lt_cons_iff,
    or_iff_right (lt_irrefl 'T'), and_iff_right rfl,
    fixedDigits_lt_iff_of_lt moment.clockNumber_lt later.clockNumber_lt]
  have clock := moment.validTime
  have laterClock := later.validTime
  unfold DateTime.clockNumber DateTime.secondNumber
  omega

/-! ## Stamps -/

/-- The fraction of a second, which is not printed when it is zero. -/
def DateTime.fractionText (moment : DateTime) : List Char :=
  if moment.microsecond = 0 then [] else '.' :: fixedDigits 6 moment.microsecond

/-- The text of a UTC moment without dashes and colons. -/
def DateTime.stampText (moment : DateTime) : List Char :=
  moment.secondText ++ (moment.fractionText ++ ['Z'])

theorem twoDigits_eq (n : Nat) : twoDigits n = fixedDigits 2 n := by
  rw [fixedDigits, fixedDigits, fixedDigits, pow_one, pow_zero, Nat.div_one, twoDigits]

theorem fourDigits_eq (n : Nat) : fourDigits n = fixedDigits 4 n := by
  rw [fixedDigits, fixedDigits, fixedDigits, fixedDigits, fixedDigits, pow_one, pow_zero,
    Nat.div_one, fourDigits]
  rfl

theorem sixDigits_eq (n : Nat) : sixDigits n = fixedDigits 6 n := by
  rw [fixedDigits, fixedDigits, fixedDigits, fixedDigits, fixedDigits, fixedDigits, fixedDigits,
    pow_one, pow_zero, Nat.div_one, sixDigits]
  rfl

theorem DateTime.secondText_eq (moment : DateTime) :
    moment.secondText = fourDigits moment.year ++ (twoDigits moment.month ++
      (twoDigits moment.day ++ 'T' :: (twoDigits moment.hour ++ (twoDigits moment.minute ++
        twoDigits moment.second)))) := by
  have day := day_lt moment
  have months := moment.validDate.2.1
  have clock := moment.validTime
  have month : moment.month < 10 ^ 2 := by omega
  have minute : moment.minute < 10 ^ 2 := by omega
  have second : moment.second < 10 ^ 2 := by omega
  rw [secondText, dateNumber, clockNumber, fourDigits_eq, twoDigits_eq, twoDigits_eq,
    twoDigits_eq, twoDigits_eq, twoDigits_eq, ← List.append_assoc (fixedDigits 4 _),
    ← List.append_assoc (fixedDigits 4 _ ++ _), fixedDigits_append _ _ month,
    fixedDigits_append _ _ day, ← List.append_assoc (fixedDigits 2 moment.hour),
    fixedDigits_append _ _ minute, fixedDigits_append _ _ second]
  rfl

/-- Without its colons and dashes the text of a UTC moment is its stamp. -/
theorem stampText_eq (moment : DateTime) :
    (moment.dateText ++ 'T' :: (moment.timeText ++ ['Z'])).filter (fun c => c != ':' && c != '-') =
      moment.stampText := by
  have digit (n : Nat) : (digitChar n != ':' && digitChar n != '-') = true := by
    rw [Bool.and_eq_true, bne_iff_ne, bne_iff_ne]
    exact ⟨digitChar_ne (by decide) n, digitChar_ne (by decide) n⟩
  rw [DateTime.stampText, DateTime.secondText_eq, DateTime.fractionText, DateTime.timeText,
    ← sixDigits_eq]
  split <;>
    simp only [DateTime.dateText, fourDigits, twoDigits, sixDigits, List.cons_append,
      List.nil_append, List.filter_cons, List.filter_nil, digit, if_true] <;>
    rfl

/-- A stamp sorts before that of another instant: it is of an earlier second, or of the same
second with a fraction that is printed and the lesser one, or the only one that is printed. -/
def DateTime.StampBefore (moment other : DateTime) : Prop :=
  moment.secondNumber < other.secondNumber ∨ moment.secondNumber = other.secondNumber ∧
    moment.microsecond ≠ 0 ∧ (other.microsecond = 0 ∨ moment.microsecond < other.microsecond)

theorem stampText_append_lt_iff {moment other : DateTime} (apart : moment.micros ≠ other.micros)
    (rest back : List Char) :
    moment.stampText ++ rest < other.stampText ++ back ↔ moment.StampBefore other := by
  have sameSecond : moment.secondText = other.secondText ↔
      moment.secondNumber = other.secondNumber := by
    rw [le_antisymm_iff, ← not_lt, ← not_lt, DateTime.secondText_lt_iff,
      DateTime.secondText_lt_iff]
    omega
  have small := moment.validTime.2.2.2
  have otherSmall := other.validTime.2.2.2
  rw [DateTime.micros_eq, DateTime.micros_eq] at apart
  rw [DateTime.stampText, DateTime.stampText, List.append_assoc, List.append_assoc,
    List.append_assoc, List.append_assoc, List.append_lt_append_iff_of_length
      (moment.length_secondText.trans other.length_secondText.symm),
    DateTime.secondText_lt_iff, sameSecond, DateTime.StampBefore]
  refine or_congr_right (and_congr_right fun same => ?_)
  rw [DateTime.fractionText, DateTime.fractionText]
  by_cases whole : moment.microsecond = 0
  · by_cases otherWhole : other.microsecond = 0
    · omega
    · rw [if_pos whole, if_neg otherWhole, List.nil_append, List.cons_append, List.cons_append,
        List.cons_append, List.cons_lt_cons_iff]
      refine iff_of_false (not_or_intro (by decide) fun after => ?_) fun before => before.1 whole
      exact absurd after.1 (by decide)
  · by_cases otherWhole : other.microsecond = 0
    · rw [if_neg whole, if_pos otherWhole, List.nil_append, List.cons_append, List.cons_append,
        List.cons_append, List.cons_lt_cons_iff]
      exact iff_of_true (.inl (by decide)) ⟨whole, .inl otherWhole⟩
    · rw [if_neg whole, if_neg otherWhole, List.cons_append, List.cons_append, List.cons_append,
        List.cons_append, List.cons_lt_cons_iff, or_iff_right (lt_irrefl '.'), and_iff_right rfl,
        List.append_lt_append_iff_of_length ((length_fixedDigits 6 _).trans
          (length_fixedDigits 6 _).symm), fixedDigits_lt_iff_of_lt small otherSmall,
        fixedDigits_eq_iff]
      omega

end Timestamp
