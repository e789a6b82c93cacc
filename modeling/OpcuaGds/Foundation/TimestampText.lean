import OpcuaGds.Foundation.Timestamp

/-! # The text of a date and time

`datetime.isoformat` with a UTC offset in whole minutes, and `datetime.fromisoformat`
as of Python 3.12. Reading a printed text gives the printed moment and offset.
-/

namespace Timestamp

/-! ## Printing -/

def digitChar (n : Nat) : Char := Nat.digitChar (n % 10)

def twoDigits (n : Nat) : List Char := [digitChar (n / 10), digitChar n]

def fourDigits (n : Nat) : List Char :=
  [digitChar (n / 1000), digitChar (n / 100), digitChar (n / 10), digitChar n]

def sixDigits (n : Nat) : List Char :=
  [digitChar (n / 100000), digitChar (n / 10000), digitChar (n / 1000), digitChar (n / 100),
    digitChar (n / 10), digitChar n]

/-- A UTC offset in minutes, less than a day either way. -/
structure Offset where
  minutes : Int
  valid : -1440 < minutes ∧ minutes < 1440
  deriving DecidableEq

def Offset.utc : Offset := ⟨0, by decide⟩

def Offset.micros (offset : Offset) : Int := offset.minutes * 60000000

/-- `±HH:MM`. -/
def Offset.text (offset : Offset) : List Char :=
  (if offset.minutes < 0 then '-' else '+') :: (twoDigits (offset.minutes.natAbs / 60) ++
    ':' :: twoDigits (offset.minutes.natAbs % 60))

def DateTime.dateText (moment : DateTime) : List Char :=
  fourDigits moment.year ++ '-' :: (twoDigits moment.month ++ '-' :: twoDigits moment.day)

/-- `HH:MM:SS`, with six more digits when they are not all zero. -/
def DateTime.timeText (moment : DateTime) : List Char :=
  twoDigits moment.hour ++ ':' :: (twoDigits moment.minute ++ ':' :: (twoDigits moment.second ++
    if moment.microsecond = 0 then [] else '.' :: sixDigits moment.microsecond))

/-- `datetime.isoformat` of a moment on the clock of a zone. -/
def isoformat (moment : DateTime) (offset : Offset) : List Char :=
  moment.dateText ++ 'T' :: (moment.timeText ++ offset.text)

/-! ## Reading -/

def digit? (c : Char) : Option Nat := if c.isDigit then some (c.toNat - 48) else none

def readTwo : List Char → Option (Nat × List Char)
  | a :: b :: rest => do
      let a ← digit? a
      let b ← digit? b
      some (a * 10 + b, rest)
  | _ => none

def readFour : List Char → Option (Nat × List Char)
  | a :: b :: c :: d :: rest => do
      let a ← digit? a
      let b ← digit? b
      let c ← digit? c
      let d ← digit? d
      some (((a * 10 + b) * 10 + c) * 10 + d, rest)
  | _ => none

/-- The value of a digit string. -/
def readDigits (chars : List Char) : Option Nat :=
  chars.foldlM (fun value c => (digit? c).map fun digit => value * 10 + digit) 0

/-- The Monday of the first week of a year. -/
def firstMonday (year : Nat) : Nat :=
  let firstDay := daysBeforeYear year + 1
  let weekday := (firstDay + 6) % 7
  if 3 < weekday then firstDay - weekday + 7 else firstDay - weekday

/-- The date of a weekday of an ISO week. -/
def dateOfWeek (year week day : Nat) : Option (Nat × Nat × Nat) :=
  let longYear := (daysBeforeYear year + 1) % 7 = 4 ∨
    ((daysBeforeYear year + 1) % 7 = 3 ∧ isLeap year)
  if (1 ≤ year ∧ year ≤ 9999) ∧ 1 ≤ week ∧ (week < 53 ∨ week = 53 ∧ longYear) ∧
      1 ≤ day ∧ day ≤ 7 then
    dateOfOrdinal (firstMonday year + (week - 1) * 7 + (day - 1))
  else none

/-- The week form after the letter `W`: `ww`, or `ww` and a day with the separator
that the year had. -/
def readWeek (year : Nat) (dashed : Bool) (chars : List Char) : Option (Nat × Nat × Nat) := do
  let (week, rest) ← readTwo chars
  match rest, dashed with
  | [], _ => dateOfWeek year week 1
  | ['-', day], true => dateOfWeek year week (← digit? day)
  | [day], false => dateOfWeek year week (← digit? day)
  | _, _ => none

/-- `_parse_isoformat_date`. -/
def readDate (chars : List Char) : Option (Nat × Nat × Nat) := do
  let (year, rest) ← readFour chars
  match rest with
  | '-' :: rest =>
      if rest.head? = some 'W' then readWeek year true rest.tail
      else do
        let (month, rest) ← readTwo rest
        match rest with
        | '-' :: rest => do
            let (day, rest) ← readTwo rest
            if rest = [] then some (year, month, day) else none
        | _ => none
  | 'W' :: rest => readWeek year false rest
  | rest => do
      let (month, rest) ← readTwo rest
      let (day, rest) ← readTwo rest
      if rest = [] then some (year, month, day) else none

/-- `_find_isoformat_datetime_separator`: the length of the date part. -/
def dateLength (chars : List Char) : Nat :=
  if chars.length = 7 then 7
  else if chars[4]? = some '-' then
    if chars[5]? = some 'W' then
      if chars[8]? = some '-' then
        if chars[10]?.any Char.isDigit then 8 else 10
      else 8
    else 10
  else if chars[4]? = some 'W' then
    let index := 7 + ((chars.drop 7).takeWhile Char.isDigit).length
    if index < 9 then index else if index % 2 = 0 then 7 else 8
  else 8

/-- The fraction of a second after its separator: up to six digits count, more
digits are dropped. -/
def readFraction (chars : List Char) : Option Nat := do
  let counted := chars.take 6
  let value ← readDigits counted
  if counted ≠ [] ∧ (chars.drop 6).all Char.isDigit then
    some (value * 10 ^ (6 - counted.length))
  else none

/-- What follows the seconds: nothing or a fraction. -/
def readAfterSeconds : List Char → Option Nat
  | [] => some 0
  | c :: rest => if c = '.' ∨ c = ',' then readFraction rest else none

/-- A clock reading, not yet checked against the bounds of its fields. -/
structure Clock where
  hour : Nat
  minute : Nat
  second : Nat
  microsecond : Nat

def Clock.micros (clock : Clock) : Nat :=
  ((clock.hour * 60 + clock.minute) * 60 + clock.second) * 1000000 + clock.microsecond

/-- `_parse_hh_mm_ss_ff`: hours, minutes, seconds and microseconds. -/
def readClock (chars : List Char) : Option Clock := do
  let (hour, rest) ← readTwo chars
  let colon := rest.head? = some ':'
  if rest = [] then some ⟨hour, 0, 0, 0⟩
  else do
    let (minute, rest) ← readTwo (if colon then rest.tail else rest)
    if rest = [] then some ⟨hour, minute, 0, 0⟩
    else if colon ∧ rest.head? ≠ some ':' then none
    else do
      let (second, rest) ← readTwo (if colon then rest.tail else rest)
      some ⟨hour, minute, second, ← readAfterSeconds rest⟩

/-- The microseconds of an offset, which is less than a day either way. -/
def signedOffset (negative : Bool) (clock : Clock) : Option Int :=
  if clock.micros < 86400000000 then
    some (if negative then -clock.micros else clock.micros)
  else none

/-- The offset in microseconds after its sign. -/
def readOffset (negative : Bool) (chars : List Char) : Option Int :=
  (readClock chars).bind (signedOffset negative)

/-- The place of the time zone in a time text: the first `-`, else the first `+`,
else the first `Z`. -/
def zoneIndex? (chars : List Char) : Option Nat :=
  (chars.idxOf? '-').or ((chars.idxOf? '+').or (chars.idxOf? 'Z'))

/-- `_parse_isoformat_time`: the clock and the offset in microseconds, if any. -/
def readTime (chars : List Char) : Option (Clock × Option Int) :=
  match zoneIndex? chars with
  | none => do some (← readClock chars, none)
  | some index => do
      let clock ← readClock (chars.take index)
      let zone := chars.drop index
      if zone = ['Z'] then some (clock, some 0)
      else some (clock, some (← readOffset (zone.head? = some '-') zone.tail))

/-- `datetime.fromisoformat`: the moment on its own clock, and its offset if it
has one. -/
def fromisoformat (chars : List Char) : Option (DateTime × Option Int) := do
  if chars.length < 7 then none
  else do
    let length := dateLength chars
    let (year, month, day) ← readDate (chars.take length)
    let (clock, offset) ←
      match chars.drop (length + 1) with
      | [] => some (⟨0, 0, 0, 0⟩, none)
      | time => readTime time
    let moment ← DateTime.ofFields? year month day clock.hour clock.minute clock.second
      clock.microsecond
    some (moment, offset)

/-! ## Reading what was printed -/

theorem digitChar_isDigit (n : Nat) : (digitChar n).isDigit = true := by
  have all : ∀ m < 10, (Nat.digitChar m).isDigit = true := by decide
  exact all _ (Nat.mod_lt _ (by decide))

theorem digit?_digitChar (n : Nat) : digit? (digitChar n) = some (n % 10) := by
  have all : ∀ m < 10, digit? (Nat.digitChar m) = some m := by decide
  exact all _ (Nat.mod_lt _ (by decide))

theorem digitChar_ne {c : Char} (other : c.isDigit = false) (n : Nat) : digitChar n ≠ c := by
  rintro rfl
  rw [digitChar_isDigit] at other
  cases other

theorem readTwo_twoDigits {n : Nat} (small : n < 100) (rest : List Char) :
    readTwo (twoDigits n ++ rest) = some (n, rest) := by
  simp only [twoDigits, List.cons_append, List.nil_append, readTwo, digit?_digitChar,
    Option.bind_eq_bind, Option.bind_some, Option.some.injEq, Prod.mk.injEq, and_true]
  omega

theorem readFour_fourDigits {n : Nat} (small : n < 10000) (rest : List Char) :
    readFour (fourDigits n ++ rest) = some (n, rest) := by
  simp only [fourDigits, List.cons_append, List.nil_append, readFour, digit?_digitChar,
    Option.bind_eq_bind, Option.bind_some, Option.some.injEq, Prod.mk.injEq, and_true]
  omega

theorem readFraction_sixDigits {n : Nat} (small : n < 1000000) :
    readFraction (sixDigits n) = some n := by
  simp only [readFraction, sixDigits, List.take_succ_cons, List.take_nil, readDigits,
    List.foldlM_cons, List.foldlM_nil, digit?_digitChar, Option.map_some, Option.bind_eq_bind,
    Option.bind_some, Option.pure_def, List.drop_succ_cons, List.drop_nil, List.all_nil, ne_eq,
    reduceCtorEq, not_false_eq_true, and_self, if_true, List.length_cons, List.length_nil,
    Option.some.injEq]
  omega

theorem day_lt (moment : DateTime) : moment.day < 100 := by
  have bound := moment.validDate.2.2.2
  unfold daysInMonth at bound
  split at bound
  · split at bound <;> omega
  · omega
  · omega
  · omega
  · omega
  · omega

theorem readDate_dateText (moment : DateTime) :
    readDate moment.dateText = some (moment.year, moment.month, moment.day) := by
  have year := readFour_fourDigits (n := moment.year) (by have := moment.validDate.1.2; omega)
    ('-' :: (twoDigits moment.month ++ '-' :: twoDigits moment.day))
  have month := readTwo_twoDigits (n := moment.month) (by have := moment.validDate.2.1.2; omega)
    ('-' :: twoDigits moment.day)
  have day := readTwo_twoDigits (day_lt moment) []
  rw [List.append_nil] at day
  have noWeek : (twoDigits moment.month ++ '-' :: twoDigits moment.day).head? ≠ some 'W' := by
    intro same
    exact digitChar_ne (by decide) _ (Option.some.inj same)
  simp only [readDate, DateTime.dateText, year, month, day, Option.bind_eq_bind, Option.bind_some,
    if_neg noWeek, if_true]

theorem readClock_timeText (moment : DateTime) :
    readClock moment.timeText =
      some ⟨moment.hour, moment.minute, moment.second, moment.microsecond⟩ := by
  obtain ⟨hourSmall, minuteSmall, secondSmall, microSmall⟩ := moment.validTime
  have fraction : readAfterSeconds
      (if moment.microsecond = 0 then [] else '.' :: sixDigits moment.microsecond) =
        some moment.microsecond := by
    split
    · rename_i zero
      rw [zero]
      rfl
    · simp only [readAfterSeconds, true_or, if_true, readFraction_sixDigits microSmall]
  simp only [readClock, DateTime.timeText,
    readTwo_twoDigits (show moment.hour < 100 by omega),
    readTwo_twoDigits (show moment.minute < 100 by omega),
    readTwo_twoDigits (show moment.second < 100 by omega), fraction, Option.bind_eq_bind,
    Option.bind_some, List.head?_cons, List.tail_cons, reduceCtorEq, if_false, if_true, ne_eq,
    not_true_eq_false, and_false]

theorem readOffset_text (offset : Offset) :
    readOffset (decide (offset.minutes < 0))
      (twoDigits (offset.minutes.natAbs / 60) ++ ':' :: twoDigits (offset.minutes.natAbs % 60)) =
        some offset.micros := by
  have bounds := offset.valid
  have hours := readTwo_twoDigits (n := offset.minutes.natAbs / 60) (by omega)
    (':' :: twoDigits (offset.minutes.natAbs % 60))
  have minutes := readTwo_twoDigits (n := offset.minutes.natAbs % 60) (by omega) []
  rw [List.append_nil] at minutes
  have clock : readClock (twoDigits (offset.minutes.natAbs / 60) ++
      ':' :: twoDigits (offset.minutes.natAbs % 60)) =
        some ⟨offset.minutes.natAbs / 60, offset.minutes.natAbs % 60, 0, 0⟩ := by
    simp only [readClock, hours, minutes, Option.bind_eq_bind, Option.bind_some,
      List.head?_cons, List.tail_cons, reduceCtorEq, if_false, if_true]
  have size : Clock.micros ⟨offset.minutes.natAbs / 60, offset.minutes.natAbs % 60, 0, 0⟩ =
      offset.minutes.natAbs * 60000000 := by
    simp only [Clock.micros]
    omega
  rw [readOffset, clock, Option.bind_some, signedOffset, size, if_pos (by omega)]
  simp only [Option.some.injEq, Offset.micros, decide_eq_true_eq]
  split <;> omega

/-- Characters of a clock reading. -/
def clockChar (c : Char) : Bool := c.isDigit || c == ':' || c == '.'

theorem clockChar_digitChar (n : Nat) : clockChar (digitChar n) = true := by
  simp only [clockChar, digitChar_isDigit, Bool.true_or]

theorem clockChar_timeText (moment : DateTime) : ∀ c ∈ moment.timeText, clockChar c = true := by
  have colon : clockChar ':' = true := by decide
  have dot : clockChar '.' = true := by decide
  unfold DateTime.timeText
  split
  · simp only [twoDigits, List.cons_append, List.nil_append, List.mem_cons, List.not_mem_nil,
      or_false, forall_eq_or_imp, forall_eq, clockChar_digitChar, colon, and_self]
  · simp only [twoDigits, sixDigits, List.cons_append, List.nil_append, List.mem_cons,
      List.not_mem_nil, or_false, forall_eq_or_imp, forall_eq, clockChar_digitChar, colon, dot,
      and_self]

theorem idxOf?_of_notMem_front {c : Char} {front : List Char} (absent : c ∉ front)
    (back : List Char) : (front ++ c :: back).idxOf? c = some front.length := by
  induction front with
  | nil => simp [List.idxOf?_cons]
  | cons d front ih =>
      have distinct : d ≠ c := fun same => absent (same ▸ List.mem_cons_self)
      have later := ih fun member => absent (List.mem_cons_of_mem _ member)
      simp [List.idxOf?_cons, beq_eq_false_iff_ne.mpr distinct, later]

theorem notMem_timeText {c : Char} (other : clockChar c = false) (moment : DateTime) :
    c ∉ moment.timeText := by
  intro member
  rw [clockChar_timeText moment c member] at other
  cases other

/-- The zone starts where the clock reading ends. -/
theorem zoneIndex?_isoformat (moment : DateTime) (offset : Offset) :
    zoneIndex? (moment.timeText ++ offset.text) = some moment.timeText.length := by
  have noMinus := notMem_timeText (c := '-') (by decide) moment
  have noPlus := notMem_timeText (c := '+') (by decide) moment
  unfold zoneIndex? Offset.text
  split
  · rw [idxOf?_of_notMem_front noMinus, Option.some_or]
  · have nowhere : '-' ∉ moment.timeText ++ '+' ::
        (twoDigits (offset.minutes.natAbs / 60) ++
          ':' :: twoDigits (offset.minutes.natAbs % 60)) := by
      simp only [List.mem_append, noMinus, twoDigits, List.mem_cons, List.not_mem_nil,
        List.cons_append, List.nil_append, (digitChar_ne (c := '-') (by decide) _).symm, or_self,
        not_false_eq_true, Char.reduceEq]
    rw [List.idxOf?_eq_none_iff.mpr nowhere, Option.none_or, idxOf?_of_notMem_front noPlus,
      Option.some_or]

theorem readTime_isoformat (moment : DateTime) (offset : Offset) :
    readTime (moment.timeText ++ offset.text) =
      some (⟨moment.hour, moment.minute, moment.second, moment.microsecond⟩,
        some offset.micros) := by
  have sign : (offset.text.head? = some '-') = (offset.minutes < 0) := by
    unfold Offset.text
    split
    · rename_i negative
      simp only [List.head?_cons, negative]
    · rename_i positive
      simp only [List.head?_cons, positive, Option.some.injEq, Char.reduceEq]
  have notZ : offset.text ≠ ['Z'] := by
    intro same
    have lengths := congrArg List.length same
    simp only [Offset.text, twoDigits, List.length_cons, List.length_append, List.length_nil]
      at lengths
    omega
  have tail := readOffset_text offset
  simp only [readTime, zoneIndex?_isoformat, List.take_left, List.drop_left, readClock_timeText,
    Option.bind_eq_bind, Option.bind_some, if_neg notZ, sign]
  rw [show offset.text.tail = twoDigits (offset.minutes.natAbs / 60) ++
    ':' :: twoDigits (offset.minutes.natAbs % 60) from rfl, tail, Option.bind_some]

/-- A printed moment is read back with its offset. -/
theorem fromisoformat_isoformat (moment : DateTime) (offset : Offset) :
    fromisoformat (isoformat moment offset) = some (moment, some offset.micros) := by
  have long : ¬(isoformat moment offset).length < 7 := by
    simp only [isoformat, DateTime.dateText, fourDigits, twoDigits, List.length_append,
      List.length_cons, List.length_nil]
    omega
  have dateEnd : dateLength (isoformat moment offset) = 10 := by
    have notShort : (isoformat moment offset).length ≠ 7 := by
      simp only [isoformat, DateTime.dateText, fourDigits, twoDigits, List.length_append,
        List.length_cons, List.length_nil]
      omega
    have dash : (isoformat moment offset)[4]? = some '-' := rfl
    have month : (isoformat moment offset)[5]? = some (digitChar (moment.month / 10)) := rfl
    have noWeek : some (digitChar (moment.month / 10)) ≠ some 'W' := fun same =>
      digitChar_ne (by decide) _ (Option.some.inj same)
    rw [dateLength, if_neg notShort, if_pos dash, month, if_neg noWeek]
  have date : (isoformat moment offset).take 10 = moment.dateText := rfl
  have time : (isoformat moment offset).drop 11 = moment.timeText ++ offset.text := rfl
  have fields := DateTime.ofFields?_self moment
  simp only [fromisoformat, if_neg long, dateEnd, date, time, readDate_dateText,
    Option.bind_eq_bind, Option.bind_some]
  split
  · rename_i empty
    exact absurd empty (by simp [DateTime.timeText, twoDigits])
  · rw [readTime_isoformat, Option.bind_some, fields, Option.bind_some]

/-- Characters that no printed moment holds before its offset. -/
theorem notMem_dateTime {c : Char} (other : clockChar c = false) (notDash : c ≠ '-')
    (notT : c ≠ 'T') (moment : DateTime) : c ∉ moment.dateText ++ 'T' :: moment.timeText := by
  have notDigit (n : Nat) : c ≠ digitChar n := by
    rintro rfl
    rw [clockChar_digitChar] at other
    cases other
  simp only [DateTime.dateText, fourDigits, twoDigits, List.cons_append, List.nil_append,
    List.mem_cons, notDigit, notDash, notT, notMem_timeText other, or_self, not_false_eq_true]

theorem notMem_isoformat {c : Char} (other : clockChar c = false) (notDash : c ≠ '-')
    (notT : c ≠ 'T') (notPlus : c ≠ '+') (moment : DateTime) (offset : Offset) :
    c ∉ isoformat moment offset := by
  have notDigit (n : Nat) : c ≠ digitChar n := by
    rintro rfl
    rw [clockChar_digitChar] at other
    cases other
  have notColon : c ≠ ':' := by
    rintro rfl
    cases other
  have front := notMem_dateTime other notDash notT moment
  have back : c ∉ offset.text := by
    unfold Offset.text
    split <;>
      simp only [twoDigits, List.cons_append, List.nil_append, List.mem_cons, List.not_mem_nil,
        notDigit, notDash, notPlus, notColon, or_self, not_false_eq_true]
  have parts : isoformat moment offset =
      (moment.dateText ++ 'T' :: moment.timeText) ++ offset.text := by
    rw [isoformat, List.append_assoc, List.cons_append]
  rw [parts, List.mem_append]
  exact fun member => member.elim front back

/-! ## Instants -/

/-- The instant of a text, in microseconds; a text without offset is taken as UTC.
`astimezone` raises an `OverflowError` outside the calendar. -/
def instant? (chars : List Char) : Option Int := do
  let (moment, offset) ← fromisoformat chars
  let instant := (moment.micros : Int) - offset.getD 0
  if minInstant ≤ instant ∧ instant ≤ maxInstant then some instant else none

/-- The text of an instant, printed on the clock of any zone, gives the instant. -/
theorem instant?_isoformat {utc local_ : DateTime} {offset : Offset}
    (shown : (local_.micros : Int) = utc.micros + offset.micros) :
    instant? (isoformat local_ offset) = some (utc.micros : Int) := by
  have difference : (local_.micros : Int) - offset.micros = utc.micros := by omega
  simp only [instant?, fromisoformat_isoformat, Option.bind_eq_bind, Option.bind_some,
    Option.getD_some, difference, if_pos utc.micros_bounds]

/-- A UTC moment as a clock with some offset shows it. -/
structure Reading (utc : DateTime) where
  shown : DateTime
  offset : Offset
  sameInstant : (shown.micros : Int) = utc.micros + offset.micros

def Reading.text {utc : DateTime} (reading : Reading utc) : String :=
  String.ofList (isoformat reading.shown reading.offset)

/-- The reading of a UTC clock. -/
def Reading.utc (moment : DateTime) : Reading moment where
  shown := moment
  offset := .utc
  sameInstant := by simp [Offset.micros, Offset.utc]

end Timestamp
