import Mathlib

/-!
# Datetime texts

Python's `datetime.isoformat` and `datetime.fromisoformat` for aware datetimes,
with the proleptic Gregorian calendar under them.

## Main Definitions

* `ymdToOrd`, `ordToYmd` — days as ordinals, and as year, month and day
* `isoformat`, `fromisoformat` — an instant as a text, and back
* `InRange` — the instants a datetime can hold

## Main Results

* `ymdToOrd_ordToYmd` — a day's year, month and day name that day
* `fromisoformat_isoformat` — a text that has been written is read back

## Design Notes

An instant is a number of microseconds since 1970, and its datetime is the one in
UTC.  Of the many forms of ISO 8601, `fromisoformat` reads the one `isoformat`
writes, with any offset of hours and minutes.
-/

namespace Ticketing.Datetime

/-! ## The calendar -/

/-- `_is_leap`. -/
def isLeap (year : ℕ) : Bool := decide (year % 4 = 0 ∧ (year % 100 ≠ 0 ∨ year % 400 = 0))

/-- `_days_before_year`. -/
def daysBeforeYear (year : ℕ) : ℕ :=
  (year - 1) * 365 + (year - 1) / 4 - (year - 1) / 100 + (year - 1) / 400

/-- The days before a month of a common year. -/
def commonDaysBefore : List ℕ := [0, 31, 59, 90, 120, 151, 181, 212, 243, 273, 304, 334, 365]

/-- `_days_before_month`. -/
def daysBeforeMonth (leap : Bool) (month : ℕ) : ℕ :=
  commonDaysBefore.getD (month - 1) 0 + if leap ∧ 2 < month then 1 else 0

/-- `_days_in_month`. -/
def daysInMonth (leap : Bool) (month : ℕ) : ℕ :=
  daysBeforeMonth leap (month + 1) - daysBeforeMonth leap month

/-- `_ymd2ord`: 1 January of year 1 is day 1. -/
def ymdToOrd (year month day : ℕ) : ℕ :=
  daysBeforeYear year + daysBeforeMonth (isLeap year) month + day

/-- The year of a day, and the day's place in it, counted from zero. -/
def yearOf (ordinal : ℕ) : ℕ × ℕ :=
  let n400 := (ordinal - 1) / 146097
  let rest := (ordinal - 1) % 146097
  let n100 := rest / 36524
  let rest := rest % 36524
  let n4 := rest / 1461
  let rest := rest % 1461
  let n1 := rest / 365
  let year := n400 * 400 + n100 * 100 + n4 * 4 + n1 + 1
  -- the last day of a cycle is past its last whole year
  if n1 = 4 ∨ n100 = 4 then (year - 1, 365) else (year, rest % 365)

/-- The month and day of the month of a day of a year, from an estimate that is
one too large at most. -/
def monthOf (leap : Bool) (dayOfYear : ℕ) : ℕ × ℕ :=
  let estimate := (dayOfYear + 50) / 32
  let month :=
    if dayOfYear < daysBeforeMonth leap estimate then estimate - 1 else estimate
  (month, dayOfYear - daysBeforeMonth leap month + 1)

/-- `_ord2ymd`. -/
def ordToYmd (ordinal : ℕ) : ℕ × ℕ × ℕ :=
  let (year, dayOfYear) := yearOf ordinal
  (year, monthOf (isLeap year) dayOfYear)

/-- Year, month and day are those of a date. -/
def IsDate (year month day : ℕ) : Prop :=
  1 ≤ year ∧ year ≤ 9999 ∧ 1 ≤ month ∧ month ≤ 12 ∧ 1 ≤ day ∧
    day ≤ daysInMonth (isLeap year) month

instance (year month day : ℕ) : Decidable (IsDate year month day) :=
  inferInstanceAs (Decidable (_ ∧ _))

/-- The length of a year. -/
def daysInYear (year : ℕ) : ℕ := if isLeap year then 366 else 365

theorem daysInYear_bounds (year : ℕ) : 365 ≤ daysInYear year ∧ daysInYear year ≤ 366 := by
  unfold daysInYear
  split_ifs <;> decide

/-- The days before a year, told from its place in the cycles of the calendar. -/
theorem daysBeforeYear_cycles {n400 n100 n4 n1 : ℕ} (centuries : n100 ≤ 3) (quads : n4 ≤ 24)
    (years : n1 ≤ 3) :
    daysBeforeYear (n400 * 400 + n100 * 100 + n4 * 4 + n1 + 1)
      = n400 * 146097 + n100 * 36524 + n4 * 1461 + n1 * 365 := by
  have fourth : (n400 * 400 + n100 * 100 + n4 * 4 + n1) / 4 = n400 * 100 + n100 * 25 + n4 := by
    omega
  have century : (n400 * 400 + n100 * 100 + n4 * 4 + n1) / 100 = n400 * 4 + n100 := by omega
  have cycle : (n400 * 400 + n100 * 100 + n4 * 4 + n1) / 400 = n400 := by omega
  unfold daysBeforeYear
  rw [Nat.add_sub_cancel, fourth, century, cycle]
  omega

/-- The year that ends a cycle of 4 years, but no century. -/
theorem quad_year {n400 n100 n4 : ℕ} (centuries : n100 ≤ 3) (quads : n4 ≤ 23) :
    isLeap (n400 * 400 + n100 * 100 + n4 * 4 + 4) = true ∧
      daysBeforeYear (n400 * 400 + n100 * 100 + n4 * 4 + 4)
        = n400 * 146097 + n100 * 36524 + n4 * 1461 + 1095 := by
  refine ⟨?_, ?_⟩
  · unfold isLeap
    rw [decide_eq_true_eq]
    exact ⟨by omega, .inl (by omega)⟩
  · exact daysBeforeYear_cycles centuries (by omega) le_rfl

/-- The year that ends a cycle of 400 years. -/
theorem cycle_year (n400 : ℕ) :
    isLeap (n400 * 400 + 400) = true ∧
      daysBeforeYear (n400 * 400 + 400) = n400 * 146097 + 145731 := by
  refine ⟨?_, ?_⟩
  · unfold isLeap
    rw [decide_eq_true_eq]
    exact ⟨by omega, .inr (by omega)⟩
  · simpa [Nat.add_assoc] using
      @daysBeforeYear_cycles n400 3 24 3 (by decide) (by decide) (by decide)

theorem yearOf_spec {ordinal : ℕ} (positive : 1 ≤ ordinal) :
    1 ≤ (yearOf ordinal).1 ∧ (yearOf ordinal).2 < daysInYear (yearOf ordinal).1 ∧
      daysBeforeYear (yearOf ordinal).1 + (yearOf ordinal).2 + 1 = ordinal := by
  have cycles := Nat.div_add_mod (ordinal - 1) 146097
  have inCycle := Nat.mod_lt (ordinal - 1) (show 146097 > 0 by decide)
  unfold yearOf
  dsimp only
  generalize (ordinal - 1) / 146097 = n400 at *
  generalize (ordinal - 1) % 146097 = rest at *
  have centuries := Nat.div_add_mod rest 36524
  have inCentury := Nat.mod_lt rest (show 36524 > 0 by decide)
  generalize rest / 36524 = n100 at *
  generalize rest % 36524 = rest' at *
  have quads := Nat.div_add_mod rest' 1461
  have inQuad := Nat.mod_lt rest' (show 1461 > 0 by decide)
  generalize rest' / 1461 = n4 at *
  generalize rest' % 1461 = rest'' at *
  have years := Nat.div_add_mod rest'' 365
  have inYear := Nat.mod_lt rest'' (show 365 > 0 by decide)
  generalize rest'' / 365 = n1 at *
  generalize rest'' % 365 = day at *
  split_ifs with last
  · rw [Nat.add_sub_cancel]
    rcases last with rfl | rfl
    · have leap := @quad_year n400 n100 n4 (by omega) (by omega)
      unfold daysInYear
      rw [leap.1, leap.2, if_pos rfl]
      omega
    · obtain ⟨rfl, rfl⟩ : n4 = 0 ∧ n1 = 0 := by omega
      have leap := cycle_year n400
      unfold daysInYear
      simp only [Nat.zero_mul, Nat.add_zero]
      rw [leap.1, leap.2, if_pos rfl]
      omega
  · have long := daysInYear_bounds (n400 * 400 + n100 * 100 + n4 * 4 + n1 + 1)
    dsimp only
    rw [daysBeforeYear_cycles (by omega) (by omega) (by omega)]
    omega

theorem monthOf_spec : ∀ leap : Bool, ∀ dayOfYear < if leap then 366 else 365,
    1 ≤ (monthOf leap dayOfYear).1 ∧ (monthOf leap dayOfYear).1 ≤ 12 ∧
      1 ≤ (monthOf leap dayOfYear).2 ∧
      (monthOf leap dayOfYear).2 ≤ daysInMonth leap (monthOf leap dayOfYear).1 ∧
      daysBeforeMonth leap (monthOf leap dayOfYear).1 + (monthOf leap dayOfYear).2
        = dayOfYear + 1 := by
  decide +kernel

/-- The last day of year 9999. -/
def maxOrdinal : ℕ := 3652059

theorem year_le {year : ℕ} (inside : daysBeforeYear year < maxOrdinal) : year ≤ 9999 := by
  unfold daysBeforeYear maxOrdinal at inside
  omega

/-- **Round trip of the calendar.**  The date of a day is a date, and names that day. -/
theorem ymdToOrd_ordToYmd {ordinal : ℕ} (first : 1 ≤ ordinal) (last : ordinal ≤ maxOrdinal) :
    IsDate (ordToYmd ordinal).1 (ordToYmd ordinal).2.1 (ordToYmd ordinal).2.2 ∧
      ymdToOrd (ordToYmd ordinal).1 (ordToYmd ordinal).2.1 (ordToYmd ordinal).2.2 = ordinal := by
  obtain ⟨positive, short, whole⟩ := yearOf_spec first
  obtain ⟨january, december, firstDay, lastDay, sum⟩ := monthOf_spec _ _ short
  have bounded : (yearOf ordinal).1 ≤ 9999 := year_le (by omega)
  refine ⟨⟨positive, bounded, january, december, firstDay, lastDay⟩, ?_⟩
  unfold ymdToOrd ordToYmd
  dsimp only
  omega

/-! ## Texts -/

/-- `value` with `width` decimal digits. -/
def pad : ℕ → ℕ → List Char
  | 0, _ => []
  | width + 1, value => pad width (value / 10) ++ [Nat.digitChar (value % 10)]

/-- Microseconds in a day. -/
def microsPerDay : ℤ := 86400000000

/-- The ordinal of 1 January 1970. -/
def epochOrdinal : ℕ := 719163

/-- The instants a datetime can hold: those of the years 1 to 9999. -/
def InRange (instant : ℤ) : Prop :=
  1 ≤ instant / microsPerDay + epochOrdinal ∧
    instant / microsPerDay + epochOrdinal ≤ maxOrdinal

instance (instant : ℤ) : Decidable (InRange instant) := inferInstanceAs (Decidable (_ ∧ _))

/-- The time of a day, with its microseconds where there are any. -/
def timeText (micros : ℕ) : List Char :=
  pad 2 (micros / 3600000000) ++ ':' :: pad 2 (micros / 60000000 % 60) ++
    ':' :: pad 2 (micros / 1000000 % 60) ++
    if micros % 1000000 = 0 then [] else '.' :: pad 6 (micros % 1000000)

/-- `isoformat` of the datetime of an instant in UTC. -/
def isoformat (instant : ℤ) : String :=
  let (year, month, day) := ordToYmd (instant / microsPerDay + epochOrdinal).toNat
  String.ofList (pad 4 year ++ '-' :: pad 2 month ++ '-' :: pad 2 day ++
    'T' :: timeText (instant % microsPerDay).toNat ++ "+00:00".toList)

/-- A field of `width` decimal digits. -/
def scanField (width : ℕ) (text : List Char) : Option (ℕ × List Char) :=
  if (text.take width).length = width ∧ (text.take width).all Char.isDigit then
    some (Nat.ofDigitChars 10 (text.take width) 0, text.drop width)
  else none

/-- The separator `mark`. -/
def scanMark (mark : Char) (text : List Char) : Option (List Char) :=
  if text.head? = some mark then some text.tail else none

/-- Hours, minutes, seconds and microseconds. -/
def scanTime (text : List Char) : Option (ℕ × List Char) := do
  let (hour, rest) ← scanField 2 text
  let rest ← scanMark ':' rest
  let (minute, rest) ← scanField 2 rest
  let rest ← scanMark ':' rest
  let (second, rest) ← scanField 2 rest
  let (micro, rest) ← if rest.head? = some '.' then scanField 6 rest.tail else some (0, rest)
  if hour < 24 ∧ minute < 60 ∧ second < 60 then
    some (((hour * 60 + minute) * 60 + second) * 1000000 + micro, rest)
  else none

/-- The offset from UTC, in microseconds. -/
def readOffset (text : List Char) : Option ℤ := do
  let sign ← if text.head? = some '+' then some 1
    else if text.head? = some '-' then some (-1) else none
  let (hour, rest) ← scanField 2 text.tail
  let rest ← scanMark ':' rest
  let (minute, rest) ← scanField 2 rest
  if rest = [] ∧ hour < 24 ∧ minute < 60 then
    some (sign * (hour * 60 + minute) * 60000000)
  else none

/-- `datetime.fromisoformat`, as an instant, for the form that `isoformat` writes.  `none`
stands for `ValueError` and for the other ISO 8601 forms that Python reads (no separators, no
offset or `Z`, week dates, fractions of other lengths). -/
def fromisoformat (text : String) : Option ℤ := do
  let (year, rest) ← scanField 4 text.toList
  let rest ← scanMark '-' rest
  let (month, rest) ← scanField 2 rest
  let rest ← scanMark '-' rest
  let (day, rest) ← scanField 2 rest
  let rest ← scanMark 'T' rest
  let (micros, rest) ← scanTime rest
  let offset ← readOffset rest
  if IsDate year month day then
    some (((ymdToOrd year month day : ℤ) - epochOrdinal) * microsPerDay + micros - offset)
  else none

theorem length_pad (width value : ℕ) : (pad width value).length = width := by
  induction width generalizing value with
  | zero => rfl
  | succ width ih => simp [pad, ih]

theorem isDigit_of_mem_pad {width value : ℕ} {char : Char} (listed : char ∈ pad width value) :
    char.isDigit = true := by
  induction width generalizing value with
  | zero => simp [pad] at listed
  | succ width ih =>
      rcases List.mem_append.mp listed with earlier | last
      · exact ih earlier
      · rw [List.mem_singleton.mp last, Nat.isDigit_digitChar]
        exact decide_eq_true (Nat.mod_lt _ (by decide))

theorem ofDigitChars_pad {width value : ℕ} (bound : value < 10 ^ width) :
    Nat.ofDigitChars 10 (pad width value) 0 = value := by
  induction width generalizing value with
  | zero =>
      rw [Nat.pow_zero] at bound
      simp [pad]
      omega
  | succ width ih =>
      have smaller : value / 10 < 10 ^ width := by
        rw [pow_succ] at bound
        omega
      rw [pad, Nat.ofDigitChars_append, ih smaller,
        Nat.ofDigitChars_cons_digitChar_of_lt_ten (Nat.mod_lt _ (by decide)),
        Nat.ofDigitChars_nil]
      omega

/-- A padded field is read back. -/
theorem scanField_pad {width value : ℕ} (bound : value < 10 ^ width) (rest : List Char) :
    scanField width (pad width value ++ rest) = some (value, rest) := by
  have taken : (pad width value ++ rest).take width = pad width value :=
    List.take_left' (length_pad width value)
  have dropped : (pad width value ++ rest).drop width = rest :=
    List.drop_left' (length_pad width value)
  unfold scanField
  rw [taken, dropped, ofDigitChars_pad bound, if_pos]
  exact ⟨length_pad width value, List.all_eq_true.mpr fun _ => isDigit_of_mem_pad⟩

@[simp] theorem scanMark_cons (mark : Char) (rest : List Char) :
    scanMark mark (mark :: rest) = some rest := if_pos rfl

theorem scanTime_timeText {micros : ℕ} (bound : micros < 86400000000) {rest : List Char}
    (follows : rest.head? ≠ some '.') :
    scanTime (timeText micros ++ rest) = some (micros, rest) := by
  unfold scanTime timeText
  simp only [List.append_assoc, List.cons_append]
  rw [scanField_pad (by omega)]
  simp only [Option.bind_eq_bind, Option.bind_some, scanMark_cons]
  rw [scanField_pad (by omega)]
  simp only [Option.bind_some, scanMark_cons]
  rw [scanField_pad (by omega)]
  simp only [Option.bind_some]
  have fields : micros / 3600000000 < 24 ∧ micros / 60000000 % 60 < 60 ∧
      micros / 1000000 % 60 < 60 := by
    omega
  by_cases whole : micros % 1000000 = 0
  · rw [if_pos whole, List.nil_append, if_neg follows, if_pos fields]
    congr 2
    omega
  · simp only [if_neg whole, List.cons_append, List.head?_cons, if_true, List.tail_cons]
    rw [scanField_pad (by omega), Option.bind_some, if_pos fields]
    congr 2
    omega

theorem readOffset_utc : readOffset "+00:00".toList = some 0 := by
  decide

theorem daysInMonth_le : ∀ leap : Bool, ∀ month ≤ 12, daysInMonth leap month ≤ 31 := by
  decide

/-- **Round trip.**  What `isoformat` has written `fromisoformat` reads back. -/
theorem fromisoformat_isoformat {instant : ℤ} (inRange : InRange instant) :
    fromisoformat (isoformat instant) = some instant := by
  obtain ⟨first, last⟩ := inRange
  have ordinal : ((instant / microsPerDay + epochOrdinal).toNat : ℤ)
      = instant / microsPerDay + epochOrdinal :=
    Int.toNat_of_nonneg (by omega)
  obtain ⟨isDate, named⟩ := ymdToOrd_ordToYmd
    (show 1 ≤ (instant / microsPerDay + epochOrdinal).toNat by omega)
    (show (instant / microsPerDay + epochOrdinal).toNat ≤ maxOrdinal by omega)
  have micros : ((instant % microsPerDay).toNat : ℤ) = instant % microsPerDay :=
    Int.toNat_of_nonneg (Int.emod_nonneg _ (by decide))
  have inDay : (instant % microsPerDay).toNat < 86400000000 := by
    have := Int.emod_lt_of_pos instant (show 0 < microsPerDay by decide)
    unfold microsPerDay at *
    omega
  unfold fromisoformat isoformat
  generalize ordToYmd (instant / microsPerDay + epochOrdinal).toNat = date at *
  obtain ⟨year, month, day⟩ := date
  obtain ⟨-, millennia, -, december, -, lastDay⟩ := id isDate
  have short := daysInMonth_le (isLeap year) month december
  simp only [String.toList_ofList, List.append_assoc, List.cons_append]
  dsimp only at *
  rw [scanField_pad (by omega)]
  simp only [Option.bind_eq_bind, Option.bind_some, scanMark_cons]
  rw [scanField_pad (by omega)]
  simp only [Option.bind_some, scanMark_cons]
  rw [scanField_pad (by omega)]
  simp only [Option.bind_some, scanMark_cons]
  rw [scanTime_timeText inDay (by decide)]
  simp only [Option.bind_some, readOffset_utc]
  rw [if_pos isDate, named, ordinal, micros]
  rw [add_sub_cancel_right, Int.ediv_mul_add_emod, sub_zero]

end Ticketing.Datetime
