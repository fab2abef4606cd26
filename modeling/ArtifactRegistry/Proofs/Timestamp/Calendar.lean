import ArtifactRegistry.Timestamp.Calendar
import Mathlib.Tactic.IntervalCases

/-! # Dates and day numbers

The dates that exist and the days are counted against each other: `isValid_ofDayNumber`,
`dayNumber_ofDayNumber` and `ofDayNumber_dayNumber`. Both ways lead through the place of a day in a year
that starts in March, `Placed`, which is unique. That days are counted by the calendar is
`dayNumber_next`: the next date has the next number, across the ends of months and years.
-/

namespace ArtifactRegistry.Calendar

/-- A day is in one period only when later periods start later. -/
theorem eq_of_between {start : Int → Int} (mono : ∀ {a b : Int}, a ≤ b → start a ≤ start b)
    {place a b : Int} (inA : start a ≤ place ∧ place < start (a + 1))
    (inB : start b ≤ place ∧ place < start (b + 1)) : a = b := by
  rcases Int.lt_trichotomy a b with before | same | behind
  · have := mono (show a + 1 ≤ b by omega)
    omega
  · exact same
  · have := mono (show b + 1 ≤ a by omega)
    omega

/-! ## Years -/

theorem daysBefore_mono {a b : Int} (earlier : a ≤ b) : daysBefore a ≤ daysBefore b := by
  rw [daysBefore, daysBefore]
  omega

theorem isLeapYear_iff {year : Int} :
    isLeapYear year = true ↔ year % 4 = 0 ∧ (year % 100 ≠ 0 ∨ year % 400 = 0) := by
  simp [isLeapYear]

theorem daysInMonth_le (year : Int) (month : Nat) : daysInMonth year month ≤ 31 := by
  rw [daysInMonth]
  split
  · split <;> decide
  · split <;> decide

/-- February has 28 days, or 29. -/
theorem daysInMonth_february (year : Int) :
    daysInMonth year 2 = if isLeapYear year = true then 29 else 28 := rfl

theorem february_bounds (year : Int) : 28 ≤ daysInMonth year 2 ∧ daysInMonth year 2 ≤ 29 := by
  rw [daysInMonth_february]
  split <;> omega

/-- A year that starts in March has 337 days and then the next February. -/
theorem daysBefore_succ (year : Int) :
    daysBefore (year + 1) = daysBefore year + 337 + daysInMonth (year + 1) 2 := by
  rw [daysBefore, daysBefore, daysInMonth_february]
  split
  · next leap =>
    have := isLeapYear_iff.mp leap
    omega
  · next common =>
    have := mt isLeapYear_iff.mpr common
    omega

/-- A day is in the year that is found for it. -/
theorem daysBefore_yearOfDay (day : Int) :
    daysBefore (yearOfDay day) ≤ day ∧ day < daysBefore (yearOfDay day + 1) := by
  -- The guess is the year of the day if all years were of the mean length.
  have near : daysBefore (day * 400 / 146097 - 1) ≤ day ∧
      day < daysBefore (day * 400 / 146097 + 1 + 1) := by
    rw [daysBefore, daysBefore]
    omega
  rw [yearOfDay]
  split
  · next before =>
    rw [Int.sub_add_cancel]
    exact ⟨near.1, before⟩
  · next notBefore =>
    split
    · next behind => exact ⟨behind, near.2⟩
    · next notBehind => exact ⟨Int.not_lt.mp notBefore, Int.not_le.mp notBehind⟩

/-! ## Months -/

theorem daysBeforeMonth_mono {a b : Int} (earlier : a ≤ b) :
    daysBeforeMonth a ≤ daysBeforeMonth b := by
  rw [daysBeforeMonth, daysBeforeMonth]
  omega

/-- A day of a year is in the month that is found for it. -/
theorem daysBeforeMonth_monthOfDay {day : Int} (first : 0 ≤ day) (last : day ≤ 365) :
    0 ≤ (5 * day + 2) / 153 ∧ (5 * day + 2) / 153 ≤ 11 ∧
      daysBeforeMonth ((5 * day + 2) / 153) ≤ day ∧
      day < daysBeforeMonth ((5 * day + 2) / 153 + 1) := by
  rw [daysBeforeMonth, daysBeforeMonth]
  omega

/-- The month of the calendar, for a month that is counted from March. -/
def calendarMonth (month : Nat) : Nat := if month < 10 then month + 3 else month - 9

theorem calendarMonth_bounds {month : Nat} (small : month ≤ 11) :
    1 ≤ calendarMonth month ∧ calendarMonth month ≤ 12 ∧ (calendarMonth month + 9) % 12 = month ∧
      (calendarMonth month ≤ 2 ↔ ¬ month < 10) := by
  rw [calendarMonth]
  split <;> omega

/-- Before February, the places of the months tell how long they are. -/
theorem daysInMonth_calendarMonth (year : Int) {month : Nat} (small : month < 11) :
    daysBeforeMonth month + daysInMonth year (calendarMonth month) = daysBeforeMonth (month + 1) := by
  interval_cases month <;> rfl

/-! ## Places -/

/-- The place of a day: the year that starts in March, and its month and day, both counted from
zero. The last month may end early. -/
structure Placed (number year : Int) (month day : Nat) : Prop where
  number_eq : number + epoch = daysBefore year + daysBeforeMonth month + day
  month_le : month ≤ 11
  day_lt : daysBeforeMonth month + day < daysBeforeMonth (month + 1)
  last : month = 11 → day < daysInMonth (year + 1) 2

/-- The year of the calendar, which starts with the last two months. -/
def calendarYear (year : Int) (month : Nat) : Int := if month < 10 then year else year + 1

/-- The date in a place. -/
def Date.ofPlace (year : Int) (month day : Nat) : Date :=
  ⟨calendarYear year month, calendarMonth month, day + 1⟩

/-- The days before a place are those before its year, its month and its day. -/
theorem dayNumber_ofPlace (year : Int) {month : Nat} (month_le : month ≤ 11) (day : Nat) :
    (Date.ofPlace year month day).dayNumber =
      daysBefore year + daysBeforeMonth month + day - epoch := by
  obtain ⟨-, -, same, early⟩ := calendarMonth_bounds month_le
  have march : (if calendarMonth month ≤ 2 then calendarYear year month - 1
      else calendarYear year month) = year := by
    rw [calendarYear]
    by_cases beforeJanuary : month < 10 <;> simp [early, beforeJanuary]
  rw [Date.ofPlace, Date.dayNumber]
  simp only [march, same]
  omega

namespace Placed

variable {number year : Int} {month day : Nat} (placed : Placed number year month day)

include placed

theorem dayNumber_eq : (Date.ofPlace year month day).dayNumber = number := by
  have sum := placed.number_eq
  rw [dayNumber_ofPlace year placed.month_le]
  omega

theorem isValid_ofPlace : (Date.ofPlace year month day).isValid = true := by
  obtain ⟨first, twelfth, -⟩ := calendarMonth_bounds placed.month_le
  have fits : day + 1 ≤ daysInMonth (calendarYear year month) (calendarMonth month) := by
    have := placed.month_le
    have := placed.day_lt
    by_cases isLast : month = 11
    · have short := placed.last isLast
      subst isLast
      exact short
    · have length := daysInMonth_calendarMonth (calendarYear year month)
        (show month < 11 by omega)
      omega
  simp [Date.ofPlace, Date.isValid, first, twelfth, fits]

/-- The day is in its year. -/
theorem year_bounds : daysBefore year ≤ number + epoch ∧ number + epoch < daysBefore (year + 1) := by
  have sum := placed.number_eq
  have length := daysBefore_succ year
  have first : daysBeforeMonth 0 = 0 := rfl
  have february : daysBeforeMonth 11 = 337 := rfl
  have := daysBeforeMonth_mono (show (0 : Int) ≤ month by omega)
  have := placed.month_le
  by_cases isLast : month = 11
  · have short := placed.last isLast
    subst isLast
    change number + epoch = daysBefore year + daysBeforeMonth 11 + day at sum
    omega
  · have := daysBeforeMonth_mono (show (month : Int) + 1 ≤ 11 by omega)
    have := placed.day_lt
    omega

/-- A day has one place. -/
theorem unique {year' : Int} {month' day' : Nat} (placed' : Placed number year' month' day') :
    year = year' ∧ month = month' ∧ day = day' := by
  obtain rfl : year = year' := eq_of_between daysBefore_mono placed.year_bounds placed'.year_bounds
  have sum := placed.number_eq
  have sum' := placed'.number_eq
  have inMonth := placed.day_lt
  have inMonth' := placed'.day_lt
  have within : daysBeforeMonth month ≤ daysBeforeMonth month + day ∧
      daysBeforeMonth month + day < daysBeforeMonth (month + 1) := by omega
  have within' : daysBeforeMonth month' ≤ daysBeforeMonth month + day ∧
      daysBeforeMonth month + day < daysBeforeMonth (month' + 1) := by omega
  have same : (month : Int) = month' := eq_of_between daysBeforeMonth_mono within within'
  obtain rfl : month = month' := by omega
  exact ⟨rfl, rfl, by omega⟩

end Placed

theorem exists_placed (number : Int) : ∃ year month day, Placed number year month day ∧
    Date.ofDayNumber number = .ofPlace year month day := by
  obtain ⟨begun, ends⟩ := daysBefore_yearOfDay (number + epoch)
  have length := daysBefore_succ (yearOfDay (number + epoch))
  have february := february_bounds (yearOfDay (number + epoch) + 1)
  obtain ⟨dayOfYear, within⟩ : ∃ dayOfYear : Nat,
      number + epoch - daysBefore (yearOfDay (number + epoch)) = dayOfYear :=
    Int.eq_ofNat_of_zero_le (by omega)
  obtain ⟨month, inMonth⟩ : ∃ month : Nat, (5 * dayOfYear + 2 : Int) / 153 = month :=
    Int.eq_ofNat_of_zero_le (by omega)
  obtain ⟨-, month_le, before, behind⟩ :=
    daysBeforeMonth_monthOfDay (show 0 ≤ (dayOfYear : Int) by omega) (by omega)
  rw [inMonth] at month_le before behind
  obtain ⟨day, within'⟩ : ∃ day : Nat, dayOfYear - daysBeforeMonth month = day :=
    Int.eq_ofNat_of_zero_le (by omega)
  refine ⟨yearOfDay (number + epoch), month, day, ⟨by omega, by omega, by omega, ?_⟩, ?_⟩
  · rintro rfl
    have place : daysBeforeMonth (11 : Nat) = 337 := rfl
    omega
  · simp only [Date.ofDayNumber, Date.ofPlace, within, inMonth, within', calendarMonth, calendarYear]
    by_cases beforeJanuary : month < 10
    · rw [if_pos (by omega), if_pos (by omega), if_pos beforeJanuary, if_pos beforeJanuary]
      rfl
    · rw [if_neg (by omega), if_neg (by omega), if_neg beforeJanuary, if_neg beforeJanuary]
      congr 1
      omega

/-- Every date that exists has a place. -/
theorem exists_placed_of_isValid {date : Date} (valid : date.isValid = true) :
    ∃ year month day, Placed date.dayNumber year month day ∧ date = .ofPlace year month day := by
  obtain ⟨inYear, inMonth, dayOfMonth⟩ := date
  simp only [Date.isValid, Bool.and_eq_true, decide_eq_true_eq] at valid
  obtain ⟨⟨⟨first, twelfth⟩, firstDay⟩, lastDay⟩ := valid
  obtain ⟨month, month_le, rfl⟩ : ∃ month, month ≤ 11 ∧ calendarMonth month = inMonth :=
    ⟨(inMonth + 9) % 12, by omega, by rw [calendarMonth]; split <;> omega⟩
  obtain ⟨year, rfl⟩ : ∃ year, calendarYear year month = inYear :=
    ⟨if month < 10 then inYear else inYear - 1, by rw [calendarYear]; split <;> omega⟩
  obtain ⟨day, rfl⟩ : ∃ day, day + 1 = dayOfMonth := ⟨dayOfMonth - 1, by omega⟩
  refine ⟨year, month, day, ⟨?_, month_le, ?_, ?_⟩, rfl⟩
  · have sum := dayNumber_ofPlace year month_le day
    rw [Date.ofPlace] at sum
    omega
  · by_cases isLast : month = 11
    · subst isLast
      have length := february_bounds (calendarYear year 11)
      change day + 1 ≤ daysInMonth (calendarYear year 11) 2 at lastDay
      have place : daysBeforeMonth (11 : Nat) = 337 := rfl
      have place' : daysBeforeMonth ((11 : Nat) + 1) = 367 := rfl
      omega
    · have length := daysInMonth_calendarMonth (calendarYear year month)
        (show month < 11 by omega)
      omega
  · rintro rfl
    exact lastDay

/-! ## Dates -/

/-- The date that is found for a day number exists. -/
theorem isValid_ofDayNumber (number : Int) : (Date.ofDayNumber number).isValid = true := by
  obtain ⟨year, month, day, placed, date_eq⟩ := exists_placed number
  rw [date_eq]
  exact placed.isValid_ofPlace

/-- The date that is found for a day number has this number. -/
theorem dayNumber_ofDayNumber (number : Int) : (Date.ofDayNumber number).dayNumber = number := by
  obtain ⟨year, month, day, placed, date_eq⟩ := exists_placed number
  rw [date_eq]
  exact placed.dayNumber_eq

/-- A date that exists is found for its day number. -/
theorem ofDayNumber_dayNumber {date : Date} (valid : date.isValid = true) :
    Date.ofDayNumber date.dayNumber = date := by
  obtain ⟨year, month, day, placed, date_eq⟩ := exists_placed_of_isValid valid
  obtain ⟨year', month', day', placed', found_eq⟩ := exists_placed date.dayNumber
  obtain ⟨rfl, rfl, rfl⟩ := placed.unique placed'
  rw [found_eq]
  exact date_eq.symm

/-- The next date of the calendar. -/
def Date.next (date : Date) : Date :=
  if date.day < daysInMonth date.year date.month then { date with day := date.day + 1 }
  else if date.month < 12 then ⟨date.year, date.month + 1, 1⟩
  else ⟨date.year + 1, 1, 1⟩

/-- The next place is in the same month, on the first day of the next one, or, behind the end of
February, on the first of March. -/
theorem Placed.next_eq {number year : Int} {month day : Nat} (placed : Placed number year month day) :
    (Date.ofPlace year month day).next =
      if day + 1 < daysInMonth (calendarYear year month) (calendarMonth month) then
        .ofPlace year month (day + 1)
      else if month < 11 then .ofPlace year (month + 1) 0
      else .ofPlace (year + 1) 0 0 := by
  have month_le := placed.month_le
  rw [Date.next]
  change (if day + 1 < daysInMonth (calendarYear year month) (calendarMonth month) then _ else _) = _
  congr 1
  interval_cases month <;> rfl

/-- Days are counted by the calendar: the next date has the next number. -/
theorem dayNumber_next {date : Date} (valid : date.isValid = true) :
    date.next.dayNumber = date.dayNumber + 1 := by
  obtain ⟨year, month, day, placed, rfl⟩ := exists_placed_of_isValid valid
  have month_le := placed.month_le
  rw [placed.next_eq, dayNumber_ofPlace year month_le]
  split
  · rw [dayNumber_ofPlace year month_le]
    omega
  · next atEnd =>
    replace atEnd : day + 1 = daysInMonth (calendarYear year month) (calendarMonth month) := by
      simp only [Date.isValid, Bool.and_eq_true, decide_eq_true_eq] at valid
      exact Nat.le_antisymm valid.2 (Nat.not_lt.mp atEnd)
    split
    · next early =>
      have length := daysInMonth_calendarMonth (calendarYear year month) early
      rw [dayNumber_ofPlace year early]
      push_cast
      omega
    · next isLast =>
      obtain rfl : month = 11 := by omega
      have length := daysBefore_succ year
      change day + 1 = daysInMonth (year + 1) 2 at atEnd
      rw [dayNumber_ofPlace (year + 1) (Nat.zero_le 11)]
      have place : daysBeforeMonth (11 : Nat) = 337 := rfl
      have place' : daysBeforeMonth (0 : Nat) = 0 := rfl
      omega

end ArtifactRegistry.Calendar
