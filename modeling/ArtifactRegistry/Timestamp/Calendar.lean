/-! # Days of the Gregorian calendar

Days are counted from the first of January 1970, years from the year zero and beyond it in both
directions. Counting goes by years that start in March, so that the leap day is the last of its year
and the months before it have fixed places.
-/

namespace ArtifactRegistry.Calendar

structure Date where
  year : Int
  month : Nat
  day : Nat
deriving DecidableEq, Repr

def isLeapYear (year : Int) : Bool := year % 4 = 0 && (year % 100 ≠ 0 || year % 400 = 0)

def daysInMonth (year : Int) (month : Nat) : Nat :=
  if month = 2 then if isLeapYear year then 29 else 28
  else if month = 4 ∨ month = 6 ∨ month = 9 ∨ month = 11 then 30
  else 31

/-- Whether a date exists. -/
def Date.isValid (date : Date) : Bool :=
  1 ≤ date.month && date.month ≤ 12 && 1 ≤ date.day && date.day ≤ daysInMonth date.year date.month

/-- The days before a year that starts in March, from the first of March of the year zero. -/
def daysBefore (year : Int) : Int := 365 * year + year / 4 - year / 100 + year / 400

/-- The days before a month of such a year; March is month zero. -/
def daysBeforeMonth (month : Int) : Int := (153 * month + 2) / 5

/-- The days from the first of March of the year zero to the first of January 1970. -/
def epoch : Int := 719468

/-- The day number of a date. -/
def Date.dayNumber (date : Date) : Int :=
  let year := if date.month ≤ 2 then date.year - 1 else date.year
  let month := (date.month + 9) % 12
  daysBefore year + daysBeforeMonth month + (date.day - 1) - epoch

/-- The year starting in March that holds a day: an estimate that is off by at most one. -/
def yearOfDay (day : Int) : Int :=
  let guess := day * 400 / 146097
  if day < daysBefore guess then guess - 1
  else if daysBefore (guess + 1) ≤ day then guess + 1
  else guess

/-- The date of a day number. -/
def Date.ofDayNumber (number : Int) : Date :=
  let day := number + epoch
  let year := yearOfDay day
  let dayOfYear := day - daysBefore year
  let month := (5 * dayOfYear + 2) / 153
  { year := if month < 10 then year else year + 1
    month := (if month < 10 then month + 3 else month - 9).toNat
    day := (dayOfYear - daysBeforeMonth month + 1).toNat }

end ArtifactRegistry.Calendar
