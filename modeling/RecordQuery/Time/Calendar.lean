/-!
# The calendar

Dates of the proleptic Gregorian calendar and their day numbers, counted from 1970-01-01. The year
is reckoned from March, so that the leap day is the last of its year, and years are grouped in eras
of 400 with 146097 days.
-/

namespace RecordQuery

structure Date where
  year : Int
  month : Nat
  day : Nat
deriving DecidableEq

namespace Date

def isLeapYear (year : Int) : Bool := year % 4 == 0 && (year % 100 != 0 || year % 400 == 0)

def daysInMonth (year : Int) (month : Nat) : Nat :=
  if month = 2 then (if isLeapYear year then 29 else 28)
  else if month = 4 ∨ month = 6 ∨ month = 9 ∨ month = 11 then 30
  else 31

/-- The calendar ends where its years do. -/
def inRange (date : Date) : Bool := -262143 ≤ date.year && date.year ≤ 262142

def isValid (date : Date) : Bool :=
  date.inRange && 1 ≤ date.month && date.month ≤ 12 && 1 ≤ date.day &&
    date.day ≤ daysInMonth date.year date.month

/-- Days from 0000-03-01 to the first of March of a year within its era. -/
def daysBeforeYear (yearOfEra : Nat) : Nat :=
  365 * yearOfEra + yearOfEra / 4 - yearOfEra / 100

def daysBeforeMonth (monthFromMarch : Nat) : Nat := (153 * monthFromMarch + 2) / 5

def toDayNumber (date : Date) : Int :=
  let year := if date.month ≤ 2 then date.year - 1 else date.year
  let monthFromMarch := if date.month ≤ 2 then date.month + 9 else date.month - 3
  let dayOfEra := daysBeforeYear (year % 400).toNat + daysBeforeMonth monthFromMarch + date.day - 1
  year / 400 * 146097 + dayOfEra - 719468

def ofDayNumber (n : Int) : Date :=
  let shifted := n + 719468
  let dayOfEra := (shifted % 146097).toNat
  let yearOfEra := (dayOfEra - dayOfEra / 1460 + dayOfEra / 36524 - dayOfEra / 146096) / 365
  let dayOfYear := dayOfEra - daysBeforeYear yearOfEra
  let monthFromMarch := (5 * dayOfYear + 2) / 153
  let month := if monthFromMarch < 10 then monthFromMarch + 3 else monthFromMarch - 9
  let year : Int := shifted / 146097 * 400 + yearOfEra
  { year := if month ≤ 2 then year + 1 else year
    month
    day := dayOfYear - daysBeforeMonth monthFromMarch + 1 }

end Date

end RecordQuery
