-- SUMMARY: Dates of the Gregorian calendar and arithmetic with days and months.
import GenreProse.Number.Integer

/-!
# Dates

The proleptic Gregorian calendar from the year -9999 to 9999. Days are numbered from 1 January of
the year 0. Adding months keeps the day unless the month is too short for it.
-/

namespace GenreProse

/-! ## Years and months -/

/-- Whether the year has a 29 February. -/
def isLeapYear (year : Int) : Bool :=
  year % 4 == 0 && (year % 100 != 0 || year % 400 == 0)

/-- The lengths of the months of a year. -/
def monthLengths (year : Int) : List Nat :=
  [31, if isLeapYear year then 29 else 28, 31, 30, 31, 30, 31, 31, 30, 31, 30, 31]

/-- The number of days of a month; zero if there is no such month. -/
def daysInMonth (year : Int) (month : Nat) : Nat :=
  if month = 0 then 0 else (monthLengths year).getD (month - 1) 0

def monthNames : List String :=
  ["January", "February", "March", "April", "May", "June", "July", "August", "September",
    "October", "November", "December"]

/-- The English name of a month; empty if there is no such month. -/
def monthName (month : Nat) : String :=
  if month = 0 then "" else monthNames.getD (month - 1) ""

def minYear : Int :=
  -9999

def maxYear : Int :=
  9999

/-! ## Dates -/

/-- Whether the calendar has the day. -/
def IsCalendarDay (year : Int) (month day : Nat) : Prop :=
  minYear ≤ year ∧ year ≤ maxYear ∧ 1 ≤ month ∧ month ≤ 12
    ∧ 1 ≤ day ∧ day ≤ daysInMonth year month

instance (year : Int) (month day : Nat) : Decidable (IsCalendarDay year month day) := by
  unfold IsCalendarDay
  infer_instance

/-- The day from which system clocks count. -/
theorem isCalendarDay_epoch : IsCalendarDay 1970 1 1 := by decide

/-- A day of the calendar. -/
structure Date where
  year : Int
  month : Nat
  day : Nat
  valid : IsCalendarDay year month day
  deriving DecidableEq

namespace Date

/-- The day with the given parts, if the calendar has it. -/
def of? (year : Int) (month day : Nat) : Option Date :=
  if h : IsCalendarDay year month day then some ⟨year, month, day, h⟩ else none

/-! ## Day numbers -/

/-- How many days lie between 1 January of the year 0 and of the given year. -/
def daysBeforeYear (year : Int) : Int :=
  365 * year + (year + 3) / 4 - (year + 99) / 100 + (year + 399) / 400

/-- How many days of the year lie before the month. -/
def daysBeforeMonth (year : Int) (month : Nat) : Nat :=
  ((monthLengths year).take (month - 1)).foldr (· + ·) 0

/-- The number of a day, where 1 January of the year 0 is day 0. -/
def dayNumber (date : Date) : Int :=
  daysBeforeYear date.year + daysBeforeMonth date.year date.month + (date.day : Int) - 1

/-- The number of 1 January 1970. -/
def epoch : Int :=
  719528

/-- The year of a day number. The estimate from the mean length of a year is off by at most
    one. -/
def yearOfDay (n : Int) : Int :=
  let year := n * 400 / 146097
  if n < daysBeforeYear year then year - 1
  else if daysBeforeYear (year + 1) ≤ n then year + 1
  else year

/-- The month and the day of the month after so many days. The second number counts the months
    already passed. -/
def monthOfDay : List Nat → Nat → Nat → Nat × Nat
  | [], passed, n => (passed, n)
  | length :: lengths, passed, n =>
    if n < length then (passed + 1, n + 1) else monthOfDay lengths (passed + 1) (n - length)

/-- The day with the given number, if the calendar has it. -/
def ofDayNumber? (n : Int) : Option Date :=
  let year := yearOfDay n
  let (month, day) := monthOfDay (monthLengths year) 0 (n - daysBeforeYear year).toNat
  of? year month day

def next? (date : Date) : Option Date :=
  ofDayNumber? (date.dayNumber + 1)

/-! ## Months and years -/

/-- The months since January of the year 0. -/
def monthIndex (date : Date) : Int :=
  date.year * 12 + (date.month : Int) - 1

/-- The date so many months later. A day that the month does not have becomes its last day. -/
def addMonths? (date : Date) (months : Int) : Option Date := do
  let index ← IntegerRange.signed32.check (date.monthIndex + months)
  let year := index / 12
  let month := (index % 12).toNat + 1
  of? year month (min date.day (daysInMonth year month))

def addYears? (date : Date) (years : Int) : Option Date := do
  let months ← IntegerRange.signed32.check (years * 12)
  date.addMonths? months

/-- The first and the last day on which somebody who had the given age on the date may be born. -/
def birthRange? (age : Int) (asOf : Date) : Option (Date × Date) := do
  let older ← IntegerRange.signed32.check (age + 1)
  let tooEarly ← asOf.addYears? (← IntegerRange.signed32.check (-older))
  let earliest ← tooEarly.next?
  let latest ← asOf.addYears? (← IntegerRange.signed32.check (-age))
  return (earliest, latest)

end Date

end GenreProse
