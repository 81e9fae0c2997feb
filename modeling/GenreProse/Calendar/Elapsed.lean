-- SUMMARY: Lengths of time in whole units.
import GenreProse.Text.Basic

/-!
# Elapsed time

A length of time is told in whole units of one kind. Months and years have their mean length in the
Gregorian calendar.
-/

namespace GenreProse

/-- A unit of time, the finest first. -/
inductive TimeUnit where
  | second
  | minute
  | hour
  | day
  | week
  | month
  | year
  deriving DecidableEq, Repr

namespace TimeUnit

/-- All units, the coarsest first. -/
def all : List TimeUnit :=
  [year, month, week, day, hour, minute, second]

def seconds : TimeUnit → Nat
  | second => 1
  | minute => 60
  | hour => 3600
  | day => 86400
  | week => 604800
  | month => 2629746
  | year => 31556952

def name : TimeUnit → String
  | second => "second"
  | minute => "minute"
  | hour => "hour"
  | day => "day"
  | week => "week"
  | month => "month"
  | year => "year"

/-- The unit with the given name, which may be a plural. -/
def ofName? (text : String) : Option TimeUnit :=
  let stem := (Chars.dropEndWhile (· == 's') (Chars.trim text.toList)).map Char.toLower
  all.find? fun unit => unit.name.toList == stem

/-- The coarser of two units. -/
def coarser (a b : TimeUnit) : TimeUnit :=
  if a.seconds < b.seconds then b else a

/-- The coarsest unit that is not longer than so many seconds. -/
def fitting (elapsed : Nat) : TimeUnit :=
  (all.find? fun unit => unit.seconds ≤ elapsed).getD second

/-- The unit for a length of time. It may be given; else it is the coarsest that fits, but not finer
    than `finest`. -/
def telling (elapsed : Nat) (unit finest : Option TimeUnit) : TimeUnit :=
  unit.getD <|
    match finest with
    | some finest => (fitting elapsed).coarser finest
    | none => fitting elapsed

end TimeUnit

/-- The largest count of units, the largest signed integer of 64 bits. -/
def largestCount : Nat :=
  9223372036854775807

/-- The whole units in a length of time, whatever its sign, and the unit. -/
def splitElapsed (elapsed : Int) (unit finest : Option TimeUnit) : Nat × TimeUnit :=
  let unit := TimeUnit.telling elapsed.natAbs unit finest
  (min (elapsed.natAbs / unit.seconds) largestCount, unit)

end GenreProse
