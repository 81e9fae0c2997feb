-- SUMMARY: Reading times in the form of RFC 3339.
import GenreProse.Calendar.Moment

/-!
# RFC 3339

The form is `2024-03-15T12:00:00.5+01:00`. Any ASCII character may separate date and time, the
fraction may be missing and is cut off after nine digits, and `Z` or `z` stands for no offset. A
sixtieth second is allowed where a leap second may be, at the end of a month in UTC; it becomes the
last nanosecond before it.
-/

namespace GenreProse

namespace Rfc3339

/-- Takes exactly so many digits off the start. -/
def takeDigits? (count : Nat) (s : Chars) : Option (Nat × Chars) :=
  let digits := s.take count
  if digits.length = count then (decimal? digits).map fun n => (n, s.drop count) else none

def takeChar? (c : Char) : Chars → Option Chars
  | d :: s => if c = d then some s else none
  | [] => none

/-- Takes a fraction of a second off the start, in nanoseconds. -/
def takeFraction? : Chars → Option (Nat × Chars)
  | '.' :: s =>
    match s.takeWhile Char.isDigit with
    | [] => none
    | digits =>
      (decimal? ((digits ++ List.replicate 9 '0').take 9)).map fun n =>
        (n, s.dropWhile Char.isDigit)
  | s => some (0, s)

/-- Reads hours and minutes of an offset, in seconds. -/
def offsetOf? (s : Chars) : Option Nat := do
  let (hours, s) ← takeDigits? 2 s
  let (minutes, s) ← takeDigits? 2 (← takeChar? ':' s)
  if s.isEmpty && hours < 24 && minutes < 60 then some (hours * 3600 + minutes * 60) else none

/-- Reads an offset from UTC, in seconds. -/
def offset? : Chars → Option Int
  | ['Z'] => some 0
  | ['z'] => some 0
  | '+' :: s => (offsetOf? s).map fun n => (n : Int)
  | '-' :: s => (offsetOf? s).map fun n => -(n : Int)
  | _ => none

/-- Whether the moment is in the last second of a month in UTC. -/
def endsMonth (moment : Moment) : Bool :=
  let n := moment.unixSeconds
  match Date.ofDayNumber? (n / secondsPerDay + Date.epoch) with
  | none => false
  | some date =>
    n % secondsPerDay == 86399 && date.day == daysInMonth date.year date.month

def read? (text : String) : Option Moment := do
  let s := text.toList
  let (year, s) ← takeDigits? 4 s
  let (month, s) ← takeDigits? 2 (← takeChar? '-' s)
  let (day, s) ← takeDigits? 2 (← takeChar? '-' s)
  let separator ← s.head?
  let (hour, s) ← takeDigits? 2 s.tail
  let (minute, s) ← takeDigits? 2 (← takeChar? ':' s)
  let (second, s) ← takeDigits? 2 (← takeChar? ':' s)
  let (nanos, s) ← takeFraction? s
  let offset ← offset? s
  let date ← Date.of? year month day
  let isLeap := second == 60
  let time ←
    if isLeap then ClockTime.of? hour minute 59 (nanosPerSecond - 1)
    else ClockTime.of? hour minute second nanos
  let moment : Moment := ⟨date, time, offset⟩
  if separator.toNat < 0x80 && (!isLeap || endsMonth moment) then some moment else none

end Rfc3339

end GenreProse
