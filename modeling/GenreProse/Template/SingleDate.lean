-- SUMMARY: Templates that show one date, and the reading of dates in arguments.
import GenreProse.Number.Integer
import GenreProse.Calendar.PartialDate
import GenreProse.Template.Eval

/-!
# Single dates

Dates come as year, month and day in three arguments; the month and the day may be missing, and the
month may be a name. A full date may have a time of day after it.
-/

namespace GenreProse

namespace Template

/-! ## Arguments -/

/-- The message for dates that are missing or impossible. -/
def invalidDate : Prose :=
  .error "Error: Need valid year, month, day"

/-- The argument with a number as a year of the calendar. -/
def yearAt? (call : Call) (index : Nat) : Option Int :=
  (call.integerAt? .signed32 index).filter fun year => minYear ≤ year && year ≤ maxYear

/-- A small number in an argument that may be missing; then it is zero. -/
def smallNumber? (text : Option String) : Option Nat :=
  match text with
  | none => some 0
  | some text => (IntegerRange.unsigned8.read? text).map Int.toNat

/-- A month in an argument that may be missing: a number or an English name. -/
def monthNumber? (text : Option String) : Option Nat :=
  smallNumber? text <|> text.bind PartialDate.month?

/-- The date in three arguments from the given number on. -/
def dateAt? (call : Call) (index : Nat) : Option PartialDate := do
  let year ← yearAt? call index
  let month ← monthNumber? (call.at? (index + 1))
  let day ← smallNumber? (call.at? (index + 2))
  PartialDate.of? year month day

/-- The argument with a number as a number below a bound. -/
def below? (call : Call) (index bound : Nat) : Option Nat :=
  ((call.integerAt? .unsigned8 index).map Int.toNat).filter (· < bound)

/-! ## Single dates -/

/-- A time of day with a time zone, as a date template shows it. -/
structure DayTime where
  hour : Nat
  minute : Nat
  second : Option Nat
  zone : Option String

namespace DayTime

/-- The time of day in the arguments after the date. -/
def of? (call : Call) : Option DayTime := do
  let hour ← below? call 4 24
  return ⟨hour, (below? call 5 60).getD 0, below? call 6 60, call.at? 7⟩

/-- The time before a date, and the time zone after it. -/
def display (time : DayTime) (date : String) : String :=
  let seconds := match time.second with
    | some second => ":" ++ zeroPadded 2 second
    | none => ""
  let zone := match time.zone with
    | some zone => " (" ++ (if zone = "Z" then "UTC" else zone) ++ ")"
    | none => ""
  zeroPadded 2 time.hour ++ ":" ++ zeroPadded 2 time.minute ++ seconds ++ ", " ++ date ++ zone

/-- The time after a date, in the form of ISO 8601. -/
def iso (time : DayTime) (date : String) : String :=
  let zone := match time.zone with
    | some zone => if zone = "UTC" then "Z" else zone
    | none => ""
  date ++ "T" ++ zeroPadded 2 time.hour ++ ":" ++ zeroPadded 2 time.minute ++ ":"
    ++ zeroPadded 2 (time.second.getD 0) ++ zone

end DayTime

/-- A date with the time of day in the arguments, if the date is full. -/
def dateProse (call : Call) (date : PartialDate) : Prose :=
  let shown := date.display (call.flag "df")
  match (if date.isFull then DayTime.of? call else none) with
  | some time => .framed (.time (time.iso date.iso)) [.text (time.display shown)]
  | none => .framed (.time date.iso) [.text shown]

def singleDate (call : Call) : Prose :=
  match dateAt? call 1 with
  | some date => dateProse call date
  | none => invalidDate

end Template

end GenreProse
