-- SUMMARY: Reading times as people write them, absolute or relative.
import GenreProse.Calendar.Rfc3339
import GenreProse.Text.CaseFold

/-!
# Timestamps

A time may be `now`, relative to it (`-83 minutes`, `2 days ago`), a row of digits from the year to
the second, RFC 3339, a date with a time of day, or a date alone, which means its start. Times
without an offset are in UTC.
-/

namespace GenreProse

namespace Timestamp

/-! ## Relative times -/

/-- How far a relative time lies ahead. -/
inductive Distance where
  | seconds (count : Int)
  | months (count : Int)
  deriving DecidableEq, Repr

/-- What follows a word that the text opens with, when case is ignored, and the word as it is
    written there. -/
def takeFolded? : Chars → Chars → Option (Chars × Chars)
  | [], s => some ([], s)
  | _ :: _, [] => none
  | w :: word, c :: s =>
    if sameFolded w c then (takeFolded? word s).map fun (taken, rest) => (c :: taken, rest)
    else none

/-- The words for units of relative times. -/
def unitWords : List String :=
  ["second", "minute", "hour", "day", "week", "fortnight", "month", "year"]

/-- The distance of so many units. The unit is looked up as it is written, in small ASCII letters;
    a spelling with other characters counts as a year. -/
def distance (count : Int) (unit : String) : Distance :=
  match unit with
  | "second" => .seconds count
  | "minute" => .seconds (count * 60)
  | "hour" => .seconds (count * 3600)
  | "day" => .seconds (count * 86400)
  | "week" => .seconds (count * 604800)
  | "fortnight" => .seconds (count * 1209600)
  | "month" => .months count
  | _ => .months (count * 12)

def dropPlural : Chars → Chars
  | c :: s => if sameFolded 's' c then s else c :: s
  | [] => []

/-- Whether the text after the unit makes the distance lie in the past; nothing if it is something
    else. -/
def endsAgo? (s : Chars) : Option Bool :=
  match s with
  | [] => some false
  | _ :: _ =>
    match (PartialDate.takeBlanks? s).bind (takeFolded? "ago".toList) with
    | some (_, []) => some true
    | _ => none

/-- Splits off a sign: whether it is a minus. -/
def takeSign : Chars → Bool × Chars
  | '-' :: s => (true, s)
  | '+' :: s => (false, s)
  | s => (false, s)

/-- Reads the count and the unit of a relative time. The count is negative in the past, and the unit
    is as it is written, in small ASCII letters. -/
def countAndUnit? (s : Chars) : Option (Int × String) := do
  let (negative, s) := takeSign s
  let s := Chars.trimStart s
  let digits := s.takeWhile Char.isDigit
  let n ← decimal? digits
  let rest := Chars.trimStart (s.dropWhile Char.isDigit)
  let (unit, rest) ← unitWords.findSome? fun word => takeFolded? word.toList rest
  let ago ← endsAgo? (dropPlural rest)
  let count ← IntegerRange.signed32.check (if negative then -(n : Int) else n)
  let count ← IntegerRange.signed32.check (if ago then -count else count)
  return (count, String.ofList (unit.map Char.toLower))

/-- Reads a relative time. -/
def relative? (s : Chars) : Option Distance :=
  (countAndUnit? s).map fun (count, unit) => distance count unit

/-- The moment at a distance from another. -/
def move? (moment : Moment) : Distance → Option Moment
  | .seconds count => moment.addSeconds? count
  | .months count => do
    let months ← IntegerRange.signed32.check count
    return { moment with date := ← moment.date.addMonths? months }

/-! ## Absolute times -/

/-- The moment with the given parts in UTC. -/
def utc? (year month day hour minute second : Nat) : Option Moment := do
  return .utc (← Date.of? year month day) (← ClockTime.of? hour minute second 0)

/-- Reads the digits of a date, or of a date and a time of day. -/
def compact? (s : Chars) : Option Moment := do
  let (year, s) ← Rfc3339.takeDigits? 4 s
  let (month, s) ← Rfc3339.takeDigits? 2 s
  let (day, s) ← Rfc3339.takeDigits? 2 s
  if s.isEmpty then utc? year month day 0 0 0
  else
    let (hour, s) ← Rfc3339.takeDigits? 2 s
    let (minute, s) ← Rfc3339.takeDigits? 2 s
    let (second, s) ← Rfc3339.takeDigits? 2 s
    if s.isEmpty then utc? year month day hour minute second else none

/-- Reads the seconds of a time of day, which may be missing, and a `Z`, which may be missing
    too. -/
def secondsAndZone? (s : Chars) : Option Nat := do
  let (second, s) ← match s with
    | ':' :: s => Rfc3339.takeDigits? 2 s
    | s => some (0, s)
  if s = [] ∨ s = ['Z'] then some second else none

/-- Reads a date with a time of day, whose seconds may be missing. -/
def dateAndTime? (s : Chars) : Option Moment := do
  let (year, s) ← Rfc3339.takeDigits? 4 s
  let (month, s) ← Rfc3339.takeDigits? 2 (← Rfc3339.takeChar? '-' s)
  let (day, s) ← Rfc3339.takeDigits? 2 (← Rfc3339.takeChar? '-' s)
  let s ← Rfc3339.takeChar? 'T' s <|> Rfc3339.takeChar? ' ' s
  let (hour, s) ← PartialDate.takeNumber? 1 2 s
  let (minute, s) ← Rfc3339.takeDigits? 2 (← Rfc3339.takeChar? ':' s)
  utc? year month day hour minute (← secondsAndZone? s)

/-- Reads a time of any other form, or a date for its start. -/
def absolute? (s : Chars) : Option Moment :=
  compact? s <|> Rfc3339.read? (String.ofList s) <|> dateAndTime? s
    <|> (PartialDate.read? (String.ofList s)).map fun date => .utc date.firstDay .midnight

/-! ## All forms -/

/-- Reads a time, relative to the given one. -/
def read? (text : String) (now : Moment) : Option Moment :=
  let s := Chars.trim text.toList
  if sameIgnoringAsciiCase s "now".toList then some now
  else
    match relative? s with
    | some distance => move? now distance
    | none => absolute? s

end Timestamp

end GenreProse
