-- SUMMARY: Dates whose day or month may be unknown, shown and read.
import GenreProse.Calendar.Date

/-!
# Partial dates

Zero stands for a month or a day that is not known; without a month there is no day. An age counts
the anniversaries that have passed, and an unknown part counts as earlier than any known one.
-/

namespace GenreProse

/-- A number with zeros in front, up to a width that counts the sign. -/
def zeroPadded (width : Nat) (n : Int) : String :=
  let digits := (toString n.natAbs).toList
  let sign := if n < 0 then ['-'] else []
  String.ofList (sign ++ List.replicate (width - sign.length - digits.length) '0' ++ digits)

/-- A date whose day, or day and month, may be unknown. -/
structure PartialDate where
  year : Int
  month : Nat
  day : Nat
  valid : IsCalendarDay year (max month 1) (max day 1)
  day_zero : month = 0 → day = 0
  deriving DecidableEq

namespace PartialDate

/-- The first day of a year that the calendar has. -/
theorem isCalendarDay_first {year : Int} {month day : Nat} (h : IsCalendarDay year month day) :
    IsCalendarDay year 1 1 := by
  refine ⟨h.1, h.2.1, Nat.le_refl _, by decide, Nat.le_refl _, ?_⟩
  simp [daysInMonth, monthLengths]

/-- The partial date with the given parts, if the calendar has its first day. A day without a month
    is dropped. -/
def of? (year : Int) (month day : Nat) : Option PartialDate :=
  if h : IsCalendarDay year (max month 1) (max day 1) then
    if hm : month = 0 then some ⟨year, 0, 0, isCalendarDay_first h, fun _ => rfl⟩
    else some ⟨year, month, day, h, fun h0 => absurd h0 hm⟩
  else none

def ofDate (date : Date) : PartialDate where
  year := date.year
  month := date.month
  day := date.day
  valid := by
    obtain ⟨year, month, day, h⟩ := date
    rw [Nat.max_eq_left h.2.2.1, Nat.max_eq_left h.2.2.2.2.1]
    exact h
  day_zero h := absurd h (Nat.pos_iff_ne_zero.mp date.valid.2.2.1)

def isFull (date : PartialDate) : Bool :=
  date.day != 0

/-- The first day that the date may mean. -/
def firstDay (date : PartialDate) : Date :=
  ⟨date.year, max date.month 1, max date.day 1, date.valid⟩

/-! ## Writing -/

/-- The date in English, with the day or the month first. -/
def display (date : PartialDate) (dayFirst : Bool) : String :=
  let year := toString date.year
  let month := monthName date.month
  if date.month = 0 then year
  else if date.day = 0 then month ++ " " ++ year
  else if dayFirst then toString date.day ++ " " ++ month ++ " " ++ year
  else month ++ " " ++ toString date.day ++ ", " ++ year

/-- The date in the form `YYYY-MM-DD`, without the parts that are not known. -/
def iso (date : PartialDate) : String :=
  let year := zeroPadded 4 date.year
  if date.month = 0 then year
  else if date.day = 0 then year ++ "-" ++ zeroPadded 2 date.month
  else year ++ "-" ++ zeroPadded 2 date.month ++ "-" ++ zeroPadded 2 date.day

/-! ## Ages -/

/-- Whether the month and day of the first date come before those of the second. -/
def earlierInYear (a b : PartialDate) : Bool :=
  a.month < b.month || (a.month == b.month && a.day < b.day)

/-- The number of whole years between two dates. -/
def age (born day : PartialDate) : Int :=
  day.year - born.year - (if day.earlierInYear born then 1 else 0)

/-! ## Reading -/

/-- The month with the given English name, or its first three letters or more. Full stops at the
    end do not count. -/
def month? (text : String) : Option Nat :=
  let text := (Chars.dropEndWhile (· == '.') text.toList).map Char.toLower
  if text.length < 3 then none
  else
    (monthNames.findIdx? fun name => Chars.opensWith text (name.toList.map Char.toLower)).map
      (· + 1)

/-- Takes between `least` and `most` decimal digits off the start. No digit may follow. -/
def takeNumber? (least most : Nat) (s : Chars) : Option (Nat × Chars) :=
  let digits := s.takeWhile Char.isDigit
  if least ≤ digits.length ∧ digits.length ≤ most then
    (decimal? digits).map fun n => (n, s.dropWhile Char.isDigit)
  else none

def onlyNumber? (least most : Nat) (s : Chars) : Option Nat :=
  match takeNumber? least most s with
  | some (n, []) => some n
  | _ => none

/-- Takes at least one blank off the start. -/
def takeBlanks? (s : Chars) : Option Chars :=
  match s with
  | c :: rest => if isBlank c then some (Chars.trimStart rest) else none
  | [] => none

/-- Takes a comma off the start if there is one. -/
def dropComma : Chars → Chars
  | ',' :: s => s
  | s => s

/-- Takes a word of ASCII letters off the start, with a full stop after it if there is one. -/
def takeWord? (s : Chars) : Option (Chars × Chars) :=
  match s.takeWhile isAsciiLetter, s.dropWhile isAsciiLetter with
  | [], _ => none
  | word, '.' :: rest => some (word ++ ['.'], rest)
  | word, rest => some (word, rest)

/-- Reads `1989`, `1989-07` or `1989-07-23`, also of a negative year. -/
def ofNumbers? (s : Chars) : Option PartialDate := do
  let (negative, s) := match s with
    | '-' :: s => (true, s)
    | s => (false, s)
  let (year, s) ← takeNumber? 1 4 s
  let year : Int := if negative then -(year : Int) else year
  match s with
  | [] => of? year 0 0
  | '-' :: s =>
    let (month, s) ← takeNumber? 1 2 s
    match s with
    | [] => of? year month 0
    | '-' :: s => of? year month (← onlyNumber? 1 2 s)
    | _ => none
  | _ => none

/-- Reads `July 23, 1989`. -/
def ofMonthFirst? (s : Chars) : Option PartialDate := do
  let (name, s) ← takeWord? s
  let (day, s) ← takeNumber? 1 2 (← takeBlanks? s)
  let year ← onlyNumber? 1 4 (← takeBlanks? (dropComma s))
  of? year (← month? (String.ofList name)) day

/-- Reads `July 1989`, after the day of the month. -/
def ofMonthAndYear? (day : Nat) (s : Chars) : Option PartialDate := do
  let (name, s) ← takeWord? s
  let year ← onlyNumber? 1 4 (← takeBlanks? (dropComma s))
  of? year (← month? (String.ofList name)) day

/-- Reads `23 July 1989` or `July 1989`. -/
def ofDayFirst? (s : Chars) : Option PartialDate :=
  match takeNumber? 1 2 s with
  | some (day, s) => (takeBlanks? s).bind (ofMonthAndYear? day)
  | none => ofMonthAndYear? 0 s

/-- Reads a date as people write it: in numbers from the year on, or in English. -/
def read? (text : String) : Option PartialDate :=
  let s := Chars.trim text.toList
  ofNumbers? s <|> ofMonthFirst? s <|> ofDayFirst? s

end PartialDate

end GenreProse
