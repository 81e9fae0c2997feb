-- SUMMARY: A time in UTC is read alike from all its spellings.
import GenreProse.Calendar.Timestamp
import GenreProse.Proofs.Calendar.Written

/-!
# Spellings of a time

A time may be written as a row of digits, or with a date and a time of day that a blank or a `T`
separates and a `Z` may follow. Each spelling is refused by all readers that are tried before its
own, and its own takes every number from its place.
-/

namespace GenreProse

variable {s rest : Chars}

/-- The date in numbers, with two digits for the month and the day and four for the year. -/
def Date.inNumbers (date : Date) (separator : String) : String :=
  zeroPadded 4 date.year ++ separator ++ zeroPadded 2 date.month ++ separator
    ++ zeroPadded 2 date.day

/-- The time of day in numbers of two digits, to the second. -/
def ClockTime.inNumbers (time : ClockTime) (separator : String) : String :=
  zeroPadded 2 time.hour ++ separator ++ zeroPadded 2 time.minute ++ separator
    ++ zeroPadded 2 time.second

namespace Timestamp

/-- The spellings of a date for its start. -/
def dateSpellings (date : Date) : List String :=
  [date.inNumbers "", date.inNumbers "-"]

/-- The spellings of a date and a time of day. -/
def spellings (date : Date) (time : ClockTime) : List String :=
  let withBlank := date.inNumbers "-" ++ " " ++ time.inNumbers ":"
  let withLetter := date.inNumbers "-" ++ "T" ++ time.inNumbers ":"
  [date.inNumbers "" ++ time.inNumbers "", withBlank, withLetter, withBlank ++ "Z",
    withLetter ++ "Z"]

end Timestamp

/-! ## Parts -/

theorem isDigit_of_mem_append_paddedDigits (hrest : ∀ c ∈ rest, c.isDigit) (width n : Nat) :
    ∀ c ∈ paddedDigits width n ++ rest, c.isDigit :=
  List.forall_mem_append.2 ⟨fun _ hc => isDigit_of_mem_paddedDigits hc, hrest⟩

namespace Date

variable (date : Date)

/-- The characters of a date in numbers with dashes, in front of others. -/
def dashed (rest : Chars) : Chars :=
  paddedDigits 4 date.year.natAbs ++ '-' :: (paddedDigits 2 date.month ++
    '-' :: (paddedDigits 2 date.day ++ rest))

def joined (rest : Chars) : Chars :=
  paddedDigits 4 date.year.natAbs ++
    (paddedDigits 2 date.month ++ (paddedDigits 2 date.day ++ rest))

/-- A date in numbers has its year in four digits, and its month and its day in two. -/
theorem toList_inNumbers (hyear : 0 ≤ date.year) (separator : String) :
    (date.inNumbers separator).toList = paddedDigits 4 date.year.natAbs ++ (separator.toList ++
      (paddedDigits 2 date.month ++ (separator.toList ++ paddedDigits 2 date.day))) := by
  have hsign := Int.natAbs_of_nonneg hyear
  unfold inNumbers
  rw [← hsign]
  simp only [String.toList_append, toList_zeroPadded_natCast, List.append_assoc, Int.natAbs_natCast]

theorem isDigit_of_mem_joined (hrest : ∀ c ∈ rest, c.isDigit) :
    ∀ c ∈ date.joined rest, c.isDigit := by
  refine isDigit_of_mem_append_paddedDigits ?_ _ _
  exact isDigit_of_mem_append_paddedDigits (isDigit_of_mem_append_paddedDigits hrest _ _) _ _

/-- The parts of a date are those of the date. -/
theorem of?_parts (hyear : 0 ≤ date.year) :
    of? date.year.natAbs date.month date.day = some date :=
  of?_eq_some_iff.2 ⟨(Int.natAbs_of_nonneg hyear).symm, rfl, rfl⟩

theorem inNumbers_eq_iso : date.inNumbers "-" = (PartialDate.ofDate date).iso := by
  have hmonth : date.month ≠ 0 := Nat.ne_of_gt date.valid.2.2.1
  have hday : date.day ≠ 0 := Nat.ne_of_gt date.valid.2.2.2.2.1
  simp only [PartialDate.iso, PartialDate.ofDate, hmonth, hday, if_false, inNumbers]

/-- Of a full date nothing is left open. -/
theorem firstDay_ofDate : (PartialDate.ofDate date).firstDay = date := by
  obtain ⟨year, month, day, hvalid⟩ := date
  simp only [PartialDate.firstDay, PartialDate.ofDate, Nat.max_eq_left hvalid.2.2.1,
    Nat.max_eq_left hvalid.2.2.2.2.1]

end Date

namespace ClockTime

variable (time : ClockTime)

def coloned (rest : Chars) : Chars :=
  paddedDigits 2 time.hour ++ ':' :: (paddedDigits 2 time.minute ++
    ':' :: (paddedDigits 2 time.second ++ rest))

def joined (rest : Chars) : Chars :=
  paddedDigits 2 time.hour ++ (paddedDigits 2 time.minute ++ (paddedDigits 2 time.second ++ rest))

theorem toList_inNumbers (separator : String) : (time.inNumbers separator).toList =
    paddedDigits 2 time.hour ++ (separator.toList ++
      (paddedDigits 2 time.minute ++ (separator.toList ++ paddedDigits 2 time.second))) := by
  unfold inNumbers
  simp only [String.toList_append, toList_zeroPadded_natCast, List.append_assoc]

theorem isDigit_of_mem_joined (hrest : ∀ c ∈ rest, c.isDigit) :
    ∀ c ∈ time.joined rest, c.isDigit := by
  refine isDigit_of_mem_append_paddedDigits ?_ _ _
  exact isDigit_of_mem_append_paddedDigits (isDigit_of_mem_append_paddedDigits hrest _ _) _ _

theorem hour_lt : time.hour < 24 :=
  Nat.div_lt_of_lt_mul time.seconds_lt

theorem minute_lt : time.minute < 60 :=
  Nat.mod_lt _ (by decide)

theorem second_lt : time.second < 60 :=
  Nat.mod_lt _ (by decide)

/-- The parts of a time are those of the time, if it has no fraction of a second. -/
theorem of?_parts (hnanos : time.nanos = 0) :
    of? time.hour time.minute time.second 0 = some time := by
  have hparts : time.hour * 3600 + time.minute * 60 + time.second = time.seconds := by
    unfold hour minute second
    omega
  obtain ⟨seconds, nanos, hseconds, hlt⟩ := time
  obtain rfl : nanos = 0 := hnanos
  unfold of?
  rw [dif_pos ⟨hour_lt _, minute_lt _, second_lt _, hlt⟩]
  simp only [hparts]

end ClockTime

namespace Timestamp

/-! ## Reading -/

/-- Digits have no sign before them. -/
theorem takeSign_of_isDigit (hfirst : ∀ c ∈ s.head?, c.isDigit) : takeSign s = (false, s) := by
  cases s with
  | nil => rfl
  | cons c s =>
    have hdigit : c.isDigit := hfirst c rfl
    rw [takeSign]
    · rintro rest heq
      rw [(List.cons.inj heq).1] at hdigit
      exact absurd hdigit (by decide)
    · rintro rest heq
      rw [(List.cons.inj heq).1] at hdigit
      exact absurd hdigit (by decide)

/-- No unit starts with a dash. -/
theorem findSome?_unit (hrest : ∀ c ∈ rest.head?, c = '-') :
    (unitWords.findSome? fun word => takeFolded? word.toList rest) = none := by
  cases rest with
  | nil => rfl
  | cons c rest =>
    obtain rfl : c = '-' := hrest c rfl
    rfl

/-- A text that starts with a digit, and whose first number ends or has a dash after it, is no
    relative time. -/
theorem relative?_eq_none (hfirst : ∀ c ∈ s.head?, c.isDigit)
    (hnumber : ∀ c ∈ (s.dropWhile Char.isDigit).head?, c = '-') : relative? s = none := by
  have hblank : ∀ c ∈ s.head?, isBlank c = false := fun c hc => isBlank_of_isDigit (hfirst c hc)
  have hdash : ∀ c ∈ (s.dropWhile Char.isDigit).head?, isBlank c = false := by
    intro c hc
    rw [hnumber c hc]
    rfl
  have hstart : Chars.trimStart s = s := (Chars.takeWhile_none hblank).2
  have hrest : Chars.trimStart (s.dropWhile Char.isDigit) = s.dropWhile Char.isDigit :=
    (Chars.takeWhile_none hdash).2
  simp only [relative?, countAndUnit?, takeSign_of_isDigit hfirst, hstart, hrest,
    findSome?_unit hnumber, Option.bind_eq_bind, Option.bind_none, Option.bind_fun_none,
    Option.map_none]

/-- A text that starts with a digit, and whose first number ends or has a dash after it, is neither
    the present nor relative to it. -/
theorem read?_eq_absolute? {text : String} (htext : text.toList = s)
    (hfirst : ∀ c ∈ s.head?, c.isDigit) (hnumber : ∀ c ∈ (s.dropWhile Char.isDigit).head?, c = '-')
    (hlast : ∀ c ∈ s.getLast?, isBlank c = false) (now : Moment) :
    read? text now = absolute? s := by
  have hblank : ∀ c ∈ s.head?, isBlank c = false := fun c hc => isBlank_of_isDigit (hfirst c hc)
  have hnow : sameIgnoringAsciiCase s "now".toList = false := by
    cases s with
    | nil => rfl
    | cons c s =>
      have hdigit : c.isDigit := hfirst c rfl
      have hlower : c.toLower.isDigit = c.isDigit :=
        eq_of_toLower (f := Char.isDigit) (Chars.forall_of_all (by decide)) c
      rw [Bool.eq_false_iff]
      intro hsame
      have hfirst : c.toLower = 'n' := (List.cons.inj (eq_of_beq hsame)).1
      rw [hfirst, hdigit] at hlower
      exact absurd hlower (by decide)
  simp only [read?, htext, Chars.trim_of_ends hblank hlast, hnow, relative?_eq_none hfirst hnumber,
    Bool.false_eq_true, if_false]

/-- The readers of absolute times are tried in order. -/
theorem absolute?_eq (s : Chars) : absolute? s = (compact? s).or
    ((Rfc3339.read? (String.ofList s)).or ((dateAndTime? s).or
      ((PartialDate.read? (String.ofList s)).map fun date => .utc date.firstDay .midnight))) := by
  simp only [absolute?, Option.orElse_eq_orElse, Option.orElse_eq_or]

theorem takeDigits?_dash (rest : Chars) : Rfc3339.takeDigits? 2 ('-' :: rest) = none := by
  cases rest with
  | nil => rfl
  | cons c rest => rfl

section

variable (date : Date) (time : ClockTime)

theorem takeDigits?_year (rest : Chars) :
    Rfc3339.takeDigits? 4 (paddedDigits 4 date.year.natAbs ++ rest) =
      some (date.year.natAbs, rest) :=
  takeDigits?_paddedDigits (by decide) (PartialDate.ofDate date).natAbs_year_lt

theorem takeDigits?_month (rest : Chars) :
    Rfc3339.takeDigits? 2 (paddedDigits 2 date.month ++ rest) = some (date.month, rest) :=
  takeDigits?_paddedDigits (by decide) (PartialDate.ofDate date).month_lt

theorem takeDigits?_day (rest : Chars) :
    Rfc3339.takeDigits? 2 (paddedDigits 2 date.day ++ rest) = some (date.day, rest) :=
  takeDigits?_paddedDigits (by decide) (PartialDate.ofDate date).day_lt

theorem takeDigits?_hour (rest : Chars) :
    Rfc3339.takeDigits? 2 (paddedDigits 2 time.hour ++ rest) = some (time.hour, rest) :=
  takeDigits?_paddedDigits (by decide) (Nat.lt_trans time.hour_lt (by decide))

theorem takeDigits?_minute (rest : Chars) :
    Rfc3339.takeDigits? 2 (paddedDigits 2 time.minute ++ rest) = some (time.minute, rest) :=
  takeDigits?_paddedDigits (by decide) (Nat.lt_trans time.minute_lt (by decide))

theorem takeDigits?_second (rest : Chars) :
    Rfc3339.takeDigits? 2 (paddedDigits 2 time.second ++ rest) = some (time.second, rest) :=
  takeDigits?_paddedDigits (by decide) (Nat.lt_trans time.second_lt (by decide))

variable {date time}

/-- The parts of a date and a time make up the moment. -/
theorem utc?_parts (hyear : 0 ≤ date.year) (hnanos : time.nanos = 0) :
    utc? date.year.natAbs date.month date.day time.hour time.minute time.second =
      some (.utc date time) := by
  simp only [utc?, date.of?_parts hyear, time.of?_parts hnanos, Option.pure_def,
    Option.bind_eq_bind, Option.bind_some]

/-- With dashes a date is not in the compact form. -/
theorem compact?_dashed : compact? (date.dashed rest) = none := by
  simp only [compact?, Date.dashed, takeDigits?_year, takeDigits?_dash, Option.bind_eq_bind,
    Option.bind_some, Option.bind_none]

/-- A date without dashes is read as its midnight. -/
theorem compact?_date (hyear : 0 ≤ date.year) :
    compact? (date.joined []) = some (.utc date .midnight) := by
  have hmidnight : ClockTime.midnight.nanos = 0 := rfl
  have hutc := utc?_parts hyear hmidnight
  simp only [compact?, Date.joined, takeDigits?_year, takeDigits?_month, takeDigits?_day,
    Option.bind_eq_bind, Option.bind_some]
  exact hutc

/-- A date and a time without any marks between are read. -/
theorem compact?_joined (hyear : 0 ≤ date.year) (hnanos : time.nanos = 0) :
    compact? (date.joined (time.joined [])) = some (.utc date time) := by
  have hne : (time.joined []).isEmpty = false := by
    obtain ⟨first, digits, hdigits, -⟩ := exists_paddedDigits_cons 2 time.hour
    rw [ClockTime.joined, hdigits]
    rfl
  simp only [compact?, Date.joined, takeDigits?_year, takeDigits?_month, takeDigits?_day, hne,
    Option.bind_eq_bind, Option.bind_some, Bool.false_eq_true, if_false]
  simp only [ClockTime.joined, takeDigits?_hour, takeDigits?_minute, takeDigits?_second,
    List.isEmpty_nil, if_true, Option.bind_some, utc?_parts hyear hnanos]

theorem takeChar?_cons (c : Char) (rest : Chars) : Rfc3339.takeChar? c (c :: rest) = some rest :=
  if_pos rfl

/-- A reader goes on with what its first step finds. -/
theorem bind_of_eq_some {α β : Type} {found : Option α} {a : α} (h : found = some a)
    (f : α → Option β) : found >>= f = f a := by
  rw [h]
  rfl

/-- Without a time of day there is no time. -/
theorem rfc3339_date : Rfc3339.read? (String.ofList (date.dashed [])) = none := by
  rw [Rfc3339.read?, String.toList_ofList, Date.dashed]
  refine (bind_of_eq_some (takeDigits?_year date _) _).trans ?_
  refine (bind_of_eq_some (takeChar?_cons '-' _) _).trans ?_
  refine (bind_of_eq_some (takeDigits?_month date _) _).trans ?_
  refine (bind_of_eq_some (takeChar?_cons '-' _) _).trans ?_
  exact bind_of_eq_some (takeDigits?_day date _) _

/-- A date alone is not in the form of a date and a time. -/
theorem dateAndTime?_date : dateAndTime? (date.dashed []) = none := by
  simp only [dateAndTime?, Date.dashed, takeDigits?_year, takeDigits?_month, takeDigits?_day,
    takeChar?_cons, Option.bind_eq_bind, Option.bind_some]
  rfl

/-- What follows the seconds is left to the reader of offsets. -/
theorem rfc3339_coloned (hyear : 0 ≤ date.year) (hnanos : time.nanos = 0) {separator : Char}
    (hascii : separator.toNat < 0x80) (hrest : '.' ∉ rest.head?) :
    Rfc3339.read? (String.ofList (date.dashed (separator :: time.coloned rest))) =
      (Rfc3339.offset? rest).map fun offset => ⟨date, time, offset⟩ := by
  have hfraction : Rfc3339.takeFraction? rest = some (0, rest) := by
    rw [Rfc3339.takeFraction?]
    rintro s rfl
    exact hrest rfl
  have hleap : (time.second == 60) = false := beq_false_of_ne (Nat.ne_of_lt time.second_lt)
  rw [Rfc3339.read?, String.toList_ofList, Date.dashed, ClockTime.coloned]
  refine (bind_of_eq_some (takeDigits?_year date _) _).trans ?_
  refine (bind_of_eq_some (takeChar?_cons '-' _) _).trans ?_
  refine (bind_of_eq_some (takeDigits?_month date _) _).trans ?_
  refine (bind_of_eq_some (takeChar?_cons '-' _) _).trans ?_
  refine (bind_of_eq_some (takeDigits?_day date _) _).trans ?_
  refine (bind_of_eq_some List.head?_cons _).trans ?_
  refine (bind_of_eq_some (takeDigits?_hour time _) _).trans ?_
  refine (bind_of_eq_some (takeChar?_cons ':' _) _).trans ?_
  refine (bind_of_eq_some (takeDigits?_minute time _) _).trans ?_
  refine (bind_of_eq_some (takeChar?_cons ':' _) _).trans ?_
  refine (bind_of_eq_some (takeDigits?_second time _) _).trans ?_
  refine (bind_of_eq_some hfraction _).trans ?_
  dsimp only
  rw [date.of?_parts hyear]
  rcases Rfc3339.offset? rest with _ | offset
  · rfl
  · simp [hleap, time.of?_parts hnanos, hascii]

/-- A date with dashes and a time with colons are read, with or without the letter of the zone. -/
theorem dateAndTime?_coloned (hyear : 0 ≤ date.year) (hnanos : time.nanos = 0) {separator : Char}
    (hseparator : separator = 'T' ∨ separator = ' ') (hrest : rest = [] ∨ rest = ['Z']) :
    dateAndTime? (date.dashed (separator :: time.coloned rest)) = some (.utc date time) := by
  have hstart : (Rfc3339.takeChar? 'T' (separator :: time.coloned rest) <|>
      Rfc3339.takeChar? ' ' (separator :: time.coloned rest)) = some (time.coloned rest) := by
    rcases hseparator with rfl | rfl <;> rfl
  have hhour : PartialDate.takeNumber? 1 2 (time.coloned rest) =
      some (time.hour, ':' :: (paddedDigits 2 time.minute ++
        ':' :: (paddedDigits 2 time.second ++ rest))) := by
    refine takeNumber?_paddedDigits (Nat.le_refl 2) (by decide)
      (Nat.lt_trans time.hour_lt (by decide)) ?_
    rintro _ ⟨⟩
    rfl
  have hsecond : secondsAndZone? (':' :: (paddedDigits 2 time.second ++ rest)) =
      some time.second := by
    simp only [secondsAndZone?, takeDigits?_second, Option.bind_eq_bind, Option.bind_some, hrest,
      if_true]
  simp only [dateAndTime?, Date.dashed, takeDigits?_year, takeDigits?_month, takeDigits?_day,
    takeChar?_cons, hstart, hhour, takeDigits?_minute, hsecond, utc?_parts hyear hnanos,
    Option.bind_eq_bind, Option.bind_some]

/-! ## Agreement -/

theorem exists_getLast?_digits (width n : Nat) :
    ∃ last, (paddedDigits width n).getLast? = some last ∧ isBlank last = false := by
  have hlast := List.getLast?_eq_some_getLast (paddedDigits_ne_nil width n)
  exact ⟨_, hlast, isBlank_of_isDigit (isDigit_of_mem_paddedDigits (List.mem_of_getLast? hlast))⟩

/-- A date with dashes in front makes a time absolute. -/
theorem read?_dashed {text : String} (htext : text.toList = date.dashed rest)
    (hlast : ∀ c ∈ rest.getLast?, isBlank c = false) (now : Moment) :
    read? text now = absolute? (date.dashed rest) := by
  refine read?_eq_absolute? htext (isDigit_head_paddedDigits 4 date.year.natAbs _) ?_ ?_ now
  · rw [Date.dashed, (takeWhile_paddedDigits _ _ _).2]
    · rintro _ ⟨⟩
      rfl
    · rintro _ ⟨⟩
      rfl
  · obtain ⟨last, hday, hblank⟩ := exists_getLast?_digits 2 date.day
    cases hrest : rest.getLast? with
    | none => simp [Date.dashed, List.getLast?_append, List.getLast?_cons, hrest, hday, hblank]
    | some c => simp [Date.dashed, List.getLast?_append, List.getLast?_cons, hrest, hlast c hrest]

/-- A row of digits is an absolute time. -/
theorem read?_digits {text : String} (htext : text.toList = s) (hdigits : ∀ c ∈ s, c.isDigit)
    (now : Moment) : read? text now = absolute? s := by
  refine read?_eq_absolute? htext (fun c hc => hdigits c (List.mem_of_head? hc)) ?_ ?_ now
  · have hnil : s.dropWhile Char.isDigit = [] := List.dropWhile_eq_nil_iff.2 hdigits
    rw [hnil]
    nofun
  · exact fun c hc => isBlank_of_isDigit (hdigits c (List.mem_of_getLast? hc))

/-- A date with dashes and a time with colons are the moment, whichever form they are read in. -/
theorem read?_coloned {text : String} (hyear : 0 ≤ date.year) (hnanos : time.nanos = 0)
    {separator : Char} (hseparator : separator = 'T' ∨ separator = ' ')
    (hrest : rest = [] ∨ rest = ['Z'])
    (htext : text.toList = date.dashed (separator :: time.coloned rest)) (now : Moment) :
    read? text now = some (.utc date time) := by
  have hlast : ∀ c ∈ (separator :: time.coloned rest).getLast?, isBlank c = false := by
    obtain ⟨last, hsecond, hblank⟩ := exists_getLast?_digits 2 time.second
    rcases hrest with rfl | rfl
    · simp [ClockTime.coloned, List.getLast?_append, List.getLast?_cons, hsecond, hblank]
    · simp [ClockTime.coloned, List.getLast?_append, List.getLast?_cons]
      rfl
  have hascii : separator.toNat < 0x80 := by
    rcases hseparator with rfl | rfl <;> decide
  have hpoint : '.' ∉ rest.head? := by
    rcases hrest with rfl | rfl <;> nofun
  rw [read?_dashed htext hlast, absolute?_eq, compact?_dashed, Option.none_or,
    rfc3339_coloned hyear hnanos hascii hpoint]
  -- A time with a `Z` has an offset and is read here; without one it is left to the next reader.
  rcases hrest with rfl | rfl
  · have hzone : Rfc3339.offset? [] = none := rfl
    rw [hzone, Option.map_none, Option.none_or,
      dateAndTime?_coloned hyear hnanos hseparator (.inl rfl), Option.some_or]
  · have hzone : Rfc3339.offset? ['Z'] = some 0 := rfl
    rw [hzone, Option.map_some, Option.some_or]
    rfl

/-- How a date with dashes and a time with colons are written. -/
theorem toList_dateAndTime (time : ClockTime) (hyear : 0 ≤ date.year) (separator zone : String) :
    (date.inNumbers "-" ++ separator ++ time.inNumbers ":" ++ zone).toList =
      date.dashed (separator.toList ++ time.coloned zone.toList) := by
  simp [date.toList_inNumbers hyear, time.toList_inNumbers, Date.dashed, ClockTime.coloned]

/-- Neither the separator of date and time nor the `Z` makes a difference. -/
theorem read?_dateAndTime (hyear : 0 ≤ date.year) (hnanos : time.nanos = 0)
    (separator zone : String) (hseparator : separator = "T" ∨ separator = " ")
    (hzone : zone = "" ∨ zone = "Z") (now : Moment) :
    read? (date.inNumbers "-" ++ separator ++ time.inNumbers ":" ++ zone) now =
      some (.utc date time) := by
  have htext := toList_dateAndTime time hyear separator zone
  obtain ⟨c, hc, hchar⟩ : ∃ c, (c = 'T' ∨ c = ' ') ∧ separator.toList = [c] := by
    rcases hseparator with rfl | rfl
    · exact ⟨'T', .inl rfl, rfl⟩
    · exact ⟨' ', .inr rfl, rfl⟩
  have hrest : zone.toList = [] ∨ zone.toList = ['Z'] := by
    rcases hzone with rfl | rfl
    · exact .inl rfl
    · exact .inr rfl
  rw [hchar, List.singleton_append] at htext
  exact read?_coloned hyear hnanos hc hrest htext now

/-- A date and a time without any marks between are the moment. -/
theorem read?_joined (hyear : 0 ≤ date.year) (hnanos : time.nanos = 0) (now : Moment) :
    read? (date.inNumbers "" ++ time.inNumbers "") now = some (.utc date time) := by
  have htext : (date.inNumbers "" ++ time.inNumbers "").toList = date.joined (time.joined []) := by
    simp [date.toList_inNumbers hyear, time.toList_inNumbers, Date.joined, ClockTime.joined]
  have hdigits : ∀ c ∈ date.joined (time.joined []), c.isDigit :=
    date.isDigit_of_mem_joined (time.isDigit_of_mem_joined nofun)
  rw [read?_digits htext hdigits, absolute?_eq, compact?_joined hyear hnanos, Option.some_or]

/-- A date is the start of its day, with dashes and without. -/
theorem read?_date (hyear : 0 ≤ date.year) (now : Moment) :
    ∀ text ∈ dateSpellings date, read? text now = some (.utc date .midnight) := by
  refine List.forall_mem_cons.2 ⟨?_, List.forall_mem_cons.2 ⟨?_, nofun⟩⟩
  · have htext : (date.inNumbers "").toList = date.joined [] := by
      simp [date.toList_inNumbers hyear, Date.joined]
    rw [read?_digits htext (date.isDigit_of_mem_joined nofun), absolute?_eq, compact?_date hyear,
      Option.some_or]
  · have htext : (date.inNumbers "-").toList = date.dashed [] := by
      simp [date.toList_inNumbers hyear, Date.dashed]
    have hread : PartialDate.read? (String.ofList (date.dashed [])) = some (.ofDate date) := by
      rw [← htext, String.ofList_toList, date.inNumbers_eq_iso, PartialDate.read?_iso]
    rw [read?_dashed htext nofun, absolute?_eq, compact?_dashed, rfc3339_date, dateAndTime?_date,
      hread, Option.map_some, date.firstDay_ofDate, Option.none_or, Option.none_or, Option.none_or]

/-- A time in UTC is read alike from all its spellings, and the start of a day from the spellings of
    the date. -/
theorem read?_spelling (hyear : 0 ≤ date.year) (hnanos : time.nanos = 0) (now : Moment) :
    (∀ text ∈ spellings date time, read? text now = some (.utc date time)) ∧
      ∀ text ∈ dateSpellings date, read? text now = some (.utc date .midnight) := by
  have hletter (zone : String) := read?_dateAndTime hyear hnanos "T" zone (.inl rfl)
  have hblank (zone : String) := read?_dateAndTime hyear hnanos " " zone (.inr rfl)
  refine ⟨?_, read?_date hyear now⟩
  simp only [spellings, List.forall_mem_cons]
  refine ⟨read?_joined hyear hnanos now, ?_, ?_, hblank "Z" (.inr rfl) now,
    hletter "Z" (.inr rfl) now, nofun⟩
  · rw [← String.append_empty (s := _ ++ _)]
    exact hblank "" (.inl rfl) now
  · rw [← String.append_empty (s := _ ++ _)]
    exact hletter "" (.inl rfl) now

/-- The last second of the leap day of the year 0. -/
theorem read?_spelling_leapDay :
    let date : Date := ⟨0, 2, 29, by decide⟩
    let time : ClockTime := ⟨86399, 0, by decide, by decide⟩
    let now : Moment := .utc ⟨2024, 3, 15, by decide⟩ .midnight
    spellings date time = ["00000229235959", "0000-02-29 23:59:59", "0000-02-29T23:59:59",
      "0000-02-29 23:59:59Z", "0000-02-29T23:59:59Z"] ∧
    dateSpellings date = ["00000229", "0000-02-29"] ∧
    (∀ text ∈ spellings date time, read? text now = some (.utc date time)) ∧
      ∀ text ∈ dateSpellings date, read? text now = some (.utc date .midnight) := by
  intro date time now
  exact ⟨by decide +kernel, by decide +kernel, read?_spelling (by decide) rfl now⟩

end

end Timestamp

end GenreProse
