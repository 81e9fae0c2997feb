-- SUMMARY: Which moment a relative time in the past means, and how many units pass until now.
import GenreProse.Proofs.Calendar.Elapsed
import GenreProse.Proofs.Calendar.Moments
import GenreProse.Proofs.Calendar.Months
import GenreProse.Proofs.Calendar.Written
import GenreProse.Proofs.Number.Ranges

/-!
# Relative times

So many months or years before now are counted on the calendar, where months are not equally long,
but the time that has passed since is told in months and years of mean length. No count of months
drifts away from the mean by a whole month, so what is told is the count itself or one less. Units
of a fixed length are told as they were counted.
-/

namespace GenreProse

variable {n : Nat} {unit : TimeUnit} {now earlier : Moment}

/-! ## The moment so many units before -/

/-- How many months of the calendar a unit has; nothing if its length is fixed. -/
def TimeUnit.months? : TimeUnit → Option Nat
  | .month => some 1
  | .year => some 12
  | _ => none

/-- Whether one date lies so many months before another. A day that its month does not have becomes
    the last one. -/
def Date.IsMonthsBefore (months : Nat) (earlier date : Date) : Prop :=
  earlier.monthIndex + months = date.monthIndex ∧
    earlier.day = min date.day (daysInMonth earlier.year earlier.month)

instance (months : Nat) (earlier date : Date) : Decidable (earlier.IsMonthsBefore months date) :=
  inferInstanceAs (Decidable (_ ∧ _))

/-- Whether one moment lies so many units before another, at the same offset. -/
def Moment.IsBefore (n : Nat) (unit : TimeUnit) (earlier now : Moment) : Prop :=
  earlier.offset = now.offset ∧
    match unit.months? with
    | none => earlier.unixNanos + (n * unit.seconds * nanosPerSecond : Nat) = now.unixNanos
    | some months => earlier.time = now.time ∧ earlier.date.IsMonthsBefore (n * months) now.date

/-! ### Seconds -/

/-- A moment so many seconds later is the one with that distance on the time line and the same
    offset. -/
theorem Moment.addSeconds?_eq_some_iff {seconds : Int} : now.addSeconds? seconds = some earlier ↔
    earlier.offset = now.offset ∧
      earlier.unixNanos = now.unixNanos + seconds * nanosPerSecond := by
  obtain ⟨date, ⟨clock, nanos, hclock, hnanos⟩, offset⟩ := now
  obtain ⟨date', ⟨clock', nanos', hclock', hnanos'⟩, offset'⟩ := earlier
  have hpositive : (0 : Int) < secondsPerDay := by decide
  simp only [addSeconds?, Option.bind_eq_bind, Option.bind_eq_some_iff, Option.pure_def,
    Option.some.injEq, Date.ofDayNumber?_eq_some_iff, Moment.mk.injEq, ClockTime.mk.injEq]
  unfold unixNanos unixSeconds
  unfold secondsPerDay nanosPerSecond at *
  dsimp only
  constructor
  · rintro ⟨_, hnumber, rfl, ⟨hclock, rfl⟩, rfl⟩
    refine ⟨rfl, ?_⟩
    omega
  · rintro ⟨rfl, heq⟩
    refine ⟨date', ?_, rfl, ⟨?_, ?_⟩, rfl⟩ <;> omega

/-! ### Months -/

namespace Date

variable {date earlier : Date} {months : Nat}

/-- Counting back by months leads to the day that is so many months before. -/
theorem addMonths?_neg_eq_some_iff :
    date.addMonths? (-months) = some earlier ↔ earlier.IsMonthsBefore months date := by
  have hindex : earlier.monthIndex + months = date.monthIndex ↔
      earlier.monthIndex = date.monthIndex + -months := by omega
  rw [addMonths?_eq_some_iff, IsMonthsBefore, hindex]

/-! ### Drift -/

/-- Day numbers drift by less than ten days from 4800 months of mean length in 146097 days. -/
theorem drift_bounds (date : Date) :
    -38400 ≤ 4800 * (date.dayNumber - date.day) - 146097 * date.monthIndex ∧
      4800 * (date.dayNumber - date.day) - 146097 * date.monthIndex ≤ 38400 := by
  obtain ⟨-, -, hfirst, hlast, -⟩ := date.valid
  obtain ⟨hleast, hgreatest⟩ := daysBeforeMonth_bounds date.year hfirst hlast
  -- The divisions by 4, 100 and 400 that count leap years round by a day each at most.
  unfold dayNumber monthIndex daysBeforeYear
  omega

/-- A count of months on the calendar is within one of the months of mean length. -/
theorem IsMonthsBefore.days_bounds (h : earlier.IsMonthsBefore months date) :
    (months - 1 : Int) * TimeUnit.month.seconds ≤
        (date.dayNumber - earlier.dayNumber) * secondsPerDay ∧
      (date.dayNumber - earlier.dayNumber) * secondsPerDay <
        (months + 1 : Int) * TimeUnit.month.seconds := by
  obtain ⟨hindex, hday⟩ := h
  obtain ⟨hleast, hgreatest⟩ := date.drift_bounds
  obtain ⟨hleast', hgreatest'⟩ := earlier.drift_bounds
  obtain ⟨-, -, hfirst, hlast, -⟩ := earlier.valid
  obtain ⟨hshortest, -⟩ := daysInMonth_bounds earlier.year hfirst hlast
  obtain ⟨-, -, hfirst', hlast', -, hday'⟩ := date.valid
  obtain ⟨-, hlongest⟩ := daysInMonth_bounds date.year hfirst' hlast'
  -- Twice the drift and a day that is cut off at the end of its month stay below a month.
  unfold secondsPerDay TimeUnit.seconds
  dsimp only
  omega

end Date

/-! ## Counting up to now -/

namespace Moment

/-- Whether the days since an earlier moment fall short of so many months or years of mean
    length. -/
def FallsShort (n : Nat) (unit : TimeUnit) (earlier now : Moment) : Prop :=
  unit.months?.isSome ∧
    (now.date.dayNumber - earlier.date.dayNumber) * secondsPerDay < (n * unit.seconds : Nat)

instance (n : Nat) (unit : TimeUnit) (earlier now : Moment) :
    Decidable (FallsShort n unit earlier now) :=
  inferInstanceAs (Decidable (_ ∧ _))

/-- Whole seconds between two moments are counted back exactly. -/
theorem secondsSince_eq {seconds : Int}
    (h : earlier.unixNanos + seconds * nanosPerSecond = now.unixNanos) :
    now.secondsSince earlier = seconds := by
  rw [secondsSince, ← h, add_sub_cancel_left]
  exact Int.mul_tdiv_cancel _ (by decide)

/-- At the same time of day, whole days have passed. -/
theorem secondsSince_of_time_eq (hoffset : earlier.offset = now.offset)
    (htime : earlier.time = now.time) : now.secondsSince earlier =
      (now.date.dayNumber - earlier.date.dayNumber) * secondsPerDay := by
  refine secondsSince_eq ?_
  unfold unixNanos unixSeconds
  rw [hoffset, htime]
  unfold secondsPerDay nanosPerSecond
  omega

/-- Units of a fixed length pass in full. -/
theorem IsBefore.secondsSince_fixed (h : earlier.IsBefore n unit now)
    (hunit : unit.months? = none) : now.secondsSince earlier = n * unit.seconds := by
  simp only [IsBefore, hunit] at h
  refine secondsSince_eq ?_
  rw [← h.2]
  push_cast
  rfl

/-- Of months and years of mean length, less than one is missing, and less than one more has
    passed. -/
theorem IsBefore.secondsSince_months (h : earlier.IsBefore n unit now)
    (hunit : unit.months?.isSome) :
    now.secondsSince earlier =
      (now.date.dayNumber - earlier.date.dayNumber) * secondsPerDay ∧
    (n - 1 : Int) * unit.seconds ≤ now.secondsSince earlier ∧
      now.secondsSince earlier < (n + 1 : Int) * unit.seconds := by
  obtain ⟨months, hmonths⟩ := Option.isSome_iff_exists.1 hunit
  simp only [IsBefore, hmonths] at h
  obtain ⟨hoffset, htime, hbefore⟩ := h
  obtain ⟨hleast, hgreatest⟩ := hbefore.days_bounds
  have helapsed := secondsSince_of_time_eq hoffset htime
  refine ⟨helapsed, ?_⟩
  rw [helapsed]
  generalize (now.date.dayNumber - earlier.date.dayNumber) * (secondsPerDay : Int) = elapsed at *
  cases unit <;> cases hmonths <;> simp only [TimeUnit.seconds] at * <;> omega

/-- A length of time is split into the whole units that fit into it. -/
theorem splitElapsed_of_bounds {elapsed : Int} {count : Nat} (hmost : count ≤ largestCount)
    (hfrom : (count : Int) * unit.seconds ≤ elapsed)
    (huntil : elapsed < (count + 1 : Int) * unit.seconds) :
    splitElapsed elapsed (some unit) none = (count, unit) := by
  have hnonneg : 0 ≤ elapsed := le_trans (Int.mul_nonneg (by omega) (by omega)) hfrom
  obtain ⟨elapsed, rfl⟩ := Int.eq_ofNat_of_zero_le hnonneg
  have hcount : elapsed / unit.seconds = count :=
    isWhole_iff.1 ⟨by exact_mod_cast hfrom, by exact_mod_cast huntil⟩
  simp only [splitElapsed, TimeUnit.telling, Option.getD_some, Int.natAbs_natCast, hcount,
    Nat.min_eq_left hmost]

/-- What is counted up to now is the count itself, or one less where the days fall short. -/
theorem IsBefore.splitElapsed_eq (h : earlier.IsBefore n unit now) (hleast : 1 ≤ n)
    (hmost : n ≤ largestCount) :
    splitElapsed (now.secondsSince earlier) (some unit) none =
      (if FallsShort n unit earlier now then n - 1 else n, unit) := by
  cases hunit : unit.months?.isSome with
  | false =>
    have helapsed := h.secondsSince_fixed (by simpa using hunit)
    have hpositive := unit.seconds_pos
    rw [if_neg fun hshort => Bool.eq_false_iff.1 hunit hshort.1]
    refine splitElapsed_of_bounds hmost helapsed.ge ?_
    rw [helapsed, Int.add_mul, Int.one_mul]
    omega
  | true =>
    obtain ⟨helapsed, hfrom, huntil⟩ := h.secondsSince_months hunit
    split
    · next hshort =>
      have hless := hshort.2
      rw [← helapsed, Nat.cast_mul] at hless
      refine splitElapsed_of_bounds ((Nat.sub_le n 1).trans hmost) ?_ ?_
      · rwa [Nat.cast_sub hleast]
      · rwa [Nat.cast_sub hleast, Nat.cast_one, Int.sub_add_cancel]
    · next hshort =>
      refine splitElapsed_of_bounds hmost (not_lt.1 fun hless => hshort ⟨hunit, ?_⟩) huntil
      rwa [← helapsed, Nat.cast_mul]

end Moment

/-! ## Reading -/

namespace Timestamp

/-- The text for so many units before now. -/
def before (n : Nat) (unit : TimeUnit) : String :=
  "-" ++ toString n ++ " " ++ unit.name

/-- The largest count of units that is read with a minus sign. -/
def farthest : Nat :=
  2147483648

/-- A time that is so many units before now is written with a minus sign. -/
theorem toList_before (n : Nat) (unit : TimeUnit) :
    (before n unit).toList = '-' :: (paddedDigits 0 n ++ ' ' :: unit.name.toList) := by
  simp [before, paddedDigits_zero]

theorem trim_before (n : Nat) (unit : TimeUnit) :
    Chars.trim (before n unit).toList = (before n unit).toList := by
  rw [toList_before]
  refine Chars.trim_of_ends ?_ ?_
  · rintro _ ⟨⟩
    rfl
  · cases unit <;> simp [TimeUnit.name, List.getLast?_append, List.getLast?_cons] <;> rfl

/-- The count and the unit are read back, unless the count is too large. -/
theorem countAndUnit?_before (n : Nat) (unit : TimeUnit) : countAndUnit? (before n unit).toList =
    if n ≤ farthest then some (-(n : Int), unit.name) else none := by
  have hend : ∀ c ∈ (' ' :: unit.name.toList).head?, c.isDigit = false := by
    rintro _ ⟨⟩
    rfl
  obtain ⟨htake, hdrop⟩ := takeWhile_paddedDigits 0 n hend
  have hstart : Chars.trimStart (paddedDigits 0 n ++ ' ' :: unit.name.toList) =
      paddedDigits 0 n ++ ' ' :: unit.name.toList :=
    (Chars.takeWhile_none (isBlank_head_paddedDigits 0 n _)).2
  have hname : Chars.trimStart (' ' :: unit.name.toList) = unit.name.toList := by
    cases unit <;> rfl
  have hunit : (unitWords.findSome? fun word => takeFolded? word.toList unit.name.toList) =
      some (unit.name.toList, []) := by
    cases unit <;> rfl
  have hlower : String.ofList (unit.name.toList.map Char.toLower) = unit.name := by
    cases unit <;> rfl
  have hcheck : IntegerRange.signed32.check (-(n : Int)) =
      if n ≤ farthest then some (-(n : Int)) else none := by
    have hhas : IntegerRange.signed32.Has (-(n : Int)) ↔ n ≤ farthest := by
      simp only [IntegerRange.Has, IntegerRange.signed32, farthest]
      omega
    split
    · next h => exact IntegerRange.check_of_has (hhas.2 h)
    · next h => exact IntegerRange.check_of_not_has fun h' => h (hhas.1 h')
  have hsign (s : Chars) : takeSign ('-' :: s) = (true, s) := rfl
  have hago : endsAgo? (dropPlural []) = some false := rfl
  rw [toList_before]
  simp only [countAndUnit?, hsign, hstart, htake, hdrop, decimal?_paddedDigits, hname, hunit, hago,
    if_true, Option.bind_eq_bind, Option.bind_some, hcheck, hlower]
  split
  · next h =>
    simp only [Option.bind_some, Bool.false_eq_true, if_false, hcheck, if_pos h, Option.pure_def]
  · rfl

/-- The names of units are read as the units. -/
theorem distance_name (count : Int) (unit : TimeUnit) : distance count unit.name =
    match unit.months? with
    | none => .seconds (count * unit.seconds)
    | some months => .months (count * months) := by
  cases unit <;> simp [distance, TimeUnit.name, TimeUnit.months?, TimeUnit.seconds]

/-- A distance into the past leads to the moment that the calendar has there. -/
theorem move?_of_isBefore (h : earlier.IsBefore n unit now) :
    move? now (distance (-n) unit.name) = some earlier := by
  rw [distance_name]
  obtain ⟨hoffset, h⟩ := h
  cases hmonths : unit.months? with
  | none =>
    simp only [hmonths] at h ⊢
    refine Moment.addSeconds?_eq_some_iff.2 ⟨hoffset, ?_⟩
    rw [← h]
    push_cast
    rw [Int.neg_mul, Int.neg_mul, Int.add_neg_cancel_right]
  | some months =>
    simp only [hmonths] at h ⊢
    obtain ⟨htime, hbefore⟩ := h
    have hrange := now.date.monthIndex_range
    have hrange' := earlier.date.monthIndex_range
    have hcount : -(n : Int) * months = -(n * months : Nat) := by
      push_cast
      exact Int.neg_mul _ _
    have hhas : IntegerRange.signed32.Has (-(n : Int) * months) := by
      have hindex := hbefore.1
      rw [hcount]
      simp only [IntegerRange.Has, IntegerRange.signed32]
      omega
    have hdate := Date.addMonths?_neg_eq_some_iff.2 hbefore
    obtain ⟨date, time, offset⟩ := earlier
    obtain rfl : time = now.time := htime
    obtain rfl : offset = now.offset := hoffset
    rw [← hcount] at hdate
    simp only [move?, IntegerRange.check_of_has hhas, hdate, Option.bind_eq_bind, Option.bind_some,
      Option.pure_def]

/-! ### Counts that are too large -/

/-- No word starts with a minus sign. -/
theorem takeWord?_minus (rest : Chars) : PartialDate.takeWord? ('-' :: rest) = none :=
  rfl

/-- No digits are taken from a minus sign. -/
theorem takeDigits?_minus (count : Nat) (rest : Chars) :
    Rfc3339.takeDigits? (count + 1) ('-' :: rest) = none := by
  rw [Rfc3339.takeDigits?, List.take_succ_cons, decimal?_eq_none List.mem_cons_self rfl]
  exact ite_self _

/-- A text with a minus sign in front is no absolute time, unless it is a date in numbers. -/
theorem absolute?_minus {rest : Chars} (htrim : Chars.trim ('-' :: rest) = '-' :: rest)
    (hyear : PartialDate.takeNumber? 1 4 rest = none) : absolute? ('-' :: rest) = none := by
  have hday : PartialDate.takeNumber? 1 2 ('-' :: rest) = none := by
    refine takeNumber?_eq_none ?_ 2
    rintro _ ⟨⟩
    rfl
  have hcompact : compact? ('-' :: rest) = none := by
    rw [compact?, takeDigits?_minus]
    rfl
  have hrfc : Rfc3339.read? (String.ofList ('-' :: rest)) = none := by
    rw [Rfc3339.read?, String.toList_ofList]
    dsimp only
    rw [takeDigits?_minus]
    rfl
  have hdateAndTime : dateAndTime? ('-' :: rest) = none := by
    rw [dateAndTime?, takeDigits?_minus]
    rfl
  have hdate : PartialDate.read? (String.ofList ('-' :: rest)) = none := by
    rw [PartialDate.read?_of_trim String.toList_ofList htrim]
    simp only [PartialDate.ofNumbers?, PartialDate.ofMonthFirst?, PartialDate.ofDayFirst?,
      PartialDate.ofMonthAndYear?, takeWord?_minus, hyear, hday, Option.bind_eq_bind,
      Option.bind_none, Option.or_none]
  simp only [absolute?, hcompact, hrfc, hdateAndTime, hdate, Option.orElse_eq_orElse,
    Option.orElse_eq_or, Option.map_none, Option.or_none]

/-- A number that is too large as a count is too long as a year. -/
theorem takeNumber?_farthest (hmost : farthest < n) {rest : Chars}
    (hrest : ∀ c ∈ rest.head?, c.isDigit = false) :
    PartialDate.takeNumber? 1 4 (paddedDigits 0 n ++ rest) = none := by
  have hlong : ¬(paddedDigits 0 n).length ≤ 4 := by
    intro hshort
    rw [paddedDigits_zero, Nat.toString_eq_repr, Nat.toList_repr,
      Nat.length_toDigits_le_iff (by decide) (by decide)] at hshort
    exact absurd (Nat.lt_trans hmost hshort) (by decide)
  simp only [PartialDate.takeNumber?, (takeWhile_paddedDigits 0 n hrest).1, hlong, and_false,
    if_false]

/-- So many units before now are read as the moment there, unless the count is too large. -/
theorem read?_before (h : earlier.IsBefore n unit now) :
    read? (before n unit) now = if n ≤ farthest then some earlier else none := by
  have hend : ∀ c ∈ (' ' :: unit.name.toList).head?, c.isDigit = false := by
    rintro _ ⟨⟩
    rfl
  have hnow : sameIgnoringAsciiCase (before n unit).toList "now".toList = false := by
    rw [toList_before]
    rfl
  simp only [read?, trim_before, hnow, Bool.false_eq_true, if_false]
  by_cases hmost : n ≤ farthest
  · rw [if_pos hmost, relative?, countAndUnit?_before, if_pos hmost]
    exact move?_of_isBefore h
  · -- The text is no relative time then, so the readers of absolute times see it.
    rw [if_neg hmost, relative?, countAndUnit?_before, if_neg hmost]
    have htrim := trim_before n unit
    rw [toList_before] at htrim ⊢
    exact absolute?_minus htrim (takeNumber?_farthest (not_le.1 hmost) hend)

end Timestamp

end GenreProse
