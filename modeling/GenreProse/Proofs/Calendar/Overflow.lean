-- SUMMARY: Dates, times and ages in integers of fixed width, without overflow.
import GenreProse.Calendar.Elapsed
import GenreProse.Calendar.Timestamp
import GenreProse.Proofs.Calendar.Moments
import GenreProse.Proofs.Number.Ranges

/-!
# Overflow in the calendar

Here dates and times are computed in integers of 32 and 64 bits. An operation either checks its
result, and the computation answers with nothing where it is too large, or it does not, and then the
computation has no result at all. The latter never happens: each computation has the result of the
one in unbounded integers.
-/

namespace GenreProse

/-! ## Attempts -/

/-- A computation that stops where an operation overflows, and that may find nothing. -/
abbrev Attempt :=
  OptionT Part

namespace Attempt

variable {α β : Type}

/-- A computation that does not stop. -/
def ofOption (found : Option α) : Attempt α :=
  OptionT.mk (.some found)

/-- An attempt without overflow has the result that it was made of. -/
@[simp]
theorem run_ofOption (found : Option α) : (ofOption found).run = .some found :=
  rfl

theorem none_bind (g : α → Attempt β) : ofOption none >>= g = ofOption none := by
  apply OptionT.ext
  simp [ofOption, Option.elimM]

theorem some_bind (a : α) (g : α → Attempt β) : ofOption (some a) >>= g = g a := by
  apply OptionT.ext
  simp [ofOption, Option.elimM]

/-- An operation that does not overflow finds its result. -/
theorem liftM_some (a : α) : (liftM (Part.some a) : Attempt α) = ofOption (some a) := by
  change (Part.some a).bind (fun a => .some (some a)) = .some (some a)
  exact Part.bind_some _ _

/-- After a computation that does not stop, the next one must not stop either if something is
    found. -/
theorem ofOption_bind {found : Option α} {f : α → Option β} {g : α → Attempt β}
    (h : ∀ a, found = some a → g a = ofOption (f a)) :
    ofOption found >>= g = ofOption (found.bind f) := by
  cases found with
  | none => exact none_bind g
  | some a => rw [some_bind, h a rfl, Option.bind_some]

end Attempt

open Attempt IntegerRange

/-! ## Ages -/

/-- The number of whole years between two dates, in integers of 32 bits. -/
def PartialDate.Checked.age (born day : PartialDate) : Part Int := do
  let years ← signed32.exact (day.year - born.year)
  if day.earlierInYear born then signed32.exact (years - 1) else return years

/-- No step of an age overflows. -/
theorem PartialDate.Checked.age_eq (born day : PartialDate) :
    age born day = .some (born.age day) := by
  have hborn := born.valid
  have hday := day.valid
  unfold IsCalendarDay minYear maxYear at hborn hday
  have hyears : signed32.Has (day.year - born.year) := by
    simp only [Has, signed32]
    omega
  have hless : signed32.Has (day.year - born.year - 1) := by
    simp only [Has, signed32]
    omega
  rw [age, exact_bind hyears, PartialDate.age]
  split
  · exact exact_of_has hless
  · rw [Int.sub_zero]
    rfl

theorem PartialDate.Checked.age_bind {α : Type} (born day : PartialDate) (f : Int → Part α) :
    age born day >>= f = f (born.age day) := by
  rw [age_eq, Part.bind_eq_bind, Part.bind_some]

/-! ## Months and years -/

namespace Date.Checked

def monthIndex (date : Date) : Part Int := do
  let months ← signed32.exact (date.year * 12)
  let months ← signed32.exact (months + date.month)
  signed32.exact (months - 1)

/-- The date so many months later. The day is looked for from its number down, as the month may be
    too short for it. -/
def addMonths? (date : Date) (months : Int) : Attempt Date := do
  let start ← monthIndex date
  let index ← ofOption (signed32.check (start + months))
  let year ← signed32.exact (index / 12)
  let passed ← unsigned8.exact (index % 12)
  let month ← unsigned8.exact (passed + 1)
  ofOption ((List.range' 1 date.day).reverse.findSome? fun day => of? year month.toNat day)

def addYears? (date : Date) (years : Int) : Attempt Date := do
  let months ← ofOption (signed32.check (years * 12))
  addMonths? date months

/-- The first and the last day of birth for an age on a date. -/
def birthRange? (age : Int) (asOf : Date) : Attempt (Date × Date) := do
  let older ← ofOption (signed32.check (age + 1))
  let before ← addYears? asOf (← ofOption (signed32.check (-older)))
  let earliest ← ofOption before.next?
  let latest ← addYears? asOf (← ofOption (signed32.check (-age)))
  return (earliest, latest)

/-- No step of the number of a month overflows. -/
theorem monthIndex_eq (date : Date) : monthIndex date = .some date.monthIndex := by
  obtain ⟨hleast, hgreatest, hfirst, hlast, -, -⟩ := date.valid
  unfold minYear maxYear at *
  have hyears : signed32.Has (date.year * 12) := by
    simp only [Has, signed32]
    omega
  have hmonths : signed32.Has (date.year * 12 + date.month) := by
    simp only [Has, signed32]
    omega
  have hindex : signed32.Has (date.year * 12 + date.month - 1) := by
    simp only [Has, signed32]
    omega
  rw [monthIndex, exact_bind hyears, exact_bind hmonths, exact_of_has hindex]
  rfl

/-- The search ends at the day itself or at the last day of the month. -/
theorem findSome?_days (year : Int) (month day : Nat) :
    ((List.range' 1 day).reverse.findSome? fun day => of? year month day) =
      of? year month (min day (daysInMonth year month)) := by
  induction day with
  | zero => simp [of?, IsCalendarDay]
  | succ day ih =>
    rw [List.range'_concat, List.reverse_append, List.reverse_singleton, List.singleton_append,
      List.findSome?_cons, ih, Nat.one_mul, Nat.add_comm 1 day]
    -- In a month that is long enough, the first day tried is found or no day is. A day that the
    -- month does not have is passed over.
    by_cases hfits : day + 1 ≤ daysInMonth year month
    · rw [Nat.min_eq_left hfits, Nat.min_eq_left (Nat.le_of_succ_le hfits)]
      split
      · next date hfound => exact hfound.symm
      · next hfound =>
        have hnot : ¬IsCalendarDay year month (day + 1) := by simpa [of?] using hfound
        rw [hfound]
        refine dif_neg fun h => ?_
        obtain ⟨hleast, hgreatest, hfirst, hlast, -, -⟩ := h
        exact hnot ⟨hleast, hgreatest, hfirst, hlast, Nat.le_add_left 1 day, hfits⟩
    · have hlonger : of? year month (day + 1) = none := dif_neg fun h => hfits h.2.2.2.2.2
      rw [hlonger, Nat.min_eq_right (Nat.le_of_not_le hfits),
        Nat.min_eq_right (Nat.le_of_lt_succ (Nat.lt_of_not_le hfits))]

/-- Adding months overflows nowhere: where the sum is too large, there is no date. -/
theorem addMonths?_eq (date : Date) (months : Int) :
    addMonths? date months = ofOption (date.addMonths? months) := by
  rw [addMonths?, monthIndex_eq, liftM_some, some_bind]
  refine ofOption_bind fun index hindex => ?_
  -- Only the sum is checked. What is computed from it is no larger.
  obtain ⟨hhas, rfl⟩ := check_eq_some_iff.1 hindex
  have hyear : signed32.Has ((date.monthIndex + months) / 12) := by
    simp only [Has, signed32] at *
    omega
  have hpassed : unsigned8.Has ((date.monthIndex + months) % 12) := by
    simp only [Has, unsigned8]
    omega
  have hmonth : unsigned8.Has ((date.monthIndex + months) % 12 + 1) := by
    simp only [Has, unsigned8]
    omega
  have hnumber : ((date.monthIndex + months) % 12 + 1).toNat =
      ((date.monthIndex + months) % 12).toNat + 1 := by
    omega
  simp only [exact_of_has, hyear, hpassed, hmonth, liftM_some, some_bind, findSome?_days, hnumber]

theorem addYears?_eq (date : Date) (years : Int) :
    addYears? date years = ofOption (date.addYears? years) :=
  ofOption_bind fun months _ => addMonths?_eq date months

/-- The days of birth are found without overflow. -/
theorem birthRange?_eq (age : Int) (asOf : Date) :
    birthRange? age asOf = ofOption (Date.birthRange? age asOf) := by
  refine ofOption_bind fun older _ => ?_
  refine ofOption_bind fun yearsBefore _ => ?_
  rw [addYears?_eq]
  refine ofOption_bind fun before _ => ?_
  refine ofOption_bind fun earliest _ => ?_
  refine ofOption_bind fun years _ => ?_
  rw [addYears?_eq]
  exact ofOption_bind fun latest _ => rfl

end Date.Checked

/-! ## Times -/

namespace Timestamp.Checked

/-- The moment after a duration in seconds, which is computed in integers of 64 bits. -/
def after (now : Moment) (duration : Part Int) : Attempt Moment := do
  ofOption (now.addSeconds? (← duration))

def onDate (now : Moment) (date : Attempt Date) : Attempt Moment := do
  return { now with date := ← date }

/-- The moment so many units later. A fortnight counts as two weeks. -/
def move? (now : Moment) (count : Int) (unit : String) : Attempt Moment :=
  match unit with
  | "second" => after now (.some count)
  | "minute" => after now (signed64.exact (count * 60))
  | "hour" => after now (signed64.exact (count * 3600))
  | "day" => after now (signed64.exact (count * 86400))
  | "week" => after now (signed64.exact (count * 604800))
  | "fortnight" => after now do
    let weeks ← signed64.exact (count * 2)
    signed64.exact (weeks * 604800)
  | "month" => onDate now (Date.Checked.addMonths? now.date count)
  | _ => onDate now (Date.Checked.addYears? now.date count)

def read? (text : String) (now : Moment) : Attempt Moment :=
  let s := Chars.trim text.toList
  if sameIgnoringAsciiCase s "now".toList then return now
  else
    match countAndUnit? s with
    | some (count, unit) => move? now count unit
    | none => ofOption (absolute? s)

theorem after_some (now : Moment) (seconds : Int) :
    after now (.some seconds) = ofOption (now.addSeconds? seconds) := by
  rw [after, liftM_some, some_bind]

/-- A count of 32 bits fits in 64 bits when it is multiplied by the seconds of two weeks or less. -/
theorem after_exact (now : Moment) {count length : Int} (hcount : signed32.Has count)
    (hpositive : 0 < length) (hlength : length ≤ 1209600) :
    after now (signed64.exact (count * length)) = ofOption (now.addSeconds? (count * length)) := by
  simp only [Has, signed32] at hcount
  have hproduct : (count * length).natAbs ≤ 2147483648 * 1209600 := by
    rw [Int.natAbs_mul]
    exact Nat.mul_le_mul (by omega) (by omega)
  have hduration : signed64.Has (count * length) := by
    simp only [Has, signed64]
    omega
  rw [exact_of_has hduration, after_some]

theorem onDate_eq (now : Moment) (found : Option Date) :
    onDate now (ofOption found) = ofOption (found.bind fun date => some { now with date }) :=
  ofOption_bind fun _ _ => rfl

/-- A count of 32 bits is moved by without overflow. -/
theorem move?_eq (now : Moment) {count : Int} (hcount : signed32.Has count) (unit : String) :
    move? now count unit = ofOption (Timestamp.move? now (distance count unit)) := by
  fun_cases distance count unit with
  | case1 => exact after_some now count
  | case2 => exact after_exact now hcount (by decide) (by decide)
  | case3 => exact after_exact now hcount (by decide) (by decide)
  | case4 => exact after_exact now hcount (by decide) (by decide)
  | case5 => exact after_exact now hcount (by decide) (by decide)
  | case6 =>
    have hweeks : signed64.Has (count * 2) := by
      simp only [Has, signed32, signed64] at *
      omega
    have hdouble : count * 2 * 604800 = count * 1209600 := Int.mul_assoc _ _ _
    simp only [move?, exact_bind hweeks, hdouble]
    exact after_exact now hcount (by decide) (by decide)
  | case7 =>
    simp only [move?, Date.Checked.addMonths?_eq, onDate_eq, Timestamp.move?, check_of_has hcount]
    rfl
  | case8 =>
    have hother : move? now count unit = onDate now (Date.Checked.addYears? now.date count) := by
      rw [move?] <;> assumption
    simp only [hother, Date.Checked.addYears?_eq, onDate_eq, Timestamp.move?, Date.addYears?,
      Option.bind_eq_bind, Option.bind_assoc]
    rfl

/-- A count that is read has 32 bits. -/
theorem countAndUnit?_has {s : Chars} {count : Int} {unit : String}
    (h : countAndUnit? s = some (count, unit)) : signed32.Has count := by
  simp only [countAndUnit?, Option.bind_eq_bind, Option.bind_eq_some_iff, check_eq_some_iff] at h
  obtain ⟨_, -, _, -, _, -, _, -, _, ⟨hhas, rfl⟩, heq⟩ := h
  cases heq
  exact hhas

/-- A time stamp is read without overflow. -/
theorem read?_eq (text : String) (now : Moment) :
    read? text now = ofOption (Timestamp.read? text now) := by
  unfold read? Timestamp.read? relative?
  dsimp only
  split
  · rfl
  · cases hfound : countAndUnit? (Chars.trim text.toList) with
    | none => rfl
    | some found => exact move?_eq now (countAndUnit?_has hfound) found.2

end Timestamp.Checked

/-! ## Lengths of time -/

/-- The seconds between two moments fit. -/
theorem Moment.signed64_secondsSince {moment earlier : Moment} (h : moment.HasClockOffset)
    (hearlier : earlier.HasClockOffset) : signed64.Has (moment.secondsSince earlier) := by
  have hfew := natAbs_secondsSince_lt h hearlier
  simp only [Has, signed64]
  omega

/-- The whole units in a length of time, whatever its sign. The length loses its sign on the way,
    and a count that is too large for the integers with a sign becomes the largest of them. -/
def Checked.splitElapsed (elapsed : Int) (unit finest : Option TimeUnit) :
    Part (Nat × TimeUnit) := do
  let length ← unsigned64.exact elapsed.natAbs
  let unit := TimeUnit.telling length.toNat unit finest
  let count ← unsigned64.exact (length / unit.seconds)
  return (((signed64.check count).getD signed64.greatest).toNat, unit)

/-- A count that is too large is cut down to the greatest one. -/
theorem toNat_getD_check (count : Nat) :
    ((signed64.check count).getD signed64.greatest).toNat = min count largestCount := by
  by_cases hsigned : signed64.Has count
  · rw [check_of_has hsigned]
    simp only [Has, signed64, largestCount, Option.getD_some] at *
    omega
  · rw [check_of_not_has hsigned]
    simp only [Has, signed64, largestCount, Option.getD_none] at *
    omega

/-- A time is split without overflow, if it is not the least one of 64 bits. -/
theorem Checked.splitElapsed_eq {elapsed : Int} (h : signed64.Has elapsed)
    (unit finest : Option TimeUnit) :
    splitElapsed elapsed unit finest = .some (GenreProse.splitElapsed elapsed unit finest) := by
  have hfits {count : Nat} (hcount : count ≤ elapsed.natAbs) : unsigned64.Has count := by
    simp only [Has, signed64, unsigned64] at *
    omega
  have hlength : unsigned64.Has elapsed.natAbs := hfits (Nat.le_refl _)
  have hcount (unit : TimeUnit) : unsigned64.Has (elapsed.natAbs / unit.seconds : Nat) :=
    hfits (Nat.div_le_self _ _)
  have hquotient (unit : TimeUnit) :
      (elapsed.natAbs / unit.seconds : Int) = (elapsed.natAbs / unit.seconds : Nat) :=
    (Int.natCast_ediv _ _).symm
  simp only [splitElapsed, exact_bind, hlength, hquotient, hcount, toNat_getD_check,
    Int.toNat_natCast]
  rfl

end GenreProse
