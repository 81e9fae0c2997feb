-- SUMMARY: Ages, and the days of birth that an age on some day leaves open.
import GenreProse.Proofs.Calendar.DayNumbers
import GenreProse.Proofs.Number.Ranges

/-!
# Ages

Somebody has an age or more on a day if they were born no later than so many years before it. This
also holds on 29 February, and for births on it. So those who have exactly the age were born in one
window, from the day after one anniversary to the next anniversary. All of them have the same age on
that day, and on any other day their ages differ by at most one.
-/

namespace GenreProse

namespace PartialDate

variable {a b day day' : PartialDate} {age : Int}

theorem earlierInYear_iff :
    a.earlierInYear b ↔ a.month < b.month ∨ a.month = b.month ∧ a.day < b.day := by
  simp [earlierInYear]

/-- An age is reached in the year that is so many years later, unless the day comes before the
    anniversary. -/
theorem le_age_iff : age ≤ a.age day ↔
    a.year + age < day.year ∨ a.year + age = day.year ∧ ¬day.earlierInYear a := by
  unfold PartialDate.age
  split
  · next h =>
    simp only [h, not_true_eq_false, and_false, or_false]
    omega
  · next h =>
    simp only [h, Bool.false_eq_true, not_false_eq_true, and_true]
    omega

/-- Those who have the same age on one day were born in the same year or in two years in a row. -/
theorem year_le_of_age_eq (h : a.age day = b.age day) : b.year ≤ a.year + 1 := by
  unfold PartialDate.age at h
  split at h <;> split at h <;> omega

/-- Those who have the same age on one day are at most one year apart on any other. -/
theorem age_le_of_age_eq (h : a.age day = b.age day) : a.age day' ≤ b.age day' + 1 := by
  unfold PartialDate.age at *
  simp only [earlierInYear_iff] at *
  split at h <;> split at h <;> split <;> split <;> omega

end PartialDate

namespace Date

variable {asOf date earliest latest : Date} {age years : Int}

/-- Who was born later is no older. -/
theorem age_antitone {a b : Date} (h : a ≤ b) (day : PartialDate) :
    (PartialDate.ofDate b).age day ≤ (PartialDate.ofDate a).age day := by
  rw [← not_lt, lt_iff, Precedes] at h
  unfold PartialDate.age
  simp only [PartialDate.earlierInYear_iff, PartialDate.ofDate]
  split <;> split <;> omega

/-! ## Anniversaries -/

/-- The same day of another year, or the last day of its month if there is no such day. -/
theorem addYears?_eq_some (h : asOf.addYears? years = some date) :
    date.year = asOf.year + years ∧ date.month = asOf.month ∧
      date.day = min asOf.day (daysInMonth date.year date.month) := by
  obtain ⟨-, -, hfirst, hlast, -, -⟩ := asOf.valid
  simp only [addYears?, addMonths?, Option.bind_eq_bind, Option.bind_eq_some_iff,
    IntegerRange.check_eq_some_iff] at h
  obtain ⟨_, ⟨-, rfl⟩, _, ⟨-, rfl⟩, hdate⟩ := h
  have hyear : (asOf.monthIndex + years * 12) / 12 = asOf.year + years := by
    unfold monthIndex
    omega
  have hmonth : ((asOf.monthIndex + years * 12) % 12).toNat + 1 = asOf.month := by
    unfold monthIndex
    omega
  rw [hyear, hmonth, of?_eq_some_iff] at hdate
  obtain ⟨hyear', hmonth', hday'⟩ := hdate
  rw [hyear', hmonth']
  exact ⟨rfl, rfl, hday'⟩

/-- Those who have the age or more are born no later than on the anniversary. -/
theorem le_anniversary_iff (h : asOf.addYears? (-age) = some latest) (born : Date) :
    born ≤ latest ↔ age ≤ (PartialDate.ofDate born).age (.ofDate asOf) := by
  obtain ⟨hyear, hmonth, hday⟩ := addYears?_eq_some h
  obtain ⟨-, -, -, -, -, hlast⟩ := born.valid
  rw [← not_lt, lt_iff, Precedes, PartialDate.le_age_iff, PartialDate.earlierInYear_iff]
  simp only [PartialDate.ofDate]
  rw [hmonth] at hday ⊢
  -- In the same month of the same year, no birth is after the last day of the month.
  have hsame (hyear : born.year = latest.year) (hmonth : born.month = asOf.month) :
      born.day ≤ latest.day ↔ born.day ≤ asOf.day := by
    rw [hyear, hmonth] at hlast
    omega
  omega

/-! ## Days of birth -/

/-- The first day is the one after the anniversary that is a year too early; the last one is the
    anniversary itself. -/
theorem birthRange?_eq_some (h : birthRange? age asOf = some (earliest, latest)) :
    ∃ before, asOf.addYears? (-(age + 1)) = some before ∧ before.next? = some earliest ∧
      asOf.addYears? (-age) = some latest := by
  simp only [birthRange?, Option.bind_eq_bind, Option.bind_eq_some_iff,
    IntegerRange.check_eq_some_iff, Option.pure_def, Option.some.injEq, Prod.mk.injEq] at h
  obtain ⟨_, ⟨-, rfl⟩, _, ⟨-, rfl⟩, before, hbefore, _, hnext, _, ⟨-, rfl⟩, _, hlatest, rfl, rfl⟩ := h
  exact ⟨before, hbefore, hnext, hlatest⟩

section

variable (h : birthRange? age asOf = some (earliest, latest))
include h

/-- The window opens for those who have not become older yet. -/
theorem earliest_le_iff :
    earliest ≤ date ↔ (PartialDate.ofDate date).age (.ofDate asOf) ≤ age := by
  obtain ⟨before, hbefore, hnext, -⟩ := birthRange?_eq_some h
  rw [← lt_iff_next_le hnext, ← not_le, le_anniversary_iff hbefore, not_le, Int.lt_add_one_iff]

/-- The window closes with those who have just become as old. -/
theorem le_latest_iff :
    date ≤ latest ↔ age ≤ (PartialDate.ofDate date).age (.ofDate asOf) := by
  obtain ⟨_, -, -, hlatest⟩ := birthRange?_eq_some h
  exact le_anniversary_iff hlatest date

theorem earliest_le_latest : earliest ≤ latest := by
  obtain ⟨before, hbefore, hnext, hlatest⟩ := birthRange?_eq_some h
  have hyear := (addYears?_eq_some hbefore).1
  have hyear' := (addYears?_eq_some hlatest).1
  rw [← lt_iff_next_le hnext, lt_iff]
  left
  omega

end

/-- The window of births for an age has all days of birth with just this age, and no others. -/
theorem birthRange?_iff_age (h : birthRange? age asOf = some (earliest, latest)) (date : Date) :
    earliest ≤ date ∧ date ≤ latest ↔ (PartialDate.ofDate date).age (.ofDate asOf) = age := by
  rw [earliest_le_iff h, le_latest_iff h]
  exact le_antisymm_iff.symm

/-- On 29 February, after a year that has none: the window opens on 1 March and closes on
    28 February. -/
theorem birthRange?_iff_age_leapDay :
    birthRange? 29 ⟨2020, 2, 29, by decide⟩ =
      some (⟨1990, 3, 1, by decide⟩, ⟨1991, 2, 28, by decide⟩) ∧
    ((⟨1990, 3, 1, by decide⟩ : Date) ≤ ⟨1990, 12, 31, by decide⟩ ∧
        (⟨1990, 12, 31, by decide⟩ : Date) ≤ ⟨1991, 2, 28, by decide⟩ ↔
      (PartialDate.ofDate ⟨1990, 12, 31, by decide⟩).age (.ofDate ⟨2020, 2, 29, by decide⟩) =
        29) := by
  have h : birthRange? 29 ⟨2020, 2, 29, by decide⟩ =
      some (⟨1990, 3, 1, by decide⟩, ⟨1991, 2, 28, by decide⟩) := by decide
  exact ⟨h, birthRange?_iff_age h _⟩

end Date

end GenreProse
