-- SUMMARY: The date so many months later is the best that the month there allows.
import GenreProse.Proofs.Calendar.Overflow
import Mathlib.Order.Bounds.Basic

/-!
# Months

So many months after a date lies one month, and the date there is the latest whose day of the month
is no later. There is none only if the calendar ends before. So later dates lead to later dates, and
days that every month has can be moved in steps.
-/

namespace GenreProse

open IntegerRange

namespace Date

variable {date later : Date} {months : Int} {year : Int} {month : Nat}

/-! ## Months since the year 0 -/

/-- The months of all dates have numbers that fit into 32 bits. -/
theorem monthIndex_range (date : Date) :
    -119988 ≤ date.monthIndex ∧ date.monthIndex ≤ 119999 := by
  obtain ⟨hleast, hgreatest, hfirst, hlast, -⟩ := date.valid
  unfold minYear at hleast
  unfold maxYear at hgreatest
  unfold monthIndex
  omega

/-- The months since the year 0 tell year and month. -/
theorem monthIndex_eq_iff {index : Int} : date.monthIndex = index ↔
    date.year = index / 12 ∧ date.month = (index % 12).toNat + 1 := by
  obtain ⟨-, -, hfirst, hlast, -⟩ := date.valid
  unfold monthIndex
  omega

/-- Dates are in the order of their months, and within a month in that of their days. -/
theorem le_iff {a b : Date} : a ≤ b ↔
    a.monthIndex < b.monthIndex ∨ a.monthIndex = b.monthIndex ∧ a.day ≤ b.day := by
  obtain ⟨-, -, hfirst, hlast, -⟩ := a.valid
  obtain ⟨-, -, hfirst', hlast', -⟩ := b.valid
  rw [← not_lt, lt_iff, Precedes]
  unfold monthIndex
  omega

/-! ## The month so many months later -/

/-- Whether the month of the year lies so many months after that of the date. -/
def IsMonthAfter (date : Date) (months : Int) (year : Int) (month : Nat) : Prop :=
  1 ≤ month ∧ month ≤ 12 ∧ year * 12 + month = date.year * 12 + date.month + months

/-- There is always a month so many months later, if not always a date in it. -/
theorem exists_isMonthAfter (date : Date) (months : Int) :
    ∃ year month, date.IsMonthAfter months year month := by
  refine ⟨(date.monthIndex + months) / 12, ((date.monthIndex + months) % 12).toNat + 1, ?_⟩
  unfold IsMonthAfter monthIndex
  omega

/-- The month of a date lies as many months later as the months since the year 0 tell. -/
theorem IsMonthAfter.monthIndex_eq_iff (h : date.IsMonthAfter months year month) :
    later.monthIndex = date.monthIndex + months ↔ later.year = year ∧ later.month = month := by
  obtain ⟨-, -, hfirst', hlast', -⟩ := later.valid
  obtain ⟨hfirst, hlast, hindex⟩ := h
  unfold monthIndex
  omega

/-- The date so many months later lies in that month, on the same day or on the last one. -/
theorem addMonths?_eq_some_iff : date.addMonths? months = some later ↔
    later.monthIndex = date.monthIndex + months ∧
      later.day = min date.day (daysInMonth later.year later.month) := by
  simp only [addMonths?, Option.bind_eq_bind, Option.bind_eq_some_iff, check_eq_some_iff,
    of?_eq_some_iff, Date.monthIndex_eq_iff]
  constructor
  · rintro ⟨_, ⟨-, rfl⟩, hyear, hmonth, hday⟩
    rw [← hyear, ← hmonth] at hday
    exact ⟨⟨hyear, hmonth⟩, hday⟩
  · rintro ⟨⟨hyear, hmonth⟩, hday⟩
    have hrange := later.monthIndex_range
    rw [Date.monthIndex_eq_iff.2 ⟨hyear, hmonth⟩] at hrange
    rw [hyear, hmonth] at hday
    have hhas : signed32.Has (date.monthIndex + months) := by
      simp only [Has, signed32]
      omega
    exact ⟨_, ⟨hhas, rfl⟩, hyear, hmonth, hday⟩

/-- There is no such date only if the calendar does not have the year. -/
theorem IsMonthAfter.addMonths?_eq_none_iff (h : date.IsMonthAfter months year month) :
    date.addMonths? months = none ↔
      year < minYear ∨ maxYear < year ∨ ¬signed32.Has (date.monthIndex + months) := by
  obtain ⟨hfirst, hlast, -⟩ := id h
  obtain ⟨-, -, -, -, hday, -⟩ := date.valid
  obtain ⟨hdays, -⟩ := daysInMonth_bounds year hfirst hlast
  constructor
  · intro hnone
    by_contra hwithin
    have hvalid : IsCalendarDay year month (min date.day (daysInMonth year month)) := by
      refine ⟨?_, ?_, hfirst, hlast, le_min hday (by omega), min_le_right _ _⟩ <;> omega
    have hsome : date.addMonths? months = some ⟨year, month, _, hvalid⟩ :=
      addMonths?_eq_some_iff.2 ⟨h.monthIndex_eq_iff.2 ⟨rfl, rfl⟩, rfl⟩
    rw [hnone] at hsome
    cases hsome
  · intro hbeyond
    by_contra hfound
    obtain ⟨later, hsome⟩ := Option.ne_none_iff_exists'.1 hfound
    have hindex := (addMonths?_eq_some_iff.1 hsome).1
    obtain ⟨rfl, -⟩ := h.monthIndex_eq_iff.1 hindex
    obtain ⟨hleast, hgreatest, -⟩ := later.valid
    have hrange := later.monthIndex_range
    rw [hindex] at hrange
    simp only [Has, signed32] at hbeyond
    omega

/-- Of the days of the month that are no later in it, the date is the latest. -/
theorem IsMonthAfter.isGreatest_addMonths? (h : date.IsMonthAfter months year month)
    (hlater : date.addMonths? months = some later) :
    IsGreatest {day : Date | day.year = year ∧ day.month = month ∧ day.day ≤ date.day} later := by
  obtain ⟨hindex, hday⟩ := addMonths?_eq_some_iff.1 hlater
  obtain ⟨hyear, hmonth⟩ := h.monthIndex_eq_iff.1 hindex
  refine ⟨⟨hyear, hmonth, hday.trans_le (min_le_left _ _)⟩, ?_⟩
  rintro day ⟨rfl, rfl, hearlier⟩
  obtain ⟨-, -, -, -, -, hwithin⟩ := day.valid
  refine le_iff.2 (.inr ⟨?_, ?_⟩)
  · rw [hindex]
    exact h.monthIndex_eq_iff.2 ⟨rfl, rfl⟩
  · rw [hday, hyear, hmonth]
    exact le_min hearlier hwithin

/-! ## Order and steps -/

/-- A later date stays later when the same number of months is added. -/
theorem addMonths?_mono {other later' : Date} (h : date ≤ other)
    (hlater : date.addMonths? months = some later)
    (hlater' : other.addMonths? months = some later') : later ≤ later' := by
  obtain ⟨hindex, hday⟩ := addMonths?_eq_some_iff.1 hlater
  obtain ⟨hindex', hday'⟩ := addMonths?_eq_some_iff.1 hlater'
  rcases le_iff.1 h with hless | ⟨hsame, hdays⟩
  · exact le_iff.2 (.inl (by omega))
  · have hmonth : later.monthIndex = later'.monthIndex := by omega
    obtain ⟨hyear, hmonth'⟩ := Date.monthIndex_eq_iff.1 hmonth
    obtain ⟨hyear', hmonth''⟩ := Date.monthIndex_eq_iff.1 (rfl : later'.monthIndex = _)
    refine le_iff.2 (.inr ⟨hmonth, ?_⟩)
    rw [hday, hday', hyear, hmonth', hyear', hmonth'']
    exact min_le_min_right _ hdays

/-- A day that every month has is kept, so that months may be added in steps. -/
theorem addMonths?_addMonths? (hday : date.day ≤ 28) (hlater : date.addMonths? months = some later)
    (more : Int) : later.addMonths? more = date.addMonths? (months + more) := by
  obtain ⟨hindex, hkept⟩ := addMonths?_eq_some_iff.1 hlater
  obtain ⟨-, -, hfirst, hlast, -⟩ := later.valid
  obtain ⟨hdays, -⟩ := daysInMonth_bounds later.year hfirst hlast
  rw [min_eq_left (hday.trans hdays)] at hkept
  rw [addMonths?, addMonths?, hindex, hkept, Int.add_assoc]

/-- The date so many months later is found unless the calendar or the integers end before its month,
    and it is the latest in that month whose day is no later. Later dates lead to later dates, and
    days that every month has can be moved in steps. In integers of 32 bits, where the day is looked
    for from above, the result is the same. -/
theorem addMonths?_exact (date : Date) (months : Int) :
    (∃ year month, date.IsMonthAfter months year month ∧
      (date.addMonths? months = none ↔
        year < minYear ∨ maxYear < year ∨ ¬signed32.Has (date.monthIndex + months)) ∧
      ∀ later, date.addMonths? months = some later →
        IsGreatest {day : Date | day.year = year ∧ day.month = month ∧ day.day ≤ date.day} later) ∧
    (∀ other later later', date ≤ other → date.addMonths? months = some later →
      other.addMonths? months = some later' → later ≤ later') ∧
    (∀ later, date.day ≤ 28 → date.addMonths? months = some later →
      ∀ more, later.addMonths? more = date.addMonths? (months + more)) ∧
    Checked.addMonths? date months = .ofOption (date.addMonths? months) := by
  obtain ⟨year, month, hafter⟩ := date.exists_isMonthAfter months
  refine ⟨⟨year, month, hafter, hafter.addMonths?_eq_none_iff, ?_⟩, ?_, ?_, ?_⟩
  · exact fun later => hafter.isGreatest_addMonths?
  · exact fun other later later' => addMonths?_mono
  · exact fun later => addMonths?_addMonths?
  · exact Checked.addMonths?_eq date months

/-- The last of January leads to the leap day, no earlier than an earlier day does; the latter can be
    moved on. -/
theorem addMonths?_exact_leapDay :
    let last : Date := ⟨2004, 1, 31, by decide⟩
    let earlier : Date := ⟨2004, 1, 28, by decide⟩
    let leapDay : Date := ⟨2004, 2, 29, by decide⟩
    let between : Date := ⟨2004, 2, 28, by decide⟩
    last.addMonths? 1 = some leapDay ∧ earlier.addMonths? 1 = some between ∧
    IsGreatest {day : Date | day.year = 2004 ∧ day.month = 2 ∧ day.day ≤ 31} leapDay ∧
    earlier ≤ last ∧ between ≤ leapDay ∧
    earlier.day ≤ 28 ∧ between.addMonths? (-2) = earlier.addMonths? (1 + -2) := by
  intro last earlier leapDay between
  have hlast : last.addMonths? 1 = some leapDay := by decide
  have hearlier : earlier.addMonths? 1 = some between := by decide
  have horder : earlier ≤ last := by decide
  have hday : earlier.day ≤ 28 := by decide
  obtain ⟨⟨year, month, ⟨hfirst, hlast', hindex⟩, -, hgreatest⟩, -⟩ := addMonths?_exact last 1
  obtain ⟨-, hmono, hsteps, -⟩ := addMonths?_exact earlier 1
  have hmonth : year = 2004 ∧ month = 2 := by
    simp only [last] at hindex
    omega
  obtain ⟨rfl, rfl⟩ := hmonth
  exact ⟨hlast, hearlier, hgreatest leapDay hlast, horder,
    hmono last between leapDay horder hearlier hlast, hday, hsteps between hday hearlier (-2)⟩

end Date

end GenreProse
