-- SUMMARY: Day numbers count the days of the calendar in order.
import GenreProse.Calendar.PartialDate
import Mathlib.Algebra.GroupWithZero.Nat
import Mathlib.Algebra.Order.BigOperators.Group.List
import Mathlib.Algebra.Order.Group.Nat

/-!
# Day numbers

Every day has a number, and the days of a year have the numbers from those before the year to those
before the next one. So the order of days by number is the order by year, month and day of the month,
and a number gives back its day.
-/

namespace GenreProse

namespace Date

/-! ## Lengths of years and months -/

def yearLength (year : Int) : Nat :=
  if isLeapYear year then 366 else 365

theorem daysBeforeYear_succ (year : Int) :
    daysBeforeYear (year + 1) = daysBeforeYear year + yearLength year := by
  simp only [yearLength, isLeapYear, daysBeforeYear, Bool.and_eq_true, Bool.or_eq_true, beq_iff_eq,
    bne_iff_ne]
  split <;> omega

theorem daysBeforeYear_mono {a b : Int} (h : a ≤ b) : daysBeforeYear a ≤ daysBeforeYear b := by
  unfold daysBeforeYear
  omega

theorem length_monthLengths (year : Int) : (monthLengths year).length = 12 :=
  rfl

/-- The months fill the year. -/
theorem sum_monthLengths (year : Int) : (monthLengths year).sum = yearLength year := by
  unfold monthLengths yearLength
  split <;> rfl

/-- The days before a month are those of the months before it. -/
theorem daysBeforeMonth_eq_sum (year : Int) (month : Nat) :
    daysBeforeMonth year month = ((monthLengths year).take (month - 1)).sum :=
  rfl

theorem daysInMonth_succ (year : Int) {index : Nat} (h : index < (monthLengths year).length) :
    daysInMonth year (index + 1) = (monthLengths year)[index] := by
  simp [daysInMonth, h]

/-- The months have from 28 to 31 days. -/
theorem daysInMonth_bounds (year : Int) {month : Nat} (hfirst : 1 ≤ month) (hlast : month ≤ 12) :
    28 ≤ daysInMonth year month ∧ daysInMonth year month ≤ 31 := by
  have hlengths : ∀ length ∈ monthLengths year, 28 ≤ length ∧ length ≤ 31 := by
    unfold monthLengths
    split <;> decide
  obtain ⟨index, rfl⟩ := Nat.exists_eq_add_of_le' hfirst
  have hindex : index < (monthLengths year).length := hlast
  rw [daysInMonth_succ year hindex]
  exact hlengths _ (List.getElem_mem hindex)

theorem daysBeforeMonth_succ (year : Int) {month : Nat} (hfirst : 1 ≤ month) (hlast : month ≤ 12) :
    daysBeforeMonth year (month + 1) = daysBeforeMonth year month + daysInMonth year month := by
  obtain ⟨index, rfl⟩ := Nat.exists_eq_add_of_le' hfirst
  have hindex : index < (monthLengths year).length := by
    rw [length_monthLengths]
    omega
  rw [daysInMonth_succ year hindex]
  exact List.sum_take_succ _ _ hindex

theorem daysBeforeMonth_mono (year : Int) {a b : Nat} (h : a ≤ b) :
    daysBeforeMonth year a ≤ daysBeforeMonth year b :=
  (List.take_sublist_take_left (Nat.sub_le_sub_right h 1)).sum_le_sum fun _ _ => Nat.zero_le _

/-- Before a month, each month has 30 or 31 days but for one that may have two less. -/
theorem daysBeforeMonth_bounds (year : Int) {month : Nat} (hfirst : 1 ≤ month)
    (hlast : month ≤ 12) :
    30 * (month - 1) ≤ daysBeforeMonth year month + 1 ∧
      daysBeforeMonth year month ≤ 31 * (month - 1) := by
  have hall : ∀ february ∈ [28, 29], ∀ month ∈ List.range' 1 12,
      let days := ([31, february, 31, 30, 31, 30, 31, 31, 30, 31, 30, 31].take (month - 1)).sum
      30 * (month - 1) ≤ days + 1 ∧ days ≤ 31 * (month - 1) := by decide
  refine hall (if isLeapYear year then 29 else 28) ?_ month (List.mem_range'_1.2 (by omega))
  split <;> decide

/-- The months of a year end within it. -/
theorem daysBeforeMonth_add_le (year : Int) {month : Nat} (hfirst : 1 ≤ month)
    (hlast : month ≤ 12) :
    daysBeforeMonth year month + daysInMonth year month ≤ yearLength year := by
  rw [← daysBeforeMonth_succ year hfirst hlast, ← sum_monthLengths]
  exact daysBeforeMonth_mono year (Nat.succ_le_succ hlast)

/-- The days of a year have the numbers from those before the year to those before the next. -/
theorem dayNumber_bounds (date : Date) : daysBeforeYear date.year ≤ date.dayNumber ∧
    date.dayNumber < daysBeforeYear (date.year + 1) := by
  obtain ⟨-, -, hfirst, hlast, hday, hday'⟩ := date.valid
  have hwithin := daysBeforeMonth_add_le date.year hfirst hlast
  rw [daysBeforeYear_succ, dayNumber]
  omega

/-! ## Order -/

/-- Whether the parts of the first date, from the year on, come before those of the second. -/
def Precedes (a b : Date) : Prop :=
  a.year < b.year ∨ a.year = b.year ∧ (a.month < b.month ∨ a.month = b.month ∧ a.day < b.day)

variable {a b : Date}

theorem dayNumber_lt_of_precedes (h : Precedes a b) : a.dayNumber < b.dayNumber := by
  obtain ⟨-, -, hfirst, hlast, -, hday⟩ := a.valid
  obtain ⟨-, -, -, -, hday', -⟩ := b.valid
  rcases h with hyear | ⟨hyear, hmonth | ⟨hmonth, hless⟩⟩
  · calc a.dayNumber < daysBeforeYear (a.year + 1) := a.dayNumber_bounds.2
      _ ≤ daysBeforeYear b.year := daysBeforeYear_mono (Int.add_one_le_of_lt hyear)
      _ ≤ b.dayNumber := b.dayNumber_bounds.1
  · have hmonths := daysBeforeMonth_mono a.year (Nat.succ_le_of_lt hmonth)
    rw [Nat.succ_eq_add_one, daysBeforeMonth_succ a.year hfirst hlast] at hmonths
    rw [dayNumber, dayNumber, ← hyear]
    omega
  · rw [dayNumber, dayNumber, ← hyear, ← hmonth]
    omega

/-- Of two dates one precedes the other, if they are not the same. -/
theorem precedes_trichotomy (a b : Date) : Precedes a b ∨ a = b ∨ Precedes b a := by
  obtain ⟨year, month, day, _⟩ := a
  obtain ⟨year', month', day', _⟩ := b
  simp only [Precedes, mk.injEq]
  omega

/-- The day numbers are in the order of the calendar. -/
theorem dayNumber_lt_iff : a.dayNumber < b.dayNumber ↔ Precedes a b := by
  refine ⟨fun h => ?_, dayNumber_lt_of_precedes⟩
  rcases precedes_trichotomy a b with hab | rfl | hba
  · exact hab
  · exact absurd h (Int.lt_irrefl _)
  · exact absurd h (lt_asymm (dayNumber_lt_of_precedes hba))

theorem dayNumber_injective : Function.Injective dayNumber := by
  intro a b h
  rcases precedes_trichotomy a b with hab | heq | hba
  · exact absurd h (Int.ne_of_lt (dayNumber_lt_of_precedes hab))
  · exact heq
  · exact absurd h.symm (Int.ne_of_lt (dayNumber_lt_of_precedes hba))

/-- Days in the order of their numbers. -/
instance : LinearOrder Date :=
  LinearOrder.lift' dayNumber dayNumber_injective

theorem lt_iff : a < b ↔ Precedes a b :=
  dayNumber_lt_iff

theorem year_mono (h : a ≤ b) : a.year ≤ b.year := by
  rw [← not_lt, lt_iff, Precedes] at h
  omega

/-! ## The day with a number -/

/-- The months up to the one with the given day are those whose lengths fit before the day. -/
theorem exists_monthOfDay {lengths : List Nat} {n : Nat} (h : n < lengths.sum) (passed : Nat) :
    ∃ index day, ∃ hindex : index < lengths.length,
      monthOfDay lengths passed n = (passed + index + 1, day + 1) ∧ day < lengths[index] ∧
        n = (lengths.take index).sum + day := by
  fun_induction monthOfDay lengths passed n with
  | case1 passed n => simp at h
  | case2 length lengths passed n hn => exact ⟨0, n, Nat.succ_pos _, rfl, hn, by simp⟩
  | case3 length lengths passed n hn ih =>
    rw [List.sum_cons] at h
    obtain ⟨index, day, hindex, hfound, hday, hn'⟩ := ih (by omega)
    refine ⟨index + 1, day, Nat.succ_lt_succ hindex, ?_, hday, ?_⟩
    · rw [hfound, Nat.add_right_comm passed 1 index, Nat.add_assoc passed index 1]
    · rw [List.take_succ_cons, List.sum_cons]
      omega

/-- A day number lies in its year. -/
theorem yearOfDay_bounds (n : Int) :
    daysBeforeYear (yearOfDay n) ≤ n ∧ n < daysBeforeYear (yearOfDay n + 1) := by
  unfold yearOfDay
  dsimp only
  split
  · next hearly =>
    rw [Int.sub_add_cancel]
    refine ⟨?_, hearly⟩
    unfold daysBeforeYear at *
    omega
  · split
    · next hlate =>
      refine ⟨hlate, ?_⟩
      unfold daysBeforeYear at *
      omega
    · omega

/-- The days of two years do not overlap. -/
theorem eq_of_bounds {a b n : Int} (ha : daysBeforeYear a ≤ n ∧ n < daysBeforeYear (a + 1))
    (hb : daysBeforeYear b ≤ n ∧ n < daysBeforeYear (b + 1)) : a = b := by
  by_contra hne
  rcases Int.lt_or_gt_of_ne hne with hless | hless
  · have := daysBeforeYear_mono (Int.add_one_le_of_lt hless)
    omega
  · have := daysBeforeYear_mono (Int.add_one_le_of_lt hless)
    omega

/-- The search for a day ends in the year, the month and the day that add up to its number. -/
theorem exists_ofDayNumber? (n : Int) :
    ∃ month day, ofDayNumber? n = of? (yearOfDay n) month day ∧ 1 ≤ month ∧ month ≤ 12 ∧ 1 ≤ day ∧
      day ≤ daysInMonth (yearOfDay n) month ∧
      daysBeforeYear (yearOfDay n) + daysBeforeMonth (yearOfDay n) month + day - 1 = n := by
  obtain ⟨hfrom, huntil⟩ := yearOfDay_bounds n
  have hwithin : (n - daysBeforeYear (yearOfDay n)).toNat < (monthLengths (yearOfDay n)).sum := by
    rw [daysBeforeYear_succ] at huntil
    rw [sum_monthLengths]
    omega
  obtain ⟨index, day, hindex, hfound, hday, hn⟩ := exists_monthOfDay hwithin 0
  refine ⟨index + 1, day + 1, ?_, Nat.succ_pos _, hindex, Nat.succ_pos _, ?_, ?_⟩
  · rw [ofDayNumber?]
    dsimp only
    rw [hfound, Nat.zero_add]
  · rw [daysInMonth_succ _ hindex]
    exact hday
  · rw [daysBeforeMonth_eq_sum, Nat.add_sub_cancel]
    omega

/-- A date is made of exactly its own year, month and day. -/
theorem of?_eq_some_iff {year : Int} {month day : Nat} {date : Date} :
    of? year month day = some date ↔ date.year = year ∧ date.month = month ∧ date.day = day := by
  obtain ⟨year', month', day', hvalid⟩ := date
  unfold of?
  split
  · simp [eq_comm]
  · next hnot =>
    refine iff_of_false (by simp) ?_
    rintro ⟨rfl, rfl, rfl⟩
    exact hnot hvalid

/-- A number gives back its day. -/
theorem ofDayNumber?_eq_some_iff {n : Int} {date : Date} :
    ofDayNumber? n = some date ↔ date.dayNumber = n := by
  obtain ⟨month, day, hfound, hmonth, hmonth', hday, hday', hn⟩ := exists_ofDayNumber? n
  have hnumber {date : Date} (h : ofDayNumber? n = some date) : date.dayNumber = n := by
    rw [hfound, of?_eq_some_iff] at h
    rw [dayNumber, h.1, h.2.1, h.2.2, hn]
  refine ⟨hnumber, ?_⟩
  rintro rfl
  have hyear : yearOfDay date.dayNumber = date.year :=
    eq_of_bounds (yearOfDay_bounds _) date.dayNumber_bounds
  obtain ⟨hleast, hgreatest, -⟩ := date.valid
  have hvalid : IsCalendarDay (yearOfDay date.dayNumber) month day :=
    ⟨hyear ▸ hleast, hyear ▸ hgreatest, hmonth, hmonth', hday, hday'⟩
  have hsome : ofDayNumber? date.dayNumber = some ⟨_, month, day, hvalid⟩ := by
    rw [hfound, of?, dif_pos hvalid]
  rw [hsome, dayNumber_injective (hnumber hsome)]

/-- The day after is the one whose number comes next. -/
theorem next?_eq_some_iff : a.next? = some b ↔ b.dayNumber = a.dayNumber + 1 :=
  ofDayNumber?_eq_some_iff

/-- The days after a date are those from the day after it on. -/
theorem lt_iff_next_le {date : Date} (h : a.next? = some b) : a < date ↔ b ≤ date := by
  change a.dayNumber < date.dayNumber ↔ b.dayNumber ≤ date.dayNumber
  rw [next?_eq_some_iff.1 h, Int.add_one_le_iff]

end Date

end GenreProse
