-- SUMMARY: How far moments of the calendar lie apart, and which offsets they have.
import GenreProse.Calendar.Timestamp
import GenreProse.Number.Integer
import GenreProse.Proofs.Calendar.DayNumbers

/-!
# Moments of the calendar

Offsets from UTC are shorter than 26 hours. A time that is read has such an offset too, since it is
in UTC, keeps the offset of the clock, or tells its own one, which is shorter than a day. As the
calendar ends, the seconds between two such moments are few.
-/

namespace GenreProse

/-- The dates of the calendar have small numbers. -/
theorem Date.dayNumber_range (date : Date) :
    -3652059 ≤ date.dayNumber ∧ date.dayNumber < 3652425 := by
  obtain ⟨hfrom, huntil⟩ := date.dayNumber_bounds
  have hfirst : daysBeforeYear minYear ≤ daysBeforeYear date.year :=
    daysBeforeYear_mono date.valid.1
  have hlast : daysBeforeYear (date.year + 1) ≤ daysBeforeYear (maxYear + 1) :=
    daysBeforeYear_mono (Int.add_le_add_right date.valid.2.1 1)
  exact ⟨Int.le_trans hfirst hfrom, Int.lt_of_lt_of_le huntil hlast⟩

namespace Moment

variable {moment earlier : Moment}

/-- Whether local time is less than 26 hours away from UTC, as on every clock. -/
def HasClockOffset (moment : Moment) : Prop :=
  -93600 < moment.offset ∧ moment.offset < 93600

instance (moment : Moment) : Decidable moment.HasClockOffset :=
  inferInstanceAs (Decidable (_ ∧ _))

theorem hasClockOffset_of_eq_zero (h : moment.offset = 0) : moment.HasClockOffset := by
  simp [HasClockOffset, h]

/-- Every time that a clock can show is well inside of what 64 bits hold. -/
theorem unixSeconds_range (h : moment.HasClockOffset) :
    -1000000000000 < moment.unixSeconds ∧ moment.unixSeconds < 1000000000000 := by
  obtain ⟨hleast, hgreatest⟩ := h
  obtain ⟨hfrom, huntil⟩ := moment.date.dayNumber_range
  have hclock := moment.time.seconds_lt
  unfold unixSeconds Date.epoch
  unfold secondsPerDay at *
  omega

/-- The seconds between two moments are few. -/
theorem natAbs_secondsSince_lt (h : moment.HasClockOffset) (hearlier : earlier.HasClockOffset) :
    (moment.secondsSince earlier).natAbs < 2000000000000 := by
  have hnanos := moment.time.nanos_lt
  have hnanos' := earlier.time.nanos_lt
  obtain ⟨hleast, hgreatest⟩ := unixSeconds_range h
  obtain ⟨hleast', hgreatest'⟩ := unixSeconds_range hearlier
  have hquotient : (moment.secondsSince earlier).natAbs =
      (moment.unixNanos - earlier.unixNanos).natAbs / nanosPerSecond := Int.natAbs_tdiv _ _
  rw [hquotient]
  unfold unixNanos
  unfold nanosPerSecond at *
  omega

/-- A moment keeps its offset when seconds are added. -/
theorem addSeconds?_offset {later : Moment} {seconds : Int}
    (h : moment.addSeconds? seconds = some later) : later.offset = moment.offset := by
  obtain ⟨date, -, heq⟩ := Option.bind_eq_some_iff.1 h
  cases heq
  rfl

end Moment

/-! ## Offsets of times that are read -/

namespace Rfc3339

variable {s : Chars} {text : String}

/-- An offset that is read is less than a day. -/
theorem offsetOf?_lt {offset : Nat} (h : offsetOf? s = some offset) : offset < 86400 := by
  simp only [offsetOf?, Option.bind_eq_bind, Option.bind_eq_some_iff] at h
  obtain ⟨⟨hours, _⟩, -, _, -, ⟨minutes, _⟩, -, h⟩ := h
  simp only [Bool.and_eq_true, decide_eq_true_eq, Option.ite_none_right_eq_some,
    Option.some.injEq] at h
  omega

theorem offset?_range {offset : Int} (h : offset? s = some offset) :
    -86400 < offset ∧ offset < 86400 := by
  unfold offset? at h
  split at h
  · cases h
    decide
  · cases h
    decide
  · obtain ⟨_, hread, rfl⟩ := Option.map_eq_some_iff.1 h
    obtain ⟨n, hn, heq⟩ := Option.bind_eq_some_iff.1 hread
    have hshort := offsetOf?_lt hn
    cases heq
    omega
  · obtain ⟨_, hread, rfl⟩ := Option.map_eq_some_iff.1 h
    obtain ⟨n, hn, heq⟩ := Option.bind_eq_some_iff.1 hread
    have hshort := offsetOf?_lt hn
    cases heq
    omega
  · cases h

/-- A time that is read has an offset that a clock can have. -/
theorem hasClockOffset {moment : Moment} (h : read? text = some moment) :
    moment.HasClockOffset := by
  -- The offset comes after seven numbers and the five marks between them.
  iterate 12 obtain ⟨_, -, h⟩ := Option.bind_eq_some_iff.1 h
  obtain ⟨offset, hoffset, h⟩ := Option.bind_eq_some_iff.1 h
  obtain ⟨date, -, h⟩ := Option.bind_eq_some_iff.1 h
  have hrange := offset?_range hoffset
  have hkept {time : Option ClockTime} {valid : ClockTime → Bool}
      (h : (time.bind fun time =>
        if valid time then some ⟨date, time, offset⟩ else none) = some moment) :
      moment.offset = offset := by
    obtain ⟨time, -, h⟩ := Option.bind_eq_some_iff.1 h
    obtain ⟨-, heq⟩ := Option.ite_none_right_eq_some.1 h
    cases heq
    rfl
  have hsame : moment.offset = offset := by
    dsimp only at h
    split at h
    · exact hkept h
    · exact hkept h
  unfold Moment.HasClockOffset
  omega

end Rfc3339

namespace Timestamp

variable {s : Chars} {moment now : Moment}

theorem utc?_offset {year month day hour minute second : Nat}
    (h : utc? year month day hour minute second = some moment) : moment.offset = 0 := by
  simp only [utc?, Option.bind_eq_bind, Option.bind_eq_some_iff] at h
  obtain ⟨date, -, time, -, heq⟩ := h
  cases heq
  rfl

theorem compact?_offset (h : compact? s = some moment) : moment.offset = 0 := by
  -- The year, the month and the day.
  iterate 3 obtain ⟨_, -, h⟩ := Option.bind_eq_some_iff.1 h
  dsimp only at h
  split at h
  · exact utc?_offset h
  · iterate 3 obtain ⟨_, -, h⟩ := Option.bind_eq_some_iff.1 h
    exact utc?_offset (Option.ite_none_right_eq_some.1 h).2

theorem dateAndTime?_offset (h : dateAndTime? s = some moment) : moment.offset = 0 := by
  -- Five numbers, the four marks between them, and the seconds with the zone.
  iterate 10 obtain ⟨_, -, h⟩ := Option.bind_eq_some_iff.1 h
  exact utc?_offset h

/-- Whatever its form, a time that is read has an offset that a clock can have. -/
theorem absolute?_hasClockOffset (h : absolute? s = some moment) : moment.HasClockOffset := by
  simp only [absolute?, Option.orElse_eq_orElse, Option.orElse_eq_or, Option.or_eq_some_iff,
    Option.map_eq_some_iff] at h
  rcases h with h | ⟨-, h | ⟨-, h | ⟨-, date, -, rfl⟩⟩⟩
  · exact Moment.hasClockOffset_of_eq_zero (compact?_offset h)
  · exact Rfc3339.hasClockOffset h
  · exact Moment.hasClockOffset_of_eq_zero (dateAndTime?_offset h)
  · exact Moment.hasClockOffset_of_eq_zero rfl

/-- A moment keeps its offset when it is moved. -/
theorem move?_offset {distance : Distance} (h : move? now distance = some moment) :
    moment.offset = now.offset := by
  cases distance with
  | seconds count => exact Moment.addSeconds?_offset h
  | months count =>
    simp only [move?, Option.bind_eq_bind, Option.bind_eq_some_iff] at h
    obtain ⟨_, -, date, -, heq⟩ := h
    cases heq
    rfl

/-- A time that is read is as far from UTC as the clock, or less than a day. -/
theorem hasClockOffset {text : String} (hnow : now.HasClockOffset)
    (h : read? text now = some moment) : moment.HasClockOffset := by
  unfold read? at h
  dsimp only at h
  split at h
  · cases h
    exact hnow
  · split at h
    · unfold Moment.HasClockOffset
      rw [move?_offset h]
      exact hnow
    · exact absolute?_hasClockOffset h

end Timestamp

end GenreProse
