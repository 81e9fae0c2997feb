-- SUMMARY: Points in time with a UTC offset.
import GenreProse.Calendar.PartialDate

/-!
# Moments

A moment is a local date, a time of day to the nanosecond, and the offset of local time from UTC.
Moving a moment keeps its offset.
-/

namespace GenreProse

def secondsPerDay : Nat :=
  86400

def nanosPerSecond : Nat :=
  1000000000

/-- A time of day. -/
structure ClockTime where
  /-- Seconds since midnight. -/
  seconds : Nat
  /-- Nanoseconds since the last second. -/
  nanos : Nat
  seconds_lt : seconds < secondsPerDay
  nanos_lt : nanos < nanosPerSecond
  deriving DecidableEq

namespace ClockTime

def midnight : ClockTime :=
  ⟨0, 0, by decide, by decide⟩

/-- The time with the given hour, minute, second and nanosecond, if the clock has it. -/
def of? (hour minute second nanos : Nat) : Option ClockTime :=
  if h : hour < 24 ∧ minute < 60 ∧ second < 60 ∧ nanos < nanosPerSecond then
    some ⟨hour * 3600 + minute * 60 + second, nanos, by
      unfold secondsPerDay
      omega, h.2.2.2⟩
  else none

/-- The hour, 0 to 23. -/
def hour (time : ClockTime) : Nat :=
  time.seconds / 3600

def minute (time : ClockTime) : Nat :=
  time.seconds / 60 % 60

def second (time : ClockTime) : Nat :=
  time.seconds % 60

end ClockTime

/-- A point in time. -/
structure Moment where
  /-- The local date. -/
  date : Date
  /-- The local time of day. -/
  time : ClockTime
  /-- How many seconds local time is ahead of UTC. -/
  offset : Int
  deriving DecidableEq

namespace Moment

/-- The moment of a date and time in UTC. -/
def utc (date : Date) (time : ClockTime) : Moment :=
  ⟨date, time, 0⟩

/-- The whole seconds since the start of 1970 in UTC. -/
def unixSeconds (moment : Moment) : Int :=
  (moment.date.dayNumber - Date.epoch) * secondsPerDay + moment.time.seconds - moment.offset

/-- The moment so many seconds later, at the same offset. -/
def addSeconds? (moment : Moment) (seconds : Int) : Option Moment := do
  let total := (moment.time.seconds : Int) + seconds
  let date ← Date.ofDayNumber? (moment.date.dayNumber + total / secondsPerDay)
  let time : ClockTime :=
    { seconds := (total % secondsPerDay).toNat
      nanos := moment.time.nanos
      seconds_lt := by
        have := Int.emod_lt_of_pos total (show (0 : Int) < secondsPerDay by decide)
        have := Int.emod_nonneg total (show (secondsPerDay : Int) ≠ 0 by decide)
        omega
      nanos_lt := moment.time.nanos_lt }
  return ⟨date, time, moment.offset⟩

/-- The nanoseconds since the start of 1970 in UTC. -/
def unixNanos (moment : Moment) : Int :=
  moment.unixSeconds * nanosPerSecond + moment.time.nanos

/-- The whole seconds from an earlier moment to this one. A fraction is cut off, also of a negative
    number. -/
def secondsSince (moment earlier : Moment) : Int :=
  (moment.unixNanos - earlier.unixNanos).tdiv nanosPerSecond

def today (moment : Moment) : PartialDate :=
  .ofDate moment.date

end Moment

end GenreProse
