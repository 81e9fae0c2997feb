-- SUMMARY: Date templates in integers of fixed width have the prose of those in unbounded integers.
import GenreProse.Proofs.Calendar.Overflow
import GenreProse.Proofs.Template.Names

/-!
# Overflow in date templates

Numbers come straight from the arguments. Here each template that computes with them does so in
integers of fixed width: years, months and ages have 32 bits, lengths of time 64. Years outside of
the calendar are refused before anything is computed with them, and where an argument counts years
or other units, each result is checked or cannot be too large. So every template has its prose,
which may be a message, for all arguments and on every clock.
-/

namespace GenreProse

open Attempt IntegerRange

namespace Template

/-- A year that is read has four digits. -/
theorem yearAt?_range {call : Call} {index : Nat} {year : Int}
    (h : yearAt? call index = some year) : minYear ≤ year ∧ year ≤ maxYear := by
  obtain ⟨-, hrange⟩ := Option.filter_eq_some_iff.1 h
  simpa using hrange

namespace Checked

/-! ## Ages -/

def age (now : Moment) (call : Call) : Part Prose :=
  let later := if (call.at? 4).isSome then dateAt? call 4 else some now.today
  match dateAt? call 1, later with
  | some born, some day => do
    let years ← PartialDate.Checked.age born day
    if years < 0 then return .error "Error: Second date should be later than first date"
    else
      return match call.get? "format" with
        | some "raw" => .text (toString years)
        | some "cardinal" => .text (cardinal years)
        | some "ordinal" => .text (ordinal years)
        | _ => .text (groupThousands years)
  | _, _ => return invalidDate

def birthDateAndAge (now : Moment) (call : Call) : Part Prose :=
  match dateAt? call 1 with
  | none => return invalidDate
  | some birth => do
    let years ← PartialDate.Checked.age birth now.today
    return .concat [dateProse call birth, .text (" (age\u00a0" ++ toString years ++ ")")]

def deathDateAndAge (call : Call) : Part Prose :=
  match dateAt? call 1, dateAt? call 4 with
  | some death, some birth => do
    let years ← PartialDate.Checked.age birth death
    return .concat [dateProse call death, .text (" (aged\u00a0" ++ toString years ++ ")")]
  | _, _ => return invalidDate

def agesOfYears (later earlier : Int) : Part String := do
  let oldest ← signed32.exact (later - earlier)
  let youngest ← signed32.exact (oldest - 1)
  return toString youngest ++ "–" ++ toString oldest

def birthYearAndAge (now : Moment) (call : Call) : Part Prose :=
  match yearAt? call 1 with
  | none => return invalidDate
  | some year => do
    let birth := (call.integerAt? .unsigned8 2).bind fun month =>
      PartialDate.of? year month.toNat 0
    let ages ← match birth with
      | some birth => (PartialDate.Checked.age birth now.today).map toString
      | none => agesOfYears now.today.year year
    return .text (toString year ++ " (age\u00a0" ++ ages ++ ")")

def deathYearAndAge (call : Call) : Part Prose :=
  match yearAt? call 1, yearAt? call 2 with
  | some death, some birth => do
    let ages ← agesOfYears death birth
    return .text (toString death ++ " (aged\u00a0" ++ ages ++ ")")
  | _, _ => return invalidDate

def startDateAndAge (now : Moment) (call : Call) : Part Prose :=
  match dateAt? call 1 with
  | none => return invalidDate
  | some start => do
    let years ← PartialDate.Checked.age start now.today
    let ago :=
      if years ≤ 0 then ""
      else if years = 1 then "; 1\u00a0year ago"
      else "; " ++ toString years ++ "\u00a0years ago"
    return .concat [dateProse call start, .text ago]

/-- The possible years of birth, and the possible ages today. -/
def possibleAges (earliest latest : Date) (today : PartialDate) : Part String := do
  let years :=
    if earliest.year = latest.year then toString earliest.year
    else toString earliest.year ++ "/" ++ toString latest.year
  let youngest ← PartialDate.Checked.age (.ofDate latest) today
  let oldest ← PartialDate.Checked.age (.ofDate earliest) today
  let ages :=
    if youngest = oldest then toString youngest
    else toString youngest ++ "–" ++ toString oldest
  return years ++ " (age\u00a0" ++ ages ++ ")"

def birthFromAge (now : Moment) (call : Call) : Part Prose :=
  match call.integerAt? .signed32 1, dateAt? call 2 with
  | some age, some asOf =>
    if asOf.isFull then do
      match ← (Date.Checked.birthRange? age asOf.firstDay).run with
      | some (earliest, latest) =>
        return .text (← possibleAges earliest latest now.today)
      | none => return invalidDate
    else
      match signed32.check (asOf.year - age) with
      | some year => return .concat [circaMark, .text ("\u00a0" ++ toString year)]
      | none => return invalidDate
  | _, _ => return invalidDate

/-! ## Lengths of time and periods -/

/-- The time in the first argument. -/
def firstTime? (now : Moment) (call : Call) : Attempt Moment := do
  Timestamp.Checked.read? (← ofOption (call.at? 1)) now

def timeAgo (now : Moment) (call : Call) : Part Prose := do
  match ← (firstTime? now call).run with
  | none => return .error "Error: Invalid time"
  | some moment =>
    let elapsed ← signed64.exact (now.secondsSince moment)
    let (count, unit) ← GenreProse.Checked.splitElapsed elapsed
      ((call.get? "magnitude").bind TimeUnit.ofName?)
      ((call.get? "min_magnitude").bind TimeUnit.ofName?)
    if call.flag "numeric" then return .text (toString count)
    else
      let unitName := if count = 1 then unit.name else unit.name ++ "s"
      return .text (countText (call.get? "spellout") count ++ " " ++ unitName
        ++ timeSuffix (call.get? "ago") (0 ≤ elapsed) count)

def decade (call : Call) : Part Prose :=
  match yearAt? call 1 with
  | some year => do
    let passed ← signed32.exact (year % 10)
    let first ← signed32.exact (year - passed)
    return .text (toString first ++ "s")
  | none => return .error "Error: Need valid year"

/-- The templates that compute with dates, by all their names. -/
def dateTemplates : List (List String × (Moment → Call → Part Prose)) :=
  [
    (["age", "age_in_years"], age),
    (["birth_date_and_age", "bda", "birth-date_and_age"], birthDateAndAge),
    (["death_date_and_age", "dda"], fun _ call => deathDateAndAge call),
    (["birth_year_and_age", "bya"], birthYearAndAge),
    (["death_year_and_age"], fun _ call => deathYearAndAge call),
    (["start_date_and_age", "start_date_and_years_ago"], startDateAndAge),
    (["birth_based_on_age_as_of_date", "bbad"], birthFromAge),
    (["time_ago", "timeago"], timeAgo),
    (["as_of", "asof"], fun _ call => return asOf call),
    (["decade"], fun _ call => decade call)
  ]

/-! ## No overflow -/

variable (now : Moment) (call : Call)

/-- An age is told without overflow. -/
theorem age_eq : age now call = .some (Template.age now call) := by
  unfold age Template.age
  dsimp only
  generalize (if (call.at? 4).isSome then dateAt? call 4 else some now.today) = later
  rcases dateAt? call 1 with _ | born
  · rfl
  rcases later with _ | day
  · rfl
  dsimp only
  rw [PartialDate.Checked.age_bind]
  split <;> rfl

theorem birthDateAndAge_eq :
    birthDateAndAge now call = .some (Template.birthDateAndAge now call) := by
  unfold birthDateAndAge Template.birthDateAndAge
  rcases dateAt? call 1 with _ | birth
  · rfl
  · dsimp only
    rw [PartialDate.Checked.age_bind]
    rfl

theorem deathDateAndAge_eq : deathDateAndAge call = .some (Template.deathDateAndAge call) := by
  unfold deathDateAndAge Template.deathDateAndAge
  rcases dateAt? call 1 with _ | death
  · rfl
  rcases dateAt? call 4 with _ | birth
  · rfl
  dsimp only
  rw [PartialDate.Checked.age_bind]
  rfl

/-- The difference of two years that are read fits into 32 bits. -/
theorem agesOfYears_eq {later earlier : Int} (hlater : minYear ≤ later ∧ later ≤ maxYear)
    (hearlier : minYear ≤ earlier ∧ earlier ≤ maxYear) :
    agesOfYears later earlier = .some (Template.agesOfYears (later - earlier)) := by
  unfold minYear maxYear at *
  have holdest : signed32.Has (later - earlier) := by
    simp only [Has, signed32]
    omega
  have hyoungest : signed32.Has (later - earlier - 1) := by
    simp only [Has, signed32]
    omega
  rw [agesOfYears, exact_bind holdest, exact_bind hyoungest]
  rfl

theorem birthYearAndAge_eq :
    birthYearAndAge now call = .some (Template.birthYearAndAge now call) := by
  have hnow : minYear ≤ now.today.year ∧ now.today.year ≤ maxYear :=
    ⟨now.date.valid.1, now.date.valid.2.1⟩
  unfold birthYearAndAge Template.birthYearAndAge
  rcases hyear : yearAt? call 1 with _ | year
  · rfl
  dsimp only
  -- Without a month, only the years are subtracted.
  rcases (call.integerAt? .unsigned8 2).bind fun month => PartialDate.of? year month.toNat 0
    with _ | birth
  · dsimp only
    rw [agesOfYears_eq hnow (yearAt?_range hyear), Part.bind_eq_bind, Part.bind_some]
    rfl
  · dsimp only
    rw [PartialDate.Checked.age_eq, Part.map_some, Part.bind_eq_bind, Part.bind_some]
    rfl

theorem deathYearAndAge_eq : deathYearAndAge call = .some (Template.deathYearAndAge call) := by
  unfold deathYearAndAge Template.deathYearAndAge
  rcases hdeath : yearAt? call 1 with _ | death
  · rfl
  rcases hbirth : yearAt? call 2 with _ | birth
  · rfl
  dsimp only
  rw [agesOfYears_eq (yearAt?_range hdeath) (yearAt?_range hbirth), Part.bind_eq_bind,
    Part.bind_some]
  rfl

theorem startDateAndAge_eq :
    startDateAndAge now call = .some (Template.startDateAndAge now call) := by
  unfold startDateAndAge Template.startDateAndAge
  rcases dateAt? call 1 with _ | start
  · rfl
  · dsimp only
    rw [PartialDate.Checked.age_bind]
    rfl

theorem possibleAges_eq (earliest latest : Date) (today : PartialDate) :
    possibleAges earliest latest today = .some (Template.possibleAges earliest latest today) := by
  simp only [possibleAges, PartialDate.Checked.age_bind]
  rfl

/-- The possible years and ages are told without overflow. -/
theorem birthFromAge_eq : birthFromAge now call = .some (Template.birthFromAge now call) := by
  unfold birthFromAge Template.birthFromAge
  rcases call.integerAt? .signed32 1 with _ | age
  · rfl
  rcases dateAt? call 2 with _ | asOf
  · rfl
  dsimp only
  split
  · rw [Date.Checked.birthRange?_eq, run_ofOption, Part.bind_eq_bind, Part.bind_some]
    rcases Date.birthRange? age asOf.firstDay with _ | ⟨earliest, latest⟩
    · rfl
    · dsimp only
      rw [possibleAges_eq, Part.bind_eq_bind, Part.bind_some]
      rfl
  · rcases signed32.check (asOf.year - age) with _ | year <;> rfl

/-- A time is read without overflow. -/
theorem firstTime?_eq : firstTime? now call =
    ofOption ((call.at? 1).bind fun text => Timestamp.read? text now) :=
  ofOption_bind fun text _ => Timestamp.Checked.read?_eq text now

/-- The distance to now fits into 64 bits, if the clock has an offset that clocks have. -/
theorem timeAgo_eq (hnow : now.HasClockOffset) :
    timeAgo now call = .some (Template.timeAgo now call) := by
  unfold timeAgo Template.timeAgo
  rw [firstTime?_eq, run_ofOption, Part.bind_eq_bind, Part.bind_some]
  rcases hmoment : (call.at? 1).bind fun text => Timestamp.read? text now with _ | moment
  · rfl
  obtain ⟨text, -, hmoment⟩ := Option.bind_eq_some_iff.1 hmoment
  have helapsed := Moment.signed64_secondsSince hnow (Timestamp.hasClockOffset hnow hmoment)
  dsimp only
  rw [exact_bind helapsed, GenreProse.Checked.splitElapsed_eq helapsed, Part.bind_eq_bind,
    Part.bind_some]
  rcases splitElapsed (now.secondsSince moment) _ _ with ⟨count, unit⟩
  dsimp only
  split <;> rfl

/-- A decade is told without overflow. -/
theorem decade_eq : decade call = .some (Template.decade call) := by
  unfold decade Template.decade
  rcases hyear : yearAt? call 1 with _ | year
  · rfl
  obtain ⟨hleast, hgreatest⟩ := yearAt?_range hyear
  unfold minYear maxYear at *
  have hpassed : signed32.Has (year % 10) := by
    simp only [Has, signed32]
    omega
  have hfirst : signed32.Has (year - year % 10) := by
    simp only [Has, signed32]
    omega
  dsimp only
  rw [exact_bind hpassed, exact_bind hfirst]
  rfl

/-! ## The table -/

/-- On every clock, the handler and the computation have the same prose. -/
def Agrees (handler : Handler) (compute : Moment → Call → Part Prose) : Prop :=
  ∀ context : Context, context.now.HasClockOffset → ∀ call, ∃ prose,
    handler.run context call = .done (.prose prose) ∧ compute context.now call = .some prose

/-- A handler that does not ask for the time agrees if it overflows nowhere. -/
theorem agrees_plain {prose : Call → Prose} {compute : Call → Part Prose}
    (h : ∀ call, compute call = .some (prose call)) :
    Agrees (.plain prose) fun _ call => compute call :=
  fun _ _ call => ⟨prose call, rfl, h call⟩

/-- A handler that asks for the time may rely on the offset of the clock. -/
theorem agrees_dated {prose : Moment → Call → Prose} {compute : Moment → Call → Part Prose}
    (h : ∀ now, now.HasClockOffset → ∀ call, compute now call = .some (prose now call)) :
    Agrees (.dated prose) compute :=
  fun context hnow call => ⟨prose context.now call, rfl, h context.now hnow call⟩

/-- The templates that compute are date templates, and their handlers agree. -/
theorem dateTemplates_agree : ∀ entry ∈ dateTemplates,
    ∃ handler, (entry.1, handler) ∈ Template.dateTemplates ∧ Agrees handler entry.2 := by
  simp only [dateTemplates, List.forall_mem_cons]
  refine ⟨?age, ?birthDate, ?deathDate, ?birthYear, ?deathYear, ?startDate, ?birthFromAge, ?timeAgo,
    ?asOf, ?decade, List.forall_mem_nil _⟩
  case age =>
    exact ⟨_, by simp [Template.dateTemplates], agrees_dated fun now _ => age_eq now⟩
  case birthDate =>
    exact ⟨_, by simp [Template.dateTemplates], agrees_dated fun now _ => birthDateAndAge_eq now⟩
  case deathDate =>
    exact ⟨_, by simp [Template.dateTemplates], agrees_plain deathDateAndAge_eq⟩
  case birthYear =>
    exact ⟨_, by simp [Template.dateTemplates], agrees_dated fun now _ => birthYearAndAge_eq now⟩
  case deathYear =>
    exact ⟨_, by simp [Template.dateTemplates], agrees_plain deathYearAndAge_eq⟩
  case startDate =>
    exact ⟨_, by simp [Template.dateTemplates], agrees_dated fun now _ => startDateAndAge_eq now⟩
  case birthFromAge =>
    exact ⟨_, by simp [Template.dateTemplates], agrees_dated fun now _ => birthFromAge_eq now⟩
  case timeAgo =>
    exact ⟨_, by simp [Template.dateTemplates], agrees_dated fun now hnow call =>
      timeAgo_eq now call hnow⟩
  case asOf =>
    exact ⟨_, by simp [Template.dateTemplates], @agrees_plain asOf _ fun _ => rfl⟩
  case decade =>
    exact ⟨_, by simp [Template.dateTemplates], agrees_plain decade_eq⟩

end Checked

/-- In integers of fixed width, too, a date template has its prose for all arguments and on every
    clock. -/
theorem run_dateTemplate {names : List String} {compute : Moment → Call → Part Prose}
    {name : String} {context : Context} (hentry : (names, compute) ∈ Checked.dateTemplates)
    (hname : name ∈ names) (hnow : context.now.HasClockOffset) (call : Call) :
    ∃ handler prose, find? name = some handler ∧
      handler.run context call = .done (.prose prose) ∧ compute context.now call = .some prose := by
  obtain ⟨handler, hhandler, hagree⟩ := Checked.dateTemplates_agree _ hentry
  obtain ⟨prose, hrun, hcompute⟩ := hagree context hnow call
  exact ⟨handler, prose, find?_dateTemplates hhandler hname, hrun, hcompute⟩

/-- The most fortnights that an argument can tell. -/
theorem run_dateTemplate_fortnights :
    let context : Context := ⟨none, .utc ⟨9999, 12, 31, by decide⟩ .midnight, fun _ => none⟩
    let call : Call := ⟨"time ago", [⟨none, "-2147483648 fortnights"⟩]⟩
    (["time_ago", "timeago"], Checked.timeAgo) ∈ Checked.dateTemplates ∧
    "time_ago" ∈ ["time_ago", "timeago"] ∧ context.now.HasClockOffset ∧
    ∃ handler prose, find? "time_ago" = some handler ∧
      handler.run context call = .done (.prose prose) ∧
        Checked.timeAgo context.now call = .some prose := by
  intro context call
  have hentry : (["time_ago", "timeago"], Checked.timeAgo) ∈ Checked.dateTemplates := by
    simp [Checked.dateTemplates]
  have hname : "time_ago" ∈ ["time_ago", "timeago"] := by decide
  have hnow : context.now.HasClockOffset := by decide
  exact ⟨hentry, hname, hnow, run_dateTemplate hentry hname hnow call⟩

end Template

end GenreProse
