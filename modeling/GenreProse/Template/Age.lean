-- SUMMARY: Templates for ages and the dates they follow from.
import GenreProse.Calendar.Moment
import GenreProse.Number.Words
import GenreProse.Template.SingleDate

/-!
# Ages

An age is counted up to a second date, or up to the current one. Where only years are known, two
ages are possible, and where only an age is known, two years of birth.
-/

namespace GenreProse

namespace Template

/-! ## Ages between dates -/

/-- The age at the second date, or today. -/
def age (now : Moment) (call : Call) : Prose :=
  let later := if (call.at? 4).isSome then dateAt? call 4 else some now.today
  match dateAt? call 1, later with
  | some born, some day =>
    let years := born.age day
    if years < 0 then .error "Error: Second date should be later than first date"
    else
      match call.get? "format" with
      | some "raw" => .text (toString years)
      | some "cardinal" => .text (cardinal years)
      | some "ordinal" => .text (ordinal years)
      | _ => .text (groupThousands years)
  | _, _ => invalidDate

def birthDateAndAge (now : Moment) (call : Call) : Prose :=
  match dateAt? call 1 with
  | none => invalidDate
  | some birth =>
    .concat
      [dateProse call birth, .text (" (age\u00a0" ++ toString (birth.age now.today) ++ ")")]

def deathDateAndAge (call : Call) : Prose :=
  match dateAt? call 1, dateAt? call 4 with
  | some death, some birth =>
    .concat [dateProse call death, .text (" (aged\u00a0" ++ toString (birth.age death) ++ ")")]
  | _, _ => invalidDate

/-- The two ages that a difference of years leaves open. -/
def agesOfYears (years : Int) : String :=
  toString (years - 1) ++ "–" ++ toString years

/-- A birth year with the age today, which is exact if the month is known. -/
def birthYearAndAge (now : Moment) (call : Call) : Prose :=
  match yearAt? call 1 with
  | none => invalidDate
  | some year =>
    let birth := (call.integerAt? .unsigned8 2).bind fun month =>
      PartialDate.of? year month.toNat 0
    let ages := match birth with
      | some birth => toString (birth.age now.today)
      | none => agesOfYears (now.today.year - year)
    .text (toString year ++ " (age\u00a0" ++ ages ++ ")")

/-- A death year with the age at it. -/
def deathYearAndAge (call : Call) : Prose :=
  match yearAt? call 1, yearAt? call 2 with
  | some death, some birth =>
    .text (toString death ++ " (aged\u00a0" ++ agesOfYears (death - birth) ++ ")")
  | _, _ => invalidDate

/-- A start date with the years since then, if there are any. -/
def startDateAndAge (now : Moment) (call : Call) : Prose :=
  match dateAt? call 1 with
  | none => invalidDate
  | some start =>
    let years := start.age now.today
    let ago :=
      if years ≤ 0 then ""
      else if years = 1 then "; 1\u00a0year ago"
      else "; " ++ toString years ++ "\u00a0years ago"
    .concat [dateProse call start, .text ago]

/-! ## Dates that follow from an age -/

/-- The abbreviation for “about”. -/
def circaMark : Prose :=
  .tooltip "circa" (.text "c.")

/-- The possible years of birth, and the possible ages today, of somebody whose age is known for a
    full date. -/
def possibleAges (earliest latest : Date) (today : PartialDate) : String :=
  let years :=
    if earliest.year = latest.year then toString earliest.year
    else toString earliest.year ++ "/" ++ toString latest.year
  let youngest := (PartialDate.ofDate latest).age today
  let oldest := (PartialDate.ofDate earliest).age today
  let ages :=
    if youngest = oldest then toString youngest
    else toString youngest ++ "–" ++ toString oldest
  years ++ " (age\u00a0" ++ ages ++ ")"

/-- The year of birth of somebody whose age is known for a date. -/
def birthFromAge (now : Moment) (call : Call) : Prose :=
  match call.integerAt? .signed32 1, dateAt? call 2 with
  | some age, some asOf =>
    if asOf.isFull then
      match Date.birthRange? age asOf.firstDay with
      | some (earliest, latest) => .text (possibleAges earliest latest now.today)
      | none => invalidDate
    else
      match IntegerRange.signed32.check (asOf.year - age) with
      | some year => .concat [circaMark, .text ("\u00a0" ++ toString year)]
      | none => invalidDate
  | _, _ => invalidDate

end Template

end GenreProse
