-- SUMMARY: Templates for lengths of time, years and periods.
import GenreProse.Calendar.Elapsed
import GenreProse.Calendar.Timestamp
import GenreProse.Template.Age

/-!
# Lengths of time and periods

How long ago a time is, since when something holds, and years that are only known roughly.
-/

namespace GenreProse

namespace Template

/-! ## Lengths of time -/

/-- A count in digits, or in words if the argument asks for them. -/
def countText (spellOut : Option String) (count : Nat) : String :=
  match spellOut with
  | some value =>
    if (value = "auto" && count < 10) || isYes value then cardinal count else toString count
  | none => toString count

/-- What follows a length of time: a word for the past, or a possessive for the future. -/
def timeSuffix (ago : Option String) (isPast : Bool) (count : Nat) : String :=
  if isPast then
    match ago.getD "ago" with
    | "" => ""
    | ago => " " ++ ago
  else if count = 1 then "'s time"
  else "' time"

/-- How long ago a time is, or how far ahead. -/
def timeAgo (now : Moment) (call : Call) : Prose :=
  match (call.at? 1).bind fun text => Timestamp.read? text now with
  | none => .error "Error: Invalid time"
  | some moment =>
    let elapsed := now.secondsSince moment
    let (count, unit) := splitElapsed elapsed
      ((call.get? "magnitude").bind TimeUnit.ofName?)
      ((call.get? "min_magnitude").bind TimeUnit.ofName?)
    if call.flag "numeric" then .text (toString count)
    else
      let unitName := if count = 1 then unit.name else unit.name ++ "s"
      .text (countText (call.get? "spellout") count ++ " " ++ unitName
        ++ timeSuffix (call.get? "ago") (0 ≤ elapsed) count)

/-! ## Periods -/

/-- The date since which something holds, or the text given for it. -/
def asOf (call : Call) : Prose :=
  match dateAt? call 1 <|> (call.at? 1).bind PartialDate.read? with
  | none => invalidDate
  | some date =>
    match call.nonblank? "alt" with
    | some alt => .text alt
    | none =>
      let lead := match call.flag "since", call.flag "lc" with
        | true, true => "since"
        | true, false => "Since"
        | false, true => "as of"
        | false, false => "As of"
      .text (lead ++ " " ++ date.display (call.flag "df"))

def circa (call : Call) : Prose :=
  let years := match call.at? 1, call.at? 2 with
    | some first, some last => "\u00a0" ++ first ++ "–" ++ last
    | some year, none => "\u00a0" ++ year
    | none, _ => ""
  .concat [circaMark, .text years]

/-- A period in which somebody was active. -/
def floruit (call : Call) : Prose :=
  let period := match call.at? 1 with
    | some period => "\u00a0" ++ period
    | none => ""
  .concat [.tooltip "flourished" (.text "fl."), .text period]

def decade (call : Call) : Prose :=
  match yearAt? call 1 with
  | some year => .text (toString (year - year % 10) ++ "s")
  | none => .error "Error: Need valid year"

def currentYear (now : Moment) (_ : Call) : Prose :=
  .text (toString now.date.year)

end Template

end GenreProse
