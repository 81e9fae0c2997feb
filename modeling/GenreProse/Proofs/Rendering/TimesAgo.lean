-- SUMMARY: A time that is written as so many units ago is shown as so many, or as one less.
import GenreProse.Proofs.Calendar.RelativeTimes
import GenreProse.Proofs.Rendering.Dates
import GenreProse.Proofs.Template.WrittenCalls

/-!
# Times ago in renders

A call may ask for the time since so many units before now, in the same units and as a number alone.
The number that is shown is the one that is written, except where months or years of the calendar
fall short of their mean length: there it is one less. Numbers that are too large are no times.
-/

namespace GenreProse

variable {n : Nat} {unit : TimeUnit} {now earlier : Moment}

namespace Template

theorem toString_ne_empty (n : Nat) : toString n ≠ "" := by
  intro heq
  refine paddedDigits_ne_nil 0 n ?_
  rw [paddedDigits_zero, heq]
  rfl

/-- A call for the time since so many units before now, in these units and as a number alone. -/
def timeAgoMarkup (n : Nat) (unit : TimeUnit) : String :=
  inBraces ("Time ago|" ++ Timestamp.before n unit ++ "|magnitude=" ++ unit.name ++ "|numeric=yes")

def timeAgoParameters (n : Nat) (unit : TimeUnit) : List Parameter :=
  [⟨none, Timestamp.before n unit⟩, ⟨some "magnitude", unit.name⟩, ⟨some "numeric", "yes"⟩]

theorem not_mem_marks_of_unitName (unit : TimeUnit) : ∀ c ∈ unit.name.toList, c ∉ marks := by
  cases unit <;> exact Chars.forall_of_all (by decide)

/-- A time that is written has no mark in it that a call reads. -/
theorem not_mem_marks_of_before (n : Nat) (unit : TimeUnit) :
    ∀ c ∈ (Timestamp.before n unit).toList, c ∉ marks := by
  have hdigits : ∀ c ∈ paddedDigits 0 n, c ∉ marks := fun _ hc =>
    not_mem_marks_of_isDigit (isDigit_of_mem_paddedDigits hc)
  have hname : ∀ c ∈ ' ' :: unit.name.toList, c ∉ marks :=
    List.forall_mem_cons.2 ⟨by decide, not_mem_marks_of_unitName unit⟩
  rw [Timestamp.toList_before]
  exact List.forall_mem_cons.2 ⟨by decide, List.forall_mem_append.2 ⟨hdigits, hname⟩⟩

/-- The call is parsed with its arguments. -/
theorem parse_timeAgoMarkup (n : Nat) (unit : TimeUnit) :
    Markup.parse (timeAgoMarkup n unit) = [.template "Time ago" (timeAgoParameters n unit)] := by
  let parts := [(Timestamp.before n unit).toList, "magnitude".toList ++ '=' :: unit.name.toList,
    "numeric".toList ++ '=' :: "yes".toList]
  have htext : timeAgoMarkup n unit = String.ofList ('{' :: '{' ::
      (['|'].intercalate ("Time ago".toList :: parts) ++ ['}', '}'])) := by
    rw [← String.toList_inj, String.toList_ofList]
    simp [timeAgoMarkup, inBraces, parts]
  have hmagnitude : ∀ c ∈ "magnitude".toList, c ∉ marks := Chars.forall_of_all (by decide)
  have hnumeric : ∀ c ∈ "numeric".toList, c ∉ marks := Chars.forall_of_all (by decide)
  have hyes : ∀ c ∈ "yes".toList, c ∉ marks := Chars.forall_of_all (by decide)
  have hname : ∀ c ∈ "Time ago".toList, c ∉ marks := Chars.forall_of_all (by decide)
  have hbefore := not_mem_marks_of_before n unit
  have hunit := not_mem_marks_of_unitName unit
  have hequals : '=' ∉ (Timestamp.before n unit).toList := by
    have hdigits : '=' ∉ paddedDigits 0 n := fun hmem =>
      absurd (isDigit_of_mem_paddedDigits hmem) (by decide)
    have hunit : '=' ∉ unit.name.toList := by
      cases unit <;> decide
    simp [Timestamp.toList_before, hdigits, hunit]
  have hparts : ∀ part ∈ parts, ∀ c ∈ part, c ∉ marks := by
    simp only [parts, List.forall_mem_cons]
    refine ⟨hbefore, ?_, ?_, List.forall_mem_nil _⟩
    · exact List.forall_mem_append.2 ⟨hmagnitude, List.forall_mem_cons.2 ⟨by decide, hunit⟩⟩
    · exact List.forall_mem_append.2 ⟨hnumeric, List.forall_mem_cons.2 ⟨by decide, hyes⟩⟩
  rw [htext, parse_call hname hparts, timeAgoParameters]
  simp only [parts, List.map_cons, List.map_nil, parseParameter_plain hbefore hequals,
    parseParameter_named hmagnitude (by decide) hunit,
    parseParameter_named hnumeric (by decide) hyes, String.ofList_toList]
  rfl

/-- The call tells the time that has passed since the moment that is read. -/
theorem timeAgo_eq (now : Moment) (n : Nat) (unit : TimeUnit) :
    timeAgo now ⟨"Time ago", timeAgoParameters n unit⟩ =
      match Timestamp.read? (Timestamp.before n unit) now with
      | none => .error "Error: Invalid time"
      | some moment =>
        .text (toString (splitElapsed (now.secondsSince moment) (some unit) none).1) := by
  let call : Call := ⟨"Time ago", timeAgoParameters n unit⟩
  have harguments : call.arguments = [⟨"1", false, Timestamp.before n unit⟩,
      ⟨"magnitude", true, unit.name⟩, ⟨"numeric", true, "yes"⟩] := rfl
  have htrim : Text.trim (Timestamp.before n unit) = Timestamp.before n unit := by
    rw [Text.trim, Text.onChars, Timestamp.trim_before, String.ofList_toList]
  have htext : call.get? "1" = some (Timestamp.before n unit) := by
    simp [get?_eq, harguments, htrim]
  have hne : (Timestamp.before n unit != "") = true := by
    simp [Timestamp.before]
  have hfirst : call.at? 1 = some (Timestamp.before n unit) := by
    have hkey : toString 1 = "1" := rfl
    rw [Call.at?, Call.nonblank?, hkey, htext, Option.filter_some, if_pos hne]
  have hmagnitude : (call.get? "magnitude").bind TimeUnit.ofName? = some unit := by
    simp only [get?_eq, harguments]
    cases unit <;> rfl
  have hfinest : call.get? "min_magnitude" = none := by
    simp [get?_eq, harguments]
  have hnumeric : call.flag "numeric" = true := by
    have hyes : call.get? "numeric" = some "yes" := by
      simp only [get?_eq, harguments]
      rfl
    rw [Call.flag, hyes]
    rfl
  have hcall : ({ name := "Time ago", parameters := timeAgoParameters n unit } : Call) = call := rfl
  rw [hcall, timeAgo, hfirst, hmagnitude, hfinest, hnumeric]
  cases hread : Timestamp.read? (Timestamp.before n unit) now <;>
    simp only [Option.bind_some, Option.bind_none, if_true, hread]

end Template

namespace Renderer

open Template

/-- A render of the call reads the time and counts up to now. -/
theorem renderText_timeAgoMarkup (context : Context) (limit n : Nat) (unit : TimeUnit) :
    (ofMarkup context limit).renderText (timeAgoMarkup n unit) = .ok (
      match Timestamp.read? (Timestamp.before n unit) context.now with
      | none => .error "Error: Invalid time"
      | some moment =>
        .text (toString (splitElapsed (context.now.secondsSince moment) (some unit) none).1)) := by
  have hentry : (["time_ago", "timeago"], Handler.dated timeAgo) ∈ dateTemplates := by
    simp [dateTemplates]
  have hname : canonicalName "Time ago" ∈ ["time_ago", "timeago"] := by decide
  have hparse : (ofMarkup context limit).parse (timeAgoMarkup n unit) = _ :=
    parse_timeAgoMarkup n unit
  have hnow : (ofMarkup context limit).context.now = context.now := rfl
  rw [renderText, hparse, render_finished _ (find?_dateTemplates hentry hname) rfl, callOf, hnow,
    timeAgo_eq]
  cases Timestamp.read? (Timestamp.before n unit) context.now with
  | none => rfl
  | some moment => exact congrArg _ (Prose.concat_text (toString_ne_empty _))

/-- A time so many units ago is shown as so many, but as one less where months or years fall short
    of their mean length, and as a message where the count is too large. -/
theorem renderText_timeAgo (context : Context) (limit : Nat) (hleast : 1 ≤ n)
    (h : earlier.IsBefore n unit context.now) :
    (ofMarkup context limit).renderText (timeAgoMarkup n unit) = .ok (
      if Timestamp.farthest < n then .error "Error: Invalid time"
      else
        .text (toString (if Moment.FallsShort n unit earlier context.now then n - 1 else n))) := by
  rw [renderText_timeAgoMarkup, Timestamp.read?_before h]
  by_cases hmost : n ≤ Timestamp.farthest
  · have hcount : n ≤ largestCount := hmost.trans (by decide)
    rw [if_pos hmost, if_neg (not_lt.2 hmost)]
    dsimp only
    rw [h.splitElapsed_eq hleast hcount]
  · rw [if_neg hmost, if_pos (not_le.1 hmost)]

/-- A year before a leap day. -/
theorem renderText_timeAgo_leapDay :
    let noon : ClockTime := ⟨43200, 0, by decide, by decide⟩
    let now : Moment := .utc ⟨2024, 2, 29, by decide⟩ noon
    let earlier : Moment := .utc ⟨2023, 2, 28, by decide⟩ noon
    1 ≤ 1 ∧ earlier.IsBefore 1 .year now ∧
    (ofMarkup ⟨none, now, fun _ => none⟩ 20).renderText
        "\x7b\x7bTime ago|-1 year|magnitude=year|numeric=yes\x7d\x7d" =
      .ok (.text "1") := by
  intro noon now earlier
  have hbefore : earlier.IsBefore 1 .year now := ⟨rfl, rfl, by decide⟩
  have htext : timeAgoMarkup 1 .year =
      "\x7b\x7bTime ago|-1 year|magnitude=year|numeric=yes\x7d\x7d" := by decide +kernel
  have hshown := renderText_timeAgo ⟨none, now, fun _ => none⟩ 20 (Nat.le_refl 1) hbefore
  have hshort : ¬Moment.FallsShort 1 .year earlier now := by decide
  rw [htext, if_neg (by decide), if_neg hshort] at hshown
  exact ⟨Nat.le_refl 1, hbefore, hshown⟩

/-- February is too short for a month, and a count may be too large although the calendar has the
    moment. -/
theorem renderText_timeAgo_february :
    let noon : ClockTime := ⟨43200, 0, by decide, by decide⟩
    let now : Moment := .utc ⟨2024, 3, 15, by decide⟩ noon
    let inFebruary : Moment := .utc ⟨2024, 2, 15, by decide⟩ noon
    let longAgo : Moment := .utc ⟨1956, 2, 26, by decide⟩ ⟨31551, 0, by decide, by decide⟩
    let renderer := ofMarkup ⟨none, now, fun _ => none⟩ 20
    inFebruary.IsBefore 1 .month now ∧
    renderer.renderText "\x7b\x7bTime ago|-1 month|magnitude=month|numeric=yes\x7d\x7d" =
      .ok (.text "0") ∧
    longAgo.IsBefore 2147483649 .second now ∧
    renderer.renderText
        "\x7b\x7bTime ago|-2147483649 second|magnitude=second|numeric=yes\x7d\x7d" =
      .ok (.error "Error: Invalid time") := by
  intro noon now inFebruary longAgo renderer
  have hmonth : inFebruary.IsBefore 1 .month now := ⟨rfl, rfl, by decide⟩
  have hnanos : longAgo.unixNanos + (2147483649 * 1 * nanosPerSecond : Nat) = now.unixNanos := by
    decide
  have hseconds : longAgo.IsBefore 2147483649 .second now := ⟨rfl, hnanos⟩
  have hmonthText : timeAgoMarkup 1 .month =
      "\x7b\x7bTime ago|-1 month|magnitude=month|numeric=yes\x7d\x7d" := by decide +kernel
  have hsecondsText : timeAgoMarkup 2147483649 .second =
      "\x7b\x7bTime ago|-2147483649 second|magnitude=second|numeric=yes\x7d\x7d" := by
    decide +kernel
  have hzero : splitElapsed (now.secondsSince inFebruary) (some .month) none = (0, .month) := by
    decide
  refine ⟨hmonth, ?_, hseconds, ?_⟩
  · have hshown := renderText_timeAgoMarkup ⟨none, now, fun _ => none⟩ 20 1 .month
    rw [hmonthText, Timestamp.read?_before hmonth, if_pos (by decide)] at hshown
    exact hshown.trans (by dsimp only; rw [hzero]; rfl)
  · have hshown := renderText_timeAgoMarkup ⟨none, now, fun _ => none⟩ 20 2147483649 .second
    rwa [hsecondsText, Timestamp.read?_before hseconds, if_neg (by decide)] at hshown

end Renderer

end GenreProse
