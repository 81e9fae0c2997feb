-- SUMMARY: What calls of date templates show: possible years and ages, and dates with a time of day.
import GenreProse.Proofs.Calendar.Ages
import GenreProse.Proofs.Markup.Calls
import GenreProse.Proofs.Rendering.Sites
import GenreProse.Proofs.Template.Names

/-!
# Dates in renders

A person whose age is known for a full date is shown with all possible years of birth and all
possible ages today, and with no others. The death of a person is shown with a time of day if the
arguments after it may be one, although they are the date of birth.
-/

namespace GenreProse

/-! ## Calls -/

namespace Renderer

variable (renderer : Renderer) {name : String} {parameters : List Parameter}

/-- A handler that neither evaluates arguments nor writes new markup shows its prose. -/
theorem render_finished {handler : Handler} {prose : Prose}
    (hfind : Template.find? (canonicalName name) = some handler)
    (hrun : handler.run renderer.context (callOf name parameters) = .done (.prose prose)) :
    renderer.render [.template name parameters] = .ok (.concat [prose]) := by
  rw [render, Node.renderAll_singleton, Node.render, expand_eq, expandWith_known _ _ _ _ hfind, hrun]
  rfl

end Renderer

/-! ## Possible years and ages -/

namespace Template

/-- The numbers from the first to the last, which may be the same or the next one. -/
def choices (first last : Int) : List Int :=
  if first = last then [first] else [first, last]

/-- The numbers with a separator between each two. -/
def joined (separator : String) (numbers : List Int) : String :=
  separator.intercalate (numbers.map toString)

/-- One choice is shown by itself, and two with the separator between them. -/
theorem joined_choices (separator : String) (first last : Int) :
    joined separator (choices first last) =
      if first = last then toString first else toString first ++ separator ++ toString last := by
  unfold choices
  split <;> rfl

theorem pairwise_choices {first last : Int} (h : first ≤ last) :
    (choices first last).Pairwise (· < ·) := by
  unfold choices
  split
  · exact List.pairwise_singleton _ _
  · next hne => simpa using lt_of_le_of_ne h hne

/-- If two values are taken and next to each other, and all others lie between, there are no
    others. -/
theorem mem_choices_iff {possible : Date → Prop} {value : Date → Int} {a b : Date}
    (ha : possible a) (hb : possible b)
    (hbounds : ∀ date, possible date → value a ≤ value date ∧ value date ≤ value b)
    (hnext : value b ≤ value a + 1) {n : Int} :
    n ∈ choices (value a) (value b) ↔ ∃ date, possible date ∧ value date = n := by
  have hmem : n ∈ choices (value a) (value b) ↔ n = value a ∨ n = value b := by
    unfold choices
    split
    · next heq => simp [heq]
    · simp
  rw [hmem]
  constructor
  · rintro (rfl | rfl)
    · exact ⟨a, ha, rfl⟩
    · exact ⟨b, hb, rfl⟩
  · rintro ⟨date, hdate, rfl⟩
    have := hbounds date hdate
    omega

/-- The text for possible years of birth and possible ages. -/
def possibleText (years ages : List Int) : String :=
  joined "/" years ++ " (age\u00a0" ++ joined "–" ages ++ ")"

/-- The ages are shown from the least to the greatest one. -/
theorem possibleAges_eq (earliest latest : Date) (today : PartialDate) :
    possibleAges earliest latest today =
      possibleText (choices earliest.year latest.year)
        (choices ((PartialDate.ofDate latest).age today)
          ((PartialDate.ofDate earliest).age today)) := by
  rw [possibleText, joined_choices, joined_choices]
  rfl

/-- From an age on a full date the possible years and ages are told. -/
theorem birthFromAge_full {now : Moment} {call : Call} {age : Int} {asOf : PartialDate}
    {earliest latest : Date} (hage : call.integerAt? .signed32 1 = some age)
    (hasOf : dateAt? call 2 = some asOf) (hfull : asOf.isFull)
    (hrange : Date.birthRange? age asOf.firstDay = some (earliest, latest)) :
    birthFromAge now call = .text (possibleAges earliest latest now.today) := by
  simp only [birthFromAge, hage, hasOf, hfull, if_true, hrange]

end Template

/-- A full date is its own first day. -/
theorem PartialDate.ofDate_firstDay {date : PartialDate} (h : date.isFull) :
    .ofDate date.firstDay = date := by
  have hday : date.day ≠ 0 := by simpa [isFull] using h
  have hmonth : date.month ≠ 0 := fun hzero => hday (date.day_zero hzero)
  obtain ⟨year, month, day, _, _⟩ := date
  simp only [ofDate, firstDay, mk.injEq, true_and]
  dsimp only at hday hmonth
  omega

theorem Prose.concat_text {s : String} (h : s ≠ "") : concat [.text s] = .text s := by
  simp [concat, unitsOfAll, units, joinTexts, consUnit, ofUnits, h]

namespace Renderer

open Template

/-- The years of birth that are shown are those of all days on which somebody with the age may have
    been born, and the ages that are shown are those which they may have today: one, or two in a
    row. -/
theorem render_birthFromAge (renderer : Renderer) {name : String} {parameters : List Parameter}
    (hname : canonicalName name ∈ ["birth_based_on_age_as_of_date", "bbad"])
    {age : Int} {asOf : PartialDate} {earliest latest : Date}
    (hage : (callOf name parameters).integerAt? .signed32 1 = some age)
    (hasOf : dateAt? (callOf name parameters) 2 = some asOf) (hfull : asOf.isFull)
    (hrange : Date.birthRange? age asOf.firstDay = some (earliest, latest)) :
    let ageToday (born : Date) := (PartialDate.ofDate born).age renderer.context.now.today
    ∃ years ages,
      renderer.render [.template name parameters] = .ok (.text (possibleText years ages)) ∧
      years.Pairwise (· < ·) ∧ ages.Pairwise (· < ·) ∧
      (∀ year, year ∈ years ↔
        ∃ born : Date, (PartialDate.ofDate born).age asOf = age ∧ born.year = year) ∧
      (∀ n, n ∈ ages ↔ ∃ born, (earliest ≤ born ∧ born ≤ latest) ∧ ageToday born = n) ∧
      ageToday latest ≤ ageToday earliest ∧ ageToday earliest ≤ ageToday latest + 1 := by
  intro ageToday
  have hborn (born : Date) : earliest ≤ born ∧ born ≤ latest ↔
      (PartialDate.ofDate born).age asOf = age := by
    rw [Date.earliest_le_iff hrange, Date.le_latest_iff hrange, PartialDate.ofDate_firstDay hfull]
    exact le_antisymm_iff.symm
  have hle := Date.earliest_le_latest hrange
  have hearliest := (hborn earliest).1 ⟨le_rfl, hle⟩
  have hlatest := (hborn latest).1 ⟨hle, le_rfl⟩
  have hsame := hearliest.trans hlatest.symm
  have hages : ageToday latest ≤ ageToday earliest := Date.age_antitone hle _
  have hnext : ageToday earliest ≤ ageToday latest + 1 := PartialDate.age_le_of_age_eq hsame
  refine ⟨choices earliest.year latest.year, choices (ageToday latest) (ageToday earliest), ?_,
    pairwise_choices (Date.year_mono hle), pairwise_choices hages, fun year => ?_, fun n => ?_,
    hages, hnext⟩
  · have hfind : find? (canonicalName name) = some (.dated birthFromAge) :=
      find?_dateTemplates (by simp [dateTemplates]) hname
    have hshown : birthFromAge renderer.context.now (callOf name parameters) = _ :=
      birthFromAge_full hage hasOf hfull hrange
    rw [render_finished renderer hfind rfl, hshown, possibleAges_eq,
      Prose.concat_text (by simp [possibleText])]
  · refine mem_choices_iff hearliest hlatest (fun born hborn' => ?_)
      (PartialDate.year_le_of_age_eq hsame)
    obtain ⟨hfirst, hlast⟩ := (hborn born).2 hborn'
    exact ⟨Date.year_mono hfirst, Date.year_mono hlast⟩
  · refine @mem_choices_iff (fun born => earliest ≤ born ∧ born ≤ latest) ageToday latest earliest
      ⟨hle, le_rfl⟩ ⟨le_rfl, hle⟩ ?_ hnext n
    rintro born ⟨hfirst, hlast⟩
    exact ⟨Date.age_antitone hlast _, Date.age_antitone hfirst _⟩

/-- A reference date on 29 February, and births after a year that has none. -/
theorem render_birthFromAge_leapDay :
    let name := "Birth based on age as of date"
    let parameters : List Parameter := [⟨none, "29"⟩, ⟨none, "2020"⟩, ⟨none, "Feb."⟩, ⟨none, "29"⟩]
    let asOf : PartialDate := ⟨2020, 2, 29, by decide, by decide⟩
    let earliest : Date := ⟨1990, 3, 1, by decide⟩
    let latest : Date := ⟨1991, 2, 28, by decide⟩
    let now : Moment := .utc ⟨2024, 2, 28, by decide⟩ .midnight
    let renderer := ofMarkup ⟨none, now, fun _ => none⟩ 20
    let ageToday (born : Date) := (PartialDate.ofDate born).age now.today
    canonicalName name ∈ ["birth_based_on_age_as_of_date", "bbad"] ∧
    (callOf name parameters).integerAt? .signed32 1 = some 29 ∧
    dateAt? (callOf name parameters) 2 = some asOf ∧ asOf.isFull ∧
    Date.birthRange? 29 asOf.firstDay = some (earliest, latest) ∧
    ∃ years ages,
      renderer.render [.template name parameters] = .ok (.text (possibleText years ages)) ∧
      years.Pairwise (· < ·) ∧ ages.Pairwise (· < ·) ∧
      (∀ year, year ∈ years ↔
        ∃ born : Date, (PartialDate.ofDate born).age asOf = 29 ∧ born.year = year) ∧
      (∀ n, n ∈ ages ↔ ∃ born, (earliest ≤ born ∧ born ≤ latest) ∧ ageToday born = n) ∧
      ageToday latest ≤ ageToday earliest ∧ ageToday earliest ≤ ageToday latest + 1 := by
  intro name parameters asOf earliest latest now renderer ageToday
  have hname : canonicalName name ∈ ["birth_based_on_age_as_of_date", "bbad"] := by decide
  have hage : (callOf name parameters).integerAt? .signed32 1 = some 29 := by decide
  have hasOf : dateAt? (callOf name parameters) 2 = some asOf := by decide
  have hfull : asOf.isFull := by decide
  have hrange : Date.birthRange? 29 asOf.firstDay = some (earliest, latest) := by decide
  exact ⟨hname, hage, hasOf, hfull, hrange,
    render_birthFromAge renderer hname hage hasOf hfull hrange⟩

end Renderer

/-! ## Times of day -/

namespace Template

variable {call : Call} {date : PartialDate} {year : Int} {index : Nat}

/-- Whether the argument with a number is written with a minus sign. -/
def HasMinus (call : Call) (index : Nat) : Prop :=
  ∃ text, call.at? index = some text ∧ text.toList.head? = some '-'

theorem yearAt?_of_dateAt? (h : dateAt? call index = some date) :
    yearAt? call index = some date.year := by
  simp only [dateAt?, Option.bind_eq_bind, Option.bind_eq_some_iff] at h
  obtain ⟨year, hyear, month, -, day, -, hdate⟩ := h
  unfold PartialDate.of? at hdate
  split at hdate
  · split at hdate <;> obtain rfl := Option.some.inj hdate <;> exact hyear
  · cases hdate

/-- A year may be a small number too, if it is not too large and has no minus sign. -/
theorem isSome_below?_iff {bound : Nat} (hbound : bound ≤ 256) (h : yearAt? call index = some year) :
    (below? call index bound).isSome ↔ 0 ≤ year ∧ year < bound ∧ ¬HasMinus call index := by
  obtain ⟨hyear, -⟩ := Option.filter_eq_some_iff.1 h
  obtain ⟨text, htext, hread⟩ := Option.bind_eq_some_iff.1 hyear
  have htext' : call.at? index = some text := htext
  have hsmall : call.integerAt? .unsigned8 index = _ :=
    (congrArg (·.bind IntegerRange.unsigned8.read?) htext').trans
      (IntegerRange.read?_of_read? (Int.le_refl 0) hread)
  have hminus : HasMinus call index ↔ text.toList.head? = some '-' := by
    simp [HasMinus, htext']
  rw [below?, hsmall, hminus]
  by_cases hhead : text.toList.head? = some '-'
  · simp [hhead]
  · rw [if_neg hhead]
    by_cases hhas : IntegerRange.unsigned8.Has year
    · have hrange : 0 ≤ year ∧ year ≤ 255 := hhas
      simp only [IntegerRange.check_of_has hhas, Option.map_some, Option.isSome_filter,
        Option.any_some, decide_eq_true_eq, hhead, not_false_eq_true, and_true]
      omega
    · have hrange : ¬(0 ≤ year ∧ year ≤ 255) := hhas
      have hnone : IntegerRange.unsigned8.check year = none := if_neg hhas
      simp only [hnone, Option.map_none, Option.filter_none, Option.isSome_none, Bool.false_eq_true,
        false_iff]
      omega

/-- A full date is shown with the time of day that the call has. -/
theorem dateProse_of_dayTime {time : DayTime} (hfull : date.isFull)
    (htime : DayTime.of? call = some time) :
    dateProse call date = .framed (.time (time.iso date.iso))
      [.text (time.display (date.display (call.flag "df")))] := by
  simp only [dateProse, hfull, if_true, htime]

/-- A date is shown alone unless it is full and a time of day follows. -/
theorem dateProse_eq_iff :
    dateProse call date = .framed (.time date.iso) [.text (date.display (call.flag "df"))] ↔
      ¬(date.isFull ∧ (DayTime.of? call).isSome) := by
  have hiso (time : DayTime) : time.iso date.iso ≠ date.iso := by
    intro heq
    have hlength := congrArg String.length heq
    simp only [DayTime.iso, String.length_append] at hlength
    have hmark : "T".length = 1 := rfl
    omega
  unfold dateProse
  cases hfull : date.isFull with
  | false => simp
  | true =>
    cases hof : DayTime.of? call with
    | none => simp
    | some time => simp [hiso]

/-- There is a time of day if there is an hour. -/
theorem isSome_dayTime (call : Call) :
    (DayTime.of? call).isSome = (below? call 4 24).isSome := by
  simp only [DayTime.of?, Option.bind_eq_bind]
  cases below? call 4 24 <;> rfl

/-- A date and a text after it stay apart. -/
theorem concat_dateProse (call : Call) (date : PartialDate) {s : String} (h : s ≠ "") :
    Prose.concat [dateProse call date, .text s] = .fragment [dateProse call date, .text s] := by
  unfold dateProse
  split <;>
    simp [Prose.concat, Prose.unitsOfAll, Prose.units, Prose.joinTexts, Prose.consUnit,
      Prose.ofUnits, h]

end Template

namespace Renderer

open Template

/-- A call for a death shows the date with what follows it, and then the age. -/
theorem render_deathDateAndAge (renderer : Renderer) {name : String} {parameters : List Parameter}
    (hname : canonicalName name ∈ ["death_date_and_age", "dda"]) {death birth : PartialDate}
    (hdeath : dateAt? (callOf name parameters) 1 = some death)
    (hbirth : dateAt? (callOf name parameters) 4 = some birth) :
    renderer.render [.template name parameters] =
      .ok (.fragment [dateProse (callOf name parameters) death,
        .text (" (aged\u00a0" ++ toString (birth.age death) ++ ")")]) := by
  have hfind : find? (canonicalName name) = some (.plain deathDateAndAge) :=
    find?_dateTemplates (by simp [dateTemplates]) hname
  have hshown : deathDateAndAge (callOf name parameters) =
      .concat [dateProse (callOf name parameters) death,
        .text (" (aged\u00a0" ++ toString (birth.age death) ++ ")")] := by
    simp only [deathDateAndAge, hdeath, hbirth]
  rw [render_finished renderer hfind rfl, hshown, ← Prose.normalize, Prose.normalize_concat,
    concat_dateProse _ _ (by simp)]

/-- The date of a death is shown as if the date of birth were not there if and only if the death is
    not known to the day, or the year of birth is no hour of the day or has a minus sign. Otherwise
    the date of birth is taken for the time of day. -/
theorem render_deathDate (renderer : Renderer) {name : String} {parameters : List Parameter}
    (hname : canonicalName name ∈ ["death_date_and_age", "dda"]) {death birth : PartialDate}
    (hdeath : dateAt? (callOf name parameters) 1 = some death)
    (hbirth : dateAt? (callOf name parameters) 4 = some birth) :
    ∃ unit,
      renderer.render [.template name parameters] =
        .ok (.fragment [unit, .text (" (aged\u00a0" ++ toString (birth.age death) ++ ")")]) ∧
      (unit = .framed (.time death.iso)
          [.text (death.display ((callOf name parameters).flag "df"))] ↔
        ¬(death.isFull ∧ 0 ≤ birth.year ∧ birth.year < 24 ∧
          ¬HasMinus (callOf name parameters) 4)) := by
  refine ⟨_, render_deathDateAndAge renderer hname hdeath hbirth, ?_⟩
  rw [dateProse_eq_iff, isSome_dayTime,
    isSome_below?_iff (by decide) (yearAt?_of_dateAt? hbirth)]
  rfl

/-- The year of birth is no hour, so the date of death is shown alone. -/
theorem render_deathDate_year30 :
    let name := "Death date and age"
    let parameters : List Parameter :=
      [⟨none, "100"⟩, ⟨none, "3"⟩, ⟨none, "1"⟩, ⟨none, "30"⟩, ⟨none, "June"⟩, ⟨none, "10"⟩]
    let death : PartialDate := ⟨100, 3, 1, by decide, by decide⟩
    let birth : PartialDate := ⟨30, 6, 10, by decide, by decide⟩
    canonicalName name ∈ ["death_date_and_age", "dda"] ∧
    dateAt? (callOf name parameters) 1 = some death ∧
    dateAt? (callOf name parameters) 4 = some birth ∧
    (ofMarkup .epoch 20).render [.template name parameters] =
      .ok (.fragment
        [.framed (.time "0100-03-01") [.text "March 1, 100"], .text " (aged\u00a069)"]) := by
  intro name parameters death birth
  have hname : canonicalName name ∈ ["death_date_and_age", "dda"] := by decide
  have hdeath : dateAt? (callOf name parameters) 1 = some death := by decide
  have hbirth : dateAt? (callOf name parameters) 4 = some birth := by decide
  obtain ⟨unit, hshown, halone⟩ := render_deathDate (ofMarkup .epoch 20) hname hdeath hbirth
  obtain rfl := halone.2 fun h => absurd h.2.2.1 (by decide)
  have hiso : death.iso = "0100-03-01" := by decide
  have hdisplay : death.display ((callOf name parameters).flag "df") = "March 1, 100" := by decide
  have hage : birth.age death = 69 := by decide
  rw [hiso, hdisplay, hage] at hshown
  exact ⟨hname, hdeath, hbirth, hshown⟩

/-- The year of birth is an hour, so the same date of death is shown with a time of day. -/
theorem renderText_deathDate_year20 :
    (ofMarkup .epoch 20).renderText "\x7b\x7bDeath date and age|100|3|1|20|6|10\x7d\x7d" =
      .ok (.fragment
        [.framed (.time "0100-03-01T20:06:10") [.text "20:06:10, March 1, 100"],
          .text " (aged\u00a079)"]) := by
  let parameters : List Parameter :=
    [⟨none, "100"⟩, ⟨none, "3"⟩, ⟨none, "1"⟩, ⟨none, "20"⟩, ⟨none, "6"⟩, ⟨none, "10"⟩]
  let call := callOf "Death date and age" parameters
  let death : PartialDate := ⟨100, 3, 1, by decide, by decide⟩
  let birth : PartialDate := ⟨20, 6, 10, by decide, by decide⟩
  have hcall : Markup.balanced? '{' '}' 1 "Death date and age|100|3|1|20|6|10\x7d\x7d".toList =
      some ("Death date and age|100|3|1|20|6|10".toList, []) := by decide
  have hparse : (ofMarkup .epoch 20).parse
      "\x7b\x7bDeath date and age|100|3|1|20|6|10\x7d\x7d" =
        [.template "Death date and age" parameters] := (Markup.parse_whole_call hcall).trans rfl
  have hname : canonicalName "Death date and age" ∈ ["death_date_and_age", "dda"] := by decide
  have hdeath : dateAt? call 1 = some death := by decide
  have hbirth : dateAt? call 4 = some birth := by decide
  have hhour : below? call 4 24 = some 20 := by decide
  have hminute : below? call 5 60 = some 6 := by decide
  have hsecond : below? call 6 60 = some 10 := by decide
  have hzone : call.at? 7 = none := by decide
  have htime : DayTime.of? call = some ⟨20, 6, some 10, none⟩ := by
    rw [DayTime.of?, hhour, hminute, hsecond, hzone]
    rfl
  have hiso : DayTime.iso ⟨20, 6, some 10, none⟩ death.iso = "0100-03-01T20:06:10" := by decide
  have hdisplay : DayTime.display ⟨20, 6, some 10, none⟩ (death.display (call.flag "df")) =
      "20:06:10, March 1, 100" := by decide
  have hprose : dateProse call death =
      .framed (.time "0100-03-01T20:06:10") [.text "20:06:10, March 1, 100"] := by
    rw [dateProse_of_dayTime (by decide) htime, hiso, hdisplay]
  have hage : birth.age death = 79 := by decide
  rw [renderText, hparse, render_deathDateAndAge _ hname hdeath hbirth, hprose, hage]
  rfl

end Renderer

end GenreProse
