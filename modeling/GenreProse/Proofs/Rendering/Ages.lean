-- SUMMARY: Which ages the templates for ages show, and where a negative age is a problem.
import GenreProse.Proofs.Prose.Messages
import GenreProse.Proofs.Rendering.Composition
import GenreProse.Proofs.Rendering.Dates

/-!
# Ages in renders

Six templates show ages: between two dates, up to today, as the two that two years leave open, or as
those that are possible for an age on some other day. Where the second date is earlier than the
first, there are negative ages among them, and two equal years leave a negative age open too. A
template for nothing but an age has a message for this. The others show all ages as they are.
-/

namespace GenreProse

namespace Template

theorem choices_ne_nil (first last : Int) : choices first last ≠ [] := by
  unfold choices
  split <;> exact List.cons_ne_nil _ _

/-- A date has no message. -/
theorem messages_dateProse (call : Call) (date : PartialDate) :
    (dateProse call date).messages = [] := by
  unfold dateProse
  split <;> rfl

end Template

/-! ## Templates for ages -/

/-- A template that shows ages. -/
inductive AgeTemplate where
  | age
  | birthDate
  | deathDate
  | birthYear
  | deathYear
  | birthFromAge
  deriving DecidableEq

namespace AgeTemplate

open Template

def names : AgeTemplate → List String
  | age => ["age", "age_in_years"]
  | birthDate => ["birth_date_and_age", "bda", "birth-date_and_age"]
  | deathDate => ["death_date_and_age", "dda"]
  | birthYear => ["birth_year_and_age", "bya"]
  | deathYear => ["death_year_and_age"]
  | birthFromAge => ["birth_based_on_age_as_of_date", "bbad"]

def handler : AgeTemplate → Handler
  | age => .dated Template.age
  | birthDate => .dated birthDateAndAge
  | deathDate => .plain deathDateAndAge
  | birthYear => .dated birthYearAndAge
  | deathYear => .plain deathYearAndAge
  | birthFromAge => .dated Template.birthFromAge

theorem mem_dateTemplates (template : AgeTemplate) :
    (template.names, template.handler) ∈ dateTemplates := by
  cases template <;> simp [dateTemplates, names, handler]

/-- The two ages that a difference of years leaves open. -/
def openAges (years : Int) : List Int :=
  [years - 1, years]

theorem joined_openAges (years : Int) : joined "–" (openAges years) = agesOfYears years :=
  rfl

/-- The ages that follow from the arguments of a call; nothing if the arguments are not valid. -/
def ages? (now : Moment) (call : Call) : AgeTemplate → Option (List Int)
  | age => do
    let later := if (call.at? 4).isSome then dateAt? call 4 else some now.today
    let born ← dateAt? call 1
    let day ← later
    return [born.age day]
  | birthDate => do
    let birth ← dateAt? call 1
    return [birth.age now.today]
  | deathDate => do
    let death ← dateAt? call 1
    let birth ← dateAt? call 4
    return [birth.age death]
  | birthYear => do
    let year ← yearAt? call 1
    match (call.integerAt? .unsigned8 2).bind fun month => PartialDate.of? year month.toNat 0 with
    | some birth => return [birth.age now.today]
    | none => return openAges (now.today.year - year)
  | deathYear => do
    let death ← yearAt? call 1
    let birth ← yearAt? call 2
    return openAges (death - birth)
  | birthFromAge => do
    let age ← call.integerAt? .signed32 1
    let asOf ← dateAt? call 2
    if asOf.isFull then
      let (earliest, latest) ← Date.birthRange? age asOf.firstDay
      return choices ((PartialDate.ofDate latest).age now.today)
        ((PartialDate.ofDate earliest).age now.today)
    else
      let _ ← IntegerRange.signed32.check (asOf.year - age)
      return []

/-- An age alone, in a form that may be asked for. -/
def alone (format : Option String) (years : Int) : String :=
  match format with
  | some "raw" => toString years
  | some "cardinal" => cardinal years
  | some "ordinal" => ordinal years
  | _ => groupThousands years

/-- The word before the ages. -/
def word : AgeTemplate → String
  | deathDate | deathYear => "aged"
  | _ => "age"

/-- The text that tells the ages. -/
def told (template : AgeTemplate) (call : Call) (ages : List Int) : String :=
  match template, ages with
  | _, [] => ""
  | age, years :: _ => alone (call.get? "format") years
  | template, ages => " (" ++ template.word ++ "\u00a0" ++ joined "–" ages ++ ")"

/-- The message for a second date that is too early. -/
def earlierSecondDate : Prose :=
  .error "Error: Second date should be later than first date"

/-- What prose may show for the ages of a call. -/
inductive Tells (template : AgeTemplate) (call : Call) : Option (List Int) → Prose → Prop where
  /-- There are no ages, and a message says so. -/
  | invalid : Tells template call none invalidDate
  /-- An age alone is negative, and a message takes its place. -/
  | refused {ages : List Int} (htemplate : template = age) (hnegative : ∃ years ∈ ages, years < 0) :
    Tells template call (some ages) earlierSecondDate
  /-- All ages are told, and without a message. -/
  | shown {ages : List Int} {prose : Prose} (lead : String)
    (hallowed : ¬(template = age ∧ ∃ years ∈ ages, years < 0)) (hmessages : prose.messages = [])
    (htext : prose.plainText = lead ++ template.told call ages) :
    Tells template call (some ages) prose

/-- A template may put its only piece into a fragment. -/
theorem Tells.concat {template : AgeTemplate} {call : Call} {ages : Option (List Int)}
    {prose : Prose} (h : template.Tells call ages prose) :
    template.Tells call ages (.concat [prose]) := by
  cases h with
  | invalid => exact .invalid
  | refused htemplate hnegative => exact .refused htemplate hnegative
  | shown lead hallowed hmessages htext =>
    have hmessages' := Prose.messages_concat [prose]
    have htext' := Prose.plainText_isView.concat [prose]
    rw [List.flatMap_singleton] at hmessages' htext'
    exact .shown lead hallowed (hmessages'.trans hmessages)
      ((String.toList_inj.1 htext').trans htext)

/-- A negative age is a problem for an age alone, and for no other template. -/
theorem Tells.messages_ne_nil_iff {template : AgeTemplate} {call : Call} {ages : List Int}
    {prose : Prose} (h : template.Tells call (some ages) prose)
    (hnegative : ∃ years ∈ ages, years < 0) : prose.messages ≠ [] ↔ template = age := by
  cases h with
  | refused htemplate => exact iff_of_true (List.cons_ne_nil _ _) htemplate
  | shown _ hallowed hmessages =>
    exact iff_of_false (not_not.2 hmessages) fun htemplate => hallowed ⟨htemplate, hnegative⟩

variable {template : AgeTemplate} {call : Call} {ages : List Int}

/-- A text that ends with the ages tells them, if the template does not refuse any. -/
theorem tells_text (lead : String) {text : String} (h : template ≠ age) (hages : ages ≠ [])
    (htext : text = lead ++ (" (" ++ template.word ++ "\u00a0" ++ joined "–" ages ++ ")")) :
    template.Tells call (some ages) (.text text) := by
  have htold : template.told call ages =
      " (" ++ template.word ++ "\u00a0" ++ joined "–" ages ++ ")" := by
    obtain ⟨years, rest, rfl⟩ := List.exists_cons_of_ne_nil hages
    cases template with
    | age => exact absurd rfl h
    | _ => rfl
  exact .shown lead (fun hrefused => h hrefused.1) rfl (htext.trans (by rw [htold]))

/-- A date with the ages after it tells them too. -/
theorem tells_dateProse (date : PartialDate) (h : template ≠ age) :
    template.Tells call (some ages)
      (.concat [dateProse call date, .text (template.told call ages)]) := by
  refine .shown (dateProse call date).plainText (fun hrefused => h hrefused.1) ?_ ?_
  · simp [Prose.messages_concat, messages_dateProse]
  · rw [← String.toList_inj, Prose.plainText_isView.concat]
    simp [Prose.plainText]

variable (now : Moment) (call : Call)

/-- An age alone is refused if it is negative. -/
theorem age_tells : age.Tells call (age.ages? now call) (Template.age now call) := by
  unfold Template.age ages?
  dsimp only
  cases dateAt? call 1 with
  | none => exact .invalid
  | some born =>
    cases if (call.at? 4).isSome then dateAt? call 4 else some now.today with
    | none => exact .invalid
    | some day =>
      dsimp only [Option.bind_eq_bind, Option.bind_some]
      split
      · next hnegative => exact .refused rfl ⟨_, List.mem_singleton_self _, hnegative⟩
      · next hnonneg =>
        have hallowed : ¬(age = age ∧ ∃ years ∈ [born.age day], years < 0) := by simpa using hnonneg
        have htold : age.told call [born.age day] = alone (call.get? "format") (born.age day) := rfl
        -- Each format has a branch of its own in the handler and in the text that is told.
        generalize call.get? "format" = format at *
        refine .shown "" hallowed ?_ ?_
        · split <;> rfl
        · rw [htold, String.empty_append]
          unfold alone
          split <;> simp_all [Prose.plainText]

/-- What is told of a birth, with the age today. -/
theorem birthDate_tells :
    birthDate.Tells call (birthDate.ages? now call) (birthDateAndAge now call) := by
  unfold birthDateAndAge ages?
  cases dateAt? call 1 with
  | none => exact .invalid
  | some birth => exact tells_dateProse birth (by decide)

/-- What is told of a death, with the age then. -/
theorem deathDate_tells :
    deathDate.Tells call (deathDate.ages? now call) (deathDateAndAge call) := by
  unfold deathDateAndAge ages?
  cases dateAt? call 1 with
  | none => exact .invalid
  | some death =>
    cases dateAt? call 4 with
    | none => exact .invalid
    | some birth => exact tells_dateProse death (by decide)

/-- What is told of a year of birth, with the ages today. -/
theorem birthYear_tells :
    birthYear.Tells call (birthYear.ages? now call) (birthYearAndAge now call) := by
  unfold birthYearAndAge ages?
  cases yearAt? call 1 with
  | none => exact .invalid
  | some year =>
    dsimp only [Option.bind_eq_bind, Option.bind_some]
    cases (call.integerAt? .unsigned8 2).bind fun month => PartialDate.of? year month.toNat 0 with
    | some birth =>
      refine tells_text (toString year) (by decide) (List.cons_ne_nil _ _) ?_
      simp [word, joined, String.append_assoc]
    | none =>
      refine tells_text (toString year) (by decide) (List.cons_ne_nil _ _) ?_
      simp [word, joined_openAges, String.append_assoc]

/-- What is told of a year of death, with the ages then. -/
theorem deathYear_tells :
    deathYear.Tells call (deathYear.ages? now call) (deathYearAndAge call) := by
  unfold deathYearAndAge ages?
  cases yearAt? call 1 with
  | none => exact .invalid
  | some death =>
    cases yearAt? call 2 with
    | none => exact .invalid
    | some birth =>
      refine tells_text (toString death) (by decide) (List.cons_ne_nil _ _) ?_
      simp [word, joined_openAges, String.append_assoc]

/-- What is told of a birth that follows from an age. -/
theorem birthFromAge_tells :
    birthFromAge.Tells call (birthFromAge.ages? now call) (Template.birthFromAge now call) := by
  unfold Template.birthFromAge ages?
  cases call.integerAt? .signed32 1 with
  | none => exact .invalid
  | some age =>
    cases dateAt? call 2 with
    | none => exact .invalid
    | some asOf =>
      dsimp only [Option.bind_eq_bind, Option.bind_some]
      split
      · cases Date.birthRange? age asOf.firstDay with
        | none => exact .invalid
        | some range =>
          obtain ⟨earliest, latest⟩ := range
          dsimp only [Option.bind_some]
          rw [possibleAges_eq, possibleText]
          refine tells_text (joined "/" (choices earliest.year latest.year)) (by decide)
            (choices_ne_nil _ _) ?_
          simp [word, String.append_assoc]
      · cases IntegerRange.signed32.check (asOf.year - age) with
        | none => exact .invalid
        | some year =>
          have hallowed : birthFromAge ≠ AgeTemplate.age := by decide
          refine .shown _ (fun hrefused => hallowed hrefused.1) ?_ (String.append_empty).symm
          simp [Prose.messages_concat, circaMark]

/-- The handler of each template shows the ages or a message. -/
theorem handler_tells (template : AgeTemplate) (context : Context) :
    ∃ prose, template.handler.run context call = .done (.prose prose) ∧
      template.Tells call (template.ages? context.now call) prose := by
  cases template with
  | age => exact ⟨_, rfl, age_tells context.now call⟩
  | birthDate => exact ⟨_, rfl, birthDate_tells context.now call⟩
  | deathDate => exact ⟨_, rfl, deathDate_tells context.now call⟩
  | birthYear => exact ⟨_, rfl, birthYear_tells context.now call⟩
  | deathYear => exact ⟨_, rfl, deathYear_tells context.now call⟩
  | birthFromAge => exact ⟨_, rfl, birthFromAge_tells context.now call⟩

end AgeTemplate

namespace Renderer

open Template

/-- A call of a template for ages shows a message where the arguments are not valid. It also shows
    one where an age alone is negative; all other templates show negative ages as they are. -/
theorem render_ages (renderer : Renderer) (template : AgeTemplate) {name : String}
    {parameters : List Parameter} (hname : canonicalName name ∈ template.names) :
    let call := callOf name parameters
    let ages := template.ages? renderer.context.now call
    ∃ prose, renderer.render [.template name parameters] = .ok prose ∧
      template.Tells call ages prose ∧
      ∀ shown, ages = some shown → (∃ years ∈ shown, years < 0) →
        (prose.messages ≠ [] ↔ template = .age) := by
  intro call ages
  have hfind := find?_dateTemplates template.mem_dateTemplates hname
  obtain ⟨prose, hrun, htells⟩ := AgeTemplate.handler_tells call template renderer.context
  refine ⟨_, render_finished renderer hfind hrun, htells.concat, fun shown hages hnegative => ?_⟩
  have hshown : template.Tells call (some shown) (.concat [prose]) := hages ▸ htells.concat
  exact hshown.messages_ne_nil_iff hnegative

/-- The age alone of somebody who was born after the second date. -/
theorem render_ages_secondDate :
    let parameters : List Parameter :=
      [⟨none, "2001"⟩, ⟨none, "3"⟩, ⟨none, "1"⟩, ⟨none, "1940"⟩, ⟨none, "6"⟩, ⟨none, "10"⟩]
    canonicalName "Age" ∈ AgeTemplate.names .age ∧
    AgeTemplate.age.ages? Context.epoch.now (callOf "Age" parameters) = some [-61] ∧
    (ofMarkup .epoch 20).render [.template "Age" parameters] =
      .ok (.error "Error: Second date should be later than first date") := by
  intro parameters
  have hname : canonicalName "Age" ∈ AgeTemplate.names .age := by decide
  have hages : AgeTemplate.age.ages? Context.epoch.now (callOf "Age" parameters) = some [-61] := by
    decide
  obtain ⟨prose, hrender, htells, -⟩ :=
    @render_ages (ofMarkup .epoch 20) .age "Age" parameters hname
  have hnow : (ofMarkup .epoch 20).context.now = Context.epoch.now := rfl
  rw [hnow, hages] at htells
  refine ⟨hname, hages, ?_⟩
  cases htells with
  | refused => exact hrender
  | shown _ hallowed => exact absurd ⟨rfl, -61, by decide, by decide⟩ hallowed

/-- A death before the birth, and two equal years. -/
theorem renderText_ages_negative :
    (ofMarkup .epoch 20).renderText "\x7b\x7bDeath date and age|1940|6|10|2001|3|1\x7d\x7d" =
      .ok (.fragment
        [.framed (.time "1940-06-10") [.text "June 10, 1940"], .text " (aged\u00a0-61)"]) ∧
    (ofMarkup .epoch 20).renderText "\x7b\x7bDeath year and age|1940|1940\x7d\x7d" =
      .ok (.text "1940 (aged\u00a0-1–0)") := by
  constructor
  · let parameters : List Parameter :=
      [⟨none, "1940"⟩, ⟨none, "6"⟩, ⟨none, "10"⟩, ⟨none, "2001"⟩, ⟨none, "3"⟩, ⟨none, "1"⟩]
    let call := callOf "Death date and age" parameters
    let death : PartialDate := ⟨1940, 6, 10, by decide, by decide⟩
    let birth : PartialDate := ⟨2001, 3, 1, by decide, by decide⟩
    have hcall : Markup.balanced? '{' '}' 1 "Death date and age|1940|6|10|2001|3|1\x7d\x7d".toList =
        some ("Death date and age|1940|6|10|2001|3|1".toList, []) := by decide
    have hparse : (ofMarkup .epoch 20).parse
        "\x7b\x7bDeath date and age|1940|6|10|2001|3|1\x7d\x7d" =
          [.template "Death date and age" parameters] := (Markup.parse_whole_call hcall).trans rfl
    have hname : canonicalName "Death date and age" ∈ ["death_date_and_age", "dda"] := by decide
    have hdeath : dateAt? call 1 = some death := by decide
    have hbirth : dateAt? call 4 = some birth := by decide
    have hhour : (DayTime.of? call).isSome = false := by
      rw [isSome_dayTime]
      decide
    have halone := dateProse_eq_iff.2 fun h : death.isFull ∧ (DayTime.of? call).isSome =>
      Bool.eq_false_iff.1 hhour h.2
    have hiso : death.iso = "1940-06-10" := by decide
    have hdisplay : death.display (call.flag "df") = "June 10, 1940" := by decide
    have hage : birth.age death = -61 := by decide
    rw [renderText, hparse, render_deathDateAndAge _ hname hdeath hbirth, halone, hiso, hdisplay,
      hage]
    rfl
  · let call := callOf "Death year and age" [⟨none, "1940"⟩, ⟨none, "1940"⟩]
    have hcall : Markup.balanced? '{' '}' 1 "Death year and age|1940|1940\x7d\x7d".toList =
        some ("Death year and age|1940|1940".toList, []) := by decide
    have hparse : (ofMarkup .epoch 20).parse "\x7b\x7bDeath year and age|1940|1940\x7d\x7d" =
        [.template "Death year and age" [⟨none, "1940"⟩, ⟨none, "1940"⟩]] :=
      (Markup.parse_whole_call hcall).trans rfl
    have hname : canonicalName "Death year and age" ∈ AgeTemplate.names .deathYear := by decide
    have hdeath : yearAt? call 1 = some 1940 := by decide
    have hbirth : yearAt? call 2 = some 1940 := by decide
    have hshown : deathYearAndAge call =
        .text (toString (1940 : Int) ++ " (aged\u00a0" ++ agesOfYears (1940 - 1940) ++ ")") := by
      simp only [deathYearAndAge, hdeath, hbirth]
    have hfind := find?_dateTemplates (AgeTemplate.mem_dateTemplates .deathYear) hname
    rw [renderText, hparse, render_finished _ hfind rfl, hshown, Prose.concat_text (by simp)]
    rfl

end Renderer

end GenreProse
