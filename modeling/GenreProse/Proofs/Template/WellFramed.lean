-- SUMMARY: Handlers frame only what may stand in a frame.
import GenreProse.Proofs.Prose.NormalForm
import GenreProse.Proofs.Template.Evaluation
import GenreProse.Template.Registry

/-!
# Well framed handlers

A handler puts into frames either single texts, pieces that it has brought into normal form, or
answers, which come in normal form. So its prose is well framed, whatever the call. It need not be
in normal form itself: what uses the prose sees to that.
-/

namespace GenreProse

/-! ## Handlers -/

/-- Whether the prose of an outcome is well framed, if it has prose. -/
def Outcome.WellFramed : Outcome → Prop
  | .prose shown => shown.WellFramed
  | .markup _ => True

/-- Whether an evaluation gives well framed prose, if its answers are in normal form. -/
abbrev Eval.WellFramed (eval : Eval Prose) : Prop :=
  eval.Ensures Prose.IsNormal Prose.WellFramed

/-- Whether a handler gives well framed prose, whatever it depends on. -/
def Handler.WellFramed : Handler → Prop
  | .plain prose => ∀ call, (prose call).WellFramed
  | .dated prose => ∀ now call, (prose now call).WellFramed
  | .linked prose => ∀ context call, (prose context call).WellFramed
  | .evaluating prose => ∀ call, (prose call).WellFramed
  | .expanding outcome => ∀ call, (outcome call).WellFramed

/-- A handler makes prose that is well framed, if the answers are in normal form. -/
theorem Handler.WellFramed.run {handler : Handler} (h : handler.WellFramed) (context : Context)
    (call : Call) : (handler.run context call).Ensures Prose.IsNormal Outcome.WellFramed := by
  cases handler with
  | plain prose => exact h call
  | dated prose => exact h context.now call
  | linked prose => exact h context call
  | evaluating prose => exact (h call).bind fun _ hprose => hprose
  | expanding outcome => exact h call

/-! ## Frames -/

@[simp] theorem callError_wellFramed (template problem : String) :
    (callError template problem).WellFramed :=
  Prose.wellFramed_error _

@[simp] theorem framed_text_wellFramed (frame : Frame) (s : String) :
    (Prose.framed frame [.text s]).WellFramed :=
  (Prose.isNormal_text s).wellFramed_framedIn frame

@[simp] theorem styled_text_wellFramed (style : Style) (s : String) :
    (Prose.styled style (.text s)).WellFramed :=
  (Prose.isNormal_text s).wellFramed_framedIn _

@[simp] theorem tooltip_text_wellFramed (title s : String) :
    (Prose.tooltip title (.text s)).WellFramed :=
  (Prose.isNormal_text s).wellFramed_framedIn _

/-- A style around joined prose is well framed if its pieces are. -/
theorem styled_concat_wellFramed (style : Style) {pieces : List Prose}
    (h : ∀ piece ∈ pieces, piece.WellFramed) : (Prose.styled style (.concat pieces)).WellFramed :=
  (Prose.isNormal_concat h).wellFramed_framedIn _

@[simp] theorem link_wellFramed (context : Context) (target text : String) :
    (context.link target text).WellFramed := by
  unfold Context.link
  simp only
  split <;> simp

namespace Template

open Eval

/-! ## Dates -/

@[simp] theorem invalidDate_wellFramed : invalidDate.WellFramed :=
  Prose.wellFramed_error _

@[simp] theorem dateProse_wellFramed (call : Call) (date : PartialDate) :
    (dateProse call date).WellFramed := by
  unfold dateProse
  simp only
  split <;> simp

theorem singleDate_wellFramed (call : Call) : (singleDate call).WellFramed := by
  unfold singleDate
  split <;> simp

theorem age_wellFramed (now : Moment) (call : Call) : (age now call).WellFramed := by
  unfold age
  simp only
  split
  · split
    · simp
    · split <;> simp
  · simp

theorem birthDateAndAge_wellFramed (now : Moment) (call : Call) :
    (birthDateAndAge now call).WellFramed := by
  unfold birthDateAndAge
  split <;> simp

theorem deathDateAndAge_wellFramed (call : Call) : (deathDateAndAge call).WellFramed := by
  unfold deathDateAndAge
  split <;> simp

theorem birthYearAndAge_wellFramed (now : Moment) (call : Call) :
    (birthYearAndAge now call).WellFramed := by
  unfold birthYearAndAge
  split <;> simp

theorem deathYearAndAge_wellFramed (call : Call) : (deathYearAndAge call).WellFramed := by
  unfold deathYearAndAge
  split <;> simp

theorem startDateAndAge_wellFramed (now : Moment) (call : Call) :
    (startDateAndAge now call).WellFramed := by
  unfold startDateAndAge
  split <;> simp

@[simp] theorem circaMark_wellFramed : circaMark.WellFramed :=
  tooltip_text_wellFramed _ _

theorem birthFromAge_wellFramed (now : Moment) (call : Call) :
    (birthFromAge now call).WellFramed := by
  unfold birthFromAge
  split
  · split <;> split <;> simp
  · simp

theorem timeAgo_wellFramed (now : Moment) (call : Call) : (timeAgo now call).WellFramed := by
  unfold timeAgo
  split
  · simp
  · simp only
    split <;> simp

theorem asOf_wellFramed (call : Call) : (asOf call).WellFramed := by
  unfold asOf
  split
  · simp
  · split <;> simp

theorem circa_wellFramed (call : Call) : (circa call).WellFramed := by
  simp [circa]

theorem floruit_wellFramed (call : Call) : (floruit call).WellFramed := by
  simp [floruit]

theorem decade_wellFramed (call : Call) : (decade call).WellFramed := by
  unfold decade
  split <;> simp

theorem currentYear_wellFramed (now : Moment) (call : Call) :
    (currentYear now call).WellFramed := by
  simp [currentYear]

/-! ## Languages -/

theorem inLanguage_wellFramed (call : Call) : (inLanguage call).WellFramed := by
  unfold inLanguage
  cases call.at? 1 with
  | none => exact callError_wellFramed _ _
  | some code =>
    refine (ensures_markup _).bind fun content hcontent => ?_
    refine Prose.IsNormal.wellFramed_framedIn ?_ _
    refine iteInduction (fun _ => ?_) fun _ => hcontent
    exact Prose.isNormal_of_wellFramed (hcontent.wellFramed_framedIn _) nofun

theorem languageText_wellFramed (call : Call) : (languageText call).WellFramed := by
  unfold languageText
  split
  · trivial
  · split
    · trivial
    · exact callError_wellFramed _ _

theorem languageOrigin_wellFramed (call : Call) : (languageOrigin call).WellFramed := by
  unfold languageOrigin
  split
  · exact callError_wellFramed _ _
  · simp only
    split <;> trivial

theorem etymology_wellFramed (call : Call) : (etymology call).WellFramed := by
  unfold etymology
  split
  · exact Prose.wellFramed_empty
  · trivial

theorem transliteration_wellFramed (call : Call) : (transliteration call).WellFramed := by
  unfold transliteration
  split
  · exact callError_wellFramed _ _
  · trivial

theorem postNominals_wellFramed (call : Call) : (postNominals call).WellFramed := by
  unfold postNominals
  simp only
  split
  · exact Prose.wellFramed_empty
  · split <;> trivial

theorem nihongoRomanized_wellFramed (call : Call) : (nihongoRomanized call).WellFramed := by
  unfold nihongoRomanized
  simp only
  split <;> trivial

theorem labelledTranscription_wellFramed (code transcription label : Option String) :
    (labelledTranscription code transcription label).WellFramed := by
  unfold labelledTranscription
  split <;> simp

theorem transcription_wellFramed (call : Call) : (transcription call).WellFramed := by
  unfold transcription
  split
  · exact labelledTranscription_wellFramed _ _ _
  · split <;> exact labelledTranscription_wellFramed _ _ _

theorem sound_wellFramed (token : String) : (sound token).WellFramed := by
  unfold sound
  split
  case h_5 => split <;> simp
  all_goals simp

theorem englishPronunciation_wellFramed (call : Call) : (englishPronunciation call).WellFramed := by
  unfold englishPronunciation
  simp only [Prose.wellFramed_concat, List.forall_mem_cons]
  refine ⟨Prose.wellFramed_text _, styled_concat_wellFramed _ ?sounds, ?file,
    List.forall_mem_nil _⟩
  case sounds =>
    refine List.forall_mem_cons.mpr ⟨Prose.wellFramed_text _, List.forall_mem_append.mpr ⟨?_, ?_⟩⟩
    · exact List.forall_mem_map.mpr fun token _ => sound_wellFramed token
    · simp
  case file => split <;> simp

/-! ## Links -/

@[simp] theorem externalLink_wellFramed (url text : String) :
    (externalLink url text).WellFramed :=
  framed_text_wellFramed _ _

theorem interlanguageLink_wellFramed (context : Context) (call : Call) :
    (interlanguageLink context call).WellFramed := by
  unfold interlanguageLink
  split
  · simp
  · simp only
    split
    · simp [foreignMark, styled_concat_wellFramed]
    · simp

theorem sectionLink_wellFramed (context : Context) (call : Call) :
    (sectionLink context call).WellFramed := by
  unfold sectionLink
  simp only
  split
  · simp
  · split <;> simp

theorem wiktionaryLink_wellFramed (call : Call) : (wiktionaryLink call).WellFramed := by
  unfold wiktionaryLink
  split <;> simp

theorem addressLink_wellFramed (call : Call) : (addressLink call).WellFramed := by
  unfold addressLink
  split <;> simp

theorem officialWebsite_wellFramed (call : Call) : (officialWebsite call).WellFramed := by
  unfold officialWebsite
  split <;> simp

/-! ## Numbers -/

theorem conversion_wellFramed (call : Call) : (conversion call).WellFramed := by
  unfold conversion
  split
  · simp
  · simp only
    split <;> simp

theorem ordinalNumber_wellFramed (call : Call) : (ordinalNumber call).WellFramed := by
  unfold ordinalNumber
  split
  · simp
  · simp only
    split <;> simp

theorem mixedFraction_wellFramed (whole : Option String) (numerator denominator : String) :
    (mixedFraction whole numerator denominator).WellFramed := by
  simp [mixedFraction]

theorem fraction_wellFramed (call : Call) : (fraction call).WellFramed := by
  unfold fraction
  split
  · exact Prose.wellFramed_empty
  all_goals exact mixedFraction_wellFramed _ _ _

theorem measuredValue_wellFramed (call : Call) : (measuredValue call).WellFramed := by
  have hvalue (number : String) :
      ∀ piece ∈ Prose.text (groupDecimal number) :: uncertainty call ++ powerOfTen call,
        piece.WellFramed := by
    unfold uncertainty powerOfTen
    split <;> split <;> simp
  unfold measuredValue
  split
  · exact Prose.wellFramed_error _
  · simp only
    split
    · exact Prose.wellFramed_concat.mpr (hvalue _)
    · refine (ensures_markup _).bind fun unit hunit => ?_
      refine Prose.wellFramed_concat.mpr (List.forall_mem_append.mpr ⟨hvalue _, ?_⟩)
      simp [hunit.wellFramed]

theorem dollars_wellFramed (context : Context) (call : Call) :
    (dollars context call).WellFramed := by
  unfold dollars
  simp only
  split <;> simp

theorem numberInWords_wellFramed (call : Call) : (numberInWords call).WellFramed := by
  unfold numberInWords
  simp only
  split <;> simp

/-! ## Sound and notes -/

theorem soundFile_wellFramed (template : String) (fileKeys titleKeys : List String) :
    (soundFile template fileKeys titleKeys).WellFramed := by
  intro call
  simp only
  cases call.firstOf? fileKeys with
  | none => exact callError_wellFramed _ _
  | some file => exact (ensures_markup _).bind fun title htitle => htitle.wellFramed_framedIn _

theorem musicSymbol_wellFramed (call : Call) : (musicSymbol call).WellFramed := by
  unfold musicSymbol
  simp only
  split <;> simp

theorem notedSpan_wellFramed (call : Call) : (notedSpan call).WellFramed := by
  unfold notedSpan
  refine (ensures_markup? _ Prose.isNormal_empty).bind fun text htext => ?_
  exact Prose.wellFramed_concat.mpr (by simp [htext.wellFramed])

/-! ## Styles, lists and quotations -/

theorem inStyle_wellFramed (style : Style) : (inStyle style).WellFramed :=
  fun _ => (ensures_markup? _ Prose.isNormal_empty).bind fun _ htext => htext.wellFramed_framedIn _

theorem fixedText_wellFramed (text : String) : (fixedText text).WellFramed :=
  fun _ => Prose.wellFramed_text text

theorem separated_wellFramed {separator : Prose} (h : separator.WellFramed) (items : List String) :
    (separated separator items).WellFramed := by
  refine (ensures_markups items).bind fun pieces hpieces => ?_
  refine Prose.wellFramed_concat.mpr fun piece hpiece => ?_
  rcases mem_intersperse.mp hpiece with hpiece | ⟨rfl, -⟩
  · exact (hpieces piece hpiece).wellFramed
  · exact h

section

variable {separator : Prose} (h : separator.WellFramed)
include h

theorem argumentList_wellFramed : (argumentList separator).WellFramed :=
  fun _ => separated_wellFramed h _

theorem bulletedList_wellFramed : (bulletedList separator).WellFramed :=
  fun _ => separated_wellFramed h _

end

theorem middleDot_wellFramed : middleDot.WellFramed :=
  Prose.wellFramed_text _

theorem abbreviation_wellFramed (call : Call) : (abbreviation call).WellFramed := by
  unfold abbreviation
  refine (ensures_markup? _ Prose.isNormal_empty).bind fun short hshort => ?_
  split
  · exact hshort.wellFramed_framedIn _
  · exact hshort.wellFramed

theorem quote_wellFramed (call : Call) : (quote call).WellFramed := by
  unfold quote
  refine (ensures_markup? _ Prose.isNormal_empty).bind fun text htext => ?_
  simp only
  split
  · exact styled_concat_wellFramed _ (by simp [htext.wellFramed])
  · refine (ensures_markup _).bind fun cite hcite => ?_
    exact styled_concat_wellFramed _ (by simp [htext.wellFramed, hcite.wellFramed])

theorem sicMark_wellFramed : sicMark.WellFramed := by
  simp [sicMark]

theorem sic_wellFramed (call : Call) : (sic call).WellFramed := by
  unfold sic
  refine (ensures_markup _).bind fun text htext => ?_
  split
  · exact htext.wellFramed
  · split
    · exact sicMark_wellFramed
    · exact Prose.wellFramed_concat.mpr (by simp [htext.wellFramed, sicMark_wellFramed])

theorem asWritten_wellFramed (call : Call) : (asWritten call).WellFramed := by
  intro text htext
  exact htext.wellFramed

/-! ## All templates -/

theorem namedLanguageTemplates_wellFramed :
    ∀ entry ∈ namedLanguageTemplates, entry.2.WellFramed := by
  intro entry hentry
  obtain ⟨⟨code, _⟩, _, hentry⟩ := List.mem_flatMap.mp hentry
  simp only [List.mem_cons, List.not_mem_nil, or_false] at hentry
  rcases hentry with rfl | rfl
  · exact languageText_wellFramed
  · exact transcription_wellFramed

/-- Every known template has a handler that frames well. -/
theorem known_wellFramed : ∀ entry ∈ known, entry.2.WellFramed := by
  simp only [known, List.forall_mem_append]
  refine ⟨⟨⟨⟨⟨⟨⟨?dates, ?languages⟩, ?links⟩, ?numbers⟩, ?media⟩, ?maintenance⟩, ?typography⟩,
    namedLanguageTemplates_wellFramed⟩
  case dates =>
    simp only [dateTemplates, List.forall_mem_cons]
    exact ⟨age_wellFramed, singleDate_wellFramed, birthDateAndAge_wellFramed,
      deathDateAndAge_wellFramed, birthYearAndAge_wellFramed, deathYearAndAge_wellFramed,
      startDateAndAge_wellFramed, birthFromAge_wellFramed, timeAgo_wellFramed, asOf_wellFramed,
      circa_wellFramed, floruit_wellFramed, decade_wellFramed, currentYear_wellFramed,
      List.forall_mem_nil _⟩
  case languages =>
    simp only [languageTemplates, List.forall_mem_cons]
    exact ⟨fun _ => trivial, fun _ => trivial, nihongoRomanized_wellFramed, fun _ => trivial,
      inLanguage_wellFramed, languageText_wellFramed, languageOrigin_wellFramed,
      fun _ => trivial, fun _ => trivial, fun _ => trivial, etymology_wellFramed,
      postNominals_wellFramed, transliteration_wellFramed, fun _ => trivial, fun _ => trivial,
      transcription_wellFramed, englishPronunciation_wellFramed, List.forall_mem_nil _⟩
  case links =>
    simp only [linkTemplates, List.forall_mem_cons]
    exact ⟨interlanguageLink_wellFramed, sectionLink_wellFramed, wiktionaryLink_wellFramed,
      addressLink_wellFramed, officialWebsite_wellFramed, List.forall_mem_nil _⟩
  case numbers =>
    simp only [numberTemplates, List.forall_mem_cons]
    exact ⟨conversion_wellFramed, ordinalNumber_wellFramed, fraction_wellFramed,
      measuredValue_wellFramed, dollars_wellFramed, numberInWords_wellFramed,
      List.forall_mem_nil _⟩
  case media =>
    simp only [mediaTemplates, List.forall_mem_cons]
    exact ⟨soundFile_wellFramed _ _ _, soundFile_wellFramed _ _ _, musicSymbol_wellFramed,
      List.forall_mem_nil _⟩
  case maintenance =>
    simp only [maintenanceTemplates, List.forall_mem_cons]
    exact ⟨fun _ => Prose.wellFramed_maintenance _, notedSpan_wellFramed,
      fun _ => Prose.wellFramed_empty, List.forall_mem_nil _⟩
  case typography =>
    simp only [typographyTemplates, List.forall_mem_cons]
    exact ⟨inStyle_wellFramed _, inStyle_wellFramed _, inStyle_wellFramed _, inStyle_wellFramed _,
      fun _ => Prose.wellFramed_text _, fixedText_wellFramed _, fixedText_wellFramed _,
      fixedText_wellFramed _, fixedText_wellFramed _, fixedText_wellFramed _,
      fixedText_wellFramed _, fixedText_wellFramed _, fixedText_wellFramed _,
      argumentList_wellFramed middleDot_wellFramed, bulletedList_wellFramed middleDot_wellFramed,
      bulletedList_wellFramed Prose.wellFramed_newline,
      argumentList_wellFramed Prose.wellFramed_newline, quote_wellFramed,
      abbreviation_wellFramed, sic_wellFramed, asWritten_wellFramed, List.forall_mem_nil _⟩

/-- Every handler of the table makes prose that is well framed. -/
theorem find?_wellFramed {name : String} {handler : Handler} (h : find? name = some handler) :
    handler.WellFramed := by
  obtain ⟨entry, hentry, rfl⟩ := Option.map_eq_some_iff.mp h
  exact known_wellFramed entry (List.mem_of_find?_eq_some hentry)

end Template

end GenreProse
