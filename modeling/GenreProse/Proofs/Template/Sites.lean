-- SUMMARY: Handlers write a single class, and secure addresses or those of their calls.
import GenreProse.Proofs.Prose.Frames
import GenreProse.Proofs.Template.Evaluation
import GenreProse.Template.Registry

/-!
# Classes and links of handlers

A handler gives no class to what it shows but that of the keys to a transcription. It writes the
addresses of its links to other sites itself, up from a secure scheme, or the links are in the
answers that it got. Only the two templates for such links take an address from their call, and leave
it as it is if it has a scheme.
-/

namespace GenreProse

/-! ## Handlers -/

/-- Whether the prose of an outcome keeps to allowed addresses, if it has prose. -/
def Outcome.KeepsTo (allowed : String → Prop) : Outcome → Prop
  | .prose shown => shown.KeepsTo allowed
  | .markup _ => True

/-- Whether an evaluation gives prose that keeps to allowed addresses, if its answers do. -/
abbrev Eval.KeepsTo (allowed : String → Prop) (eval : Eval Prose) : Prop :=
  eval.Ensures (Prose.KeepsTo allowed) (Prose.KeepsTo allowed)

/-- Whether a handler gives prose that keeps to allowed addresses, whatever it depends on. -/
def Handler.KeepsTo (allowed : String → Prop) : Handler → Prop
  | .plain prose => ∀ call, (prose call).KeepsTo allowed
  | .dated prose => ∀ now call, (prose now call).KeepsTo allowed
  | .linked prose => ∀ context call, (prose context call).KeepsTo allowed
  | .evaluating prose => ∀ call, (prose call).KeepsTo allowed
  | .expanding outcome => ∀ call, (outcome call).KeepsTo allowed

variable {allowed : String → Prop}

/-- A handler keeps to what is allowed when it runs, if the answers do. -/
theorem Handler.KeepsTo.run {handler : Handler} (h : handler.KeepsTo allowed) (context : Context)
    (call : Call) :
    (handler.run context call).Ensures (Prose.KeepsTo allowed) (Outcome.KeepsTo allowed) := by
  cases handler with
  | plain prose => exact h call
  | dated prose => exact h context.now call
  | linked prose => exact h context call
  | evaluating prose => exact (h call).bind fun _ hprose => hprose
  | expanding outcome => exact h call

@[simp] theorem callError_keepsTo (template problem : String) :
    (callError template problem).KeepsTo allowed :=
  Prose.keepsTo_error _

@[simp] theorem link_keepsTo (context : Context) (target text : String) :
    (context.link target text).KeepsTo allowed := by
  unfold Context.link
  simp only
  split <;> simp

/-! ## Openings -/

namespace Text

/-- What a text opens with, a longer one opens with. -/
theorem opensWith_append {s p : String} (h : opensWith s p) (t : String) :
    opensWith (s ++ t) p := by
  rw [opensWith, Chars.opensWith_iff] at h ⊢
  rw [String.toList_append]
  exact h.trans (List.prefix_append _ _)

end Text

/-- The address of a page opens like the article path. -/
theorem Title.opensWith_url (title : Title) {base p : String} (h : Text.opensWith base p) :
    Text.opensWith (title.url base) p := by
  unfold url
  split <;> split <;> simp only [String.append_assoc, Text.opensWith_append h]

namespace Template

open Eval

/-! ## Dates -/

@[simp] theorem invalidDate_keepsTo : invalidDate.KeepsTo allowed :=
  Prose.keepsTo_error _

@[simp] theorem dateProse_keepsTo (call : Call) (date : PartialDate) :
    (dateProse call date).KeepsTo allowed := by
  unfold dateProse
  simp only
  split <;> simp

theorem singleDate_keepsTo (call : Call) : (singleDate call).KeepsTo allowed := by
  unfold singleDate
  split <;> simp

theorem age_keepsTo (now : Moment) (call : Call) : (age now call).KeepsTo allowed := by
  unfold age
  simp only
  split
  · split
    · simp
    · split <;> simp
  · simp

theorem birthDateAndAge_keepsTo (now : Moment) (call : Call) :
    (birthDateAndAge now call).KeepsTo allowed := by
  unfold birthDateAndAge
  split <;> simp

theorem deathDateAndAge_keepsTo (call : Call) : (deathDateAndAge call).KeepsTo allowed := by
  unfold deathDateAndAge
  split <;> simp

theorem birthYearAndAge_keepsTo (now : Moment) (call : Call) :
    (birthYearAndAge now call).KeepsTo allowed := by
  unfold birthYearAndAge
  split <;> simp

theorem deathYearAndAge_keepsTo (call : Call) : (deathYearAndAge call).KeepsTo allowed := by
  unfold deathYearAndAge
  split <;> simp

theorem startDateAndAge_keepsTo (now : Moment) (call : Call) :
    (startDateAndAge now call).KeepsTo allowed := by
  unfold startDateAndAge
  split <;> simp

@[simp] theorem circaMark_keepsTo : circaMark.KeepsTo allowed := by
  simp [circaMark]

theorem birthFromAge_keepsTo (now : Moment) (call : Call) :
    (birthFromAge now call).KeepsTo allowed := by
  unfold birthFromAge
  split
  · split <;> split <;> simp
  · simp

theorem timeAgo_keepsTo (now : Moment) (call : Call) : (timeAgo now call).KeepsTo allowed := by
  unfold timeAgo
  split
  · simp
  · simp only
    split <;> simp

theorem asOf_keepsTo (call : Call) : (asOf call).KeepsTo allowed := by
  unfold asOf
  split
  · simp
  · split <;> simp

theorem circa_keepsTo (call : Call) : (circa call).KeepsTo allowed := by
  simp [circa]

theorem floruit_keepsTo (call : Call) : (floruit call).KeepsTo allowed := by
  simp [floruit]

theorem decade_keepsTo (call : Call) : (decade call).KeepsTo allowed := by
  unfold decade
  split <;> simp

theorem currentYear_keepsTo (now : Moment) (call : Call) :
    (currentYear now call).KeepsTo allowed := by
  simp [currentYear]

/-- Date templates link nowhere. -/
theorem dateTemplates_keepsTo : ∀ entry ∈ dateTemplates, entry.2.KeepsTo allowed := by
  simp only [dateTemplates, List.forall_mem_cons]
  exact ⟨age_keepsTo, singleDate_keepsTo, birthDateAndAge_keepsTo, deathDateAndAge_keepsTo,
    birthYearAndAge_keepsTo, deathYearAndAge_keepsTo, startDateAndAge_keepsTo,
    birthFromAge_keepsTo, timeAgo_keepsTo, asOf_keepsTo, circa_keepsTo, floruit_keepsTo,
    decade_keepsTo, currentYear_keepsTo, List.forall_mem_nil _⟩

/-! ## Languages -/

theorem inLanguage_keepsTo (call : Call) : (inLanguage call).KeepsTo allowed := by
  unfold inLanguage
  cases call.at? 1 with
  | none => exact callError_keepsTo _ _
  | some code =>
    refine (ensures_markup _).bind fun content hcontent => ?_
    refine Prose.keepsTo_framedIn.mpr ⟨trivial, ?_⟩
    exact iteInduction (fun _ => Prose.keepsTo_styled.mpr hcontent) fun _ => hcontent

theorem languageText_keepsTo (call : Call) : (languageText call).KeepsTo allowed := by
  unfold languageText
  split
  · trivial
  · split
    · trivial
    · exact callError_keepsTo _ _

theorem languageOrigin_keepsTo (call : Call) : (languageOrigin call).KeepsTo allowed := by
  unfold languageOrigin
  split
  · exact callError_keepsTo _ _
  · simp only
    split <;> trivial

theorem etymology_keepsTo (call : Call) : (etymology call).KeepsTo allowed := by
  unfold etymology
  split
  · exact Prose.keepsTo_empty
  · trivial

theorem transliteration_keepsTo (call : Call) : (transliteration call).KeepsTo allowed := by
  unfold transliteration
  split
  · exact callError_keepsTo _ _
  · trivial

theorem postNominals_keepsTo (call : Call) : (postNominals call).KeepsTo allowed := by
  unfold postNominals
  simp only
  split
  · exact Prose.keepsTo_empty
  · split <;> trivial

theorem nihongoRomanized_keepsTo (call : Call) : (nihongoRomanized call).KeepsTo allowed := by
  unfold nihongoRomanized
  simp only
  split <;> trivial

theorem labelledTranscription_keepsTo (code transcription label : Option String) :
    (labelledTranscription code transcription label).KeepsTo allowed := by
  unfold labelledTranscription
  split <;> simp

theorem transcription_keepsTo (call : Call) : (transcription call).KeepsTo allowed := by
  unfold transcription
  split
  · exact labelledTranscription_keepsTo _ _ _
  · split <;> exact labelledTranscription_keepsTo _ _ _

theorem sound_keepsTo (token : String) : (sound token).KeepsTo allowed := by
  unfold sound
  split
  case h_5 => split <;> simp
  all_goals simp

theorem englishPronunciation_keepsTo (call : Call) :
    (englishPronunciation call).KeepsTo allowed := by
  unfold englishPronunciation
  simp only [Prose.keepsTo_concat, Prose.keepsTo_styled, List.forall_mem_cons]
  refine ⟨Prose.keepsTo_text _, List.forall_mem_append.mpr ⟨?sounds, by simp⟩, ?file,
    List.forall_mem_nil _⟩
  case sounds =>
    refine List.forall_mem_cons.mpr ⟨Prose.keepsTo_text _, ?_⟩
    exact List.forall_mem_map.mpr fun token _ => sound_keepsTo token
  case file => split <;> simp

/-- Templates of languages link nowhere. -/
theorem languageTemplates_keepsTo : ∀ entry ∈ languageTemplates, entry.2.KeepsTo allowed := by
  simp only [languageTemplates, List.forall_mem_cons]
  exact ⟨fun _ => trivial, fun _ => trivial, nihongoRomanized_keepsTo, fun _ => trivial,
    inLanguage_keepsTo, languageText_keepsTo, languageOrigin_keepsTo, fun _ => trivial,
    fun _ => trivial, fun _ => trivial, etymology_keepsTo, postNominals_keepsTo,
    transliteration_keepsTo, fun _ => trivial, fun _ => trivial, transcription_keepsTo,
    englishPronunciation_keepsTo, List.forall_mem_nil _⟩

theorem namedLanguageTemplates_keepsTo :
    ∀ entry ∈ namedLanguageTemplates, entry.2.KeepsTo allowed := by
  intro entry hentry
  obtain ⟨⟨code, _⟩, _, hentry⟩ := List.mem_flatMap.mp hentry
  simp only [List.mem_cons, List.not_mem_nil, or_false] at hentry
  rcases hentry with rfl | rfl
  · exact languageText_keepsTo
  · exact transcription_keepsTo

/-! ## Numbers, sound and notes -/

theorem conversion_keepsTo (call : Call) : (conversion call).KeepsTo allowed := by
  unfold conversion
  split
  · simp
  · simp only
    split <;> simp

theorem ordinalNumber_keepsTo (call : Call) : (ordinalNumber call).KeepsTo allowed := by
  unfold ordinalNumber
  split
  · simp
  · simp only
    split <;> simp

theorem mixedFraction_keepsTo (whole : Option String) (numerator denominator : String) :
    (mixedFraction whole numerator denominator).KeepsTo allowed := by
  simp [mixedFraction]

theorem fraction_keepsTo (call : Call) : (fraction call).KeepsTo allowed := by
  unfold fraction
  split
  · exact Prose.keepsTo_empty
  all_goals exact mixedFraction_keepsTo _ _ _

theorem measuredValue_keepsTo (call : Call) : (measuredValue call).KeepsTo allowed := by
  have hvalue (number : String) :
      ∀ piece ∈ Prose.text (groupDecimal number) :: uncertainty call ++ powerOfTen call,
        piece.KeepsTo allowed := by
    unfold uncertainty powerOfTen
    split <;> split <;> simp
  unfold measuredValue
  split
  · exact Prose.keepsTo_error _
  · simp only
    split
    · exact Prose.keepsTo_concat.mpr (hvalue _)
    · refine (ensures_markup _).bind fun unit hunit => ?_
      refine Prose.keepsTo_concat.mpr (List.forall_mem_append.mpr ⟨hvalue _, ?_⟩)
      simp [hunit]

theorem dollars_keepsTo (context : Context) (call : Call) :
    (dollars context call).KeepsTo allowed := by
  unfold dollars
  simp only
  split <;> simp

theorem numberInWords_keepsTo (call : Call) : (numberInWords call).KeepsTo allowed := by
  unfold numberInWords
  simp only
  split <;> simp

/-- Templates of numbers link nowhere, or to an article. -/
theorem numberTemplates_keepsTo : ∀ entry ∈ numberTemplates, entry.2.KeepsTo allowed := by
  simp only [numberTemplates, List.forall_mem_cons]
  exact ⟨conversion_keepsTo, ordinalNumber_keepsTo, fraction_keepsTo, measuredValue_keepsTo,
    dollars_keepsTo, numberInWords_keepsTo, List.forall_mem_nil _⟩

theorem soundFile_keepsTo (template : String) (fileKeys titleKeys : List String) :
    (soundFile template fileKeys titleKeys).KeepsTo allowed := by
  intro call
  simp only
  cases call.firstOf? fileKeys with
  | none => exact callError_keepsTo _ _
  | some file =>
    refine (ensures_markup _).bind fun title htitle => ?_
    exact Prose.keepsTo_framedIn.mpr ⟨trivial, htitle⟩

theorem musicSymbol_keepsTo (call : Call) : (musicSymbol call).KeepsTo allowed := by
  unfold musicSymbol
  simp only
  split <;> simp

/-- Templates of sound link nowhere. -/
theorem mediaTemplates_keepsTo : ∀ entry ∈ mediaTemplates, entry.2.KeepsTo allowed := by
  simp only [mediaTemplates, List.forall_mem_cons]
  exact ⟨soundFile_keepsTo _ _ _, soundFile_keepsTo _ _ _, musicSymbol_keepsTo,
    List.forall_mem_nil _⟩

theorem notedSpan_keepsTo (call : Call) : (notedSpan call).KeepsTo allowed := by
  unfold notedSpan
  refine (ensures_markup? _ Prose.keepsTo_empty).bind fun text htext => ?_
  exact Prose.keepsTo_concat.mpr (by simp [htext])

theorem maintenanceTemplates_keepsTo :
    ∀ entry ∈ maintenanceTemplates, entry.2.KeepsTo allowed := by
  simp only [maintenanceTemplates, List.forall_mem_cons]
  exact ⟨fun _ => Prose.keepsTo_maintenance _, notedSpan_keepsTo, fun _ => Prose.keepsTo_empty,
    List.forall_mem_nil _⟩

/-! ## Styles, lists and quotations -/

theorem inStyle_keepsTo (style : Style) : (inStyle style).KeepsTo allowed :=
  fun _ => (ensures_markup? _ Prose.keepsTo_empty).bind fun _ => Prose.keepsTo_styled.mpr

theorem fixedText_keepsTo (text : String) : (fixedText text).KeepsTo allowed :=
  fun _ => Prose.keepsTo_text text

theorem separated_keepsTo {separator : Prose} (h : separator.KeepsTo allowed)
    (items : List String) : (separated separator items).KeepsTo allowed := by
  refine (ensures_markups items).bind fun pieces hpieces => ?_
  refine Prose.keepsTo_concat.mpr fun piece hpiece => ?_
  rcases mem_intersperse.mp hpiece with hpiece | ⟨rfl, -⟩
  · exact hpieces piece hpiece
  · exact h

section

variable {separator : Prose} (h : separator.KeepsTo allowed)
include h

theorem argumentList_keepsTo : (argumentList separator).KeepsTo allowed :=
  fun _ => separated_keepsTo h _

theorem bulletedList_keepsTo : (bulletedList separator).KeepsTo allowed :=
  fun _ => separated_keepsTo h _

end

theorem abbreviation_keepsTo (call : Call) : (abbreviation call).KeepsTo allowed := by
  unfold abbreviation
  refine (ensures_markup? _ Prose.keepsTo_empty).bind fun short hshort => ?_
  split
  · exact Prose.keepsTo_tooltip.mpr hshort
  · exact hshort

theorem quote_keepsTo (call : Call) : (quote call).KeepsTo allowed := by
  unfold quote
  refine (ensures_markup? _ Prose.keepsTo_empty).bind fun text htext => ?_
  simp only
  split
  · exact Prose.keepsTo_styled.mpr (by simp [htext])
  · refine (ensures_markup _).bind fun cite hcite => ?_
    exact Prose.keepsTo_styled.mpr (by simp [htext, hcite])

theorem sic_keepsTo (call : Call) : (sic call).KeepsTo allowed := by
  have hmark : sicMark.KeepsTo allowed := by simp [sicMark]
  unfold sic
  refine (ensures_markup _).bind fun text htext => ?_
  split
  · exact htext
  · split
    · exact hmark
    · exact Prose.keepsTo_concat.mpr (by simp [htext, hmark])

theorem asWritten_keepsTo (call : Call) : (asWritten call).KeepsTo allowed :=
  fun _ htext => htext

/-- Templates of style and quotation link nowhere. -/
theorem typographyTemplates_keepsTo :
    ∀ entry ∈ typographyTemplates, entry.2.KeepsTo allowed := by
  simp only [typographyTemplates, List.forall_mem_cons]
  exact ⟨inStyle_keepsTo _, inStyle_keepsTo _, inStyle_keepsTo _, inStyle_keepsTo _,
    fun _ => Prose.keepsTo_text _, fixedText_keepsTo _, fixedText_keepsTo _,
    fixedText_keepsTo _, fixedText_keepsTo _, fixedText_keepsTo _, fixedText_keepsTo _,
    fixedText_keepsTo _, fixedText_keepsTo _, argumentList_keepsTo (Prose.keepsTo_text _),
    bulletedList_keepsTo (Prose.keepsTo_text _), bulletedList_keepsTo Prose.keepsTo_newline,
    argumentList_keepsTo Prose.keepsTo_newline, quote_keepsTo, abbreviation_keepsTo, sic_keepsTo,
    asWritten_keepsTo, List.forall_mem_nil _⟩

/-! ## Links -/

theorem sectionLink_keepsTo (context : Context) (call : Call) :
    (sectionLink context call).KeepsTo allowed := by
  unfold sectionLink
  simp only
  split
  · simp
  · split <;> simp

section

variable (hsecure : ∀ url, Text.opensWith url "https:" → allowed url)
include hsecure

/-- A link to another wiki is secure. -/
theorem interlanguageLink_keepsTo (context : Context) (call : Call) :
    (interlanguageLink context call).KeepsTo allowed := by
  unfold interlanguageLink
  split
  · simp
  · simp only
    split
    · have hforeign (title : Title) (path : String) : allowed (title.url ("https://" ++ path)) :=
        hsecure _ (title.opensWith_url (Text.opensWith_append rfl path))
      simp [foreignMark, externalLink, String.append_assoc, hforeign]
    · simp

/-- A link to the dictionary is secure. -/
theorem wiktionaryLink_keepsTo (call : Call) : (wiktionaryLink call).KeepsTo allowed := by
  unfold wiktionaryLink
  split
  · simp
  · simp only [externalLink, Prose.keepsTo_framed_text, Frame.KeepsTo]
    have hpage (page : String) : Text.opensWith (wiktionaryBaseUrl ++ page) "https:" :=
      Text.opensWith_append (by decide) page
    refine hsecure _ ?_
    split
    · exact hpage _
    · exact Text.opensWith_append (Text.opensWith_append (hpage _) _) _

/-- An address gets a secure scheme, if it is not left as it is. -/
theorem allowed_withScheme {address : String} (h : withScheme address = address → allowed address) :
    allowed (withScheme address) := by
  by_cases hkept : withScheme address = address
  · rw [hkept]
    exact h hkept
  · refine hsecure _ ?_
    unfold withScheme at hkept ⊢
    split
    · exact Text.opensWith_append rfl _
    · next hslashes =>
      rw [if_neg hslashes] at hkept
      split
      · next hscheme => exact absurd (if_pos hscheme) hkept
      · exact Text.opensWith_append rfl _

end

/-- The address in the call of a template for links to other sites, if it is left as it is. -/
def address? (call : Call) : Option String :=
  let address := match canonicalName call.name with
    | "url" => call.at? 1
    | "official_website" | "official" => call.firstOf? ["1", "url", "URL"]
    | _ => none
  address.filter fun address => withScheme address = address

section

variable (hsecure : ∀ url, Text.opensWith url "https:" → allowed url) {call : Call}
  (hcall : ∀ url, address? call = some url → allowed url)
include hsecure hcall

/-- The template for addresses links to its own address. -/
theorem addressLink_keepsTo (h : canonicalName call.name = "url") :
    (addressLink call).KeepsTo allowed := by
  unfold addressLink
  split
  · simp
  · next address haddress =>
    simp only [externalLink, Prose.keepsTo_framed_text, Frame.KeepsTo]
    refine allowed_withScheme hsecure fun hkept => hcall address ?_
    simp [address?, h, haddress, hkept]

/-- So does the one for official websites. -/
theorem officialWebsite_keepsTo (h : canonicalName call.name ∈ ["official_website", "official"]) :
    (officialWebsite call).KeepsTo allowed := by
  unfold officialWebsite
  split
  · simp
  · next address haddress =>
    simp only [externalLink, Prose.keepsTo_framed_text, Frame.KeepsTo]
    refine allowed_withScheme hsecure fun hkept => hcall address ?_
    simp only [List.mem_cons, List.not_mem_nil, or_false] at h
    rcases h with h | h <;> simp [address?, h, haddress, hkept]

/-! ## All templates -/

/-- Every known template links to other sites over a secure scheme or at the address of its call,
    besides the links in its answers. -/
theorem find?_keepsTo {handler : Handler} (hfind : find? (canonicalName call.name) = some handler)
    (context : Context) :
    (handler.run context call).Ensures (Prose.KeepsTo allowed) (Outcome.KeepsTo allowed) := by
  obtain ⟨⟨names, handler⟩, hentry, rfl⟩ := Option.map_eq_some_iff.mp hfind
  have hname : canonicalName call.name ∈ names := by simpa using List.find?_some hentry
  have hknown := List.mem_of_find?_eq_some hentry
  simp only [known, List.mem_append] at hknown
  obtain (((((((h | h) | h) | h) | h) | h) | h) | h) := hknown
  · exact (dateTemplates_keepsTo _ h).run context call
  · exact (languageTemplates_keepsTo _ h).run context call
  · simp only [linkTemplates, List.mem_cons, List.not_mem_nil, or_false, Prod.mk.injEq] at h
    rcases h with ⟨rfl, rfl⟩ | ⟨rfl, rfl⟩ | ⟨rfl, rfl⟩ | ⟨rfl, rfl⟩ | ⟨rfl, rfl⟩
    · exact interlanguageLink_keepsTo hsecure context call
    · exact sectionLink_keepsTo context call
    · exact wiktionaryLink_keepsTo hsecure call
    · exact addressLink_keepsTo hsecure hcall (List.mem_singleton.mp hname)
    · exact officialWebsite_keepsTo hsecure hcall hname
  · exact (numberTemplates_keepsTo _ h).run context call
  · exact (mediaTemplates_keepsTo _ h).run context call
  · exact (maintenanceTemplates_keepsTo _ h).run context call
  · exact (typographyTemplates_keepsTo _ h).run context call
  · exact (namedLanguageTemplates_keepsTo _ h).run context call

end

end Template

end GenreProse
