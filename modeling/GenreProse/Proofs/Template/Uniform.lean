-- SUMMARY: Handlers take no notice of how the name of a call is spelled.
import GenreProse.Template.Registry

/-!
# Uniform handlers

A handler gets the name of a call as it is written. It may look up arguments, for which the name
does not matter, and it may ask for the canonical name. All known templates have handlers that do
not get at the name in any other way.
-/

namespace GenreProse

/-! ## Calls -/

namespace Call

variable {α : Type}

/-- Whether something made from a call depends on its name only through the canonical form. -/
def Uniform (f : Call → α) : Prop :=
  ∀ ⦃name name' : String⦄, canonicalName name = canonicalName name' →
    ∀ parameters, f ⟨name, parameters⟩ = f ⟨name', parameters⟩

/-- The canonical name does not depend on how the name is spelled. -/
theorem template_uniform : Uniform template := by
  intro name name' h parameters
  unfold template
  exact h

/-- Nor do the positional arguments. -/
theorem positionalAfter_uniform (count index : Nat) :
    Uniform fun call => call.positionalAfter count index := by
  intro name name' h parameters
  induction count generalizing index with
  | zero => rfl
  | succ count ih =>
    have hget : (⟨name, parameters⟩ : Call).get? = (⟨name', parameters⟩ : Call).get? := rfl
    simp only [positionalAfter, hget, ih (index + 1)]

theorem positional_uniform : Uniform positional :=
  fun _ _ h parameters => positionalAfter_uniform parameters.length 0 h parameters

theorem items_uniform : Uniform items := by
  intro name name' h parameters
  rw [items, items, positional_uniform h]

end Call

open Call

/-- Whether a handler depends on the name of a call only through the canonical form. -/
def Handler.Uniform : Handler → Prop
  | .plain prose => Call.Uniform prose
  | .dated prose => ∀ now, Call.Uniform (prose now)
  | .linked prose => ∀ context, Call.Uniform (prose context)
  | .evaluating prose => Call.Uniform prose
  | .expanding outcome => Call.Uniform outcome

/-- A handler runs alike however the name is spelled. -/
theorem Handler.Uniform.run {handler : Handler} (h : handler.Uniform) (context : Context) :
    Call.Uniform (handler.run context) := by
  intro name name' hname parameters
  cases handler with
  | plain prose =>
    have hprose : prose ⟨name, parameters⟩ = prose ⟨name', parameters⟩ := h hname parameters
    rw [Handler.run, Handler.run, hprose]
  | dated prose =>
    have hprose : prose context.now ⟨name, parameters⟩ = prose context.now ⟨name', parameters⟩ :=
      h context.now hname parameters
    rw [Handler.run, Handler.run, hprose]
  | linked prose =>
    have hprose : prose context ⟨name, parameters⟩ = prose context ⟨name', parameters⟩ :=
      h context hname parameters
    rw [Handler.run, Handler.run, hprose]
  | evaluating prose =>
    have hprose : prose ⟨name, parameters⟩ = prose ⟨name', parameters⟩ := h hname parameters
    rw [Handler.run, Handler.run, hprose]
  | expanding outcome =>
    have houtcome : outcome ⟨name, parameters⟩ = outcome ⟨name', parameters⟩ :=
      h hname parameters
    rw [Handler.run, Handler.run, houtcome]

namespace Template

/-! ## Handlers that ask for the canonical name -/

theorem languageText_uniform : Uniform languageText := by
  intro name name' h parameters
  rw [languageText, languageText, template_uniform h]
  rfl

theorem transcription_uniform : Uniform transcription := by
  intro name name' h parameters
  rw [transcription, transcription, template_uniform h]
  rfl

theorem conversion_uniform : Uniform conversion := by
  intro name name' h parameters
  rw [conversion, conversion, template_uniform h, positional_uniform h]
  rfl

theorem note_uniform : Uniform note := by
  intro name name' h parameters
  rw [note, note, template_uniform h]

theorem notedSpan_uniform : Uniform notedSpan := by
  intro name name' h parameters
  rw [notedSpan, notedSpan, template_uniform h]
  rfl

theorem musicSymbol_uniform : Uniform musicSymbol := by
  intro name name' h parameters
  rw [musicSymbol, musicSymbol, template_uniform h]
  rfl

/-! ## Handlers of all positional arguments -/

theorem etymology_uniform : Uniform etymology := by
  intro name name' h parameters
  rw [etymology, etymology, positional_uniform h]

theorem literally_uniform : Uniform literally := by
  intro name name' h parameters
  rw [literally, literally, items_uniform h]

theorem postNominals_uniform : Uniform postNominals := by
  intro name name' h parameters
  rw [postNominals, postNominals, items_uniform h]
  rfl

theorem englishPronunciation_uniform : Uniform englishPronunciation := by
  intro name name' h parameters
  rw [englishPronunciation, englishPronunciation, positional_uniform h]
  rfl

theorem sectionLink_uniform (context : Context) : Uniform (sectionLink context) := by
  intro name name' h parameters
  rw [sectionLink, sectionLink, positional_uniform h]
  rfl

theorem fraction_uniform : Uniform fraction := by
  intro name name' h parameters
  rw [fraction, fraction, positional_uniform h]

theorem asWritten_uniform : Uniform asWritten := by
  intro name name' h parameters
  rw [asWritten, asWritten, items_uniform h]

theorem argumentList_uniform (separator : Prose) : (argumentList separator).Uniform := by
  intro name name' h parameters
  simp only [items_uniform h]

/-! ## All templates -/

/-- A look-up of single arguments does not see the name. -/
theorem dateTemplates_uniform : ∀ entry ∈ dateTemplates, entry.2.Uniform := by
  simp only [dateTemplates, List.forall_mem_cons]
  exact ⟨fun _ _ _ _ _ => rfl, fun _ _ _ _ => rfl, fun _ _ _ _ _ => rfl, fun _ _ _ _ => rfl,
    fun _ _ _ _ _ => rfl, fun _ _ _ _ => rfl, fun _ _ _ _ _ => rfl, fun _ _ _ _ _ => rfl,
    fun _ _ _ _ _ => rfl, fun _ _ _ _ => rfl, fun _ _ _ _ => rfl, fun _ _ _ _ => rfl,
    fun _ _ _ _ => rfl, fun _ _ _ _ _ => rfl, List.forall_mem_nil _⟩

theorem namedLanguageTemplates_uniform : ∀ entry ∈ namedLanguageTemplates, entry.2.Uniform := by
  intro entry hentry
  obtain ⟨⟨code, _⟩, _, hentry⟩ := List.mem_flatMap.mp hentry
  simp only [List.mem_cons, List.not_mem_nil, or_false] at hentry
  rcases hentry with rfl | rfl
  · exact languageText_uniform
  · exact transcription_uniform

/-- Every known template has a uniform handler. -/
theorem known_uniform : ∀ entry ∈ known, entry.2.Uniform := by
  simp only [known, List.forall_mem_append]
  refine ⟨⟨⟨⟨⟨⟨⟨dateTemplates_uniform, ?languages⟩, ?links⟩, ?numbers⟩, ?media⟩, ?maintenance⟩,
    ?typography⟩, namedLanguageTemplates_uniform⟩
  case languages =>
    simp only [languageTemplates, List.forall_mem_cons]
    exact ⟨fun _ _ _ _ => rfl, fun _ _ _ _ => rfl, fun _ _ _ _ => rfl, fun _ _ _ _ => rfl,
      fun _ _ _ _ => rfl, languageText_uniform, fun _ _ _ _ => rfl, fun _ _ _ _ => rfl,
      fun _ _ _ _ => rfl, fun _ _ _ _ => rfl, etymology_uniform, postNominals_uniform,
      fun _ _ _ _ => rfl, literally_uniform, fun _ _ _ _ => rfl, transcription_uniform,
      englishPronunciation_uniform, List.forall_mem_nil _⟩
  case links =>
    simp only [linkTemplates, List.forall_mem_cons]
    exact ⟨fun _ _ _ _ _ => rfl, sectionLink_uniform, fun _ _ _ _ => rfl, fun _ _ _ _ => rfl,
      fun _ _ _ _ => rfl, List.forall_mem_nil _⟩
  case numbers =>
    simp only [numberTemplates, List.forall_mem_cons]
    exact ⟨conversion_uniform, fun _ _ _ _ => rfl, fraction_uniform, fun _ _ _ _ => rfl,
      fun _ _ _ _ _ => rfl, fun _ _ _ _ => rfl, List.forall_mem_nil _⟩
  case media =>
    simp only [mediaTemplates, List.forall_mem_cons]
    exact ⟨fun _ _ _ _ => rfl, fun _ _ _ _ => rfl, musicSymbol_uniform, List.forall_mem_nil _⟩
  case maintenance =>
    simp only [maintenanceTemplates, List.forall_mem_cons]
    exact ⟨note_uniform, notedSpan_uniform, fun _ _ _ _ => rfl, List.forall_mem_nil _⟩
  case typography =>
    simp only [typographyTemplates, List.forall_mem_cons]
    exact ⟨fun _ _ _ _ => rfl, fun _ _ _ _ => rfl, fun _ _ _ _ => rfl, fun _ _ _ _ => rfl,
      fun _ _ _ _ => rfl, fun _ _ _ _ => rfl, fun _ _ _ _ => rfl, fun _ _ _ _ => rfl,
      fun _ _ _ _ => rfl, fun _ _ _ _ => rfl, fun _ _ _ _ => rfl, fun _ _ _ _ => rfl,
      fun _ _ _ _ => rfl, argumentList_uniform _, fun _ _ _ _ => rfl, fun _ _ _ _ => rfl,
      argumentList_uniform _, fun _ _ _ _ => rfl, fun _ _ _ _ => rfl, fun _ _ _ _ => rfl,
      asWritten_uniform, List.forall_mem_nil _⟩

/-- No handler of the table depends on how the name is spelled. -/
theorem find?_uniform {name : String} {handler : Handler} (h : find? name = some handler) :
    handler.Uniform := by
  obtain ⟨entry, hentry, rfl⟩ := Option.map_eq_some_iff.mp h
  exact known_uniform entry (List.mem_of_find?_eq_some hentry)

end Template

end GenreProse
