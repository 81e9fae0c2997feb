-- SUMMARY: Handlers show what they ask for: an answer that is cut short cuts the prose short.
import GenreProse.Proofs.Prose.Messages
import GenreProse.Proofs.Template.Evaluation
import GenreProse.Template.Registry

/-!
# Steady handlers

`Raised` says how a result may change when more levels of expansion are allowed: only where it was
cut short. An evaluation is steady if it passes this on from the answers to its own result. That
needs two things: no request depends on an earlier answer, and no answer is dropped or merely looked
at. All known templates have steady handlers.
-/

namespace GenreProse

/-! ## Results -/

variable {α β γ : Type} {isCut : α → Prop} {isCut' : β → Prop} {isCut'' : γ → Prop}

/-- How a result may change when more levels are allowed: a value stays unless it was cut short, and
    a failure stays a failure. -/
inductive Raised (isCut : α → Prop) : Result α → Result α → Prop where
  | cut {value : α} {high : Result α} : isCut value → Raised isCut (.ok value) high
  | kept {value : α} : Raised isCut (.ok value) (.ok value)
  | failed {unknown unknown' : UnknownTemplate} : Raised isCut (.error unknown) (.error unknown')

namespace Raised

theorem refl (result : Result α) : Raised isCut result result := by
  cases result with
  | ok value => exact .kept
  | error unknown => exact .failed

theorem map {low high : Result α} (h : Raised isCut low high) (f : α → β)
    (hf : ∀ a, isCut a → isCut' (f a)) : Raised isCut' (low.map f) (high.map f) := by
  cases h with
  | cut hcut => exact .cut (hf _ hcut)
  | kept => exact .kept
  | failed => exact .failed

/-- Two results one after the other. The second must not depend on the first, or its failure could
    depend on what was cut short in the first. -/
theorem map₂ {low high : Result α} {low' high' : Result β} (h : Raised isCut low high)
    (h' : Raised isCut' low' high') (f : α → β → γ)
    (hf : ∀ a b, isCut a ∨ isCut' b → isCut'' (f a b)) :
    Raised isCut'' (low.bind fun a => low'.map (f a)) (high.bind fun a => high'.map (f a)) := by
  cases h with
  | failed => exact .failed
  | kept =>
    cases h' with
    | cut hcut => exact .cut (hf _ _ (.inr hcut))
    | kept => exact .kept
    | failed => exact .failed
  | @cut _ high hcut =>
    cases h' with
    | cut | kept => exact .cut (hf _ _ (.inl hcut))
    | failed => cases high <;> exact .failed

end Raised

/-! ## Handlers -/

namespace Eval

/-- Whether an evaluation passes on what changes in the answers to its requests. -/
def Steady (isCut : α → Prop) (eval : Eval α) : Prop :=
  ∀ answer answer' : String → Result Prose,
    (∀ text, Raised Prose.IsCut (answer text) (answer' text)) →
    Raised isCut (eval.run answer) (eval.run answer')

theorem steady_done (a : α) : Steady isCut (.done a) :=
  fun _ _ _ => .refl _

theorem steady_markup (text : String) : Steady Prose.IsCut (markup text) := by
  intro answer answer' h
  rw [run_markup, run_markup]
  exact h text

theorem steady_markup? (text : Option String) : Steady Prose.IsCut (markup? text) := by
  cases text with
  | none => exact steady_done _
  | some text => exact steady_markup text

theorem Steady.map {eval : Eval α} (h : Steady isCut eval) (f : α → β)
    (hf : ∀ a, isCut a → isCut' (f a)) : Steady isCut' (eval.bind fun a => .done (f a)) := by
  intro answer answer' hanswer
  rw [run_bind_done, run_bind_done]
  exact (h answer answer' hanswer).map f hf

theorem Steady.map₂ {eval : Eval α} {eval' : Eval β} (h : Steady isCut eval)
    (h' : Steady isCut' eval') (f : α → β → γ)
    (hf : ∀ a b, isCut a ∨ isCut' b → isCut'' (f a b)) :
    Steady isCut'' (eval.bind fun a => eval'.bind fun b => .done (f a b)) := by
  intro answer answer' hanswer
  simp only [run_bind eval, run_bind_done eval']
  exact (h answer answer' hanswer).map₂ (h' answer answer' hanswer) f hf

theorem steady_markups (texts : List String) :
    Steady (fun pieces => ∃ piece ∈ pieces, piece.IsCut) (markups texts) := by
  induction texts with
  | nil => exact steady_done _
  | cons text texts ih =>
    refine (steady_markup text).map₂ ih List.cons fun piece pieces hcut => ?_
    rcases hcut with hcut | ⟨other, hmem, hcut⟩
    · exact ⟨piece, List.mem_cons_self, hcut⟩
    · exact ⟨other, List.mem_cons_of_mem _ hmem, hcut⟩

end Eval

namespace Template

open Eval

theorem abbreviation_steady (call : Call) : Steady Prose.IsCut (abbreviation call) := by
  unfold abbreviation
  cases call.at? 2 with
  | none => exact (steady_markup? _).map _ fun _ hcut => hcut
  | some long => exact (steady_markup? _).map _ fun _ hcut => hcut.framedIn _

theorem asWritten_steady (call : Call) : Steady Prose.IsCut (asWritten call) :=
  steady_markup _

theorem separated_steady (separator : Prose) (items : List String) :
    Steady Prose.IsCut (separated separator items) := by
  refine (steady_markups items).map _ fun pieces hcut => ?_
  obtain ⟨piece, hmem, hcut⟩ := hcut
  exact hcut.concat (mem_intersperse.mpr (.inl hmem))

theorem quote_steady (call : Call) : Steady Prose.IsCut (quote call) := by
  simp only [quote]
  cases citation? (call.firstOf? ["author", "sign", "2"])
      (call.firstOf? ["source", "title", "3"]) with
  | none =>
    refine (steady_markup? _).map _ fun text hcut => ?_
    exact (hcut.concat (List.mem_singleton_self text)).framedIn _
  | some cite =>
    refine (steady_markup? _).map₂ (steady_markup cite) _ fun text cite hcut => ?_
    rcases hcut with hcut | hcut
    · exact (hcut.concat (by simp)).framedIn _
    · exact (hcut.concat (by simp)).framedIn _

/-- What a quoted text with an error in it is shown as. -/
theorem sic_eq (call : Call) :
    sic call = (markup (call.getD "1" ++ call.getD "2")).bind fun text => .done
      (if call.flag "hide" then text
       else if text.isEmpty then sicMark else .concat [text, .text " ", sicMark]) := by
  unfold sic
  congr 1
  funext text
  split
  · rfl
  · split <;> rfl

theorem sic_steady (call : Call) : Steady Prose.IsCut (sic call) := by
  rw [sic_eq]
  refine (steady_markup _).map _ fun text hcut => ?_
  rw [hcut.isEmpty_eq_false]
  split
  · exact hcut
  · exact hcut.concat (by simp)

theorem notedSpan_steady (call : Call) : Steady Prose.IsCut (notedSpan call) := by
  unfold notedSpan
  exact (steady_markup? _).map _ fun text hcut => hcut.concat (by simp)

theorem measuredValue_steady (call : Call) : Steady Prose.IsCut (measuredValue call) := by
  unfold measuredValue
  cases (call.at? 1).filter fun text => (float? text).isSome with
  | none => exact steady_done _
  | some number =>
    simp only
    cases call.firstOf? ["u", "ul"] with
    | none => exact steady_done _
    | some unit => exact (steady_markup unit).map _ fun text hcut => hcut.concat (by simp)

theorem inLanguage_steady (call : Call) : Steady Prose.IsCut (inLanguage call) := by
  unfold inLanguage
  cases call.at? 1 with
  | none => exact steady_done _
  | some code =>
    refine (steady_markup _).map _ fun content hcut => Prose.IsCut.framedIn ?_ _
    exact iteInduction (fun _ => hcut.framedIn _) fun _ => hcut

end Template

/-- Whether a handler shows all that it asks for, whatever the call. -/
def Handler.Steady : Handler → Prop
  | .evaluating prose => ∀ call, Eval.Steady Prose.IsCut (prose call)
  | _ => True

@[simp] theorem Handler.steady_plain (prose : Call → Prose) : (plain prose).Steady := trivial
@[simp] theorem Handler.steady_dated (prose : Moment → Call → Prose) : (dated prose).Steady :=
  trivial
@[simp] theorem Handler.steady_linked (prose : Context → Call → Prose) : (linked prose).Steady :=
  trivial
@[simp] theorem Handler.steady_expanding (outcome : Call → Outcome) : (expanding outcome).Steady :=
  trivial
@[simp] theorem Handler.steady_evaluating (prose : Call → Eval Prose) :
    (evaluating prose).Steady ↔ ∀ call, Eval.Steady Prose.IsCut (prose call) := .rfl

namespace Template

open Eval

@[simp] theorem inStyle_steady (style : Style) : (inStyle style).Steady :=
  fun _ => (steady_markup? _).map _ fun _ hcut => hcut.framedIn _

@[simp] theorem fixedText_steady (text : String) : (fixedText text).Steady := trivial

@[simp] theorem hidden_steady : hidden.Steady := trivial

@[simp] theorem argumentList_steady (separator : Prose) : (argumentList separator).Steady :=
  fun _ => separated_steady _ _

@[simp] theorem bulletedList_steady (separator : Prose) : (bulletedList separator).Steady :=
  fun _ => separated_steady _ _

theorem soundFile_steady (template : String) (fileKeys titleKeys : List String) :
    (soundFile template fileKeys titleKeys).Steady := by
  intro call
  simp only
  cases call.firstOf? fileKeys with
  | none => exact steady_done _
  | some file => exact (steady_markup _).map _ fun title hcut => hcut.framedIn _

@[simp] theorem audio_steady : audio.Steady := soundFile_steady _ _ _

@[simp] theorem listen_steady : listen.Steady := soundFile_steady _ _ _

theorem namedLanguageTemplates_steady : ∀ entry ∈ namedLanguageTemplates, entry.2.Steady := by
  intro entry hentry
  obtain ⟨⟨code, _⟩, _, hentry⟩ := List.mem_flatMap.mp hentry
  simp only [List.mem_cons, List.not_mem_nil, or_false] at hentry
  rcases hentry with rfl | rfl
  · exact Handler.steady_expanding _
  · exact Handler.steady_plain _

/-- Every known template has a steady handler. -/
theorem known_steady : ∀ entry ∈ known, entry.2.Steady := by
  simp only [known, List.forall_mem_append]
  refine ⟨⟨⟨⟨⟨⟨⟨?dates, ?languages⟩, ?links⟩, ?numbers⟩, ?media⟩, ?maintenance⟩, ?typography⟩,
    namedLanguageTemplates_steady⟩
  case dates => simp [dateTemplates]
  case languages => simp [languageTemplates, inLanguage_steady]
  case links => simp [linkTemplates]
  case numbers => simp [numberTemplates, measuredValue_steady]
  case media => simp [mediaTemplates]
  case maintenance => simp [maintenanceTemplates, notedSpan_steady]
  case typography =>
    simp [typographyTemplates, quote_steady, abbreviation_steady, sic_steady, asWritten_steady]

/-- Every handler of the table is steady. -/
theorem find?_steady {name : String} {handler : Handler} (h : find? name = some handler) :
    handler.Steady := by
  obtain ⟨entry, hentry, rfl⟩ := Option.map_eq_some_iff.mp h
  exact known_steady entry (List.mem_of_find?_eq_some hentry)

end Template

end GenreProse
