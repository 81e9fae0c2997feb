-- SUMMARY: Handlers do not look at the addresses of links to the wiki.
import GenreProse.Proofs.Prose.Targets
import GenreProse.Proofs.Template.Evaluation
import GenreProse.Template.Registry

/-!
# Handlers and link targets

Two wikis with the same genres and the same time differ for a handler only in the addresses of the
links that it makes. A handler that evaluates arguments gets answers with such links in them. It
may set them in frames, put them next to other prose and ask whether they show anything, and none of
that depends on an address. So with answers that agree the outcomes agree, and the same is asked.
-/

namespace GenreProse

/-! ## Two evaluations -/

/-- Two results on two wikis: values in a relation, or the same unknown template, each with its own
    wiki. -/
inductive OnBoth {α β : Type} (baseUrl baseUrl' : Option String) (agree : α → β → Prop) :
    Result α → Result β → Prop where
  | ok {a : α} {b : β} : agree a b → OnBoth baseUrl baseUrl' agree (.ok a) (.ok b)
  | error (name : String) :
      OnBoth baseUrl baseUrl' agree (.error ⟨name, baseUrl⟩) (.error ⟨name, baseUrl'⟩)

namespace OnBoth

variable {α β γ δ : Type} {baseUrl baseUrl' : Option String} {agree : α → β → Prop}
  {agree' : γ → δ → Prop} {result : Result α} {result' : Result β}

/-- Results that agree agree after a change that keeps the agreement. -/
theorem map (h : OnBoth baseUrl baseUrl' agree result result') {f : α → γ} {f' : β → δ}
    (hf : ∀ a b, agree a b → agree' (f a) (f' b)) :
    OnBoth baseUrl baseUrl' agree' (result.map f) (result'.map f') := by
  cases h with
  | ok hagree => exact .ok (hf _ _ hagree)
  | error name => exact .error name

/-- Results that agree may be gone on with. -/
theorem bind (h : OnBoth baseUrl baseUrl' agree result result') {f : α → Result γ}
    {f' : β → Result δ} (hf : ∀ a b, agree a b → OnBoth baseUrl baseUrl' agree' (f a) (f' b)) :
    OnBoth baseUrl baseUrl' agree' (result.bind f) (result'.bind f') := by
  cases h with
  | ok hagree => exact hf _ _ hagree
  | error name => exact .error name

end OnBoth

namespace Eval

variable {α β γ δ : Type} {agree : α → β → Prop} {agree' : γ → δ → Prop}

/-- Whether two evaluations ask for the same, and reach results in a relation if their answers
    agree. -/
inductive Alike (agree : α → β → Prop) : Eval α → Eval β → Prop where
  | done {a : α} {b : β} : agree a b → Alike agree (.done a) (.done b)
  | ask {text : String} {next : Prose → Eval α} {next' : Prose → Eval β} :
      (∀ answer answer', answer.Agrees answer' → Alike agree (next answer) (next' answer')) →
      Alike agree (.ask text next) (.ask text next')

/-- Evaluations that are alike may go on with others that are. -/
theorem Alike.bind {eval : Eval α} {eval' : Eval β} (h : Alike agree eval eval')
    {f : α → Eval γ} {f' : β → Eval δ} (hf : ∀ a b, agree a b → Alike agree' (f a) (f' b)) :
    Alike agree' (eval.bind f) (eval'.bind f') := by
  induction h with
  | done hagree => exact hf _ _ hagree
  | ask _ ih => exact .ask fun answer answer' hanswer => ih answer answer' hanswer

/-- Answers on two wikis lead to results on both. -/
theorem Alike.run {baseUrl baseUrl' : Option String} {eval : Eval α} {eval' : Eval β}
    (h : Alike agree eval eval') {answer answer' : String → Result Prose}
    (hanswer : ∀ text, OnBoth baseUrl baseUrl' Prose.Agrees (answer text) (answer' text)) :
    OnBoth baseUrl baseUrl' agree (eval.run answer) (eval'.run answer') := by
  induction h with
  | done hagree => exact .ok hagree
  | @ask text next next' _ ih =>
    have htext := hanswer text
    rw [Eval.run, Eval.run]
    generalize answer text = result at htext ⊢
    generalize answer' text = result' at htext ⊢
    cases htext with
    | ok hagree => exact ih _ _ hagree
    | error name => exact .error name

theorem alike_markup (text : String) : Alike Prose.Agrees (markup text) (markup text) :=
  .ask fun _ _ hanswer => .done hanswer

theorem alike_markup? (text : Option String) :
    Alike Prose.Agrees (markup? text) (markup? text) := by
  cases text with
  | none => exact .done (.refl _)
  | some text => exact alike_markup text

theorem alike_markups (texts : List String) :
    Alike Prose.AllAgree (markups texts) (markups texts) := by
  induction texts with
  | nil => exact .done rfl
  | cons text texts ih =>
    refine (alike_markup text).bind fun first first' hfirst => ?_
    exact ih.bind fun rest rest' hrest => .done (.cons hfirst hrest)

end Eval

/-! ## Handlers -/

/-- The same time and genres on another wiki. -/
def Context.onWiki (context : Context) (baseUrl : Option String) : Context :=
  { context with baseUrl := baseUrl }

/-- Whether two outcomes are the same markup, or prose that agrees. -/
inductive Outcome.Agrees : Outcome → Outcome → Prop where
  | prose {shown shown' : Prose} : shown.Agrees shown' → Agrees (.prose shown) (.prose shown')
  | markup (text : String) : Agrees (.markup text) (.markup text)

/-- Whether a handler does not look at the addresses of links to the wiki. -/
def Handler.Untargeted : Handler → Prop
  | .linked prose => ∀ (context : Context) baseUrl baseUrl' call,
      (prose (context.onWiki baseUrl) call).Agrees (prose (context.onWiki baseUrl') call)
  | .evaluating prose => ∀ call, Eval.Alike Prose.Agrees (prose call) (prose call)
  | _ => True

@[simp] theorem Handler.untargeted_plain (prose : Call → Prose) : (plain prose).Untargeted :=
  trivial
@[simp] theorem Handler.untargeted_dated (prose : Moment → Call → Prose) :
    (dated prose).Untargeted :=
  trivial
@[simp] theorem Handler.untargeted_expanding (outcome : Call → Outcome) :
    (expanding outcome).Untargeted :=
  trivial
@[simp] theorem Handler.untargeted_linked (prose : Context → Call → Prose) :
    (linked prose).Untargeted ↔ ∀ (context : Context) baseUrl baseUrl' call,
      (prose (context.onWiki baseUrl) call).Agrees (prose (context.onWiki baseUrl') call) :=
  .rfl
@[simp] theorem Handler.untargeted_evaluating (prose : Call → Eval Prose) :
    (evaluating prose).Untargeted ↔ ∀ call, Eval.Alike Prose.Agrees (prose call) (prose call) :=
  .rfl

/-- A handler runs alike on both wikis. -/
theorem Handler.Untargeted.run {handler : Handler} (h : handler.Untargeted) (context : Context)
    (baseUrl baseUrl' : Option String) (call : Call) :
    Eval.Alike Outcome.Agrees (handler.run (context.onWiki baseUrl) call)
      (handler.run (context.onWiki baseUrl') call) := by
  cases handler with
  | plain prose => exact .done (.prose (.refl _))
  | dated prose => exact .done (.prose (.refl _))
  | linked prose => exact .done (.prose (h context baseUrl baseUrl' call))
  | evaluating prose => exact (h call).bind fun _ _ hagree => .done (.prose hagree)
  | expanding outcome =>
    refine .done ?_
    cases outcome call with
    | prose shown => exact .prose (.refl _)
    | markup text => exact .markup text

/-- A page is about the same genre on both wikis, or about none on both. -/
theorem Context.link_onWiki (context : Context) (baseUrl baseUrl' : Option String)
    (target text : String) :
    (∃ genre shown, (context.onWiki baseUrl).link target text = .genreLink genre shown ∧
      (context.onWiki baseUrl').link target text = .genreLink genre shown) ∨
    ∃ title shown url url', (context.onWiki baseUrl).link target text = .link title shown url ∧
      (context.onWiki baseUrl').link target text = .link title shown url' := by
  unfold Context.link
  dsimp only [onWiki]
  split
  · exact .inl ⟨_, _, rfl, rfl⟩
  · exact .inr ⟨_, _, _, _, rfl, rfl⟩

/-- A link differs only in its address. -/
theorem Context.link_agrees (context : Context) (baseUrl baseUrl' : Option String)
    (target text : String) :
    ((context.onWiki baseUrl).link target text).Agrees
      ((context.onWiki baseUrl').link target text) := by
  obtain ⟨genre, shown, h, h'⟩ | ⟨title, shown, url, url', h, h'⟩ :=
    context.link_onWiki baseUrl baseUrl' target text
  · rw [h, h']
    exact .refl _
  · rw [h, h']
    rfl

namespace Template

open Eval

/-! ## Handlers that link -/

theorem interlanguageLink_agrees (context : Context) (baseUrl baseUrl' : Option String)
    (call : Call) : (interlanguageLink (context.onWiki baseUrl) call).Agrees
      (interlanguageLink (context.onWiki baseUrl') call) := by
  unfold interlanguageLink
  cases call.at? 1 with
  | none => exact .refl _
  | some title =>
    dsimp only
    obtain ⟨genre, shown, h, h'⟩ | ⟨page, shown, url, url', h, h'⟩ :=
      context.link_onWiki baseUrl baseUrl' title ((call.nonblank? "lt").getD title)
    · rw [h, h']
      exact .refl _
    · rw [h, h']
      cases call.at? 2 with
      | none => rfl
      | some language => exact Prose.Agrees.concat rfl

theorem sectionLink_agrees (context : Context) (baseUrl baseUrl' : Option String) (call : Call) :
    (sectionLink (context.onWiki baseUrl) call).Agrees
      (sectionLink (context.onWiki baseUrl') call) := by
  unfold sectionLink
  dsimp only
  split
  · exact .refl _
  · split
    · exact .refl _
    · exact context.link_agrees baseUrl baseUrl' _ _

theorem dollars_agrees (context : Context) (baseUrl baseUrl' : Option String) (call : Call) :
    (dollars (context.onWiki baseUrl) call).Agrees (dollars (context.onWiki baseUrl') call) := by
  unfold dollars
  refine .concat (.cons ?_ (.refl _))
  split
  · exact context.link_agrees baseUrl baseUrl' _ _
  · exact .refl _

/-! ## Handlers that evaluate arguments -/

theorem inLanguage_alike (call : Call) :
    Alike Prose.Agrees (inLanguage call) (inLanguage call) := by
  unfold inLanguage
  cases call.at? 1 with
  | none => exact .done (.refl _)
  | some code =>
    refine (alike_markup _).bind fun content content' hagree => .done ?_
    exact (hagree.styledIf _ _).framedIn _

theorem measuredValue_alike (call : Call) :
    Alike Prose.Agrees (measuredValue call) (measuredValue call) := by
  unfold measuredValue
  cases (call.at? 1).filter fun text => (float? text).isSome with
  | none => exact .done (.refl _)
  | some number =>
    dsimp only
    cases call.firstOf? ["u", "ul"] with
    | none => exact .done (.refl _)
    | some unit =>
      refine (alike_markup unit).bind fun shown shown' hagree => .done (.concat ?_)
      exact .append (.refl _) (.cons (.refl _) (.cons hagree (.refl _)))

theorem notedSpan_alike (call : Call) : Alike Prose.Agrees (notedSpan call) (notedSpan call) := by
  unfold notedSpan
  exact (alike_markup? _).bind fun text text' hagree => .done (.concat (.cons hagree (.refl _)))

theorem abbreviation_alike (call : Call) :
    Alike Prose.Agrees (abbreviation call) (abbreviation call) := by
  unfold abbreviation
  refine (alike_markup? _).bind fun short short' hagree => ?_
  cases call.at? 2 with
  | none => exact .done hagree
  | some long => exact .done (hagree.framedIn _)

theorem asWritten_alike (call : Call) : Alike Prose.Agrees (asWritten call) (asWritten call) :=
  alike_markup _

theorem quote_alike (call : Call) : Alike Prose.Agrees (quote call) (quote call) := by
  unfold quote
  refine (alike_markup? _).bind fun text text' htext => ?_
  dsimp only
  split
  · exact .done (.framedIn (.concat (.cons htext (.refl _))) _)
  · refine (alike_markup _).bind fun cite cite' hcite => .done (.framedIn (.concat ?_) _)
    exact .cons htext (.cons (.refl _) (.cons (.refl _) (.cons hcite (.refl _))))

/-- The mark stands alone where the text shows nothing, which does not depend on an address. -/
theorem sic_alike (call : Call) : Alike Prose.Agrees (sic call) (sic call) := by
  unfold sic
  refine (alike_markup _).bind fun text text' hagree => ?_
  rw [hagree.isEmpty_eq]
  split
  · exact .done hagree
  · split
    · exact .done (.refl _)
    · exact .done (.concat (.cons hagree (.refl _)))

theorem separated_alike (separator : Prose) (items : List String) :
    Alike Prose.Agrees (separated separator items) (separated separator items) := by
  exact (alike_markups items).bind fun _ _ hagree => .done (.concat (hagree.intersperse separator))

@[simp] theorem inStyle_untargeted (style : Style) : (inStyle style).Untargeted :=
  fun _ => (alike_markup? _).bind fun _ _ hagree => .done (hagree.framedIn _)

@[simp] theorem fixedText_untargeted (text : String) : (fixedText text).Untargeted := trivial

@[simp] theorem hidden_untargeted : hidden.Untargeted := trivial

@[simp] theorem argumentList_untargeted (separator : Prose) :
    (argumentList separator).Untargeted :=
  fun _ => separated_alike _ _

@[simp] theorem bulletedList_untargeted (separator : Prose) :
    (bulletedList separator).Untargeted :=
  fun _ => separated_alike _ _

theorem soundFile_untargeted (template : String) (fileKeys titleKeys : List String) :
    (soundFile template fileKeys titleKeys).Untargeted := by
  intro call
  dsimp only
  cases call.firstOf? fileKeys with
  | none => exact .done (.refl _)
  | some file => exact (alike_markup _).bind fun _ _ hagree => .done (hagree.framedIn _)

@[simp] theorem audio_untargeted : audio.Untargeted := soundFile_untargeted _ _ _

@[simp] theorem listen_untargeted : listen.Untargeted := soundFile_untargeted _ _ _

/-! ## All templates -/

theorem namedLanguageTemplates_untargeted :
    ∀ entry ∈ namedLanguageTemplates, entry.2.Untargeted := by
  intro entry hentry
  obtain ⟨⟨code, _⟩, _, hentry⟩ := List.mem_flatMap.mp hentry
  simp only [List.mem_cons, List.not_mem_nil, or_false] at hentry
  rcases hentry with rfl | rfl
  · exact Handler.untargeted_expanding _
  · exact Handler.untargeted_plain _

/-- No known template has a handler that looks at addresses. -/
theorem known_untargeted : ∀ entry ∈ known, entry.2.Untargeted := by
  simp only [known, List.forall_mem_append]
  refine ⟨⟨⟨⟨⟨⟨⟨?dates, ?languages⟩, ?links⟩, ?numbers⟩, ?media⟩, ?maintenance⟩, ?typography⟩,
    namedLanguageTemplates_untargeted⟩
  case dates => simp [dateTemplates]
  case languages => simp [languageTemplates, inLanguage_alike]
  case links => simp [linkTemplates, interlanguageLink_agrees, sectionLink_agrees]
  case numbers => simp [numberTemplates, measuredValue_alike, dollars_agrees]
  case media => simp [mediaTemplates]
  case maintenance => simp [maintenanceTemplates, notedSpan_alike]
  case typography =>
    simp [typographyTemplates, quote_alike, abbreviation_alike, sic_alike, asWritten_alike]

/-- No handler of the table depends on the wiki, but for addresses. -/
theorem find?_untargeted {name : String} {handler : Handler} (h : find? name = some handler) :
    handler.Untargeted := by
  obtain ⟨entry, hentry, rfl⟩ := Option.map_eq_some_iff.mp h
  exact known_untargeted entry (List.mem_of_find?_eq_some hentry)

end Template

end GenreProse
