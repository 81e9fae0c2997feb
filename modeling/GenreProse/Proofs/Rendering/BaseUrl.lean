-- SUMMARY: The article path of the wiki decides where links lead, and nothing else.
import GenreProse.Proofs.Rendering.Expansion
import GenreProse.Proofs.Rendering.Nodes
import GenreProse.Proofs.Template.Untargeted

/-!
# Renders on two wikis

The article path is in the context of every render and every handler. Two renders that differ in it
alone ask the parser for the same texts, because no text that a handler writes or evaluates depends
on it. So they go the same way level by level: both show the same but for the addresses of links to
the wiki, or both fail at the same template.
-/

namespace GenreProse

variable {baseUrl baseUrl' : Option String}

/-- Whether the expansions of all calls by two expanders are those of one call on two wikis. -/
def Expander.OnBoth (baseUrl baseUrl' : Option String) (expand expand' : Expander) : Prop :=
  ∀ name parameters,
    GenreProse.OnBoth baseUrl baseUrl' Prose.Agrees (expand name parameters)
      (expand' name parameters)

/-! ## Nodes -/

theorem Container.wrap_agrees (kind : Container) {content content' : Prose}
    (h : content.Agrees content') : (kind.wrap content).Agrees (kind.wrap content') := by
  cases kind with
  | fragment => exact h
  | _ => exact h.framedIn _

namespace Node

variable {expand expand' : Expander}

mutual

/-- A node renders alike on both wikis, if template calls do. -/
theorem render_onBoth (context : Context) (hexpand : expand.OnBoth baseUrl baseUrl' expand')
    (node : Node) :
    OnBoth baseUrl baseUrl' Prose.Agrees (render (context.onWiki baseUrl) expand node)
      (render (context.onWiki baseUrl') expand' node) := by
  cases node with
  | container kind children =>
    have hcontent : OnBoth baseUrl baseUrl' Prose.Agrees
        (renderAll (context.onWiki baseUrl) expand children)
        (renderAll (context.onWiki baseUrl') expand' children) :=
      (renderEach_onBoth context hexpand children).map fun _ _ => .concat
    rw [render_container, render_container]
    exact hcontent.map fun _ _ => kind.wrap_agrees
  | template name parameters => exact hexpand name parameters
  | link label title => exact .ok (context.link_agrees baseUrl baseUrl' title label)
  | _ => exact .ok (.refl _)

/-- So do nodes one by one. -/
theorem renderEach_onBoth (context : Context) (hexpand : expand.OnBoth baseUrl baseUrl' expand')
    (nodes : List Node) :
    OnBoth baseUrl baseUrl' Prose.AllAgree (renderEach (context.onWiki baseUrl) expand nodes)
      (renderEach (context.onWiki baseUrl') expand' nodes) := by
  cases nodes with
  | nil => exact .ok (.refl _)
  | cons node nodes =>
    rw [renderEach, renderEach]
    refine (render_onBoth context hexpand node).bind fun _ _ hpiece => ?_
    exact (renderEach_onBoth context hexpand nodes).bind fun _ _ hpieces =>
      .ok (.cons hpiece hpieces)

end

/-- So do nodes together. -/
theorem renderAll_onBoth (context : Context) (hexpand : expand.OnBoth baseUrl baseUrl' expand')
    (nodes : List Node) :
    OnBoth baseUrl baseUrl' Prose.Agrees (renderAll (context.onWiki baseUrl) expand nodes)
      (renderAll (context.onWiki baseUrl') expand' nodes) :=
  (renderEach_onBoth context hexpand nodes).map fun _ _ => .concat

end Node

/-! ## Levels of expansion -/

namespace Renderer

def onWiki (renderer : Renderer) (baseUrl : Option String) : Renderer :=
  { renderer with context := renderer.context.onWiki baseUrl }

variable {renderer : Renderer} {deeper deeper' : Option Expander}

/-- Whether there are levels below on both wikis or on neither, and they expand calls alike. -/
inductive LevelsOnBoth (baseUrl baseUrl' : Option String) :
    Option Expander → Option Expander → Prop where
  | none : LevelsOnBoth baseUrl baseUrl' none none
  | some {expand expand' : Expander} :
      expand.OnBoth baseUrl baseUrl' expand' →
      LevelsOnBoth baseUrl baseUrl' (some expand) (some expand')

/-- A text is evaluated alike on both wikis. -/
theorem evaluate_onBoth (h : LevelsOnBoth baseUrl baseUrl' deeper deeper') (text : String) :
    OnBoth baseUrl baseUrl' Prose.Agrees ((renderer.onWiki baseUrl).evaluate deeper text)
      ((renderer.onWiki baseUrl').evaluate deeper' text) := by
  unfold evaluate
  split
  · exact .ok (.refl _)
  · cases h with
    | none => exact .ok (.refl _)
    | some hexpand => exact Node.renderAll_onBoth renderer.context hexpand _

/-- Markup that replaces a call renders alike on both wikis. -/
theorem resume_onBoth (h : LevelsOnBoth baseUrl baseUrl' deeper deeper') (name text : String) :
    OnBoth baseUrl baseUrl' Prose.Agrees ((renderer.onWiki baseUrl).resume deeper name text)
      ((renderer.onWiki baseUrl').resume deeper' name text) := by
  have hparse : (renderer.onWiki baseUrl).parse = (renderer.onWiki baseUrl').parse := rfl
  unfold resume
  cases h with
  | none => exact .ok (.refl _)
  | some hexpand =>
    rw [hparse]
    dsimp only
    split
    · exact hexpand _ _
    · exact Node.renderAll_onBoth renderer.context hexpand _

/-- Outcomes that agree are finished alike. -/
theorem finish_onBoth (h : LevelsOnBoth baseUrl baseUrl' deeper deeper') (name : String)
    {outcome outcome' : Outcome} (houtcome : outcome.Agrees outcome') :
    OnBoth baseUrl baseUrl' Prose.Agrees ((renderer.onWiki baseUrl).finish deeper name outcome)
      ((renderer.onWiki baseUrl').finish deeper' name outcome') := by
  cases houtcome with
  | prose hshown => exact .ok hshown
  | markup text => exact resume_onBoth h name text

/-- One level expands calls alike if the levels below do. -/
theorem expandWith_onBoth (h : LevelsOnBoth baseUrl baseUrl' deeper deeper') :
    ((renderer.onWiki baseUrl).expandWith deeper).OnBoth baseUrl baseUrl'
      ((renderer.onWiki baseUrl').expandWith deeper') := by
  intro name parameters
  cases hfind : Template.find? (canonicalName name) with
  | none =>
    rw [expandWith_unknown _ _ _ _ hfind, expandWith_unknown _ _ _ _ hfind]
    exact .error (Text.trim name)
  | some handler =>
    rw [expandWith_known _ _ _ _ hfind, expandWith_known _ _ _ _ hfind]
    have hhandler := (Template.find?_untargeted hfind).run renderer.context baseUrl baseUrl'
      (callOf name parameters)
    have hevaluate (text : String) :
        GenreProse.OnBoth baseUrl baseUrl' Prose.Agrees
          ((renderer.onWiki baseUrl).evaluate deeper text)
          ((renderer.onWiki baseUrl').evaluate deeper' text) :=
      evaluate_onBoth h text
    exact (hhandler.run hevaluate).bind fun _ _ houtcome => finish_onBoth h name houtcome

/-- A call expands alike on both wikis, at every level. -/
theorem expand_onBoth (renderer : Renderer) (baseUrl baseUrl' : Option String) (levels : Nat) :
    Expander.OnBoth baseUrl baseUrl' ((renderer.onWiki baseUrl).expand levels)
      ((renderer.onWiki baseUrl').expand levels) := by
  induction levels with
  | zero =>
    rw [expand_eq, expand_eq]
    exact expandWith_onBoth .none
  | succ levels ih =>
    rw [expand_eq, expand_eq]
    exact expandWith_onBoth (.some ih)

/-! ## Renders -/

/-- On two wikis with the same genres and at the same time, nodes are rendered into prose that
    differs at most in the addresses of links to the wiki, so that the visible text and the links to
    genres are the same; or both renders fail, at the same unknown template. -/
theorem render_onWikis (renderer : Renderer) (baseUrl baseUrl' : Option String)
    (nodes : List Node) :
    (∃ prose prose', (renderer.onWiki baseUrl).render nodes = .ok prose ∧
      (renderer.onWiki baseUrl').render nodes = .ok prose' ∧
      prose.untargeted = prose'.untargeted ∧
      prose.plainText = prose'.plainText ∧ prose.genreLinks = prose'.genreLinks) ∨
    ∃ name, (renderer.onWiki baseUrl).render nodes = .error ⟨name, baseUrl⟩ ∧
      (renderer.onWiki baseUrl').render nodes = .error ⟨name, baseUrl'⟩ := by
  have hexpand := renderer.expand_onBoth baseUrl baseUrl' renderer.maxDepth
  have hrender : OnBoth baseUrl baseUrl' Prose.Agrees ((renderer.onWiki baseUrl).render nodes)
      ((renderer.onWiki baseUrl').render nodes) :=
    Node.renderAll_onBoth renderer.context hexpand nodes
  generalize (renderer.onWiki baseUrl).render nodes = result at hrender ⊢
  generalize (renderer.onWiki baseUrl').render nodes = result' at hrender ⊢
  cases hrender with
  | @ok prose prose' hagree =>
    exact .inl ⟨prose, prose', rfl, rfl, hagree, hagree.plainText_eq, hagree.genreLinks_eq⟩
  | error name => exact .inr ⟨name, rfl, rfl⟩

end Renderer

end GenreProse
