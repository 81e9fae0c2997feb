-- SUMMARY: Every render is in normal form.
import GenreProse.Proofs.Prose.NormalForm
import GenreProse.Proofs.Rendering.Expansion
import GenreProse.Proofs.Rendering.Nodes
import GenreProse.Proofs.Template.WellFramed

/-!
# Renders are in normal form

A render puts pieces together last, and that gives the normal form of them if the pieces are well
framed. They are, by induction on the levels: what a level parses is rendered with well framed
expansions of the level below, so the answers it gives to handlers are in normal form, and handlers
that get such answers frame well.
-/

namespace GenreProse

/-! ## Nodes -/

/-- Whether all expansions are well framed. -/
def Expander.WellFramed (expand : Expander) : Prop :=
  ∀ name parameters prose, expand name parameters = .ok prose → prose.WellFramed

/-- A container of prose in normal form is well framed. -/
theorem Container.wrap_wellFramed (kind : Container) {content : Prose} (h : content.IsNormal) :
    (kind.wrap content).WellFramed := by
  cases kind with
  | fragment => exact h.wellFramed
  | _ => exact h.wellFramed_framedIn _

namespace Node

variable {context : Context} {expand : Expander}

mutual

/-- A node renders well framed, if calls expand well framed. -/
theorem render_wellFramed (hexpand : expand.WellFramed) (node : Node) {prose : Prose}
    (h : render context expand node = .ok prose) : prose.WellFramed := by
  cases node with
  | container kind children =>
    rw [render_container] at h
    obtain ⟨content, hcontent, rfl⟩ := map_eq_ok h
    obtain ⟨pieces, hpieces, rfl⟩ := map_eq_ok hcontent
    have hframed := renderEach_wellFramed hexpand children hpieces
    exact kind.wrap_wellFramed (Prose.isNormal_concat hframed)
  | template name parameters => exact hexpand name parameters prose h
  | link label title =>
    cases h
    exact link_wellFramed _ _ _
  | extLink label url =>
    cases h
    exact framed_text_wellFramed _ _
  | text content =>
    cases h
    exact Prose.wellFramed_text _
  | paragraphBreak =>
    cases h
    exact Prose.wellFramed_paragraphBreak
  | newline =>
    cases h
    exact Prose.wellFramed_newline

theorem renderEach_wellFramed (hexpand : expand.WellFramed) (nodes : List Node)
    {pieces : List Prose} (h : renderEach context expand nodes = .ok pieces) :
    ∀ piece ∈ pieces, piece.WellFramed := by
  cases nodes with
  | nil =>
    cases h
    exact List.forall_mem_nil _
  | cons node nodes =>
    cases hnode : render context expand node with
    | error unknown =>
      rw [renderEach_cons_of_error hnode] at h
      cases h
    | ok first =>
      rw [renderEach_cons_of_ok hnode] at h
      obtain ⟨rest, hrest, rfl⟩ := map_eq_ok h
      exact List.forall_mem_cons.mpr
        ⟨render_wellFramed hexpand node hnode, renderEach_wellFramed hexpand nodes hrest⟩

end

/-- Nodes render in normal form, if calls expand well framed. -/
theorem renderAll_isNormal (hexpand : expand.WellFramed) {nodes : List Node} {prose : Prose}
    (h : renderAll context expand nodes = .ok prose) : prose.IsNormal := by
  obtain ⟨pieces, hpieces, rfl⟩ := map_eq_ok h
  exact Prose.isNormal_concat (renderEach_wellFramed hexpand nodes hpieces)

theorem renderPrefix_wellFramed (hexpand : expand.WellFramed) (nodes : List Node) :
    ∀ piece ∈ renderPrefix context expand nodes, piece.WellFramed := by
  induction nodes with
  | nil => exact List.forall_mem_nil _
  | cons node nodes ih =>
    cases hnode : render context expand node with
    | error unknown =>
      rw [renderPrefix_cons_of_error hnode]
      exact List.forall_mem_nil _
    | ok first =>
      rw [renderPrefix_cons_of_ok hnode]
      exact List.forall_mem_cons.mpr ⟨render_wellFramed hexpand node hnode, ih⟩

end Node

/-! ## Template calls -/

namespace Renderer

theorem isNormal_depthExceeded (subject : String) : (depthExceeded subject).IsNormal :=
  Prose.isNormal_error _

section

variable {renderer : Renderer} {deeper : Option Expander}
  (hdeeper : ∀ expand, deeper = some expand → expand.WellFramed)
include hdeeper

/-- What a handler gets of a text is in normal form. -/
theorem evaluate_isNormal {text : String} {prose : Prose}
    (h : renderer.evaluate deeper text = .ok prose) : prose.IsNormal := by
  unfold evaluate at h
  split at h
  · cases h
    exact Prose.isNormal_empty
  · cases deeper with
    | none =>
      cases h
      exact isNormal_depthExceeded text
    | some expand => exact Node.renderAll_isNormal (hdeeper expand rfl) h

/-- Markup that replaces a call renders well framed. -/
theorem resume_wellFramed {name text : String} {prose : Prose}
    (h : renderer.resume deeper name text = .ok prose) : prose.WellFramed := by
  unfold resume at h
  cases deeper with
  | none =>
    cases h
    exact (isNormal_depthExceeded name).wellFramed
  | some expand =>
    simp only at h
    split at h
    · exact hdeeper expand rfl _ _ _ h
    · exact (Node.renderAll_isNormal (hdeeper expand rfl) h).wellFramed

/-- A call is well framed if the outcome of its handler is. -/
theorem finish_wellFramed {name : String} {outcome : Outcome} {prose : Prose}
    (houtcome : outcome.WellFramed) (h : renderer.finish deeper name outcome = .ok prose) :
    prose.WellFramed := by
  cases outcome with
  | prose shown =>
    cases h
    exact houtcome
  | markup text => exact resume_wellFramed hdeeper h

/-- Every handler makes prose that is well framed. -/
theorem expandWith_wellFramed : (renderer.expandWith deeper).WellFramed := by
  intro name parameters prose h
  cases hfind : Template.find? (canonicalName name) with
  | none =>
    rw [expandWith_unknown _ _ _ _ hfind] at h
    cases h
  | some handler =>
    rw [expandWith_known _ _ _ _ hfind] at h
    obtain ⟨outcome, hrun, hfinish⟩ := bind_eq_ok h
    have hhandler := (Template.find?_wellFramed hfind).run renderer.context (callOf name parameters)
    have houtcome := hhandler.of_run (fun _ _ => evaluate_isNormal hdeeper) hrun
    exact finish_wellFramed hdeeper houtcome hfinish

end

theorem expand_wellFramed (renderer : Renderer) (levels : Nat) :
    Expander.WellFramed (renderer.expand levels) := by
  induction levels with
  | zero =>
    rw [expand_eq]
    exact expandWith_wellFramed nofun
  | succ levels ih =>
    rw [expand_eq, below]
    refine expandWith_wellFramed fun expand hexpand => ?_
    cases hexpand
    exact ih

/-! ## Renders -/

/-- A lossy render is in normal form. -/
theorem renderLossy_isNormal (renderer : Renderer) (nodes : List Node) :
    (renderer.renderLossy nodes).IsNormal :=
  Prose.isNormal_concat
    (Node.renderPrefix_wellFramed (renderer.expand_wellFramed renderer.maxDepth) nodes)

/-- All prose from a strict render, a lossy one, or one of a description is in normal form. -/
theorem renders_isNormal (renderer : Renderer) :
    (∀ nodes prose, renderer.render nodes = .ok prose → prose.IsNormal) ∧
    (∀ nodes, (renderer.renderLossy nodes).IsNormal) ∧
    ∀ genre description, (renderer.renderDescription genre description).IsNormal := by
  refine ⟨?_, renderer.renderLossy_isNormal, ?_⟩
  · intro nodes prose h
    exact Node.renderAll_isNormal (renderer.expand_wellFramed renderer.maxDepth) h
  · intro genre description
    exact renderer.renderLossy_isNormal _

/-- A renderer for which every text comes in two parts, next to what a normal form leaves out. -/
def untidy : Renderer where
  parse text := [.text "", .container .fragment [.text text], .text text, .container .fragment []]
  context := ⟨none, .utc ⟨1970, 1, 1, isCalendarDay_epoch⟩ .midnight, fun _ => none⟩
  maxDepth := 20

theorem renders_isNormal_untidy :
    untidy.render [.template "nowrap" [⟨none, "a"⟩], .text "", .template "hlist" [⟨none, "b"⟩]]
      = .ok (.fragment [.styled .nowrap (.text "aa"), .text "bb"]) ∧
    (Prose.fragment [.styled .nowrap (.text "aa"), .text "bb"]).IsNormal := by
  have hrender : untidy.render
      [.template "nowrap" [⟨none, "a"⟩], .text "", .template "hlist" [⟨none, "b"⟩]]
      = .ok (.fragment [.styled .nowrap (.text "aa"), .text "bb"]) := rfl
  exact ⟨hrender, (renders_isNormal untidy).1 _ _ hrender⟩

end Renderer

end GenreProse
