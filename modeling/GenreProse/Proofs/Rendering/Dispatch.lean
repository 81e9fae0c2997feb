-- SUMMARY: How the name of a template call is spelled makes no difference to what it renders.
import GenreProse.Proofs.Rendering.Expansion
import GenreProse.Proofs.Rendering.Lossy
import GenreProse.Proofs.Template.Spelling
import GenreProse.Proofs.Template.Uniform

/-!
# Dispatch

The handler of a call is found by the canonical name, and it sees nothing else of the name. So two
spellings of a name give the same prose. The name as written is shown in two places only: it is
quoted where the template is not known, and where its markup lies too deep.
-/

namespace GenreProse

/-- Whether two results of a call, under two names, are the same but for the name that is quoted in
    an error or in the message for what lies too deep. -/
inductive SameButForName (renderer : Renderer) (name name' : String) :
    Result Prose → Result Prose → Prop where
  | same (result : Result Prose) : SameButForName renderer name name' result result
  | unknown : SameButForName renderer name name'
      (.error ⟨Text.trim name, renderer.context.baseUrl⟩)
      (.error ⟨Text.trim name', renderer.context.baseUrl⟩)
  | deep : SameButForName renderer name name'
      (.ok (depthExceeded name)) (.ok (depthExceeded name'))

namespace Renderer

variable (renderer : Renderer) {name name' : String}

/-- What is left to do for a call depends on its name only in errors. -/
theorem finish_sameButForName (deeper : Option Expander) (outcome : Outcome) :
    SameButForName renderer name name'
      (renderer.finish deeper name outcome) (renderer.finish deeper name' outcome) := by
  cases outcome with
  | prose shown => exact .same _
  | markup text =>
    cases deeper with
    | none => exact .deep
    | some expand => exact .same _

/-- One level of expansion uses the canonical name only. -/
theorem expandWith_sameButForName (h : canonicalName name = canonicalName name')
    (deeper : Option Expander) (parameters : List Parameter) :
    SameButForName renderer name name'
      (renderer.expandWith deeper name parameters)
      (renderer.expandWith deeper name' parameters) := by
  have hsame : Template.find? (canonicalName name) = Template.find? (canonicalName name') :=
    congrArg Template.find? h
  cases hfind : Template.find? (canonicalName name) with
  | none =>
    rw [expandWith_unknown _ _ _ _ hfind, expandWith_unknown _ _ _ _ (hsame.symm.trans hfind)]
    exact .unknown
  | some handler =>
    have hrun : handler.run renderer.context (callOf name parameters)
        = handler.run renderer.context (callOf name' parameters) :=
      (Template.find?_uniform hfind).run renderer.context h parameters
    rw [expandWith_known _ _ _ _ hfind, expandWith_known _ _ _ _ (hsame.symm.trans hfind), hrun]
    cases (handler.run renderer.context (callOf name' parameters)).run
        (renderer.evaluate deeper) with
    | error unknown => exact .same (.error unknown)
    | ok outcome => exact finish_sameButForName renderer deeper outcome

/-- All spellings of a name render alike: to the same prose, to the same error but for the name that
    it quotes, or to the message for what lies too deep, which quotes the name too. -/
theorem render_respelled (parameters : List Parameter)
    (h : Respelled name.toList name'.toList) :
    SameButForName renderer name name'
      (renderer.render [.template name parameters])
      (renderer.render [.template name' parameters]) := by
  have hexpand := expandWith_sameButForName renderer h.canonicalName_eq.symm
    (renderer.below renderer.maxDepth) parameters
  simp only [render, Node.renderAll_singleton, Node.render, expand_eq]
  generalize renderer.expandWith _ name parameters = result at hexpand ⊢
  generalize renderer.expandWith _ name' parameters = result' at hexpand ⊢
  cases hexpand with
  | same => exact .same _
  | unknown => exact .unknown
  | deep => exact .deep

/-- A name with all changes at once: an underscore, other capitals, the namespace and blanks. -/
theorem render_respelled_asOf :
    Respelled "As of".toList " template:  as_OF ".toList ∧
    SameButForName literal "As of" " template:  as_OF "
      (literal.render [.template "As of" [⟨none, "2024"⟩]])
      (literal.render [.template " template:  as_OF " [⟨none, "2024"⟩]]) := by
  have hunderscores : List.Forall₂ UnderscoreFor "As of".toList "As_of".toList :=
    .cons (.same 'A') <| .cons (.same 's') <| .cons .space <| .cons (.same 'o') <|
      .cons (.same 'f') .nil
  have hinner : Respelled "As of".toList ([] ++ "As_of".toList ++ []) :=
    .underscores .self (by simp) (by simp) (by decide) (by decide) hunderscores
  have hletters : Respelled "As of".toList "as_OF".toList := .letterCase hinner (by decide)
  have hspelled : Respelled "As of".toList " template:  as_OF ".toList := by
    have hblank : ∀ c ∈ " ".toList, isBlank c := Chars.forall_of_all (by decide)
    have hgap : ∀ c ∈ "  ".toList, isBlank c := Chars.forall_of_all (by decide)
    refine @Respelled.blanks _ " ".toList "template:  as_OF".toList " ".toList ?_ hblank hblank
    exact @Respelled.namespaced _ "template:".toList "  ".toList _ hletters (by decide) (by decide)
      hgap
  exact ⟨hspelled, render_respelled literal _ hspelled⟩

end Renderer

end GenreProse
