-- SUMMARY: To continue with a single template call in place makes no difference to a render.
import GenreProse.Proofs.Prose.Units
import GenreProse.Proofs.Rendering.Expansion
import GenreProse.Proofs.Rendering.Nodes

/-!
# The shortcut for single calls

Markup that is a single template call takes the place of the call that it came from. The renderer
without this shortcut renders it like all other markup, as nodes one level deeper. The results of a
call differ only in that nodes give a normal form. All that uses a call brings it into normal form
with its neighbours anyway, so both renderers show the same. They count levels alike, and where
these run out, both name the last call of the chain.
-/

namespace GenreProse

/-! ## Without the shortcut -/

namespace Renderer

/-- Renders the markup that a template call turned into, as nodes. -/
def resumeNodes (renderer : Renderer) (deeper : Option Expander) (name text : String) :
    Result Prose :=
  match deeper with
  | none => .ok (depthExceeded name)
  | some expand => Node.renderAll renderer.context expand (renderer.parse text)

/-- Expands a template call without the shortcut, with the expander of the next level if there is
    one. -/
def expandNodesWith (renderer : Renderer) (deeper : Option Expander) : Expander :=
  fun name parameters =>
    match Template.find? (canonicalName name) with
    | none => .error ⟨Text.trim name, renderer.context.baseUrl⟩
    | some handler => do
      let call : Call := ⟨name, parameters⟩
      match ← (handler.run renderer.context call).run (renderer.evaluate deeper) with
      | .prose prose => return prose
      | .markup text => renderer.resumeNodes deeper name text

/-- Expands a template call without the shortcut, with so many levels below it. -/
def expandNodes (renderer : Renderer) : Nat → Expander
  | 0, name, parameters => renderer.expandNodesWith none name parameters
  | levels + 1, name, parameters =>
    renderer.expandNodesWith (some (renderer.expandNodes levels)) name parameters

/-- Renders nodes without the shortcut. -/
def renderNodes (renderer : Renderer) (nodes : List Node) : Result Prose :=
  Node.renderAll renderer.context (renderer.expandNodes renderer.maxDepth) nodes

/-- Renders the nodes before the first that fails, without the shortcut. -/
def renderNodesLossy (renderer : Renderer) (nodes : List Node) : Prose :=
  .concat (Node.renderPrefix renderer.context (renderer.expandNodes renderer.maxDepth) nodes)

end Renderer

/-! ## Alike results -/

section

variable {α β γ : Type}

/-- Whether two results have values with the same image, or the same error. -/
inductive SameUpTo (f : α → β) : Result α → Result α → Prop where
  | ok {a a' : α} : f a = f a' → SameUpTo f (.ok a) (.ok a')
  | error {unknown : UnknownTemplate} : SameUpTo f (.error unknown) (.error unknown)

namespace SameUpTo

variable {f : α → β} {result result' : Result α}

theorem refl (result : Result α) : SameUpTo f result result := by
  cases result with
  | ok a => exact .ok rfl
  | error unknown => exact .error

theorem of_eq (h : result = result') : SameUpTo f result result' :=
  h ▸ .refl result

/-- Results are equal if the function makes no difference between their values. -/
theorem map_eq {g : α → γ} (h : SameUpTo f result result')
    (hg : ∀ a a', f a = f a' → g a = g a') : result.map g = result'.map g := by
  cases h with
  | ok heq => exact congrArg Except.ok (hg _ _ heq)
  | error => rfl

end SameUpTo

end

/-- Whether two expanders expand all calls alike: to prose with the same normal form, or with the
    same error. -/
def Expander.Alike (expand expand' : Expander) : Prop :=
  ∀ name parameters,
    SameUpTo Prose.normalize (expand name parameters) (expand' name parameters)

namespace Node

variable {context : Context} {expand expand' : Expander}

/-- Nodes are put together from their normal forms. -/
theorem renderAll_eq {nodes : List Node}
    (h : SameUpTo (List.map Prose.normalize) (renderEach context expand nodes)
      (renderEach context expand' nodes)) :
    renderAll context expand nodes = renderAll context expand' nodes := by
  apply h.map_eq
  intro pieces pieces' heq
  rw [← Prose.concat_map_normalize pieces, heq, Prose.concat_map_normalize]

mutual

/-- A node renders alike, if template calls do. -/
theorem render_alike (h : expand.Alike expand') (node : Node) :
    SameUpTo Prose.normalize (render context expand node) (render context expand' node) := by
  cases node with
  | container kind children =>
    apply SameUpTo.of_eq
    rw [render_container, render_container, renderAll_eq (renderEach_alike h children)]
  | template name parameters => exact h name parameters
  | _ => exact .refl _

theorem renderEach_alike (h : expand.Alike expand') (nodes : List Node) :
    SameUpTo (List.map Prose.normalize) (renderEach context expand nodes)
      (renderEach context expand' nodes) := by
  cases nodes with
  | nil => exact .refl _
  | cons node nodes =>
    have hnode := render_alike h node
    have hnodes := renderEach_alike h nodes
    rw [renderEach, renderEach]
    generalize render context expand node = result at hnode ⊢
    generalize render context expand' node = result' at hnode ⊢
    cases hnode with
    | error => exact .error
    | ok heq =>
      generalize renderEach context expand nodes = results at hnodes ⊢
      generalize renderEach context expand' nodes = results' at hnodes ⊢
      cases hnodes with
      | error => exact .error
      | ok heqs =>
        refine .ok ?_
        rw [List.map_cons, List.map_cons, heq, heqs]

end

/-- Nodes render to the same prose, if calls expand alike. -/
theorem renderAll_alike (h : expand.Alike expand') (nodes : List Node) :
    renderAll context expand nodes = renderAll context expand' nodes :=
  renderAll_eq (renderEach_alike h nodes)

/-- The nodes before the first failure render alike. -/
theorem renderPrefix_alike (h : expand.Alike expand') (nodes : List Node) :
    (renderPrefix context expand nodes).map Prose.normalize
      = (renderPrefix context expand' nodes).map Prose.normalize := by
  induction nodes with
  | nil => rfl
  | cons node nodes ih =>
    have hnode : SameUpTo Prose.normalize (render context expand node)
        (render context expand' node) := render_alike h node
    rw [renderPrefix, renderPrefix]
    generalize render context expand node = result at hnode ⊢
    generalize render context expand' node = result' at hnode ⊢
    cases hnode with
    | error => rfl
    | ok heq => simp only [List.map_cons, heq, ih]

end Node

/-! ## Levels of expansion -/

namespace Renderer

variable {renderer : Renderer} {deeper deeper' : Option Expander} {name text : String}

/-- Whether there are levels below in both cases or in neither, and they expand calls alike. -/
inductive LevelsAlike : Option Expander → Option Expander → Prop where
  | none : LevelsAlike none none
  | some {expand expand' : Expander} :
      expand.Alike expand' → LevelsAlike (some expand) (some expand')

/-- A text is evaluated to the same prose, if calls expand alike. -/
theorem evaluate_alike (h : LevelsAlike deeper deeper') :
    renderer.evaluate deeper = renderer.evaluate deeper' := by
  funext text
  cases h with
  | none => rfl
  | some h => rw [evaluate, evaluate, Node.renderAll_alike h]

/-- To continue with a single call and to render it as a node is alike. -/
theorem resume_alike (h : LevelsAlike deeper deeper') :
    SameUpTo Prose.normalize (renderer.resume deeper name text)
      (renderer.resumeNodes deeper' name text) := by
  cases h with
  | none => exact .refl _
  | @some expand expand' h =>
    rw [resume, resumeNodes]
    split
    · rename_i next parameters hparse
      rw [hparse, Node.renderAll_singleton, Node.render]
      have hnext := h next parameters
      generalize expand next parameters = result at hnext ⊢
      generalize expand' next parameters = result' at hnext ⊢
      cases hnext with
      | error => exact .error
      | ok heq => exact .ok (heq.trans (Prose.normalize_normalize _).symm)
    · exact .of_eq (Node.renderAll_alike h _)

theorem expandNodesWith_unknown {parameters : List Parameter}
    (h : Template.find? (canonicalName name) = none) :
    renderer.expandNodesWith deeper name parameters
      = .error ⟨Text.trim name, renderer.context.baseUrl⟩ := by
  unfold expandNodesWith
  rw [h]

theorem expandNodesWith_known {handler : Handler} {parameters : List Parameter}
    (h : Template.find? (canonicalName name) = some handler) :
    renderer.expandNodesWith deeper name parameters
      = ((handler.run renderer.context (callOf name parameters)).run
          (renderer.evaluate deeper)).bind fun
            | .prose prose => .ok prose
            | .markup text => renderer.resumeNodes deeper name text := by
  unfold expandNodesWith
  rw [h]
  rfl

/-- One level of expansion is alike with and without the shortcut, if the levels below are. -/
theorem expandWith_alike (h : LevelsAlike deeper deeper') :
    (renderer.expandWith deeper).Alike (renderer.expandNodesWith deeper') := by
  intro name parameters
  cases hfind : Template.find? (canonicalName name) with
  | none =>
    apply SameUpTo.of_eq
    rw [expandWith_unknown _ _ _ _ hfind, expandNodesWith_unknown hfind]
  | some handler =>
    rw [expandWith_known _ _ _ _ hfind, expandNodesWith_known hfind, evaluate_alike h]
    -- Both get the same answers, so both have the same outcome.
    cases (handler.run renderer.context (callOf name parameters)).run
        (renderer.evaluate deeper') with
    | error unknown => exact .error
    | ok outcome =>
      cases outcome with
      | prose prose => exact .refl _
      | markup text => exact resume_alike h

theorem expandNodes_zero : renderer.expandNodes 0 = renderer.expandNodesWith none :=
  rfl

theorem expandNodes_succ (levels : Nat) :
    renderer.expandNodes (levels + 1)
      = renderer.expandNodesWith (some (renderer.expandNodes levels)) :=
  rfl

/-- Chains of calls of any length are alike. The induction is on the levels left below the call. -/
theorem expand_alike (levels : Nat) :
    (renderer.expand levels).Alike (renderer.expandNodes levels) := by
  induction levels with
  | zero =>
    rw [expand_eq, below, expandNodes_zero]
    exact expandWith_alike .none
  | succ levels ih =>
    rw [expand_eq, below, expandNodes_succ]
    exact expandWith_alike (.some ih)

/-! ## Renders -/

/-- A render shows the same, or has the same error, without the shortcut for single calls. -/
theorem render_eq_renderNodes (renderer : Renderer) (nodes : List Node) :
    renderer.render nodes = renderer.renderNodes nodes ∧
    renderer.renderLossy nodes = renderer.renderNodesLossy nodes := by
  have hexpand : (renderer.expand renderer.maxDepth).Alike
      (renderer.expandNodes renderer.maxDepth) := expand_alike renderer.maxDepth
  constructor
  · exact Node.renderAll_alike hexpand nodes
  · rw [renderLossy, renderNodesLossy, ← Prose.concat_map_normalize,
      Node.renderPrefix_alike hexpand, Prose.concat_map_normalize]

end Renderer

end GenreProse
