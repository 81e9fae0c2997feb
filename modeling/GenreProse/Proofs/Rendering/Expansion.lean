-- SUMMARY: What a template call results in, by the kind of its handler.
import GenreProse.Proofs.Template.Evaluation
import GenreProse.Renderer

/-!
# Expansion of a template call

A call of an unknown template fails. All other calls run their handler: a handler that evaluates
arguments never writes new markup, and one that writes new markup evaluates none.
-/

namespace GenreProse

namespace Renderer

/-! ## Levels -/

/-- The expander of the next level, if there are any levels below. -/
def below (renderer : Renderer) : Nat → Option Expander
  | 0 => none
  | levels + 1 => some (renderer.expand levels)

theorem expand_eq (renderer : Renderer) (levels : Nat) :
    renderer.expand levels = renderer.expandWith (renderer.below levels) := by
  cases levels <;> rfl

/-- Markup is rendered one level deeper, as long as there is one. -/
theorem evaluate_below_succ (renderer : Renderer) (levels : Nat) {text : String} {nodes : List Node}
    (htext : text ≠ "") (hparse : renderer.parse text = nodes) :
    renderer.evaluate (renderer.below (levels + 1)) text =
      Node.renderAll renderer.context (renderer.expand levels) nodes := by
  subst hparse
  exact if_neg htext

/-! ## Handlers -/

variable (renderer : Renderer) (deeper : Option Expander) (name : String)
  (parameters : List Parameter)

/-- The call as its handler gets it: under the name as written. -/
abbrev callOf : Call :=
  ⟨name, parameters⟩

/-- The result of a finished handler. -/
def finish : Outcome → Result Prose
  | .prose prose => .ok prose
  | .markup text => renderer.resume deeper name text

/-- A call of an unknown template fails with its name. -/
theorem expandWith_unknown (h : Template.find? (canonicalName name) = none) :
    renderer.expandWith deeper name parameters
      = .error ⟨Text.trim name, renderer.context.baseUrl⟩ := by
  unfold expandWith
  rw [h]

/-- A call of a known template runs its handler, and finishes what comes out. -/
theorem expandWith_known {handler : Handler}
    (h : Template.find? (canonicalName name) = some handler) :
    renderer.expandWith deeper name parameters
      = ((handler.run renderer.context (callOf name parameters)).run
          (renderer.evaluate deeper)).bind (renderer.finish deeper name) := by
  unfold expandWith
  rw [h]
  rfl

/-- A handler that makes prose is run. -/
theorem expandWith_evaluating {prose : Call → Eval Prose}
    (h : Template.find? (canonicalName name) = some (.evaluating prose)) :
    renderer.expandWith deeper name parameters
      = (prose (callOf name parameters)).run (renderer.evaluate deeper) := by
  rw [expandWith_known _ _ _ _ h, Handler.run, Eval.run_bind_done]
  cases (prose (callOf name parameters)).run (renderer.evaluate deeper) <;> rfl

/-- A handler that makes markup is finished. -/
theorem expandWith_expanding {outcome : Call → Outcome}
    (h : Template.find? (canonicalName name) = some (.expanding outcome)) :
    renderer.expandWith deeper name parameters
      = renderer.finish deeper name (outcome (callOf name parameters)) := by
  rw [expandWith_known _ _ _ _ h]
  rfl

/-! ## Limits -/

theorem expandWith_limit (limit : Nat) :
    { renderer with maxDepth := limit }.expandWith deeper = renderer.expandWith deeper := by
  funext name parameters
  cases hfind : Template.find? (canonicalName name) with
  | none => rw [expandWith_unknown _ _ _ _ hfind, expandWith_unknown _ _ _ _ hfind]
  | some handler =>
    rw [expandWith_known _ _ _ _ hfind, expandWith_known _ _ _ _ hfind]
    rfl

/-- The limit says in which level a render starts, and not how a level is expanded. -/
theorem expand_limit (limit levels : Nat) :
    { renderer with maxDepth := limit }.expand levels = renderer.expand levels := by
  induction levels with
  | zero => rw [expand_eq, expand_eq, below, below, expandWith_limit]
  | succ levels ih => rw [expand_eq, expand_eq, below, below, expandWith_limit, ih]

theorem render_limit (limit : Nat) (nodes : List Node) :
    { renderer with maxDepth := limit }.render nodes
      = Node.renderAll renderer.context (renderer.expand limit) nodes := by
  rw [← expand_limit renderer limit limit]
  rfl

end Renderer

end GenreProse
