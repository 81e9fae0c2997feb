-- SUMMARY: Laws of results, and of rendering nodes one by one.
import GenreProse.Renderer

/-!
# Nodes one by one

A strict pass over nodes fails with the first node that does, and a lossy pass ends there. These are
the equations of both passes at the first node, by what it results in.
-/

namespace GenreProse

/-! ## Results -/

section

variable {α β : Type}

theorem map_eq_ok {result : Result α} {f : α → β} {b : β} (h : result.map f = .ok b) :
    ∃ a, result = .ok a ∧ f a = b := by
  cases result with
  | error unknown => cases h
  | ok a => exact ⟨a, rfl, Except.ok.inj h⟩

theorem map_eq_error {result : Result α} {f : α → β} {unknown : UnknownTemplate} :
    result.map f = .error unknown ↔ result = .error unknown := by
  constructor
  · intro h
    cases result with
    | error other =>
      cases h
      rfl
    | ok a => cases h
  · rintro rfl
    rfl

theorem bind_eq_ok {result : Result α} {f : α → Result β} {b : β} (h : result.bind f = .ok b) :
    ∃ a, result = .ok a ∧ f a = .ok b := by
  cases result with
  | error unknown => cases h
  | ok a => exact ⟨a, rfl, h⟩

end

/-! ## Nodes -/

namespace Node

variable {context : Context} {expand : Expander} {node : Node} {nodes : List Node}

theorem renderEach_cons_of_ok {piece : Prose} (h : render context expand node = .ok piece) :
    renderEach context expand (node :: nodes)
      = (renderEach context expand nodes).map (piece :: ·) := by
  rw [renderEach, h]
  rfl

/-- A node that fails fails the list. -/
theorem renderEach_cons_of_error {unknown : UnknownTemplate}
    (h : render context expand node = .error unknown) :
    renderEach context expand (node :: nodes) = .error unknown := by
  rw [renderEach, h]
  rfl

/-- A node that renders is part of the prefix. -/
theorem renderPrefix_cons_of_ok {piece : Prose} (h : render context expand node = .ok piece) :
    renderPrefix context expand (node :: nodes) = piece :: renderPrefix context expand nodes := by
  rw [renderPrefix, h]

/-- A node that fails ends the prefix. -/
theorem renderPrefix_cons_of_error {unknown : UnknownTemplate}
    (h : render context expand node = .error unknown) :
    renderPrefix context expand (node :: nodes) = [] := by
  rw [renderPrefix, h]

/-- A container wraps what its children render as. -/
theorem render_container (kind : Container) (children : List Node) :
    render context expand (.container kind children)
      = (renderAll context expand children).map kind.wrap := by
  rw [render, renderAll]
  cases renderEach context expand children <;> rfl

theorem renderAll_singleton (node : Node) :
    renderAll context expand [node]
      = (render context expand node).map fun piece => .concat [piece] := by
  rw [renderAll]
  cases hnode : render context expand node with
  | error unknown =>
    rw [renderEach_cons_of_error hnode]
    rfl
  | ok piece =>
    rw [renderEach_cons_of_ok hnode]
    rfl

end Node

end GenreProse
