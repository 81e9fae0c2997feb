-- SUMMARY: A lossy render shows the nodes before the first that fails a strict render.
import GenreProse.Proofs.Rendering.Nodes

/-!
# Lossy renders

A strict render goes through the nodes and gives up at the first that fails; a lossy one ends there
and keeps what it has. So both show the same where nothing fails. Where something does, the lossy
render is the strict render of the nodes before the first failure, and the strict one has the error
of that node.
-/

namespace GenreProse

/-! ## Nodes one by one -/

namespace Node

variable {context : Context} {expand : Expander}

/-- Whether the node cannot be rendered. -/
def fails (context : Context) (expand : Expander) (node : Node) : Bool :=
  !(render context expand node).isOk

/-- A node that renders comes before the first one that fails. -/
theorem findIdx_fails_of_ok {node : Node} {nodes : List Node} {piece : Prose}
    (h : render context expand node = .ok piece) :
    (node :: nodes).findIdx (fails context expand)
      = nodes.findIdx (fails context expand) + 1 := by
  have hfine : fails context expand node = false := by
    rw [fails, h]
    rfl
  rw [List.findIdx_cons, hfine, cond_false]

theorem findIdx_fails_of_error {node : Node} {nodes : List Node} {unknown : UnknownTemplate}
    (h : render context expand node = .error unknown) :
    (node :: nodes).findIdx (fails context expand) = 0 := by
  have hfails : fails context expand node = true := by
    rw [fails, h]
    rfl
  rw [List.findIdx_cons, hfails, cond_true]

/-- If all nodes are rendered, a lossy pass renders them all. -/
theorem renderPrefix_of_renderEach {nodes : List Node} {pieces : List Prose}
    (h : renderEach context expand nodes = .ok pieces) :
    renderPrefix context expand nodes = pieces := by
  induction nodes generalizing pieces with
  | nil =>
    cases h
    rfl
  | cons node nodes ih =>
    cases hnode : render context expand node with
    | error unknown =>
      rw [renderEach_cons_of_error hnode] at h
      cases h
    | ok piece =>
      rw [renderEach_cons_of_ok hnode] at h
      obtain ⟨others, hothers, rfl⟩ := map_eq_ok h
      rw [renderPrefix_cons_of_ok hnode, ih hothers]

/-- A lossy pass renders the nodes before the first that fails. -/
theorem renderEach_take_findIdx (nodes : List Node) :
    renderEach context expand (nodes.take (nodes.findIdx (fails context expand)))
      = .ok (renderPrefix context expand nodes) := by
  induction nodes with
  | nil => rfl
  | cons node nodes ih =>
    cases hnode : render context expand node with
    | error unknown =>
      rw [findIdx_fails_of_error hnode, renderPrefix_cons_of_error hnode]
      rfl
    | ok piece =>
      rw [findIdx_fails_of_ok hnode, renderPrefix_cons_of_ok hnode, List.take_succ_cons,
        renderEach_cons_of_ok hnode, ih]
      rfl

/-- A strict pass fails with the error of the first node that does. -/
theorem render_findIdx_of_error {nodes : List Node} {unknown : UnknownTemplate}
    (h : renderEach context expand nodes = .error unknown) :
    ∃ hindex : nodes.findIdx (fails context expand) < nodes.length,
      render context expand nodes[nodes.findIdx (fails context expand)] = .error unknown := by
  induction nodes with
  | nil => cases h
  | cons node nodes ih =>
    cases hnode : render context expand node with
    | error other =>
      rw [renderEach_cons_of_error hnode] at h
      cases h
      simp only [findIdx_fails_of_error hnode]
      exact ⟨Nat.zero_lt_succ _, hnode⟩
    | ok piece =>
      rw [renderEach_cons_of_ok hnode, map_eq_error] at h
      obtain ⟨hindex, hfails⟩ := ih h
      simp only [findIdx_fails_of_ok hnode]
      exact ⟨Nat.succ_lt_succ hindex, hfails⟩

end Node

/-! ## Renders -/

namespace Renderer

variable (renderer : Renderer)

/-- The index of the first node whose own strict render fails. -/
def firstFailure (nodes : List Node) : Nat :=
  nodes.findIdx fun node => !(renderer.render [node]).isOk

/-- The first node that fails is the first one that fails by itself. -/
theorem firstFailure_eq (nodes : List Node) : renderer.firstFailure nodes
    = nodes.findIdx (Node.fails renderer.context (renderer.expand renderer.maxDepth)) := by
  unfold firstFailure
  congr 1
  funext node
  rw [render, Node.renderAll_singleton, Node.fails]
  cases node.render renderer.context (renderer.expand renderer.maxDepth) <;> rfl

/-- A lossy render shows what a strict one does, if that succeeds. If it fails, it fails like the
    first node with a failure, and the lossy render shows the nodes before that one. -/
theorem renderLossy_longestPrefix (nodes : List Node) :
    (∀ prose, renderer.render nodes = .ok prose → renderer.renderLossy nodes = prose) ∧
    ∀ unknown, renderer.render nodes = .error unknown →
      ∃ hindex : renderer.firstFailure nodes < nodes.length,
        renderer.render [nodes[renderer.firstFailure nodes]] = .error unknown ∧
        renderer.render (nodes.take (renderer.firstFailure nodes))
          = .ok (renderer.renderLossy nodes) := by
  constructor
  · intro prose hrender
    obtain ⟨pieces, hpieces, rfl⟩ := map_eq_ok hrender
    rw [renderLossy, Node.renderPrefix_of_renderEach hpieces]
  · intro unknown hrender
    obtain ⟨hindex, hfails⟩ := Node.render_findIdx_of_error (map_eq_error.mp hrender)
    simp only [firstFailure_eq]
    refine ⟨hindex, ?_, ?_⟩
    · rw [render, Node.renderAll_singleton, hfails]
      rfl
    · rw [render, Node.renderAll, Node.renderEach_take_findIdx]
      rfl

/-- A renderer for which every text is just text. -/
def literal : Renderer where
  parse text := [.text text]
  context := ⟨none, .utc ⟨1970, 1, 1, isCalendarDay_epoch⟩ .midnight, fun _ => none⟩
  maxDepth := 20

/-- Nodes with a template in the middle that is not known. -/
def interrupted : List Node :=
  [.text "Kept ", .container .bold [.template "Frobnicate" []], .text " dropped"]

theorem renderLossy_longestPrefix_interrupted :
    literal.render [.text "Kept "] = .ok (.text "Kept ") ∧
    literal.renderLossy [.text "Kept "] = .text "Kept " ∧
    literal.render interrupted = .error ⟨"Frobnicate", none⟩ ∧
    literal.firstFailure interrupted = 1 ∧
    literal.render [.text "Kept "] = .ok (literal.renderLossy interrupted) := by
  have hfails : literal.render interrupted = .error ⟨"Frobnicate", none⟩ := rfl
  have hfirst : literal.firstFailure interrupted = 1 := by decide +kernel
  obtain ⟨-, -, hkept⟩ := (renderLossy_longestPrefix literal interrupted).2 _ hfails
  rw [hfirst] at hkept
  exact ⟨rfl, (renderLossy_longestPrefix literal [.text "Kept "]).1 _ rfl, hfails, hfirst, hkept⟩

end Renderer

end GenreProse
