-- SUMMARY: Renders compose: lists of nodes may be rendered before they are put together.
import GenreProse.Proofs.Prose.Tokens
import GenreProse.Proofs.Prose.Units
import GenreProse.Proofs.Rendering.Lossy

/-!
# Composition

To bring pieces into normal form is associative, and it changes neither the HTML nor the plain text
that the pieces have one after the other: a text that is joined from two is escaped like the two.
Since nodes are rendered one by one, a render of two lists of nodes is the normal form of the
renders of the lists.
-/

namespace GenreProse

/-! ## Output of the normal form -/

namespace Prose

/-- Pieces may be put together in two parts. -/
theorem concat_pair (front back : List Prose) :
    concat [concat front, concat back] = concat (front ++ back) := by
  have hparts := concat_map_concat [front, back]
  rwa [List.flatten_cons, List.flatten_singleton] at hparts

theorem htmlOfAll_eq_join (pieces : List Prose) :
    htmlOfAll pieces = String.join (pieces.map html) := by
  induction pieces with
  | nil => rfl
  | cons piece pieces ih => rw [htmlOfAll, ih, List.map_cons, String.join_cons]

theorem plainTextOfAll_eq_join (pieces : List Prose) :
    plainTextOfAll pieces = String.join (pieces.map plainText) := by
  induction pieces with
  | nil => rfl
  | cons piece pieces ih => rw [plainTextOfAll, ih, List.map_cons, String.join_cons]

theorem toList_join_map (write : Prose → String) (pieces : List Prose) :
    (String.join (pieces.map write)).toList = pieces.flatMap fun piece => (write piece).toList := by
  rw [String.toList_join, List.flatMap_map]

/-- HTML is written unit by unit, and text character by character. -/
theorem html_isView : IsView fun prose => prose.html.toList where
  empty := rfl
  noText := Entity.toList_escape ""
  text a b := by
    simp only [html, Entity.toList_escape, String.toList_append, List.flatMap_append]
  fragment pieces := by rw [html, htmlOfAll_eq_join, toList_join_map]

theorem plainText_isView : IsView fun prose => prose.plainText.toList where
  empty := rfl
  noText := rfl
  text a b := by simp only [plainText, String.toList_append]
  fragment pieces := by rw [plainText, plainTextOfAll_eq_join, toList_join_map]

/-- The HTML of joined prose is that of its pieces. -/
theorem html_concat (pieces : List Prose) :
    (concat pieces).html = String.join (pieces.map html) := by
  have hshown := html_isView.concat pieces
  rwa [← toList_join_map, String.toList_inj] at hshown

/-- The plain text of joined prose is that of its pieces. -/
theorem plainText_concat (pieces : List Prose) :
    (concat pieces).plainText = String.join (pieces.map plainText) := by
  have hshown := plainText_isView.concat pieces
  rwa [← toList_join_map, String.toList_inj] at hshown

end Prose

/-! ## Renders -/

namespace Node

variable {context : Context} {expand : Expander}

/-- Nodes are rendered one after the other. -/
theorem renderEach_append (front back : List Node) :
    renderEach context expand (front ++ back)
      = (renderEach context expand front).bind fun pieces =>
          (renderEach context expand back).map (pieces ++ ·) := by
  induction front with
  | nil => cases hback : renderEach context expand back <;> rw [List.nil_append, hback] <;> rfl
  | cons node front ih =>
    rw [List.cons_append]
    cases hnode : render context expand node with
    | error unknown =>
      rw [renderEach_cons_of_error hnode, renderEach_cons_of_error hnode]
      rfl
    | ok piece =>
      rw [renderEach_cons_of_ok hnode, renderEach_cons_of_ok hnode, ih]
      cases renderEach context expand front with
      | error unknown => rfl
      | ok pieces => cases renderEach context expand back <;> rfl

end Node

namespace Renderer

open Prose

variable (renderer : Renderer)

/-- A list of nodes is rendered like its parts, one after the other. -/
theorem render_append (front back : List Node) :
    renderer.render (front ++ back)
      = (renderer.render front).bind fun prose =>
          (renderer.render back).map fun prose' => concat [prose, prose'] := by
  simp only [render, Node.renderAll, Node.renderEach_append]
  cases Node.renderEach renderer.context (renderer.expand renderer.maxDepth) front with
  | error unknown => rfl
  | ok pieces =>
    cases Node.renderEach renderer.context (renderer.expand renderer.maxDepth) back with
    | error unknown => rfl
    | ok pieces' => exact congrArg Except.ok (concat_pair pieces pieces').symm

/-- The normal form is associative and keeps the HTML and the plain text of its pieces, and renders
    compose by it. -/
theorem renders_compose :
    (∀ front back, concat [concat front, concat back] = concat (front ++ back)) ∧
    (∀ pieces, (concat pieces).html = String.join (pieces.map html) ∧
      (concat pieces).plainText = String.join (pieces.map plainText)) ∧
    ∀ front back prose prose',
      renderer.render front = .ok prose → renderer.render back = .ok prose' →
      renderer.render (front ++ back) = .ok (concat [prose, prose']) := by
  refine ⟨concat_pair, fun pieces => ⟨html_concat pieces, plainText_concat pieces⟩, ?_⟩
  intro front back prose prose' hfront hback
  rw [render_append, hfront, hback]
  rfl

/-- Texts that meet where two lists do are joined. -/
theorem renders_compose_literal :
    literal.render [.container .italic [.text "hip"], .text "-"]
      = .ok (.fragment [.framed (.style .italic) [.text "hip"], .text "-"]) ∧
    literal.render [.text "house", .newline] = .ok (.fragment [.text "house", .newline]) ∧
    literal.render [.container .italic [.text "hip"], .text "-", .text "house", .newline]
      = .ok (.fragment [.framed (.style .italic) [.text "hip"], .text "-house", .newline]) := by
  have hfront : literal.render [.container .italic [.text "hip"], .text "-"]
      = .ok (.fragment [.framed (.style .italic) [.text "hip"], .text "-"]) := rfl
  have hback : literal.render [.text "house", .newline]
      = .ok (.fragment [.text "house", .newline]) := rfl
  exact ⟨hfront, hback, (renders_compose literal).2.2 _ _ _ _ hfront hback⟩

end Renderer

end GenreProse
