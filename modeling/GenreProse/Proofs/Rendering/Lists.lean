-- SUMMARY: A list has a separator between each two items, also beside one that shows nothing.
import GenreProse.Proofs.Markup.QuotedText
import GenreProse.Proofs.Rendering.Composition
import GenreProse.Proofs.Rendering.Expansion
import GenreProse.Proofs.Rendering.Sites

/-!
# Lists

A list is its items one after the other, with a separator between each two. Blank items are left out
before they are evaluated, but an item may still show nothing: it may be a comment, or a call of a
template that is hidden. Such an item adds nothing to the plain text of a list but one more
separator. So separators stand between shown items only, if and only if all items show something or
there are less than two of them.
-/

namespace GenreProse

/-! ## Shown characters -/

namespace Prose

/-- How many characters the prose shows. -/
def shownLength (prose : Prose) : Nat :=
  prose.plainText.length

theorem shownLength_of_isEmpty {piece : Prose} (h : piece.isEmpty) : piece.shownLength = 0 := by
  rw [shownLength, ← String.length_toList, plainText_isView.of_isEmpty h, List.length_nil]

/-- Joined prose shows as much as its pieces. -/
theorem shownLength_concat (pieces : List Prose) :
    (concat pieces).shownLength = (pieces.map shownLength).sum := by
  have hview := plainText_isView.concat pieces
  rw [shownLength, ← String.length_toList, hview, List.length_flatMap]
  simp only [String.length_toList]
  rfl

/-! ## Separators -/

/-- Separators add up. -/
theorem sum_map_intersperse {α : Type} (f : α → Nat) (separator : α) (items : List α) :
    ((items.intersperse separator).map f).sum =
      (items.map f).sum + (items.length - 1) * f separator := by
  fun_induction List.intersperse separator items with
  | case1 => simp
  | case2 => simp
  | case3 first rest hmore ih =>
    obtain ⟨second, others, rfl⟩ := List.exists_cons_of_ne_nil hmore
    simp only [List.map_cons, List.sum_cons, List.length_cons, Nat.add_sub_cancel, Nat.succ_mul]
      at ih ⊢
    omega

/-- The pieces that show something. -/
def shownAmong (pieces : List Prose) : List Prose :=
  pieces.filter fun piece => !piece.isEmpty

/-- Pieces that show nothing add nothing. -/
theorem sum_shownAmong (pieces : List Prose) :
    ((shownAmong pieces).map shownLength).sum = (pieces.map shownLength).sum := by
  induction pieces with
  | nil => rfl
  | cons piece pieces ih =>
    rw [List.map_cons, List.sum_cons, ← ih, shownAmong]
    cases hempty : piece.isEmpty with
    | true =>
      rw [List.filter_cons_of_neg (by simp [hempty]), shownLength_of_isEmpty hempty, Nat.zero_add]
      rfl
    | false =>
      rw [List.filter_cons_of_pos (by simp [hempty]), List.map_cons, List.sum_cons]
      rfl

/-- The pieces with a separator between each two. -/
def separatedBy (separator : Prose) (pieces : List Prose) : Prose :=
  concat (pieces.intersperse separator)

/-- Between pieces there is a separator, whether they show anything or not. -/
theorem shownLength_separatedBy (separator : Prose) (pieces : List Prose) :
    (separatedBy separator pieces).shownLength =
      (pieces.map shownLength).sum + (pieces.length - 1) * separator.shownLength := by
  rw [separatedBy, shownLength_concat, sum_map_intersperse]

/-- A separator that shows something stands between pieces that show something only, if and only if
    all pieces do or there are less than two. -/
theorem separatedBy_eq_iff {separator : Prose} (hseparator : 0 < separator.shownLength)
    (pieces : List Prose) :
    separatedBy separator pieces = separatedBy separator (shownAmong pieces) ↔
      pieces.length < 2 ∨ ∀ piece ∈ pieces, piece.isEmpty = false := by
  constructor
  · intro heq
    by_contra hnot
    push Not at hnot
    obtain ⟨hseveral, piece, hmem, hempty⟩ := hnot
    have hfewer : (shownAmong pieces).length < pieces.length :=
      List.length_filter_lt_length_iff_exists.2 ⟨piece, hmem, by simpa using hempty⟩
    have hlength := congrArg shownLength heq
    rw [shownLength_separatedBy, shownLength_separatedBy, sum_shownAmong, Nat.add_left_cancel_iff,
      Nat.mul_left_inj hseparator.ne'] at hlength
    omega
  · rintro (hfew | hall)
    · match pieces with
      | [] => rfl
      | [piece] =>
        cases hempty : piece.isEmpty with
        | true =>
          have hnone : shownAmong [piece] = [] := List.filter_cons_of_neg (by simp [hempty])
          rw [hnone]
          exact concat_singleton_of_isEmpty hempty
        | false =>
          have hsame : shownAmong [piece] = [piece] := List.filter_cons_of_pos (by simp [hempty])
          rw [hsame]
    · have hsame : shownAmong pieces = pieces :=
        List.filter_eq_self.2 fun piece hmem => by simp [hall piece hmem]
      rw [hsame]

end Prose

/-! ## Templates -/

open Template

/-- All items are evaluated before they are put together. -/
theorem Template.run_separated (separator : Prose) (items : List String)
    (answer : String → Result Prose) : (separated separator items).run answer =
      (items.mapM answer).map (Prose.separatedBy separator) := by
  rw [← Eval.run_markups, ← Eval.run_bind_done]
  rfl

/-- The templates for lists. -/
inductive ListTemplate where
  | hlist
  | flatlist
  | plainlist
  | unbulleted
  deriving DecidableEq, Repr

namespace ListTemplate

def names : ListTemplate → List String
  | hlist => ["hlist"]
  | flatlist => ["flatlist"]
  | plainlist => ["plainlist"]
  | unbulleted => ["unbulleted_list", "ubl"]

def separator : ListTemplate → Prose
  | hlist | flatlist => middleDot
  | plainlist | unbulleted => .newline

/-- The items of a call: its arguments, or the lines of the first one. -/
def items (call : Call) : ListTemplate → List String
  | hlist | unbulleted => call.items
  | flatlist | plainlist => listItems (call.getD "1")

/-- Every separator shows something. -/
theorem shownLength_separator (template : ListTemplate) :
    0 < template.separator.shownLength := by
  cases template <;> decide

/-- All names of a list template stand for the same handler. -/
theorem find?_name (template : ListTemplate) : ∀ name ∈ template.names, find? name =
    some (.evaluating fun call => separated template.separator (template.items call)) := by
  cases template with
  | unbulleted => exact List.forall_mem_cons.2 ⟨rfl, List.forall_mem_singleton.2 rfl⟩
  | _ => exact List.forall_mem_singleton.2 rfl

end ListTemplate

namespace Renderer

section

variable (renderer : Renderer) (levels : Nat) (template : ListTemplate) {name : String}
  {parameters : List Parameter}

/-- What the items of a call show, one by one. -/
def shownItems (call : Call) : Result (List Prose) :=
  (template.items call).mapM (renderer.evaluate (renderer.below levels))

variable (hname : canonicalName name ∈ template.names)
include hname

/-- A call of a list template shows its items with separators between them. -/
theorem expand_eq_separatedBy : renderer.expand levels name parameters =
    (renderer.shownItems levels template (callOf name parameters)).map
      (Prose.separatedBy template.separator) := by
  rw [expand_eq, expandWith_evaluating _ _ _ _ (template.find?_name _ hname), run_separated]
  rfl

/-- A list shows all its items in order, with a separator between each two of them. It shows those
    that show something, with a separator between each two of these, if and only if all items show
    something or there are less than two. -/
theorem expand_list :
    (∀ unknown, renderer.shownItems levels template (callOf name parameters) = .error unknown →
      renderer.expand levels name parameters = .error unknown) ∧
    ∀ pieces, renderer.shownItems levels template (callOf name parameters) = .ok pieces →
      renderer.expand levels name parameters =
        .ok (Prose.separatedBy template.separator pieces) ∧
      (renderer.expand levels name parameters =
          .ok (Prose.separatedBy template.separator (Prose.shownAmong pieces)) ↔
        pieces.length < 2 ∨ ∀ piece ∈ pieces, piece.isEmpty = false) := by
  rw [expand_eq_separatedBy renderer levels template hname]
  refine ⟨fun unknown hshown => by rw [hshown]; rfl, fun pieces hshown => ?_⟩
  rw [hshown, ← Prose.separatedBy_eq_iff template.shownLength_separator]
  exact ⟨rfl, by rw [Except.map, Except.ok.injEq]⟩

end

/-- A blank item is left out before anything is shown. -/
theorem expand_list_blank :
    let parameters : List Parameter := [⟨none, "Funk"⟩, ⟨none, " "⟩, ⟨none, "Soul"⟩]
    let call := callOf "Hlist" parameters
    canonicalName "Hlist" ∈ ListTemplate.names .hlist ∧
      literal.shownItems 1 .hlist call = .ok [.text "Funk", .text "Soul"] ∧
      literal.expand 1 "Hlist" parameters = .ok (.text "Funk · Soul") := by
  intro parameters call
  have hname : canonicalName "Hlist" ∈ ListTemplate.names .hlist := by decide
  have hitems : ListTemplate.items call .hlist = ["Funk", "Soul"] := by decide
  have hshown : literal.shownItems 1 .hlist call = .ok [.text "Funk", .text "Soul"] := by
    rw [shownItems, hitems]
    rfl
  exact ⟨hname, hshown, ((expand_list literal 1 .hlist hname).2 _ hshown).1⟩

/-- A comment as an item shows nothing, and stands between two separators. -/
theorem renderText_list_comment :
    let renderer := ofMarkup .epoch 20
    let parameters : List Parameter := [⟨none, "a"⟩, ⟨none, "<!-- -->"⟩, ⟨none, "b"⟩]
    let pieces : List Prose := [.text "a", .empty, .text "b"]
    let rendered := renderer.renderText "\x7b\x7bhlist|a|<!-- -->|b\x7d\x7d"
    renderer.shownItems 20 .hlist (callOf "hlist" parameters) = .ok pieces ∧
      rendered = .ok (.text "a ·  · b") ∧
      Prose.separatedBy middleDot (Prose.shownAmong pieces) = .text "a · b" ∧
      rendered ≠ .ok (Prose.separatedBy middleDot (Prose.shownAmong pieces)) := by
  intro renderer parameters pieces rendered
  have hcall : Markup.balanced? '{' '}' 1 "hlist|a|<!-- -->|b\x7d\x7d".toList =
      some ("hlist|a|<!-- -->|b".toList, []) := by decide
  have hparse : renderer.parse "\x7b\x7bhlist|a|<!-- -->|b\x7d\x7d" =
      [.template "hlist" parameters] := (Markup.parse_whole_call hcall).trans rfl
  have hname : canonicalName "hlist" ∈ ListTemplate.names .hlist := by decide
  have hitems : ListTemplate.items (callOf "hlist" parameters) .hlist = ["a", "<!-- -->", "b"] := by
    decide
  have hfirst : renderer.parse "a" = [.text "a"] :=
    Markup.parse_plain ⟨by decide, Chars.forall_of_all (by decide), by decide⟩
  have hlast : renderer.parse "b" = [.text "b"] :=
    Markup.parse_plain ⟨by decide, Chars.forall_of_all (by decide), by decide⟩
  have hcomment : renderer.parse "<!-- -->" = [] := by
    have hread : Markup.readToken '<' "!-- -->".toList = (.hidden, []) := rfl
    have hend : Markup.tokens [] = [] := by rw [Markup.tokens]
    have htokens : Markup.tokens ('<' :: "!-- -->".toList) = [.hidden] := by
      rw [Markup.tokens, hread, hend]
    exact congrArg (fun tokens => (tokens.foldl Markup.Token.apply .empty).finish) htokens
  have hshown : renderer.shownItems 20 .hlist (callOf "hlist" parameters) = .ok pieces := by
    rw [shownItems, hitems]
    simp only [List.mapM_cons, List.mapM_nil, evaluate_below_succ renderer 19 (by decide) hfirst,
      evaluate_below_succ renderer 19 (by decide) hcomment,
      evaluate_below_succ renderer 19 (by decide) hlast]
    rfl
  have hrender : rendered = .ok (.text "a ·  · b") := by
    change renderer.renderText _ = _
    rw [renderText, hparse, render, Node.renderAll_singleton, Node.render,
      expand_eq_separatedBy _ _ _ hname, hshown]
    rfl
  have hclaimed : Prose.separatedBy middleDot (Prose.shownAmong pieces) = .text "a · b" := rfl
  refine ⟨hshown, hrender, hclaimed, ?_⟩
  rw [hrender, hclaimed]
  simp

end Renderer

end GenreProse
