-- SUMMARY: A text that starts with a template call: the call is its first node, and the rest is parsed by itself.
import GenreProse.Proofs.Markup.Operations
import GenreProse.Proofs.Markup.Splitting

/-!
# Calls at the start of a text

No operation looks at finished nodes, except that text is joined to a text before it. What follows a
call is hence parsed as if it stood alone. Where the call ends depends on doubled brackets only.
-/

namespace GenreProse

/-! ## Builders after a node -/

theorem Node.appendText_cons {node : Node} (hnode : ∀ shown, node ≠ .text shown)
    (nodes : List Node) (added : String) :
    appendText (node :: nodes) added = node :: appendText nodes added := by
  cases node with
  | text shown => exact absurd rfl (hnode shown)
  | _ => rfl

namespace Builder

variable {node : Node} (builder : Builder)

/-- The builder with a node before all that are finished. -/
def after (builder : Builder) (node : Node) : Builder :=
  { builder with root := node :: builder.root }

/-- What changes the innermost list of nodes changes it after the node, too. -/
theorem modifyInner_after {f : List Node → List Node}
    (hf : ∀ nodes, f (node :: nodes) = node :: f nodes) :
    (builder.after node).modifyInner f = (builder.modifyInner f).after node := by
  obtain ⟨root, frames, pending⟩ := builder
  cases frames with
  | nil => simp only [after, modifyInner, hf]
  | cons frame frames => rfl

/-- A node that is closed makes no difference to what an operation does. -/
theorem moves_after (operation : Operation) :
    (builder.after node).moves operation = builder.moves operation := by
  cases operation <;> rfl

section NotText

variable (hnode : ∀ shown, node ≠ .text shown)

include hnode

theorem flush_after : (builder.after node).flush = builder.flush.after node := by
  have htext (text : String) : (builder.after node).modifyInner (Node.appendText · text) =
      (builder.modifyInner (Node.appendText · text)).after node :=
    builder.modifyInner_after fun nodes => Node.appendText_cons hnode nodes text
  have hpending : (builder.after node).pending = builder.pending := rfl
  unfold flush
  rw [hpending]
  split
  · rfl
  · dsimp only
    rw [htext]
    rfl

theorem leave_after : (builder.after node).leave = builder.leave.after node := by
  unfold leave
  rw [flush_after builder hnode]
  generalize builder.flush = flushed
  obtain ⟨root, frames, pending⟩ := flushed
  cases frames with
  | nil => rfl
  | cons frame frames =>
    obtain ⟨kind, children⟩ := frame
    simp only [after]
    split
    · rfl
    · exact modifyInner_after ⟨root, frames, pending⟩ fun nodes => rfl

/-- No move looks at a node that is not text and stands before all others. -/
theorem move_after (step : Move) :
    (builder.after node).move step = (builder.move step).after node := by
  cases step with
  | write text => rfl
  | push added =>
    simp only [move, push, flush_after builder hnode]
    exact modifyInner_after _ fun nodes => rfl
  | enter kind =>
    simp only [move, enter, flush_after builder hnode]
    rfl
  | leave => exact leave_after builder hnode

theorem foldl_move_after (steps : List Move) :
    steps.foldl move (builder.after node) = (steps.foldl move builder).after node := by
  induction steps generalizing builder with
  | nil => rfl
  | cons step steps ih => rw [List.foldl_cons, List.foldl_cons, move_after builder hnode, ih]

/-- Operations after a node give the node and what they give by themselves. -/
theorem run_after (operations : List Operation) :
    (builder.after node).run operations = (builder.run operations).after node := by
  induction operations generalizing builder with
  | nil => rfl
  | cons operation operations ih =>
    simp only [run, List.foldl_cons] at ih ⊢
    rw [perform_eq_foldl, moves_after, foldl_move_after builder hnode, ← perform_eq_foldl, ih]

/-- A builder with a node before it ends in the node and its own nodes. -/
theorem finish_after : (builder.after node).finish = node :: builder.finish := by
  unfold finish
  rw [leaveMany_eq_foldl, leaveMany_eq_foldl, foldl_move_after builder hnode, flush_after _ hnode]
  rfl

end NotText

end Builder

namespace Markup

/-! ## Tokens -/

theorem Token.operations_after (node : Node) (builder : Builder) (token : Token) :
    token.operations (builder.after node) = token.operations builder := by
  cases token <;> rfl

/-- A token after a node does what it does by itself. -/
theorem Token.apply_after {node : Node} (hnode : ∀ shown, node ≠ .text shown) (builder : Builder)
    (token : Token) : token.apply (builder.after node) = (token.apply builder).after node := by
  rw [Token.apply_eq_run, Token.operations_after, Builder.run_after builder hnode,
    ← Token.apply_eq_run]

/-- Tokens after a node do what they do by themselves. -/
theorem foldl_apply_after {node : Node} (hnode : ∀ shown, node ≠ .text shown) (builder : Builder)
    (tokens : List Token) :
    tokens.foldl Token.apply (builder.after node) =
      (tokens.foldl Token.apply builder).after node := by
  induction tokens generalizing builder with
  | nil => rfl
  | cons token tokens ih =>
    rw [List.foldl_cons, List.foldl_cons, Token.apply_after hnode, ih]

/-! ## Balanced brackets -/

section Balanced

theorem eq_some_of_map_append (front : Chars) {found : Option (Chars × Chars)} {inner rest : Chars}
    (h : found.map (fun found => (front ++ found.1, found.2)) = some (front ++ inner, rest)) :
    found = some (inner, rest) := by
  obtain ⟨⟨held, left⟩, rfl, heq⟩ := Option.map_eq_some_iff.1 h
  obtain ⟨hinner, hleft⟩ := Prod.mk.inj heq
  exact congrArg some (Prod.ext (List.append_cancel_left hinner) hleft)

variable {opening closing : Char} (hopening : opening ∈ brackets) (hclosing : closing ∈ brackets)

include hopening hclosing

/-- A character that is no doubled bracket is passed. -/
theorem balanced?_cons {a : Char} {s : Chars} (h : ∀ b, s.head? = some b → a = b → a ∉ brackets)
    (depth : Nat) :
    balanced? opening closing depth (a :: s) =
      (balanced? opening closing depth s).map fun found => (a :: found.1, found.2) := by
  cases s with
  | nil => rfl
  | cons b s =>
    have hpair {c : Char} (hc : c ∈ brackets) : ¬(decide (a = c) && decide (b = c)) = true := by
      rw [Bool.and_eq_true, decide_eq_true_eq, decide_eq_true_eq]
      rintro ⟨ha, hb⟩
      exact h b rfl (ha.trans hb.symm) (ha ▸ hc)
    rw [balanced?, if_neg (hpair hopening), if_neg (hpair hclosing)]

/-- A text without brackets is passed as a whole. -/
theorem balanced?_append {s : Chars} (h : ∀ c ∈ s, c ∉ brackets) (depth : Nat) (rest : Chars) :
    balanced? opening closing depth (s ++ rest) =
      (balanced? opening closing depth rest).map fun found => (s ++ found.1, found.2) := by
  induction s with
  | nil => exact Option.map_id'.symm
  | cons c s ih =>
    obtain ⟨hc, hs⟩ := List.forall_mem_cons.1 h
    rw [List.cons_append, balanced?_cons hopening hclosing (fun _ _ _ => hc), ih hs, Option.map_map]
    rfl

end Balanced

/-! ## Calls -/

/-- The inside of a call is always read as a call. -/
theorem parseTemplate_eq (inner : Chars) : ∃ name parameters,
    parseTemplate inner = .template name parameters := by
  unfold parseTemplate
  split <;> exact ⟨_, _, rfl⟩

/-- A call at the start of a text is the first node, and what follows it is parsed by itself. -/
theorem parse_call {s inner rest : Chars} (h : balanced? '{' '}' 1 s = some (inner, rest)) :
    parse (String.ofList ('{' :: '{' :: s)) =
      parseTemplate inner :: parse (String.ofList rest) := by
  have hnode : ∀ shown, parseTemplate inner ≠ .text shown := by
    obtain ⟨name, parameters, hcall⟩ := parseTemplate_eq inner
    simp [hcall]
  have htokens : tokens ('{' :: '{' :: s) = .leaf (parseTemplate inner) :: tokens rest := by
    rw [tokens]
    simp only [readToken, readTemplate, h]
  have hbuilder : (Token.leaf (parseTemplate inner)).apply .empty =
      Builder.empty.after (parseTemplate inner) := rfl
  rw [parse, String.toList_ofList, htokens, List.foldl_cons, hbuilder, foldl_apply_after hnode,
    Builder.finish_after _ hnode, parse, String.toList_ofList]

theorem parse_nil : parse (String.ofList []) = [] := by
  rw [parse, String.toList_ofList, tokens]
  rfl

/-- A text that is one call is one node. -/
theorem parse_whole_call {s inner : Chars} (h : balanced? '{' '}' 1 s = some (inner, [])) :
    parse (String.ofList ('{' :: '{' :: s)) = [parseTemplate inner] := by
  rw [parse_call h, parse_nil]

end Markup

end GenreProse
