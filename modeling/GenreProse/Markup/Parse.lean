-- SUMMARY: Parsing a whole text, with the proof that every token makes progress.
import GenreProse.Markup.Parser

/-!
# Parsing a text

A token leaves an ending of the text behind its first character, so a parse takes at most as many
steps as the text has characters.
-/

namespace GenreProse

namespace Markup

/-! ## What a search leaves -/

/-- Balanced brackets are what they hold and the doubled character that closes them. -/
theorem eq_append_of_balanced? {opening closing : Char} {depth : Nat} {s inner rest : Chars}
    (h : balanced? opening closing depth s = some (inner, rest)) :
    s = inner ++ closing :: closing :: rest := by
  fun_induction balanced? opening closing depth s generalizing inner with
  | case1 depth a b s _ ih =>
    simp only [Option.map_eq_some_iff, Prod.mk.injEq, Prod.exists] at h
    obtain ⟨held, _, hin, rfl, rfl⟩ := h
    rw [ih hin, List.cons_append, List.cons_append]
  | case2 depth a b s _ hpair _ =>
    obtain ⟨ha, hb⟩ : a = closing ∧ b = closing := by simpa using hpair
    simp only [Option.some.injEq, Prod.mk.injEq] at h
    rw [← h.1, ← h.2, ha, hb, List.nil_append]
  | case3 depth a b s _ _ _ ih =>
    simp only [Option.map_eq_some_iff, Prod.mk.injEq, Prod.exists] at h
    obtain ⟨held, _, hin, rfl, rfl⟩ := h
    rw [ih hin, List.cons_append, List.cons_append]
  | case4 depth a b s _ _ ih =>
    simp only [Option.map_eq_some_iff, Prod.mk.injEq, Prod.exists] at h
    obtain ⟨held, _, hin, rfl, rfl⟩ := h
    rw [ih hin, List.cons_append]
  | case5 => cases h

/-- The rest is an ending of the text. -/
theorem balanced?_suffix {opening closing : Char} {depth : Nat} {s inner rest : Chars}
    (h : balanced? opening closing depth s = some (inner, rest)) : rest <:+ s :=
  ⟨inner ++ [closing, closing], by simp [eq_append_of_balanced? h]⟩

theorem cutAt?_suffix {test : Char → Bool} {s before rest : Chars}
    (h : Chars.cutAt? test s = some (before, rest)) : rest <:+ s := by
  obtain ⟨c, -, hs⟩ := Chars.eq_append_of_cutAt? h
  exact ⟨before ++ [c], by simp [hs]⟩

/-- What follows a closing tag is an ending. -/
theorem cutClosing_suffix (closing : Chars) : ∀ s : Chars, (cutClosing closing s).2 <:+ s
  | [] => List.suffix_refl _
  | c :: s => by
    simp only [cutClosing]
    split
    · exact List.drop_suffix _ _
    · exact (cutClosing_suffix closing s).trans (List.suffix_cons c s)

/-! ## What a token leaves -/

theorem readText_suffix (c : Char) (s : Chars) : (readText c s).2 <:+ s :=
  List.dropWhile_suffix _

theorem readTemplate_suffix (s : Chars) : (readTemplate s).2 <:+ s := by
  unfold readTemplate
  split
  · next h => exact balanced?_suffix h
  · exact List.suffix_refl _

theorem readLink_suffix (s : Chars) : (readLink s).2 <:+ s := by
  unfold readLink
  split
  · next h =>
    split
    · exact (List.dropWhile_suffix _).trans (balanced?_suffix h)
    · exact balanced?_suffix h
  · exact List.suffix_refl _

theorem readExtLink_suffix (s : Chars) : (readExtLink s).2 <:+ s := by
  unfold readExtLink
  split
  · next h => exact cutAt?_suffix h
  · exact List.suffix_refl _

theorem Tag.read_suffix (tag : Tag) (s : Chars) : (tag.read s).2 <:+ s := by
  unfold Tag.read
  dsimp only
  split
  · exact List.suffix_refl _
  · split
    · exact cutClosing_suffix _ _
    · split
      · exact cutClosing_suffix _ _
      · split
        · exact List.suffix_refl _
        · split
          · exact List.suffix_refl _
          · split <;> exact List.suffix_refl _

/-- Whatever a tag stands for, the rest is an ending of the text. -/
theorem readTag_suffix (s : Chars) : (readTag s).2 <:+ s := by
  unfold readTag
  split
  · next h =>
    split
    · exact (Tag.read_suffix _ _).trans (cutAt?_suffix h)
    · exact readText_suffix _ _
  · exact readText_suffix _ _

/-- A token takes the first character, and what it leaves is an ending of the text. -/
theorem readToken_suffix (c : Char) (s : Chars) : (readToken c s).2 <:+ s := by
  unfold readToken
  split
  · exact (readTemplate_suffix _).trans (List.suffix_cons _ _)
  · exact (readLink_suffix _).trans (List.suffix_cons _ _)
  · split
    · exact readExtLink_suffix _
    · exact readText_suffix _ _
  · exact List.dropWhile_suffix _
  · exact List.dropWhile_suffix _
  · split
    · cases hcut : Chars.cut? ['-', '-', '>'] s with
      | none => exact List.nil_suffix
      | some found =>
        exact ⟨found.1 ++ ['-', '-', '>'], by simp [Chars.eq_append_of_cut? hcut]⟩
    · exact readTag_suffix _
  · exact readText_suffix _ _

/-! ## The loop -/

def tokens : Chars → List Token
  | [] => []
  | c :: s =>
    let next := readToken c s
    next.1 :: tokens next.2
termination_by s => s.length
decreasing_by
  exact Nat.lt_succ_of_le (readToken_suffix c s).length_le

def parse (text : String) : List Node :=
  ((tokens text.toList).foldl Token.apply .empty).finish

end Markup

end GenreProse
