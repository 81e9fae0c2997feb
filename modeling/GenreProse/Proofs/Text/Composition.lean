-- SUMMARY: Composition does not reach across characters that stand apart from all others.
import GenreProse.Proofs.Text.CaseMaps
import GenreProse.Text.Compose

/-!
# Composition

Some characters neither come apart nor compose with any other, among them spaces, digits and
direction marks. The composed form keeps them, and composes the text before and after each of them
by itself.
-/

namespace GenreProse

open Chars

/-! ## Characters that stand apart -/

/-- A character that neither comes apart nor composes with another one. -/
structure StandsApart (c : Char) : Prop where
  decomposeChar : ∀ depth, decomposeChar depth c = [c]
  combiningClass : combiningClass c = 0
  composeAfter : ∀ base, composeTwo? base c = none
  composeBefore : ∀ mark, composeTwo? c mark = none

/-- The spans of some of these characters: the space, the digits with the colon and the semicolon,
    and two direction marks. -/
def apartSpans : List Span :=
  [⟨0x20, 0x20⟩, ⟨0x30, 0x3B⟩, ⟨0x200E, 0x200F⟩]

theorem forall_mem_toList {P : Char → Prop} [DecidablePred P] (s : Chars)
    (h : s.all fun c => P c) : ∀ c ∈ (String.ofList s).toList, P c := by
  rw [String.toList_ofList]
  exact forall_of_all h

theorem compositionRows_marks_apart :
    ∀ row ∈ compositionRows, ¬Span.any apartSpans row.1 := by
  decide +kernel

-- The texts of the rows are opened one by one: to evaluate them all at once takes far longer.
set_option maxRecDepth 4000 in
/-- No composed pair has a character in it that stands apart. -/
theorem compositionRows_pairs_apart :
    ∀ row ∈ compositionRows, ∀ c ∈ row.2.toList, ¬Span.any apartSpans c.toNat := by
  simp only [compositionRows, List.forall_mem_cons, String.toList_append, List.forall_mem_append]
  repeat' apply And.intro
  all_goals first | exact forall_mem_toList _ (by decide +kernel) | exact List.forall_mem_nil _

theorem splitOnlyRows_apart : ∀ row ∈ splitOnlyRows, ¬Span.any apartSpans row.1 := by
  decide +kernel

/-- No character that stands apart is replaced by another one. -/
theorem singletonRows_apart : ∀ row ∈ singletonRows, ∀ span ∈ apartSpans,
    span.last < row.1 ∨ row.1 + row.2.toList.length ≤ span.first := by
  decide +kernel

theorem combiningClassRows_apart : ∀ row ∈ combiningClassRows, ∀ span ∈ apartSpans,
    span.last < row.1.first ∨ row.1.last < span.first := by
  decide +kernel

/-- The code points of these characters, as bounds. -/
theorem mem_apartSpans {code : Nat} : Span.any apartSpans code ↔
    code = 0x20 ∨ (0x30 ≤ code ∧ code ≤ 0x3B) ∨ (0x200E ≤ code ∧ code ≤ 0x200F) := by
  simp only [apartSpans, Span.any_cons, Span.any_nil, Bool.false_eq_true, or_false]
  omega

theorem mem_of_mem_pairUp {pair : Char × Char} {s : Chars} (h : pair ∈ pairUp s) :
    pair.1 ∈ s ∧ pair.2 ∈ s := by
  fun_induction pairUp s with
  | case1 a b s ih =>
    rcases List.mem_cons.1 h with rfl | hrest
    · simp
    · simp [ih hrest]
  | case2 => cases h

section

variable {c : Char} (hc : Span.any apartSpans c.toNat)
include hc

/-- A character that stands apart is in no pair of the tables. -/
theorem not_mem_pair {row : Nat × String} (hrow : row ∈ compositionRows) {pair : Char × Char}
    (hpair : pair ∈ pairUp row.2.toList) : pair.1 ≠ c ∧ pair.2 ≠ c := by
  obtain ⟨hfirst, hsecond⟩ := mem_of_mem_pairUp hpair
  constructor
  · rintro rfl
    exact compositionRows_pairs_apart row hrow _ hfirst hc
  · rintro rfl
    exact compositionRows_pairs_apart row hrow _ hsecond hc

/-- A character that stands apart is not decomposed. -/
theorem decomposeOnce?_apart : decomposeOnce? c = none := by
  unfold decomposeOnce?
  simp only [Option.orElse_eq_none, List.findSome?_eq_none_iff]
  refine ⟨?composed, ?split, ?single⟩
  case composed =>
    rintro ⟨mark, row⟩ hrow
    rw [Option.map_eq_none_iff, List.find?_eq_none]
    intro pair hpair
    simpa using (not_mem_pair hc hrow hpair).2
  case split =>
    rw [Option.map_eq_none_iff, List.find?_eq_none]
    intro row hrow heq
    rw [beq_iff_eq] at heq
    exact splitOnlyRows_apart row hrow (heq ▸ hc)
  case single =>
    rintro ⟨first, row⟩ hrow
    obtain ⟨span, hspan, hlow, hhigh⟩ := Span.exists_of_any hc
    have hapart : span.last < first ∨ first + row.toList.length ≤ span.first :=
      singletonRows_apart _ hrow span hspan
    simp only [ite_eq_right_iff, Option.map_eq_none_iff, List.getElem?_eq_none_iff]
    omega

/-- Nor is it composed with another one. -/
theorem composePair?_apart (d : Char) : composePair? d c = none ∧ composePair? c d = none := by
  unfold composePair?
  constructor
  · have hlookup : compositionRows.lookup c.toNat = none := by
      refine List.lookup_eq_none_iff.2 fun row hrow => ?_
      have hmark := compositionRows_marks_apart row hrow
      rw [bne_iff_ne]
      intro heq
      exact hmark (heq ▸ hc)
    rw [hlookup]
  · split
    · next row hlookup =>
      refine List.lookup_eq_none_iff.2 fun pair hpair => ?_
      simpa using (not_mem_pair hc (mem_of_lookup hlookup) hpair).1.symm
    · rfl

theorem composeSyllable?_apart (code : Nat) :
    composeSyllable? code c.toNat = none ∧ composeSyllable? c.toNat code = none := by
  rw [mem_apartSpans] at hc
  simp only [composeSyllable?, Bool.and_eq_true, decide_eq_true_eq, beq_iff_eq]
  constructor <;> rw [if_neg (by omega), if_neg (by omega)]

/-- All characters of the spans stand apart. -/
theorem standsApart : StandsApart c where
  decomposeChar depth := by
    cases depth with
    | zero => rfl
    | succ depth =>
      have hsyllable : (0xAC00 ≤ c.toNat && c.toNat ≤ 0xD7A3) = false := by
        simp only [Bool.and_eq_false_iff, decide_eq_false_iff_not]
        have hbounds := mem_apartSpans.1 hc
        omega
      rw [GenreProse.decomposeChar, hsyllable, if_neg Bool.false_ne_true, decomposeOnce?_apart hc]
      rfl
  combiningClass := by
    have hnone : (combiningClassRows.find? fun row => Span.any [row.1] c.toNat) = none := by
      rw [List.find?_eq_none]
      intro row hrow hany
      obtain ⟨span, hspan, hlow, hhigh⟩ := Span.exists_of_any hc
      have hapart := combiningClassRows_apart row hrow span hspan
      obtain ⟨_, hmem, hfirst, hlast⟩ := Span.exists_of_any hany
      obtain rfl := List.mem_singleton.1 hmem
      omega
    rw [GenreProse.combiningClass, hnone]
  composeAfter base := by
    rw [composeTwo?, (composeSyllable?_apart hc _).1, (composePair?_apart hc base).1]
    rfl
  composeBefore mark := by
    rw [composeTwo?, (composeSyllable?_apart hc _).2, (composePair?_apart hc mark).2]
    rfl

end

/-! ## Boundaries -/

section

variable {c d : Char} {s before after passed : Chars}

/-- A mark stays after the character that it follows. -/
theorem insertMark_append (hc : combiningClass c = 0) (passed before : Chars) :
    insertMark d (passed ++ c :: before) = insertMark d passed ++ c :: before := by
  induction passed with
  | nil => simp [insertMark, hc]
  | cons e passed ih =>
    simp only [List.cons_append, insertMark]
    split
    · rw [ih, List.cons_append]
    · rfl

theorem foldl_insertMark_append (hc : combiningClass c = 0) (s passed before : Chars) :
    s.foldl (fun passed d => insertMark d passed) (passed ++ c :: before) =
      s.foldl (fun passed d => insertMark d passed) passed ++ c :: before := by
  induction s generalizing passed with
  | nil => rfl
  | cons d s ih => rw [List.foldl_cons, List.foldl_cons, insertMark_append hc, ih]

/-- Texts around a character that stands apart are decomposed by themselves. -/
theorem decompose_append (hc : StandsApart c) (before after : Chars) :
    decompose (before ++ c :: after) = decompose before ++ c :: decompose after := by
  have hmark (passed : Chars) : insertMark c passed = [] ++ c :: passed := by
    cases passed <;> simp [insertMark, hc.combiningClass]
  simp only [decompose, List.flatMap_append, List.flatMap_cons, hc.decomposeChar,
    List.foldl_append, List.singleton_append, List.foldl_cons, hmark,
    foldl_insertMark_append hc.combiningClass]
  simp

/-- What follows a character that stands apart is composed by itself. -/
theorem composeOnto_apart (hc : StandsApart c) (marks s : Chars) :
    composeOnto c marks s = c :: (marks.reverse ++ recompose s) := by
  induction s generalizing marks with
  | nil => simp [composeOnto, recompose]
  | cons d s ih =>
    have hnone (free : Bool) : (if free then composeTwo? c d else none) = none := by
      cases free <;> simp [hc.composeBefore]
    simp only [composeOnto, hnone, recompose]
    split
    · simp
    · rw [ih]
      simp

/-- A base with its marks is composed by itself up to a character that stands apart. -/
theorem composeOnto_append (hc : StandsApart c) (base : Char) (marks before after : Chars) :
    composeOnto base marks (before ++ c :: after) =
      composeOnto base marks before ++ c :: recompose after := by
  induction before generalizing base marks with
  | nil =>
    have hnone (free : Bool) : (if free then composeTwo? base c else none) = none := by
      cases free <;> simp [hc.composeAfter]
    simp [composeOnto, hnone, hc.combiningClass, composeOnto_apart hc]
  | cons d before ih =>
    simp only [List.cons_append, composeOnto]
    split
    · exact ih _ _
    · split
      · rw [ih]
        simp
      · exact ih _ _

/-- And they are composed by themselves. -/
theorem recompose_append (hc : StandsApart c) (before after : Chars) :
    recompose (before ++ c :: after) = recompose before ++ c :: recompose after := by
  induction before with
  | nil => simp [recompose, hc.combiningClass, composeOnto_apart hc]
  | cons d before ih =>
    simp only [List.cons_append, recompose]
    split
    · exact composeOnto_append hc _ _ _ _
    · rw [ih, List.cons_append]

/-- Composition keeps a character that stands apart. -/
theorem mem_compose (hc : StandsApart c) (h : c ∈ s) : c ∈ compose s := by
  unfold compose
  split
  · exact h
  · obtain ⟨before, after, rfl⟩ := List.append_of_mem h
    rw [decompose_append hc, recompose_append hc]
    simp

/-- A text of characters that stand apart is in composed form. -/
theorem compose_eq_self (h : ∀ c ∈ s, StandsApart c) : compose s = s := by
  have hself : recompose (decompose s) = s := by
    induction s with
    | nil => rfl
    | cons c s ih =>
      obtain ⟨hc, hs⟩ := List.forall_mem_cons.1 h
      rw [← List.nil_append (c :: s), decompose_append hc, recompose_append hc, ih hs]
      rfl
  unfold compose
  split
  · rfl
  · exact hself

end

end GenreProse
