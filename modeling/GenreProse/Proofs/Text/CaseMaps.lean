-- SUMMARY: Case mappings move no character into or out of a class of characters without case.
import GenreProse.Proofs.Text.Ascii
import GenreProse.Text.CaseMap

/-!
# Case mappings and classes of characters

A class of characters without case is a list of spans that the tables of the case mappings keep
clear of. Whether a table does is decided for its rows; that a mapped character is in the class only
if it was there before follows for all characters.
-/

namespace GenreProse

/-- A character that is made from a number has this code, or the code of the first character. -/
theorem toNat_ofNat_cases (n : Nat) : (Char.ofNat n).toNat = n ∨ (Char.ofNat n).toNat = 0 := by
  by_cases hvalid : n.isValidChar
  · exact .inl (congrArg Char.toNat (dif_pos hvalid))
  · exact .inr (congrArg Char.toNat (dif_neg hvalid))

/-- What is found in a table is in one of its rows. -/
theorem mem_of_lookup {α β : Type} [BEq α] [LawfulBEq α] {rows : List (α × β)} {key : α}
    {value : β} (h : rows.lookup key = some value) : (key, value) ∈ rows := by
  obtain ⟨before, after, rfl, -⟩ := List.lookup_eq_some_iff.1 h
  exact List.mem_append_right _ List.mem_cons_self

theorem Span.any_nil (code : Nat) : Span.any [] code = false := rfl

/-- Membership in spans is written out as bounds by this and the lemma above. -/
theorem Span.any_cons (span : Span) (spans : List Span) (code : Nat) :
    Span.any (span :: spans) code ↔
      (span.first ≤ code ∧ code ≤ span.last) ∨ Span.any spans code := by
  simp [Span.any]

/-- A code in spans is in one of them. -/
theorem Span.exists_of_any {spans : List Span} {code : Nat} (h : Span.any spans code) :
    ∃ span ∈ spans, span.first ≤ code ∧ code ≤ span.last := by
  simpa [Span.any] using h

/-- The shift moves nothing from where the span is, and nothing to it. -/
def Shift.Avoids (shift : Shift) (span : Span) : Prop :=
  0 < span.first ∧ (span.last < shift.first ∨ shift.last < span.first) ∧
    ((span.last : Int) < shift.first + shift.distance ∨
      shift.last + shift.distance < (span.first : Int))

instance (shift : Shift) (span : Span) : Decidable (shift.Avoids span) :=
  inferInstanceAs (Decidable (_ ∧ _))

/-- A character that is moved is in none of the spans, before and after. -/
theorem Shift.apply_cases {shifts : List Shift} {spans : List Span}
    (h : ∀ shift ∈ shifts, ∀ span ∈ spans, shift.Avoids span) (c : Char) :
    Shift.apply shifts c = c ∨
      ¬Span.any spans c.toNat ∧ ¬Span.any spans (Shift.apply shifts c).toNat := by
  unfold Shift.apply
  split
  · next shift hfind =>
    right
    have havoids := h shift (List.mem_of_find?_eq_some hfind)
    obtain ⟨⟨hfirst, hlast⟩, -⟩ : (shift.first ≤ c.toNat ∧ c.toNat ≤ shift.last) ∧ _ := by
      simpa [Shift.moves] using List.find?_some hfind
    constructor
    · intro hany
      obtain ⟨span, hspan, hlow, hhigh⟩ := Span.exists_of_any hany
      obtain ⟨-, hsource, -⟩ := havoids span hspan
      omega
    · intro hany
      obtain ⟨span, hspan, hlow, hhigh⟩ := Span.exists_of_any hany
      obtain ⟨hpos, -, himage⟩ := havoids span hspan
      rcases toNat_ofNat_cases (c.toNat + shift.distance).toNat with hcode | hcode
      · rw [hcode] at hlow hhigh
        omega
      · rw [hcode] at hlow
        exact Nat.not_le.2 hpos hlow
  · exact .inl rfl

/-! ## Capital forms -/

/-- The ASCII letters that have a capital form. -/
def smallLetters : Chars :=
  "abcdefghijklmnopqrstuvwxyz".toList

theorem mem_smallLetters_of_isLower {c : Char} (h : c.isLower) : c ∈ smallLetters := by
  obtain ⟨hlow, hhigh⟩ := toNat_of_isLower h
  rw [← Char.ofNat_toNat c]
  generalize c.toNat = code at hlow hhigh ⊢
  interval_cases code <;> decide

/-- A character that is no ASCII small letter is its own capital form. -/
theorem mem_smallLetters_or_toUpper_eq (c : Char) : c ∈ smallLetters ∨ c.toUpper = c := by
  refine or_iff_not_imp_left.2 fun hsmall => ?_
  delta Char.toUpper
  rw [dif_neg]
  intro hlower
  refine hsmall (mem_smallLetters_of_isLower ?_)
  delta Char.isLower
  simpa using hlower

/-- The spans have no letter with a capital form that is another, nor a character of such a form. -/
structure Span.WithoutCapitals (spans : List Span) : Prop where
  letters : ∀ c ∈ smallLetters, ¬Span.any spans c.toNat ∧ ¬Span.any spans c.toUpper.toNat
  shifts : ∀ shift ∈ upperShifts, ∀ span ∈ spans, shift.Avoids span
  expansions : ∀ row ∈ upperExpansions, ¬Span.any spans row.1 ∧ row.2 ≠ [] ∧
    ∀ code ∈ row.2, ¬Span.any spans (Char.ofNat code).toNat

/-- A character is its own capital form, or it is outside of the spans with all of its form. -/
theorem upperChar_cases {spans : List Span} (h : Span.WithoutCapitals spans) (c : Char) :
    upperChar c = [c] ∨ ¬Span.any spans c.toNat ∧ upperChar c ≠ [] ∧
      ∀ d ∈ upperChar c, ¬Span.any spans d.toNat := by
  unfold upperChar
  split
  · rcases mem_smallLetters_or_toUpper_eq c with hsmall | heq
    · obtain ⟨hbefore, hafter⟩ := h.letters c hsmall
      exact .inr ⟨hbefore, List.cons_ne_nil _ _, by simpa using hafter⟩
    · exact .inl (congrArg (fun d => [d]) heq)
  · split
    · next codes hlookup =>
      obtain ⟨hbefore, hne, hafter⟩ := h.expansions _ (mem_of_lookup hlookup)
      refine .inr ⟨hbefore, by simpa using hne, ?_⟩
      simpa using hafter
    · rcases Shift.apply_cases h.shifts c with heq | ⟨hbefore, hafter⟩
      · exact .inl (congrArg (fun d => [d]) heq)
      · exact .inr ⟨hbefore, List.cons_ne_nil _ _, by simpa using hafter⟩

end GenreProse
