-- SUMMARY: Numeric character references, and text where they stand for some of the characters.
import GenreProse.Proofs.Text.Escape

/-!
# Numeric references

A character can be written by its code in decimal or hexadecimal digits. Text where some characters
are written so is read as the text itself. Read as it stands it differs from it in that it has a
number sign, after the `&` of the first reference.
-/

namespace GenreProse

namespace Entity

variable {c : Char} {digits number s t : Chars} {code : Nat}

/-- What stands between `&` and `;` in a numeric reference to the character. -/
inductive IsNumber (c : Char) : Chars → Prop where
  | decimal (digits : Chars) : decimal? digits = some c.toNat → IsNumber c ('#' :: digits)
  | hexadecimal (mark : Char) (digits : Chars) : mark = 'x' ∨ mark = 'X' →
      hexadecimal? digits = some c.toNat → IsNumber c ('#' :: mark :: digits)

/-- Whether numeric references to the character are read. Those to control characters other than
    white space are not. -/
def IsReferable (c : Char) : Prop :=
  0x20 ≤ c.toNat ∨ isSpacingControl c.toNat

instance (c : Char) : Decidable (IsReferable c) :=
  inferInstanceAs (Decidable (_ ∨ _))

/-- The text on the left, with some of its characters replaced by numeric references. -/
inductive Respelled : Chars → Chars → Prop where
  | nil : Respelled [] []
  | plain (c : Char) {s t : Chars} : Respelled s t → Respelled (c :: s) (c :: t)
  | reference {c : Char} {number s t : Chars} : IsNumber c number → Respelled s t →
      Respelled (c :: s) ('&' :: (number ++ ';' :: t))

/-! ## Numbers -/

/-- A character that can be referred to by number is found. -/
theorem IsReferable.referredChar? (h : IsReferable c) : referredChar? c.toNat = some c := by
  have hvalid : c.toNat.isValidChar := c.valid
  simp only [IsReferable] at h
  simp [GenreProse.referredChar?, charOfCode?, h, hvalid, Char.ofNat_toNat]

/-- Only digits are read as a number. -/
theorem digits_of_decimal? (h : decimal? digits = some code) :
    digits ≠ [] ∧ ∀ d ∈ digits, d.isDigit := by
  unfold decimal? at h
  split at h
  · cases h
  · next hdigits => simpa using hdigits

theorem isNameChar_of_isDigit (h : c.isDigit) : isNameChar c := by
  simp [isNameChar, isAsciiAlphanumeric, h]

theorem isNameChar_of_isAsciiLetter (h : isAsciiLetter c) : isNameChar c := by
  simp [isNameChar, isAsciiAlphanumeric, h]

theorem isNameChar_of_hexValue? (h : (hexValue? c).isSome) : isNameChar c := by
  have hcases : c.isDigit ∨ 'a' ≤ c ∧ c ≤ 'f' ∨ 'A' ≤ c ∧ c ≤ 'F' := by
    unfold hexValue? at h
    grind
  rcases hcases with hdigit | ⟨hlow, hhigh⟩ | ⟨hlow, hhigh⟩
  · exact isNameChar_of_isDigit hdigit
  · have hle : c.val ≤ 122 := UInt32.le_trans hhigh (by decide)
    have hlower : c.isLower := by
      delta Char.isLower
      exact Bool.and_eq_true_iff.2 ⟨decide_eq_true hlow, decide_eq_true hle⟩
    exact isNameChar_of_isAsciiLetter (Bool.or_eq_true_iff.2 (.inr hlower))
  · have hle : c.val ≤ 90 := UInt32.le_trans hhigh (by decide)
    have hupper : c.isUpper := by
      delta Char.isUpper
      exact decide_eq_true ⟨hlow, hle⟩
    exact isNameChar_of_isAsciiLetter (Bool.or_eq_true_iff.2 (.inl hupper))

/-- A text that is read as a number from some value on has hexadecimal digits only. -/
theorem hexValue?_of_foldlM {value : Nat}
    (h : digits.foldlM (fun n d => (hexValue? d).map fun v => n * 16 + v) value = some code) :
    ∀ d ∈ digits, (hexValue? d).isSome := by
  induction digits generalizing value with
  | nil => exact List.forall_mem_nil _
  | cons d digits ih =>
    rw [List.foldlM_cons, Option.bind_eq_bind, Option.bind_eq_some_iff] at h
    obtain ⟨next, hnext, hmore⟩ := h
    refine List.forall_mem_cons.2 ⟨?_, ih hmore⟩
    obtain ⟨v, hv, -⟩ := Option.map_eq_some_iff.1 hnext
    rw [hv, Option.isSome_some]

theorem isNameChar_of_hexadecimal? (h : hexadecimal? digits = some code) :
    ∀ d ∈ digits, isNameChar d := by
  unfold hexadecimal? at h
  split at h
  · cases h
  · exact fun d hd => isNameChar_of_hexValue? (hexValue?_of_foldlM h d hd)

/-- A number is a number sign with characters that may stand in a reference. -/
theorem IsNumber.exists_digits (h : IsNumber c number) :
    ∃ digits, number = '#' :: digits ∧ ∀ d ∈ digits, isNameChar d := by
  cases h with
  | decimal digits hdigits =>
    exact ⟨digits, rfl, fun d hd => isNameChar_of_isDigit ((digits_of_decimal? hdigits).2 d hd)⟩
  | hexadecimal mark digits hmark hdigits =>
    refine ⟨mark :: digits, rfl, List.forall_mem_cons.2 ⟨?_, isNameChar_of_hexadecimal? hdigits⟩⟩
    rcases hmark with rfl | rfl <;> decide

/-- A number of a character is read as the character. -/
theorem IsNumber.decodeName? (h : IsNumber c number) :
    decodeName? number = referredChar? c.toNat := by
  cases h with
  | decimal digits hdigits =>
    obtain ⟨hne, hall⟩ := digits_of_decimal? hdigits
    obtain ⟨d, digits, rfl⟩ := List.exists_cons_of_ne_nil hne
    have hd := hall d List.mem_cons_self
    have hlower : d ≠ 'x' := by
      rintro rfl
      cases hd
    have hupper : d ≠ 'X' := by
      rintro rfl
      cases hd
    simp [Entity.decodeName?, hlower, hupper, hdigits]
  | hexadecimal mark digits hmark hdigits =>
    rcases hmark with rfl | rfl <;> simp [Entity.decodeName?, hdigits]

/-! ## Text with references -/

/-- A text is read from text that has references to some of its characters. -/
theorem Respelled.decodeFrom_eq (h : Respelled s t) (hamp : '&' ∉ s)
    (hs : ∀ c ∈ s, IsReferable c) : decodeFrom 0 t = s := by
  induction h with
  | nil => rfl
  | plain c _ ih =>
    obtain ⟨hc, hmore⟩ := List.ne_and_not_mem_of_not_mem_cons hamp
    rw [decodeFrom, if_neg (Ne.symm hc), ih hmore (List.forall_mem_cons.1 hs).2]
  | @reference c number s t hnumber _ ih =>
    obtain ⟨hc, hmore⟩ := List.forall_mem_cons.1 hs
    have hmeant : Entity.decodeName? number = some c := by
      rw [hnumber.decodeName?, hc.referredChar?]
    have hname : number.all isNameChar := by
      obtain ⟨digits, rfl, hdigits⟩ := hnumber.exists_digits
      exact List.all_eq_true.2 (List.forall_mem_cons.2 ⟨by decide, hdigits⟩)
    rw [decodeFrom_reference hmeant hname, ih (List.not_mem_of_not_mem_cons hamp) hmore]

/-- A text is left as it is, or a number sign comes in with the first reference. -/
theorem Respelled.eq_or_exists_reference (h : Respelled s t) :
    t = s ∨ ∃ front digits rest, t = front ++ '&' :: '#' :: (digits ++ ';' :: rest) ∧
      front <+: s ∧ ∀ d ∈ digits, isNameChar d := by
  induction h with
  | nil => exact .inl rfl
  | plain c _ ih =>
    rcases ih with rfl | ⟨front, digits, rest, rfl, hfront, hdigits⟩
    · exact .inl rfl
    · exact .inr ⟨c :: front, digits, rest, rfl, List.cons_prefix_cons.2 ⟨rfl, hfront⟩, hdigits⟩
  | @reference c number s t hnumber _ ih =>
    obtain ⟨digits, rfl, hdigits⟩ := hnumber.exists_digits
    exact .inr ⟨[], digits, t, rfl, List.nil_prefix, hdigits⟩

end Entity

end GenreProse
