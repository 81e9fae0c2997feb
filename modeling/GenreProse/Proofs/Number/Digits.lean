-- SUMMARY: Numbers in decimal digits, with zeros in front or without, are read back.
import GenreProse.Calendar.Rfc3339
import GenreProse.Proofs.Text.Ascii
import GenreProse.Proofs.Text.Trim

/-!
# Digits

A number is written in decimal digits, with zeros in front where it is to have some width. A reader
takes just these digits off a text and finds the number, whatever follows: one that takes all digits
needs something else after them, one that takes a fixed count of digits does not.
-/

namespace GenreProse

variable {c : Char} {n width : Nat} {rest : Chars}

/-! ## Writing -/

theorem isDigit_of_mem_toString (h : c ∈ (toString n).toList) : c.isDigit := by
  rw [Nat.toString_eq_repr, Nat.toList_repr] at h
  exact Nat.isDigit_of_mem_toDigits (by decide) (by decide) h

theorem isBlank_of_isDigit (h : c.isDigit) : isBlank c = false := by
  have hcode := toNat_of_isDigit h
  simp [isBlank]
  omega

/-- The digits of a number, with zeros in front up to a width. -/
def paddedDigits (width n : Nat) : Chars :=
  List.replicate (width - (toString n).toList.length) '0' ++ (toString n).toList

theorem paddedDigits_zero (n : Nat) : paddedDigits 0 n = (toString n).toList := by
  rw [paddedDigits, Nat.zero_sub]
  rfl

/-- A number is padded with zeros after its sign. -/
theorem toList_zeroPadded (width : Nat) (n : Int) : (zeroPadded width n).toList =
    if n < 0 then '-' :: paddedDigits (width - 1) n.natAbs else paddedDigits width n.natAbs := by
  rw [zeroPadded, String.toList_ofList]
  split <;> rfl

theorem toList_zeroPadded_natCast (width n : Nat) :
    (zeroPadded width n).toList = paddedDigits width n := by
  rw [toList_zeroPadded, if_neg (Int.not_lt.2 (Int.natCast_nonneg n))]
  rfl

theorem toList_toString_of_nonneg {n : Int} (h : 0 ≤ n) :
    (toString n).toList = paddedDigits 0 n.natAbs := by
  obtain ⟨n, rfl⟩ := Int.eq_ofNat_of_zero_le h
  exact (paddedDigits_zero n).symm

theorem isDigit_of_mem_paddedDigits (h : c ∈ paddedDigits width n) : c.isDigit := by
  rcases List.mem_append.1 h with hzero | hdigit
  · rw [List.eq_of_mem_replicate hzero]
    rfl
  · exact isDigit_of_mem_toString hdigit

theorem length_toString_pos (n : Nat) : 0 < (toString n).toList.length := by
  rw [Nat.toString_eq_repr, Nat.toList_repr]
  exact Nat.length_toDigits_pos

/-- Padding makes a number as long as the width, and cuts nothing off. -/
theorem length_paddedDigits_eq (width n : Nat) :
    (paddedDigits width n).length = max width (toString n).toList.length := by
  rw [paddedDigits, List.length_append, List.length_replicate]
  omega

/-- A number has no more digits than its bound. -/
theorem length_toString_le {most : Nat} (hmost : 0 < most) (h : n < 10 ^ most) :
    (toString n).toList.length ≤ most := by
  rw [Nat.toString_eq_repr, Nat.toList_repr]
  exact (Nat.length_toDigits_le_iff (by decide) hmost).2 h

theorem paddedDigits_ne_nil (width n : Nat) : paddedDigits width n ≠ [] := by
  rw [← List.length_pos_iff_ne_nil, length_paddedDigits_eq]
  exact Nat.lt_of_lt_of_le (length_toString_pos n) (Nat.le_max_right _ _)

/-- Padding a number to a width that it does not exceed gives just this width. -/
theorem length_paddedDigits (hwidth : 0 < width) (h : n < 10 ^ width) :
    (paddedDigits width n).length = width := by
  rw [length_paddedDigits_eq, Nat.max_eq_left (length_toString_le hwidth h)]

/-- A number starts with a digit. -/
theorem exists_paddedDigits_cons (width n : Nat) :
    ∃ first digits, paddedDigits width n = first :: digits ∧ first.isDigit := by
  obtain ⟨first, digits, h⟩ := List.exists_cons_of_ne_nil (paddedDigits_ne_nil width n)
  exact ⟨first, digits, h, isDigit_of_mem_paddedDigits (h ▸ List.mem_cons_self)⟩

theorem isDigit_head_paddedDigits (width n : Nat) (rest : Chars) :
    ∀ c ∈ (paddedDigits width n ++ rest).head?, c.isDigit := by
  obtain ⟨first, digits, hdigits, hfirst⟩ := exists_paddedDigits_cons width n
  rw [hdigits]
  rintro _ ⟨⟩
  exact hfirst

theorem isBlank_head_paddedDigits (width n : Nat) (rest : Chars) :
    ∀ c ∈ (paddedDigits width n ++ rest).head?, isBlank c = false :=
  fun c hc => isBlank_of_isDigit (isDigit_head_paddedDigits width n rest c hc)

/-! ## Reading -/

theorem decimal?_of_isDigit {digits : Chars} (hne : digits ≠ []) (h : ∀ c ∈ digits, c.isDigit) :
    decimal? digits = some (Nat.ofDigitChars 10 digits 0) := by
  have hall : digits.all Char.isDigit := List.all_eq_true.2 h
  have hvalue : digits.foldl (fun n c => n * 10 + (c.toNat - 48)) 0 =
      Nat.ofDigitChars 10 digits 0 := by
    rw [Nat.ofDigitChars_eq_foldl]
    simp only [Nat.mul_comm 10]
    rfl
  simp only [decimal?, List.isEmpty_eq_false_iff.2 hne, hall, Bool.not_true, Bool.or_self,
    Bool.false_eq_true, if_false, hvalue]

/-- A number is read back, whatever zeros stand before it. -/
theorem decimal?_paddedDigits (width n : Nat) : decimal? (paddedDigits width n) = some n := by
  rw [decimal?_of_isDigit (paddedDigits_ne_nil width n) fun c hc => isDigit_of_mem_paddedDigits hc,
    paddedDigits, Nat.ofDigitChars_append, Nat.ofDigitChars_replicate_zero, Nat.mul_zero,
    Nat.toString_eq_repr, Nat.toList_repr, Nat.ofDigitChars_ten_toDigits]

/-- Text with anything but digits is no number. -/
theorem decimal?_eq_none {s : Chars} (h : c ∈ s) (hc : c.isDigit = false) : decimal? s = none := by
  have hall : s.all Char.isDigit = false := List.all_eq_false.2 ⟨c, h, by simp [hc]⟩
  simp [decimal?, hall]

/-- All digits of a number are taken, if something else follows. -/
theorem takeWhile_paddedDigits (width n : Nat) (hrest : ∀ c ∈ rest.head?, c.isDigit = false) :
    (paddedDigits width n ++ rest).takeWhile Char.isDigit = paddedDigits width n ∧
      (paddedDigits width n ++ rest).dropWhile Char.isDigit = rest :=
  Chars.takeWhile_run (fun _ hc => isDigit_of_mem_paddedDigits hc) hrest

/-- A number before something else is read back, and the rest is left. -/
theorem takeNumber?_paddedDigits {most : Nat} (hwidth : width ≤ most) (hmost : 0 < most)
    (h : n < 10 ^ most) (hrest : ∀ c ∈ rest.head?, c.isDigit = false) :
    PartialDate.takeNumber? 1 most (paddedDigits width n ++ rest) = some (n, rest) := by
  obtain ⟨htake, hdrop⟩ := takeWhile_paddedDigits width n hrest
  have hlength : 1 ≤ (paddedDigits width n).length ∧ (paddedDigits width n).length ≤ most := by
    have hpos := length_toString_pos n
    have hle := length_toString_le hmost h
    rw [length_paddedDigits_eq]
    omega
  simp only [PartialDate.takeNumber?, htake, hdrop, hlength, and_self, if_true,
    decimal?_paddedDigits, Option.map_some]

theorem takeNumber?_paddedDigits_end {most : Nat} (hwidth : width ≤ most) (hmost : 0 < most)
    (h : n < 10 ^ most) :
    PartialDate.takeNumber? 1 most (paddedDigits width n) = some (n, []) := by
  have hend : ∀ c ∈ ([] : Chars).head?, c.isDigit = false := nofun
  have htake := takeNumber?_paddedDigits hwidth hmost h hend
  rwa [List.append_nil] at htake

/-- A number by itself is read back. -/
theorem onlyNumber?_paddedDigits {most : Nat} (hwidth : width ≤ most) (hmost : 0 < most)
    (h : n < 10 ^ most) :
    PartialDate.onlyNumber? 1 most (paddedDigits width n) = some n := by
  simp only [PartialDate.onlyNumber?, takeNumber?_paddedDigits_end hwidth hmost h]

/-- A reader of a number refuses a text that starts with something else. -/
theorem takeNumber?_eq_none {s : Chars} (h : ∀ c ∈ s.head?, c.isDigit = false) (most : Nat) :
    PartialDate.takeNumber? 1 most s = none := by
  simp [PartialDate.takeNumber?, (Chars.takeWhile_none h).1]

/-- As many digits as the width are read back. -/
theorem takeDigits?_paddedDigits (hwidth : 0 < width) (h : n < 10 ^ width) :
    Rfc3339.takeDigits? width (paddedDigits width n ++ rest) = some (n, rest) := by
  have hlength := length_paddedDigits hwidth h
  have htake : (paddedDigits width n ++ rest).take width = paddedDigits width n :=
    List.take_left' hlength
  have hdrop : (paddedDigits width n ++ rest).drop width = rest := List.drop_left' hlength
  simp only [Rfc3339.takeDigits?, htake, hdrop, hlength, if_true, decimal?_paddedDigits,
    Option.map_some]

end GenreProse
