-- SUMMARY: ASCII characters: their bytes, and the case of the letters among them.
import GenreProse.Text.Basic
import Mathlib.Tactic.IntervalCases

/-!
# ASCII

An ASCII character is one byte in UTF-8, and all bytes of another character are 128 or more. Only
the capitals among the ASCII characters have a small form here, so what holds for these holds for
all characters.
-/

namespace GenreProse

/-- A fact about the characters of a fixed text is decided for each of them. -/
theorem Chars.forall_of_all {P : Char → Prop} [DecidablePred P] {s : Chars}
    (h : s.all fun c => P c) : ∀ c ∈ s, P c := by
  simpa only [List.all_eq_true, decide_eq_true_eq] using h

/-! ## Bytes -/

def IsAscii (c : Char) : Prop :=
  c.toNat < 128

instance (c : Char) : Decidable (IsAscii c) :=
  inferInstanceAs (Decidable (c.toNat < 128))

/-- An ASCII character is one byte, which is its code. -/
theorem IsAscii.utf8EncodeChar {c : Char} (h : IsAscii c) :
    String.utf8EncodeChar c = [c.toUInt8] := by
  have hval : c.val.toNat ≤ 0x7f := Nat.le_of_lt_succ h
  rw [String.utf8EncodeChar, if_pos hval]
  rfl

theorem le_ofNat_of_lt {n : Nat} (hlow : 128 ≤ n) (hhigh : n < 256) : 128 ≤ UInt8.ofNat n := by
  rw [UInt8.le_iff_toNat_le, UInt8.toNat_ofNat_of_lt' hhigh]
  exact hlow

/-- A character beyond ASCII has at least one byte, and none of its bytes is ASCII. -/
theorem utf8EncodeChar_of_not_isAscii {c : Char} (h : ¬IsAscii c) :
    ∃ first rest, String.utf8EncodeChar c = first :: rest ∧ ∀ b ∈ first :: rest, 128 ≤ b := by
  have hval : ¬c.val.toNat ≤ 0x7f := fun hle => h (Nat.lt_succ_of_le hle)
  rw [String.utf8EncodeChar, if_neg hval]
  split
  · refine ⟨_, _, rfl, ?_⟩
    simp only [List.forall_mem_cons, List.not_mem_nil, false_implies, implies_true, and_true]
    refine ⟨le_ofNat_of_lt ?_ ?_, le_ofNat_of_lt ?_ ?_⟩ <;> omega
  · split
    · refine ⟨_, _, rfl, ?_⟩
      simp only [List.forall_mem_cons, List.not_mem_nil, false_implies, implies_true, and_true]
      refine ⟨le_ofNat_of_lt ?_ ?_, le_ofNat_of_lt ?_ ?_, le_ofNat_of_lt ?_ ?_⟩ <;> omega
    · refine ⟨_, _, rfl, ?_⟩
      simp only [List.forall_mem_cons, List.not_mem_nil, false_implies, implies_true, and_true]
      refine ⟨le_ofNat_of_lt ?_ ?_, le_ofNat_of_lt ?_ ?_, le_ofNat_of_lt ?_ ?_,
        le_ofNat_of_lt ?_ ?_⟩ <;> omega

theorem IsAscii.utf8Size {c : Char} (h : IsAscii c) : c.utf8Size = 1 := by
  rw [← String.length_utf8EncodeChar, h.utf8EncodeChar]
  rfl

theorem IsAscii.toNat_toUInt8 {c : Char} (h : IsAscii c) : c.toUInt8.toNat = c.toNat := by
  have hlt : c.toNat < 256 := Nat.lt_trans h (by omega)
  exact UInt8.toNat_ofNat_of_lt' hlt

theorem IsAscii.toUInt8_lt {c : Char} (h : IsAscii c) : c.toUInt8 < 128 := by
  rw [UInt8.lt_iff_toNat_lt, h.toNat_toUInt8]
  exact h

/-- A byte beyond ASCII is no ASCII character. -/
theorem ne_toUInt8_of_le {byte : UInt8} (h : 128 ≤ byte) {c : Char} (hc : IsAscii c) :
    byte ≠ c.toUInt8 := by
  rintro rfl
  exact UInt8.not_lt.2 h hc.toUInt8_lt

/-- ASCII characters are told apart by their bytes. -/
theorem IsAscii.toUInt8_inj {c d : Char} (hc : IsAscii c) (hd : IsAscii d) :
    c.toUInt8 = d.toUInt8 ↔ c = d := by
  constructor
  · intro h
    have hnat := congrArg UInt8.toNat h
    rw [hc.toNat_toUInt8, hd.toNat_toUInt8] at hnat
    exact Char.toNat_inj.1 hnat
  · rintro rfl
    rfl

/-! ## Letters -/

theorem toNat_of_isUpper {c : Char} (h : c.isUpper) : 65 ≤ c.toNat ∧ c.toNat ≤ 90 := by
  delta Char.isUpper at h
  simpa [UInt32.le_iff_toNat_le] using h

theorem toNat_of_isLower {c : Char} (h : c.isLower) : 97 ≤ c.toNat ∧ c.toNat ≤ 122 := by
  delta Char.isLower at h
  simpa [UInt32.le_iff_toNat_le] using h

theorem toNat_of_isDigit {c : Char} (h : c.isDigit) : 48 ≤ c.toNat ∧ c.toNat ≤ 57 := by
  delta Char.isDigit at h
  simpa [UInt32.le_iff_toNat_le] using h

theorem toNat_of_isAsciiLetter {c : Char} (h : isAsciiLetter c) :
    (65 ≤ c.toNat ∧ c.toNat ≤ 90) ∨ (97 ≤ c.toNat ∧ c.toNat ≤ 122) := by
  rcases Bool.or_eq_true_iff.1 h with hupper | hlower
  · exact .inl (toNat_of_isUpper hupper)
  · exact .inr (toNat_of_isLower hlower)

theorem isAscii_of_isAsciiLetter {c : Char} (h : isAsciiLetter c) : IsAscii c := by
  have hcode := toNat_of_isAsciiLetter h
  unfold IsAscii
  omega

theorem isBlank_of_isAsciiLetter {c : Char} (h : isAsciiLetter c) : isBlank c = false := by
  have hcode := toNat_of_isAsciiLetter h
  simp [isBlank]
  omega

theorem isAscii_of_isAsciiAlphanumeric {c : Char} (h : isAsciiAlphanumeric c) : IsAscii c := by
  rcases Bool.or_eq_true_iff.1 h with hletter | hdigit
  · exact isAscii_of_isAsciiLetter hletter
  · exact Nat.lt_of_le_of_lt (toNat_of_isDigit hdigit).2 (by decide)

/-- The ASCII letters that have a small form. -/
def capitals : Chars :=
  "ABCDEFGHIJKLMNOPQRSTUVWXYZ".toList

theorem mem_capitals_iff {c : Char} : c ∈ capitals ↔ 65 ≤ c.toNat ∧ c.toNat ≤ 90 := by
  constructor
  · exact Chars.forall_of_all (P := fun c => 65 ≤ c.toNat ∧ c.toNat ≤ 90) (by decide) c
  · rintro ⟨hlow, hhigh⟩
    rw [← Char.ofNat_toNat c]
    generalize c.toNat = code at hlow hhigh ⊢
    interval_cases code <;> decide

/-- A character that is no ASCII capital is its own small form. -/
theorem mem_capitals_or_toLower_eq (c : Char) : c ∈ capitals ∨ c.toLower = c := by
  refine or_iff_not_imp_left.2 fun hcapital => ?_
  delta Char.toLower
  rw [dif_neg]
  simpa [UInt32.le_iff_toNat_le, mem_capitals_iff] using hcapital

/-- What holds for the capitals holds for all characters, as the others are their own small
    form. -/
theorem eq_of_toLower {α : Type} {f : Char → α} (h : ∀ c ∈ capitals, f c.toLower = f c)
    (c : Char) : f c.toLower = f c := by
  rcases mem_capitals_or_toLower_eq c with hmem | heq
  · exact h c hmem
  · rw [heq]

/-- A small form is in ASCII if and only if the character is. -/
theorem isAscii_toLower (c : Char) : decide (IsAscii c.toLower) = decide (IsAscii c) :=
  eq_of_toLower (f := fun c => decide (IsAscii c)) (Chars.forall_of_all (by decide)) c

/-- The byte of the small form of a letter, and any other byte as it is. -/
def lowerByte (b : UInt8) : UInt8 :=
  if 65 ≤ b ∧ b ≤ 90 then b + 32 else b

/-- The byte of a small form is the small form of the byte. -/
theorem IsAscii.lowerByte_toUInt8 {c : Char} (h : IsAscii c) :
    lowerByte c.toUInt8 = c.toLower.toUInt8 := by
  by_cases hcapital : c ∈ capitals
  · exact Chars.forall_of_all (P := fun c => lowerByte c.toUInt8 = c.toLower.toUInt8) (by decide) c
      hcapital
  · have hsmall := (mem_capitals_or_toLower_eq c).resolve_left hcapital
    rw [hsmall, lowerByte, if_neg]
    rw [mem_capitals_iff] at hcapital
    simpa [UInt8.le_iff_toNat_le, h.toNat_toUInt8] using hcapital

theorem lowerByte_of_le {b : UInt8} (h : 128 ≤ b) : lowerByte b = b := by
  rw [lowerByte, if_neg]
  rintro ⟨-, hhigh⟩
  exact absurd (UInt8.le_trans h hhigh) (by decide)

end GenreProse
