-- SUMMARY: A string is read back from how it is written between quotes.
import GenreProse.Json.Reader
import GenreProse.Json.Writer

/-!
# Strings

The writer escapes the quote, the backslash and the control characters, and leaves all other
characters as they are. The reader undoes each escape, so that it reads the text back that was
written, whatever comes after the closing quote.
-/

namespace GenreProse

namespace Json

/-! ## Characters -/

/-- A hexadecimal digit is read back. -/
theorem hexValue?_hexDigit : ∀ n < 16, hexValue? (hexDigit n) = some n := by
  decide

/-- A character is read back from its code. -/
theorem charOfCode?_toNat (c : Char) : charOfCode? c.toNat = some c := by
  have hvalid : c.toNat.isValidChar := c.valid
  rw [charOfCode?, if_pos hvalid, Char.ofNat_toNat]

/-- A control character is no half of another one. -/
theorem joinHalves_control {c : Char} (h : c.toNat < 0x20) :
    joinHalves none c.toNat = some (.ok c) := by
  have hwhole : ¬ (0xD800 ≤ c.toNat && c.toNat < 0xDC00) = true := by
    simp only [Bool.and_eq_true, decide_eq_true_eq]
    omega
  simp only [joinHalves, if_neg hwhole, charOfCode?_toNat]
  rfl

/-- A control character is read from the two last digits of its escape. -/
theorem readString_control {c : Char} (h : c.toNat < 0x20) (rest : Chars) :
    readString .plain none (['\\', 'u', '0', '0', hexDigit (c.toNat / 16),
        hexDigit (c.toNat % 16)] ++ rest)
      = (readString .plain none rest).map fun (text, rest) => (c :: text, rest) := by
  have hzero : hexValue? '0' = some 0 := rfl
  have hhigh := hexValue?_hexDigit (c.toNat / 16) (by omega)
  have hlow := hexValue?_hexDigit (c.toNat % 16) (by omega)
  have hvalue : ((0 * 16 + 0) * 16 + 0) * 16 + c.toNat / 16 = c.toNat / 16 := by omega
  have hcode : c.toNat / 16 * 16 + c.toNat % 16 = c.toNat := by omega
  simp [readString, hzero, hhigh, hlow, hcode, joinHalves_control h]

/-- An escape of one letter is read as what it stands for. -/
theorem readString_letter {c letter : Char} (hletter : escapeLetter? c = some letter)
    (hcode : c ≠ 'u') (rest : Chars) :
    readString .plain none (['\\', c] ++ rest)
      = (readString .plain none rest).map fun (text, rest) => (letter :: text, rest) := by
  simp [readString, hletter, hcode]

/-- Each character is read from how it is written. -/
theorem readString_escapeChar (c : Char) (rest : Chars) :
    readString .plain none (escapeChar c ++ rest)
      = (readString .plain none rest).map fun (text, rest) => (c :: text, rest) := by
  unfold escapeChar
  split
  · next h =>
    subst h
    exact readString_letter rfl (by decide) rest
  split
  · next h =>
    subst h
    exact readString_letter rfl (by decide) rest
  split
  · next h =>
    subst h
    exact readString_letter rfl (by decide) rest
  split
  · next h =>
    subst h
    exact readString_letter rfl (by decide) rest
  split
  · next h =>
    subst h
    exact readString_letter rfl (by decide) rest
  split
  · next h =>
    subst h
    exact readString_letter rfl (by decide) rest
  split
  · next h =>
    subst h
    exact readString_letter rfl (by decide) rest
  split
  · next hcontrol => exact readString_control hcontrol rest
  · next hquote hbackslash _ _ _ _ _ hshown =>
    have hplain : ¬ c < ' ' := fun hless => hshown hless
    simp [readString, hquote, hbackslash, hplain]

/-! ## Strings -/

/-- A string is read back up to its closing quote. -/
theorem readString_flatMap (text rest : Chars) :
    readString .plain none (text.flatMap escapeChar ++ '"' :: rest) = some (text, rest) := by
  induction text with
  | nil => rfl
  | cons c text ih =>
    rw [List.flatMap_cons, List.append_assoc, readString_escapeChar, ih]
    rfl

theorem toList_quote (s : String) :
    (quote s).toList = '"' :: (s.toList.flatMap escapeChar ++ ['"']) := by
  simp [quote, Text.onChars]

/-- A quoted string is read back. -/
theorem readString_quote (s : String) (rest : Chars) :
    ∃ text, (quote s).toList ++ rest = '"' :: text ∧
      readString .plain none text = some (s.toList, rest) := by
  refine ⟨s.toList.flatMap escapeChar ++ '"' :: rest, ?_, readString_flatMap s.toList rest⟩
  rw [toList_quote, List.cons_append, List.append_assoc]
  rfl

end Json

end GenreProse
