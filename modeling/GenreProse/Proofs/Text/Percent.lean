-- SUMMARY: Percent encoding loses nothing and leaves no character with a meaning of its own.
import GenreProse.Proofs.Text.Bytes
import GenreProse.Text.Entity
import GenreProse.Text.Percent

/-!
# Percent encoding

An encoded text has plain characters and percent signs only. The percent sign itself is encoded, so
that each one that is left opens a byte, and reading these bytes gives the text back.
-/

namespace GenreProse

namespace Percent

variable {c : Char} {rest : Chars}

/-! ## What encoding leaves -/

theorem isPlain_digit : ∀ n < 16, isPlain (digit n) := by
  decide

theorem digits_lt (b : UInt8) : b.toNat / 16 < 16 ∧ b.toNat % 16 < 16 := by
  have hb := b.toNat_lt
  omega

/-- What is written for a byte is plain, but for the percent sign. -/
theorem isPlain_of_mem_encodeByte {b : UInt8} (h : c ∈ encodeByte b) : isPlain c ∨ c = '%' := by
  obtain ⟨hhigh, hlow⟩ := digits_lt b
  simp only [encodeByte, List.mem_cons, List.not_mem_nil, or_false] at h
  rcases h with rfl | rfl | rfl
  · exact .inr rfl
  · exact .inl (isPlain_digit _ hhigh)
  · exact .inl (isPlain_digit _ hlow)

/-- An encoded text has plain characters and percent signs only. -/
theorem isPlain_of_mem_encode {s : String} (h : c ∈ (encode s).toList) : isPlain c ∨ c = '%' := by
  rw [encode, Text.onChars, String.toList_ofList] at h
  obtain ⟨d, -, hmem⟩ := List.mem_flatMap.1 h
  unfold encodeChar at hmem
  split at hmem
  · next hplain =>
    obtain rfl := List.mem_singleton.1 hmem
    exact .inl hplain
  · obtain ⟨b, -, hbyte⟩ := List.mem_flatMap.1 hmem
    exact isPlain_of_mem_encodeByte hbyte

/-- A character that is not plain is not left, but for the percent sign. -/
theorem not_mem_encode (hplain : isPlain c = false) (hpercent : c ≠ '%') (s : String) :
    c ∉ (encode s).toList := by
  intro hmem
  rcases isPlain_of_mem_encode hmem with h | h
  · rw [hplain] at h
    cases h
  · exact hpercent h

/-! ## Reading -/

def decodeBytes : Chars → List UInt8
  | '%' :: high :: low :: s =>
    match hexValue? high, hexValue? low with
    | some m, some n => UInt8.ofNat (m * 16 + n) :: decodeBytes s
    | _, _ => '%'.toUInt8 :: decodeBytes (high :: low :: s)
  | c :: s => String.utf8EncodeChar c ++ decodeBytes s
  | [] => []

/-- The text that was encoded. There is none if the bytes are no text in UTF-8. -/
def decode? (s : String) : Option String :=
  (decodeBytes s.toList).toByteArray.utf8Decode?.map fun decoded => String.ofList decoded.toList

theorem hexValue?_digit : ∀ n < 16, hexValue? (digit n) = some n := by
  decide

/-- A byte is read back. -/
theorem decodeBytes_encodeByte (b : UInt8) (rest : Chars) :
    decodeBytes (encodeByte b ++ rest) = b :: decodeBytes rest := by
  obtain ⟨hhigh, hlow⟩ := digits_lt b
  have hvalue : UInt8.ofNat (b.toNat / 16 * 16 + b.toNat % 16) = b := by
    rw [Nat.div_add_mod', UInt8.ofNat_toNat]
  simp only [encodeByte, List.cons_append, List.nil_append, decodeBytes, hexValue?_digit _ hhigh,
    hexValue?_digit _ hlow, hvalue]

theorem decodeBytes_encodeBytes (bytes : List UInt8) (rest : Chars) :
    decodeBytes (bytes.flatMap encodeByte ++ rest) = bytes ++ decodeBytes rest := by
  induction bytes with
  | nil => rfl
  | cons b bytes ih =>
    rw [List.flatMap_cons, List.append_assoc, decodeBytes_encodeByte, ih, List.cons_append]

/-- The percent sign is not plain, so that a plain character stands for itself. -/
theorem decodeBytes_plain (hplain : isPlain c) (rest : Chars) :
    decodeBytes (c :: rest) = String.utf8EncodeChar c ++ decodeBytes rest := by
  have hpercent : c ≠ '%' := by
    rintro rfl
    revert hplain
    decide
  rw [decodeBytes]
  exact fun _ _ _ heq _ => hpercent heq

/-- A character is read back as its bytes. -/
theorem decodeBytes_encodeChar (c : Char) (rest : Chars) :
    decodeBytes (encodeChar c ++ rest) = String.utf8EncodeChar c ++ decodeBytes rest := by
  unfold encodeChar
  split
  · next hplain => exact decodeBytes_plain hplain rest
  · exact decodeBytes_encodeBytes _ _

/-- A text is read back as its bytes. -/
theorem decodeBytes_encode (s : Chars) : decodeBytes (s.flatMap encodeChar) = s.bytes := by
  induction s with
  | nil => rfl
  | cons c s ih => rw [List.flatMap_cons, decodeBytes_encodeChar, ih, Chars.bytes_cons]

/-- An encoded text is read back. -/
theorem decode?_encode (s : String) : decode? (encode s) = some s := by
  have hbytes : (Chars.bytes s.toList).toByteArray = s.toList.utf8Encode := rfl
  rw [decode?, encode, Text.onChars, String.toList_ofList, decodeBytes_encode, hbytes,
    List.utf8Decode?_utf8Encode, Option.map_some, List.toList_toArray, String.ofList_toList]

end Percent

end GenreProse
