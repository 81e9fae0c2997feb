-- SUMMARY: What escaped text is made of, and what readers of character references make of it.
import GenreProse.Text.Entity

/-!
# Escaped text

Every character is written as one of four references or as itself. No written character opens or
closes a tag, in attribute values none is a quotation mark, and reading the references gives the
text back.
-/

namespace GenreProse

namespace Entity

/-! ## Written characters -/

/-- The characters that are escaped, below the names of their references. -/
def markupEntities : List (Chars × Char) :=
  [("amp".toList, '&'), ("lt".toList, '<'), ("gt".toList, '>'), ("quot".toList, '"')]

/-- How a character is written: as a reference, or as itself where it is not taken for markup. -/
inductive Written (c : Char) : Chars → Prop where
  | reference (name : Chars) : (name, c) ∈ markupEntities → Written c ('&' :: (name ++ [';']))
  | plain : c ≠ '&' → c ≠ '<' → c ≠ '>' → Written c [c]

/-- Escaping writes a character in a way that is read back. -/
theorem written_escapeChar (c : Char) : Written c (escapeChar c) := by
  by_cases hamp : c = '&'
  · subst hamp
    exact .reference "amp".toList (by simp [markupEntities])
  by_cases hlt : c = '<'
  · subst hlt
    exact .reference "lt".toList (by simp [markupEntities])
  by_cases hgt : c = '>'
  · subst hgt
    exact .reference "gt".toList (by simp [markupEntities])
  rw [escapeChar, if_neg hamp, if_neg hlt, if_neg hgt]
  exact .plain hamp hlt hgt

theorem written_escapeAttributeChar (c : Char) : Written c (escapeAttributeChar c) := by
  by_cases hquot : c = '"'
  · subst hquot
    exact .reference "quot".toList (by simp [markupEntities])
  rw [escapeAttributeChar, if_neg hquot]
  exact written_escapeChar c

/-- The names mean their characters, and may stand between `&` and `;`. -/
theorem markupEntities_known : ∀ entity ∈ markupEntities,
    decodeName? entity.1 = some entity.2 ∧ entity.1.all isNameChar := by
  decide +kernel

/-- The characters of a reference are not markup. -/
theorem not_mem_reference {name : Chars} {c d : Char} (h : (name, c) ∈ markupEntities)
    (hchar : isNameChar d = false) (hends : d ≠ '&' ∧ d ≠ ';') :
    d ∉ '&' :: (name ++ [';']) := by
  have hname : d ∉ name := by
    intro hd
    have hall := List.all_eq_true.mp (markupEntities_known _ h).2 d hd
    exact absurd hall (by simp [hchar])
  simp [hname, hends]

/-- A written character neither opens nor closes a tag. -/
theorem Written.not_mem {c : Char} {written : Chars} (h : Written c written) :
    '<' ∉ written ∧ '>' ∉ written := by
  cases h with
  | reference name hname =>
    exact ⟨not_mem_reference hname rfl (by decide), not_mem_reference hname rfl (by decide)⟩
  | plain _ hlt hgt =>
    exact ⟨by simpa using hlt.symm, by simpa using hgt.symm⟩

/-- No quote is left in an escaped value. -/
theorem quote_not_mem_escapeAttributeChar (c : Char) : '"' ∉ escapeAttributeChar c := by
  rw [escapeAttributeChar]
  split
  case isTrue => decide
  case isFalse hquot =>
    have hwritten := written_escapeChar c
    generalize escapeChar c = written at hwritten
    cases hwritten with
    | reference name hname => exact not_mem_reference hname rfl (by decide)
    | plain => simpa using Ne.symm hquot

/-! ## Escaped text -/

theorem toList_escape (s : String) : (escape s).toList = s.toList.flatMap escapeChar :=
  String.toList_ofList

theorem toList_escapeAttribute (s : String) :
    (escapeAttribute s).toList = s.toList.flatMap escapeAttributeChar :=
  String.toList_ofList

/-- Escaped text holds no tag, nor a part of one. -/
theorem not_mem_escape (s : String) : '<' ∉ (escape s).toList ∧ '>' ∉ (escape s).toList := by
  simp only [toList_escape, List.mem_flatMap, not_exists, not_and]
  exact ⟨fun c _ => (written_escapeChar c).not_mem.1, fun c _ => (written_escapeChar c).not_mem.2⟩

/-- An escaped value holds no tag, nor a part of one. -/
theorem not_mem_escapeAttribute (s : String) :
    '<' ∉ (escapeAttribute s).toList ∧ '>' ∉ (escapeAttribute s).toList := by
  simp only [toList_escapeAttribute, List.mem_flatMap, not_exists, not_and]
  exact ⟨fun c _ => (written_escapeAttributeChar c).not_mem.1,
    fun c _ => (written_escapeAttributeChar c).not_mem.2⟩

/-- An escaped value does not end before the quotation mark after it. -/
theorem quote_not_mem_escapeAttribute (s : String) : '"' ∉ (escapeAttribute s).toList := by
  simp only [toList_escapeAttribute, List.mem_flatMap, not_exists, not_and]
  exact fun c _ => quote_not_mem_escapeAttributeChar c

/-! ## Reading -/

/-- What reads each written character as the character reads written text as the text. -/
theorem read_flatMap {read : Chars → Chars} {write : Char → Chars}
    (h : ∀ c rest, read (write c ++ rest) = c :: read rest) (s rest : Chars) :
    read (s.flatMap write ++ rest) = s ++ read rest := by
  induction s with
  | nil => rfl
  | cons c s ih =>
    rw [List.flatMap_cons, List.append_assoc, h, ih]
    rfl

theorem decodeFrom_skip (skipped rest : Chars) :
    decodeFrom skipped.length (skipped ++ rest) = decodeFrom 0 rest := by
  induction skipped with
  | nil => rfl
  | cons _ _ ih => exact ih

/-- Text without references is read as it stands, whatever follows it. -/
theorem decodeFrom_append {s : Chars} (h : '&' ∉ s) (rest : Chars) :
    decodeFrom 0 (s ++ rest) = s ++ decodeFrom 0 rest := by
  induction s with
  | nil => rfl
  | cons c s ih =>
    obtain ⟨hc, hs⟩ := List.ne_and_not_mem_of_not_mem_cons h
    rw [List.cons_append, decodeFrom, if_neg (Ne.symm hc), ih hs, List.cons_append]

/-- Without ampersands nothing is decoded. -/
theorem decodeFrom_eq_self {s : Chars} (h : '&' ∉ s) : decodeFrom 0 s = s := by
  simpa [decodeFrom] using decodeFrom_append h []

/-- A name and a semicolon are a reference. -/
theorem reference?_name {name : Chars} {meant : Char}
    (hmeant : decodeName? name = some meant) (hname : name.all isNameChar) (rest : Chars) :
    reference? (name ++ ';' :: rest) = some (meant, name.length + 1) := by
  have hchars : ∀ c ∈ name, isNameChar c := List.all_eq_true.mp hname
  have hend : ¬ isNameChar ';' := by decide
  have htake : (name ++ ';' :: rest).takeWhile isNameChar = name := by
    rw [List.takeWhile_append_of_pos hchars, List.takeWhile_cons_of_neg hend, List.append_nil]
  have hdrop : (name ++ ';' :: rest).dropWhile isNameChar = ';' :: rest := by
    rw [List.dropWhile_append_of_pos hchars, List.dropWhile_cons_of_neg hend]
  simp only [reference?, htake, hdrop, hmeant, Option.map_some]

/-- A reference is read as the character that its name means. -/
theorem decodeFrom_reference {name : Chars} {meant : Char}
    (hmeant : decodeName? name = some meant) (hname : name.all isNameChar) (rest : Chars) :
    decodeFrom 0 ('&' :: (name ++ ';' :: rest)) = meant :: decodeFrom 0 rest := by
  have hskip := decodeFrom_skip (name ++ [';']) rest
  rw [List.length_append, List.length_singleton, List.append_assoc] at hskip
  rw [decodeFrom, if_pos rfl, reference?_name hmeant hname, ← hskip]
  rfl

/-- A character that is written in one way or another is read back. -/
theorem Written.decode {c : Char} {written : Chars} (h : Written c written) (rest : Chars) :
    decodeFrom 0 (written ++ rest) = c :: decodeFrom 0 rest := by
  cases h with
  | reference name hname =>
    obtain ⟨hmeant, hchars⟩ := markupEntities_known _ hname
    rw [List.cons_append, List.append_assoc]
    exact decodeFrom_reference hmeant hchars rest
  | plain hamp =>
    rw [List.singleton_append, decodeFrom, if_neg hamp]

/-- Reading takes the escape of a value back. -/
theorem decode_escapeAttribute (s : String) : decode (escapeAttribute s) = s := by
  have hread := read_flatMap (fun c => (written_escapeAttributeChar c).decode) s.toList []
  rw [List.append_nil] at hread
  rw [decode, Text.onChars, toList_escapeAttribute, hread]
  simp [decodeFrom]

end Entity

end GenreProse
