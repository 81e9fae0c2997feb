-- SUMMARY: The search for a closing tag among bytes, and where it cuts a text.
import GenreProse.Markup.Parser
import GenreProse.Proofs.Text.Bytes

/-!
# Closing tags

The end of a reference is looked for in windows of bytes that are as long as the closing tag, with
the case of letters ignored. A window that is found starts and ends between characters, since the
tag is ASCII.
-/

namespace GenreProse

open Chars

namespace Markup.Checked

/-- Whether bytes start with a needle, when the case of ASCII letters is ignored. -/
def startsIgnoringCase (needle bytes : List UInt8) : Bool :=
  (bytes.take needle.length).map lowerByte == needle.map lowerByte

/-- The index of the first window of bytes that is the needle, when the case of ASCII letters is
    ignored. There are no windows without a byte. -/
def findIgnoringCase (bytes needle : List UInt8) : Part (Option Nat) :=
  Part.assert (needle ≠ []) fun _ => .some (bytes.tails.findIdx? (startsIgnoringCase needle))

def cutClosing (closing s : Chars) : Part (Chars × Chars) := do
  match ← findIgnoringCase s.bytes closing.bytes with
  | some index => return (← sliceTo s index, ← sliceFrom s (index + byteLength closing))
  | none => return (s, [])

variable {closing : Chars}

/-- Nothing starts at a byte beyond ASCII. -/
theorem startsIgnoringCase_high (hascii : ∀ c ∈ closing, IsAscii c) (hne : closing ≠ [])
    {first : UInt8} (hfirst : 128 ≤ first) (rest : List UInt8) :
    startsIgnoringCase closing.bytes (first :: rest) = false := by
  obtain ⟨x, others, rfl⟩ := List.exists_cons_of_ne_nil hne
  have hx : IsAscii x := hascii x List.mem_cons_self
  have hlower : IsAscii x.toLower := by simpa [hx] using isAscii_toLower x
  simp [startsIgnoringCase, hx.utf8EncodeChar, lowerByte_of_le hfirst, hx.lowerByte_toUInt8,
    ne_toUInt8_of_le hfirst hlower]

/-- Bytes are compared like characters when case is ignored. -/
theorem startsIgnoringCase_bytes (hascii : ∀ c ∈ closing, IsAscii c) (s : Chars) :
    startsIgnoringCase closing.bytes s.bytes =
      sameIgnoringAsciiCase (s.take closing.length) closing := by
  induction closing generalizing s with
  | nil => simp [startsIgnoringCase, sameIgnoringAsciiCase]
  | cons x closing ih =>
    obtain ⟨hx, hclosing⟩ := List.forall_mem_cons.1 hascii
    have hlower : IsAscii x.toLower := by simpa [hx] using isAscii_toLower x
    cases s with
    | nil => simp [startsIgnoringCase, sameIgnoringAsciiCase, hx.utf8EncodeChar]
    | cons c s =>
      specialize ih hclosing s
      by_cases hc : IsAscii c
      · have hsmall : IsAscii c.toLower := by simpa [hc] using isAscii_toLower c
        rw [Bool.eq_iff_iff] at ih ⊢
        simp only [startsIgnoringCase, sameIgnoringAsciiCase, beq_iff_eq] at ih ⊢
        simp only [bytes_cons, hc.utf8EncodeChar, hx.utf8EncodeChar, List.singleton_append,
          List.length_cons, List.take_succ_cons, List.map_cons, List.cons.injEq,
          hc.lowerByte_toUInt8, hx.lowerByte_toUInt8, hsmall.toUInt8_inj hlower, ih]
      · have hbig : c.toLower ≠ x.toLower := by
          intro hsame
          have := isAscii_toLower c
          simp [hsame, hlower, hc] at this
        have hchars : sameIgnoringAsciiCase ((c :: s).take (x :: closing).length)
            (x :: closing) = false := by
          simp [sameIgnoringAsciiCase, hbig]
        obtain ⟨first, rest, hencode, hhigh⟩ := utf8EncodeChar_of_not_isAscii hc
        rw [hchars, bytes_cons c, hencode, List.cons_append]
        exact startsIgnoringCase_high hascii (List.cons_ne_nil _ _)
          (hhigh first List.mem_cons_self) _

/-- If nothing starts at a character, nothing starts at any of its bytes. -/
theorem startsIgnoringCase_inside (hascii : ∀ c ∈ closing, IsAscii c) (hne : closing ≠ [])
    {c : Char} {s : Chars} (h : sameIgnoringAsciiCase ((c :: s).take closing.length) closing = false) :
    ∀ k < (String.utf8EncodeChar c).length,
      startsIgnoringCase closing.bytes ((String.utf8EncodeChar c ++ s.bytes).drop k) = false := by
  intro k hk
  by_cases hc : IsAscii c
  · have hzero : k = 0 := by simpa [hc.utf8Size] using hk
    rw [hzero, List.drop_zero, ← bytes_cons, startsIgnoringCase_bytes hascii, h]
  · obtain ⟨first, rest, hencode, hhigh⟩ := utf8EncodeChar_of_not_isAscii hc
    rw [← hencode] at hhigh
    rw [List.drop_append_of_le_length hk.le, List.drop_eq_getElem_cons hk, List.cons_append]
    exact startsIgnoringCase_high hascii hne (hhigh _ (List.getElem_mem hk)) _

/-- A text that is the same when the case of ASCII letters is ignored has as many bytes. -/
theorem byteLength_eq_of_same (hascii : ∀ c ∈ closing, IsAscii c) {s : Chars}
    (h : sameIgnoringAsciiCase s closing) : byteLength s = byteLength closing := by
  have hmap : s.map Char.toLower = closing.map Char.toLower := beq_iff_eq.1 h
  have hs : ∀ c ∈ s, IsAscii c := by
    intro c hc
    have hsmall : c.toLower ∈ closing.map Char.toLower := hmap ▸ List.mem_map_of_mem hc
    obtain ⟨d, hd, hsame⟩ := List.mem_map.1 hsmall
    have hcase : decide (IsAscii d) = decide (IsAscii c) := by
      rw [← isAscii_toLower c, ← hsame, isAscii_toLower]
    simpa [hascii d hd] using hcase
  have hlength : s.length = closing.length := by
    simpa using congrArg List.length hmap
  rw [byteLength_of_isAscii hs, byteLength_of_isAscii hascii, hlength]

/-- The search passes bytes at which nothing starts. -/
theorem findIdx?_tails_append {test : List UInt8 → Bool} (front rest : List UInt8)
    (h : ∀ k < front.length, test ((front ++ rest).drop k) = false) :
    (front ++ rest).tails.findIdx? test =
      (rest.tails.findIdx? test).map (· + front.length) := by
  induction front with
  | nil => simp
  | cons first front ih =>
    have hfirst : test (first :: (front ++ rest)) = false := h 0 (Nat.succ_pos _)
    have hrest : ∀ k < front.length, test ((front ++ rest).drop k) = false :=
      fun k hk => h (k + 1) (Nat.succ_lt_succ hk)
    rw [List.cons_append, List.tails, List.findIdx?_cons, hfirst, ih hrest]
    simp [Function.comp_def, Nat.add_assoc]

/-- The search finds the end of the first of the texts that are cut, and nothing if all of the
    text is. -/
theorem findIdx?_tails_bytes (hascii : ∀ c ∈ closing, IsAscii c) (hne : closing ≠ []) (s : Chars) :
    match s.bytes.tails.findIdx? (startsIgnoringCase closing.bytes) with
    | some index => ∃ found, s = (Markup.cutClosing closing s).1 ++
        (found ++ (Markup.cutClosing closing s).2) ∧
          index = byteLength (Markup.cutClosing closing s).1 ∧
            byteLength found = byteLength closing
    | none => Markup.cutClosing closing s = (s, []) := by
  induction s with
  | nil =>
    have hnone : startsIgnoringCase closing.bytes [] = false := by
      have hempty := startsIgnoringCase_bytes hascii []
      rwa [sameIgnoringAsciiCase, List.take_nil, beq_eq_false_iff_ne.2 (by simpa using hne.symm)]
        at hempty
    simp [hnone, Markup.cutClosing]
  | cons c s ih =>
    cases hhere : sameIgnoringAsciiCase ((c :: s).take closing.length) closing with
    | true =>
      have hcut : Markup.cutClosing closing (c :: s) = ([], (c :: s).drop closing.length) := by
        rw [Markup.cutClosing, if_pos hhere]
      have hstart := startsIgnoringCase_bytes hascii (c :: s)
      rw [hhere] at hstart
      obtain ⟨first, rest, hbytes⟩ := List.exists_cons_of_ne_nil (bytes_cons_ne_nil c s)
      rw [hcut, hbytes, List.tails, List.findIdx?_cons, ← hbytes, hstart]
      refine ⟨(c :: s).take closing.length, ?_, rfl, byteLength_eq_of_same hascii hhere⟩
      rw [List.nil_append, List.take_append_drop]
    | false =>
      have hcut : Markup.cutClosing closing (c :: s) =
          (c :: (Markup.cutClosing closing s).1, (Markup.cutClosing closing s).2) := by
        rw [Markup.cutClosing, hhere]
        rfl
      have hskip := findIdx?_tails_append (String.utf8EncodeChar c) (bytes s)
        (startsIgnoringCase_inside hascii hne hhere)
      rw [bytes_cons, hskip, hcut]
      cases hindex : (bytes s).tails.findIdx? (startsIgnoringCase closing.bytes) with
      | none =>
        rw [hindex] at ih
        simp [ih]
      | some index =>
        rw [hindex] at ih
        obtain ⟨found, hs, hindex, hlength⟩ := ih
        refine ⟨found, by rw [List.cons_append, ← hs], ?_, hlength⟩
        rw [hindex, byteLength_cons, String.length_utf8EncodeChar, Nat.add_comm]

/-- The search among the bytes finds the closing tag that the search among the characters finds. -/
theorem cutClosing_eq (hascii : ∀ c ∈ closing, IsAscii c) (hne : closing ≠ []) (s : Chars) :
    cutClosing closing s = .some (Markup.cutClosing closing s) := by
  have hbytes : closing.bytes ≠ [] := by
    obtain ⟨x, rest, rfl⟩ := List.exists_cons_of_ne_nil hne
    exact bytes_cons_ne_nil x rest
  have hfound := findIdx?_tails_bytes hascii hne s
  rw [cutClosing, findIgnoringCase, Part.assert_pos hbytes, Part.bind_eq_bind, Part.bind_some]
  cases hindex : s.bytes.tails.findIdx? (startsIgnoringCase closing.bytes) with
  | none =>
    rw [hindex] at hfound
    exact congrArg Part.some hfound.symm
  | some index =>
    rw [hindex] at hfound
    obtain ⟨found, hs, hstart, hlength⟩ := hfound
    have hend : index + byteLength closing =
        byteLength ((Markup.cutClosing closing s).1 ++ found) := by
      rw [hstart, byteLength_append, hlength]
    dsimp only
    rw [sliceTo_eq_some hs hstart,
      sliceFrom_eq_some (hs.trans (List.append_assoc ..).symm) hend]
    simp only [Part.bind_eq_bind, Part.bind_some, Part.pure_eq_some]

end Markup.Checked

end GenreProse
