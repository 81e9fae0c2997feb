-- SUMMARY: The bytes of a text, and slices of a text at byte offsets.
import Mathlib.Data.Part
import GenreProse.Proofs.Text.Ascii

/-!
# Bytes

A text is a list of characters here, and a run of bytes in UTF-8 where offsets into it are counted.
An offset is good if a character starts there or the text ends there: if it is the length of an
initial part. A slice at any other offset is undefined.

A search for an ASCII character among the bytes stops where a search among the characters does.
-/

namespace GenreProse

namespace Chars

/-! ## Lengths in bytes -/

def bytes (s : Chars) : List UInt8 :=
  s.flatMap String.utf8EncodeChar

def byteLength (s : Chars) : Nat :=
  s.bytes.length

@[simp] theorem bytes_nil : bytes [] = [] := rfl

@[simp] theorem bytes_cons (c : Char) (s : Chars) :
    bytes (c :: s) = String.utf8EncodeChar c ++ bytes s := rfl

@[simp] theorem bytes_append (s t : Chars) : bytes (s ++ t) = bytes s ++ bytes t :=
  List.flatMap_append

@[simp] theorem byteLength_nil : byteLength [] = 0 := rfl

@[simp] theorem byteLength_cons (c : Char) (s : Chars) :
    byteLength (c :: s) = c.utf8Size + byteLength s := by
  simp [byteLength]

@[simp] theorem byteLength_append (s t : Chars) :
    byteLength (s ++ t) = byteLength s + byteLength t := by
  simp [byteLength]

/-- The bytes after the first characters are those of the characters after them. -/
theorem drop_bytes (s : Chars) (count : Nat) :
    s.bytes.drop (byteLength (s.take count)) = bytes (s.drop count) := by
  conv_lhs => rw [← List.take_append_drop count s, bytes_append]
  rw [List.take_append_drop]
  exact List.drop_left

/-- An ASCII text has as many bytes as characters. -/
theorem byteLength_of_isAscii {s : Chars} (h : ∀ c ∈ s, IsAscii c) : byteLength s = s.length := by
  induction s with
  | nil => rfl
  | cons c s ih =>
    obtain ⟨hc, hs⟩ := List.forall_mem_cons.1 h
    rw [byteLength_cons, hc.utf8Size, ih hs, List.length_cons, Nat.add_comm]

/-! ## First bytes -/

theorem bytes_pair {c : Char} (h : IsAscii c) (s : Chars) :
    bytes (c :: c :: s) = c.toUInt8 :: c.toUInt8 :: bytes s := by
  rw [bytes_cons, bytes_cons, h.utf8EncodeChar]
  rfl

theorem bytes_cons_ne_nil (c : Char) (s : Chars) : bytes (c :: s) ≠ [] := by
  simp [String.utf8EncodeChar_ne_nil]

/-- A text that starts with an ASCII byte starts with the character. -/
theorem eq_of_bytes_cons {b c : Char} (hc : IsAscii c) {s : Chars} {rest : List UInt8}
    (h : bytes (b :: s) = c.toUInt8 :: rest) : b = c ∧ bytes s = rest := by
  by_cases hb : IsAscii b
  · rw [bytes_cons, hb.utf8EncodeChar, List.singleton_append, List.cons.injEq,
      hb.toUInt8_inj hc] at h
    exact h
  · obtain ⟨first, others, hencode, hhigh⟩ := utf8EncodeChar_of_not_isAscii hb
    rw [bytes_cons, hencode, List.cons_append, List.cons.injEq] at h
    have hfirst := hhigh first List.mem_cons_self
    rw [h.1] at hfirst
    exact absurd hc.toUInt8_lt (UInt8.not_lt.2 hfirst)

/-! ## Slices -/

/-- The texts before and after a byte offset. There are none if the offset is past the end or
    lies inside a character. -/
def splitAtByte? : Nat → Chars → Option (Chars × Chars)
  | 0, s => some ([], s)
  | _ + 1, [] => none
  | n + 1, c :: s =>
    if c.utf8Size ≤ n + 1 then
      (splitAtByte? (n + 1 - c.utf8Size) s).map fun (before, after) => (c :: before, after)
    else none

/-- A good offset is the length of an initial part, and cuts the text there. -/
theorem splitAtByte?_eq_some_iff {n : Nat} {s before after : Chars} :
    splitAtByte? n s = some (before, after) ↔ s = before ++ after ∧ byteLength before = n := by
  fun_induction splitAtByte? n s generalizing before with
  | case1 s =>
    constructor
    · intro h
      cases h
      exact ⟨rfl, rfl⟩
    · rintro ⟨rfl, hlength⟩
      cases before with
      | nil => rfl
      | cons c before =>
        have := c.utf8Size_pos
        simp only [byteLength_cons] at hlength
        omega
  | case2 n =>
    simp only [reduceCtorEq, false_iff, not_and]
    intro hnil
    simp [List.append_eq_nil_iff.1 hnil.symm]
  | case3 n c s hfits ih =>
    simp only [Option.map_eq_some_iff, Prod.mk.injEq, Prod.exists]
    constructor
    · rintro ⟨rest, _, hrest, rfl, rfl⟩
      obtain ⟨rfl, hlength⟩ := ih.1 hrest
      exact ⟨rfl, by rw [byteLength_cons, hlength]; omega⟩
    · rintro ⟨hs, hlength⟩
      cases before with
      | nil => simp at hlength
      | cons d before =>
        obtain ⟨rfl, rfl⟩ : c = d ∧ s = before ++ after := by simpa using hs
        refine ⟨before, after, ih.2 ⟨rfl, ?_⟩, rfl, rfl⟩
        rw [byteLength_cons] at hlength
        omega
  | case4 n c s hlarge =>
    simp only [reduceCtorEq, false_iff, not_and]
    intro hs
    cases before with
    | nil => simp
    | cons d before =>
      obtain ⟨rfl, -⟩ : c = d ∧ s = before ++ after := by simpa using hs
      rw [byteLength_cons]
      omega

example : splitAtByte? 2 ['é', 'a'] = some (['é'], ['a']) := by decide

example : splitAtByte? 1 ['é', 'a'] = none := by decide

def sliceTo (s : Chars) (stop : Nat) : Part Chars :=
  Part.ofOption ((splitAtByte? stop s).map Prod.fst)

def sliceFrom (s : Chars) (start : Nat) : Part Chars :=
  Part.ofOption ((splitAtByte? start s).map Prod.snd)

/-- The slice of a text between two offsets, which have to be in order. -/
def slice (s : Chars) (start stop : Nat) : Part Chars :=
  (sliceTo s stop).bind fun before => sliceFrom before start

variable {s before inner after : Chars} {start stop : Nat}

/-- A slice up to the end of a part is the part. -/
theorem sliceTo_eq_some (hs : s = before ++ after) (hstop : stop = byteLength before) :
    sliceTo s stop = .some before := by
  rw [sliceTo, splitAtByte?_eq_some_iff.2 ⟨hs, hstop.symm⟩]
  rfl

/-- A slice from the end of a part is the rest. -/
theorem sliceFrom_eq_some (hs : s = before ++ after) (hstart : start = byteLength before) :
    sliceFrom s start = .some after := by
  rw [sliceFrom, splitAtByte?_eq_some_iff.2 ⟨hs, hstart.symm⟩]
  rfl

/-- A slice between the ends of two parts is the part between. -/
theorem slice_eq_some (hs : s = before ++ (inner ++ after)) (hstart : start = byteLength before)
    (hstop : stop = start + byteLength inner) : slice s start stop = .some inner := by
  have hto : sliceTo s stop = .some (before ++ inner) := by
    have hfront : s = (before ++ inner) ++ after := by rw [hs, List.append_assoc]
    exact sliceTo_eq_some hfront (by rw [hstop, hstart, byteLength_append])
  rw [slice, hto, Part.bind_some]
  exact sliceFrom_eq_some rfl hstart

/-! ## Searching for ASCII -/

/-- A test of single bytes that finds the ASCII characters that a test of characters finds. -/
structure TestsAscii (onByte : UInt8 → Bool) (onChar : Char → Bool) : Prop where
  ascii : ∀ c, IsAscii c → onByte c.toUInt8 = onChar c
  high : ∀ b, 128 ≤ b → onByte b = false
  beyond : ∀ c, ¬IsAscii c → onChar c = false

theorem TestsAscii.eq {c : Char} (h : IsAscii c) : TestsAscii (· == c.toUInt8) (· == c) where
  ascii d hd := by
    rw [Bool.eq_iff_iff, beq_iff_eq, beq_iff_eq]
    exact hd.toUInt8_inj h
  high b hb := by
    have := h.toUInt8_lt
    simp only [beq_eq_false_iff_ne]
    rintro rfl
    exact absurd hb (UInt8.not_le.2 this)
  beyond d hd := by
    simp only [beq_eq_false_iff_ne]
    rintro rfl
    exact hd h

/-- Tests a byte as the character that it is in ASCII. -/
def onAscii (onChar : Char → Bool) (b : UInt8) : Bool :=
  b < 128 && onChar (Char.ofNat b.toNat)

/-- A test that only ASCII characters pass can be made on bytes. -/
theorem TestsAscii.onAscii {onChar : Char → Bool} (h : ∀ c, onChar c → IsAscii c) :
    TestsAscii (onAscii onChar) onChar where
  ascii c hc := by
    simp [Chars.onAscii, hc.toUInt8_lt, hc.toNat_toUInt8, Char.ofNat_toNat]
  high b hb := by
    simp [Chars.onAscii, UInt8.not_lt.2 hb]
  beyond c hc := Bool.eq_false_iff.2 fun hfound => hc (h c hfound)

section Search

variable {onByte : UInt8 → Bool} {onChar : Char → Bool}

/-- The first byte of a text passes a test if its first character does. -/
theorem TestsAscii.any_head?_bytes (h : TestsAscii onByte onChar) (s : Chars) :
    s.bytes.head?.any onByte = s.head?.any onChar := by
  cases s with
  | nil => rfl
  | cons c s =>
    by_cases hc : IsAscii c
    · rw [bytes_cons, hc.utf8EncodeChar]
      exact h.ascii c hc
    · obtain ⟨first, rest, hencode, hhigh⟩ := utf8EncodeChar_of_not_isAscii hc
      rw [bytes_cons, hencode]
      simp only [List.cons_append, List.head?_cons, Option.any_some]
      rw [h.high first (hhigh first List.mem_cons_self), h.beyond c hc]

/-- A text starts with an ASCII byte if it starts with the character. -/
theorem head?_bytes_eq_some_iff {c : Char} (hc : IsAscii c) (s : Chars) :
    s.bytes.head? = some c.toUInt8 ↔ s.head? = some c := by
  have hany := (TestsAscii.eq hc).any_head?_bytes s
  rw [Bool.eq_iff_iff] at hany
  simpa [Option.any_eq_true] using hany

/-- Bytes and characters are taken up to the same place. -/
theorem TestsAscii.takeWhile_bytes (h : TestsAscii onByte onChar) (s : Chars) :
    s.bytes.takeWhile onByte = bytes (s.takeWhile onChar) := by
  induction s with
  | nil => rfl
  | cons c s ih =>
    by_cases hc : IsAscii c
    · rw [bytes_cons, hc.utf8EncodeChar, List.singleton_append, List.takeWhile_cons,
        List.takeWhile_cons, h.ascii c hc]
      cases onChar c with
      | false => rfl
      | true => simp [ih, hc.utf8EncodeChar]
    · obtain ⟨first, rest, hencode, hhigh⟩ := utf8EncodeChar_of_not_isAscii hc
      rw [bytes_cons, hencode, List.cons_append, List.takeWhile_cons, List.takeWhile_cons,
        h.high first (hhigh first List.mem_cons_self), h.beyond c hc]
      rfl

/-- A byte that is found is the first byte after what lies before the character found. -/
theorem TestsAscii.findIdx?_bytes (h : TestsAscii onByte onChar) (s : Chars) :
    s.bytes.findIdx? onByte = (cutAt? onChar s).map fun found => byteLength found.1 := by
  induction s with
  | nil => rfl
  | cons c s ih =>
    by_cases hc : IsAscii c
    · rw [bytes_cons, hc.utf8EncodeChar, List.singleton_append, List.findIdx?_cons, cutAt?,
        h.ascii c hc, ih]
      cases onChar c with
      | true => rfl
      | false => simp [hc.utf8Size, Function.comp_def, Nat.add_comm]
    · obtain ⟨first, rest, hencode, hhigh⟩ := utf8EncodeChar_of_not_isAscii hc
      have hnone : (String.utf8EncodeChar c).findIdx? onByte = none := by
        rw [hencode, List.findIdx?_eq_none_iff]
        exact fun b hb => h.high b (hhigh b hb)
      rw [bytes_cons, List.findIdx?_append, hnone, cutAt?, h.beyond c hc, ih]
      simp [Function.comp_def, Nat.add_comm]

end Search

end Chars

end GenreProse
