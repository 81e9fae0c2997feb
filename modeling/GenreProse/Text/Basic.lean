-- SUMMARY: Searching, cutting and trimming text, on characters and on strings.
import GenreProse.Text.Blank

/-!
# Text

The functions on `Chars` work on lists of characters, where recursion is structural; the
functions on `Text` are the same operations on strings. A search always answers with the first
occurrence, read from the left.
-/

namespace GenreProse

/-! ## Characters -/

/-- A text taken apart into its characters. -/
abbrev Chars := List Char

namespace Chars

def after? : Chars → Chars → Option Chars
  | [], s => some s
  | _ :: _, [] => none
  | p :: ps, c :: s => if p = c then after? ps s else none

def opensWith (p s : Chars) : Bool :=
  (after? p s).isSome

def contains (p : Chars) : Chars → Bool
  | [] => p.isEmpty
  | c :: s => opensWith p (c :: s) || contains p s

def cut? (p : Chars) : Chars → Option (Chars × Chars)
  | [] => if p.isEmpty then some ([], []) else none
  | c :: s =>
    match after? p (c :: s) with
    | some rest => some ([], rest)
    | none => (cut? p s).map fun (before, rest) => (c :: before, rest)

/-- The texts before and after the first character that satisfies the test. -/
def cutAt? (test : Char → Bool) : Chars → Option (Chars × Chars)
  | [] => none
  | c :: s =>
    if test c then some ([], s)
    else (cutAt? test s).map fun (before, rest) => (c :: before, rest)

/-- The parts between the characters that satisfy the test; a text without one is a single
    part. -/
def splitAt (test : Char → Bool) : Chars → List Chars
  | [] => [[]]
  | c :: s =>
    if test c then [] :: splitAt test s
    else match splitAt test s with
      | [] => [[c]]
      | part :: parts => (c :: part) :: parts

/-- Drops the characters at the end that satisfy the test. -/
def dropEndWhile (test : Char → Bool) : Chars → Chars
  | [] => []
  | c :: s =>
    match dropEndWhile test s with
    | [] => if test c then [] else [c]
    | rest => c :: rest

/-- Drops the characters at both ends that satisfy the test. -/
def trimBy (test : Char → Bool) (s : Chars) : Chars :=
  dropEndWhile test (s.dropWhile test)

def trimStart (s : Chars) : Chars :=
  s.dropWhile isBlank

def trim (s : Chars) : Chars :=
  trimBy isBlank s

/-- Replaces every occurrence of `old`, read from the left without overlap. The first argument
    counts the characters of a replaced occurrence still to be skipped. -/
def replaceFrom (old new : Chars) : Nat → Chars → Chars
  | _, [] => []
  | k + 1, _ :: s => replaceFrom old new k s
  | 0, c :: s =>
    if opensWith old (c :: s) then new ++ replaceFrom old new (old.length - 1) s
    else c :: replaceFrom old new 0 s

def replace (old new s : Chars) : Chars :=
  replaceFrom old new 0 s

/-- The words of a text: the nonempty parts between the characters that satisfy the test. -/
def wordsAt (test : Char → Bool) (s : Chars) : List Chars :=
  (splitAt test s).filter fun part => !part.isEmpty

/-! ### What a search cuts off -/

/-- What follows an opening text follows it in the text. -/
theorem eq_append_of_after? {p s rest : Chars} (h : after? p s = some rest) : s = p ++ rest := by
  fun_induction after? p s with
  | case1 => exact Option.some.inj h
  | case2 => cases h
  | case3 p c s ih => exact congrArg _ (ih h)
  | case4 => cases h

theorem after?_eq_some_iff {p s rest : Chars} : after? p s = some rest ↔ s = p ++ rest := by
  constructor
  · exact eq_append_of_after?
  · rintro rfl
    induction p with
    | nil => rfl
    | cons c p ih => simpa [after?] using ih

theorem opensWith_iff {p s : Chars} : opensWith p s = true ↔ p <+: s := by
  constructor
  · intro h
    obtain ⟨rest, hrest⟩ := Option.isSome_iff_exists.1 h
    exact ⟨rest, (eq_append_of_after? hrest).symm⟩
  · rintro ⟨rest, rfl⟩
    exact Option.isSome_of_eq_some (after?_eq_some_iff.2 rfl)

/-- A cut loses only what it cuts at. -/
theorem eq_append_of_cut? {p s before rest : Chars} (h : cut? p s = some (before, rest)) :
    s = before ++ (p ++ rest) := by
  fun_induction cut? p s generalizing before with
  | case1 hempty =>
    simp only [Option.some.injEq, Prod.mk.injEq] at h
    simp [← h.1, ← h.2, List.isEmpty_iff.1 hempty]
  | case2 => cases h
  | case3 c s after hafter =>
    simp only [Option.some.injEq, Prod.mk.injEq] at h
    rw [← h.1, ← h.2, List.nil_append]
    exact eq_append_of_after? hafter
  | case4 c s _ ih =>
    simp only [Option.map_eq_some_iff, Prod.mk.injEq, Prod.exists] at h
    obtain ⟨front, _, hcut, rfl, rfl⟩ := h
    rw [ih hcut, List.cons_append]

/-- A cut loses only the character that it cuts at. -/
theorem eq_append_of_cutAt? {test : Char → Bool} {s before rest : Chars}
    (h : cutAt? test s = some (before, rest)) : ∃ c, test c ∧ s = before ++ c :: rest := by
  fun_induction cutAt? test s generalizing before with
  | case1 => cases h
  | case2 c s htest =>
    simp only [Option.some.injEq, Prod.mk.injEq] at h
    exact ⟨c, htest, by rw [← h.1, ← h.2, List.nil_append]⟩
  | case3 c s _ ih =>
    simp only [Option.map_eq_some_iff, Prod.mk.injEq, Prod.exists] at h
    obtain ⟨front, _, hcut, rfl, rfl⟩ := h
    obtain ⟨d, htest, rfl⟩ := ih hcut
    exact ⟨d, htest, rfl⟩

theorem cutAt?_eq_none {test : Char → Bool} {s : Chars} (h : ∀ c ∈ s, test c = false) :
    cutAt? test s = none := by
  induction s with
  | nil => rfl
  | cons c s ih =>
    obtain ⟨hc, hs⟩ := List.forall_mem_cons.1 h
    rw [cutAt?, hc, if_neg Bool.false_ne_true, ih hs, Option.map_none]

/-- A cut is made at the first character that passes. -/
theorem cutAt?_first {test : Char → Bool} {front rest : Chars} {c : Char}
    (hfront : ∀ c ∈ front, test c = false) (hc : test c) :
    cutAt? test (front ++ c :: rest) = some (front, rest) := by
  induction front with
  | nil => rw [List.nil_append, cutAt?, if_pos hc]
  | cons d front ih =>
    obtain ⟨hd, hfront⟩ := List.forall_mem_cons.1 hfront
    rw [List.cons_append, cutAt?, hd, if_neg Bool.false_ne_true, ih hfront, Option.map_some]

/-! ### Parts -/

theorem splitAt_ne_nil (test : Char → Bool) (s : Chars) : splitAt test s ≠ [] := by
  fun_cases splitAt test s <;> simp

/-- A text without a character to split at is a single part. -/
theorem splitAt_eq_singleton {test : Char → Bool} {s : Chars} (h : ∀ c ∈ s, test c = false) :
    splitAt test s = [s] := by
  induction s with
  | nil => rfl
  | cons c s ih =>
    obtain ⟨hc, hs⟩ := List.forall_mem_cons.1 h
    rw [splitAt, hc, if_neg Bool.false_ne_true, ih hs]

/-- Both sides of a character to split at are split by themselves. -/
theorem splitAt_append_cons {test : Char → Bool} {c : Char} (hc : test c) (front rest : Chars) :
    splitAt test (front ++ c :: rest) = splitAt test front ++ splitAt test rest := by
  induction front with
  | nil => simp [splitAt, hc]
  | cons d front ih =>
    rw [List.cons_append, splitAt, splitAt, ih]
    split
    · rw [List.cons_append]
    · obtain ⟨part, parts, hparts⟩ := List.exists_cons_of_ne_nil (splitAt_ne_nil test front)
      rw [hparts, List.cons_append, List.cons_append]

/-! ### Single characters replaced -/

/-- A character is replaced wherever it stands. -/
theorem replace_singleton (old new : Char) (s : Chars) :
    replace [old] [new] s = s.map fun c => if c = old then new else c := by
  rw [replace]
  induction s with
  | nil => rfl
  | cons c s ih =>
    rw [replaceFrom, List.length_singleton, Nat.sub_self, ih, List.map_cons]
    by_cases heq : c = old
    · simp [opensWith, after?, heq]
    · simp [opensWith, after?, heq, Ne.symm heq]

end Chars

/-! ## ASCII letters and digits -/

def isAsciiLetter (c : Char) : Bool :=
  c.isUpper || c.isLower

def isAsciiAlphanumeric (c : Char) : Bool :=
  isAsciiLetter c || c.isDigit

def sameIgnoringAsciiCase (s t : Chars) : Bool :=
  s.map Char.toLower == t.map Char.toLower

/-! ## Strings -/

namespace Text

/-- Applies a function on characters to a string. -/
def onChars (f : Chars → Chars) (s : String) : String :=
  String.ofList (f s.toList)

def trim (s : String) : String :=
  onChars Chars.trim s

def asciiLower (s : String) : String :=
  onChars (·.map Char.toLower) s

def replace (s old new : String) : String :=
  onChars (Chars.replace old.toList new.toList) s

def opensWith (s p : String) : Bool :=
  Chars.opensWith p.toList s.toList

def closesWith (s p : String) : Bool :=
  Chars.opensWith p.toList.reverse s.toList.reverse

def after? (s p : String) : Option String :=
  (Chars.after? p.toList s.toList).map String.ofList

/-- What precedes the closing text `p`, if `s` ends with it. -/
def before? (s p : String) : Option String :=
  (Chars.after? p.toList.reverse s.toList.reverse).map fun r => String.ofList r.reverse

def contains (s p : String) : Bool :=
  Chars.contains p.toList s.toList

def anyChar (s : String) (test : Char → Bool) : Bool :=
  s.toList.any test

def allChars (s : String) (test : Char → Bool) : Bool :=
  s.toList.all test

def cut? (s p : String) : Option (String × String) :=
  (Chars.cut? p.toList s.toList).map fun (a, b) => (String.ofList a, String.ofList b)

/-- The parts of `s` between the occurrences of the character `c`. -/
def splitOn (s : String) (c : Char) : List String :=
  (Chars.splitAt (· == c) s.toList).map String.ofList

def join (separator : String) (parts : List String) : String :=
  String.intercalate separator parts

def sameIgnoringAsciiCase (s t : String) : Bool :=
  GenreProse.sameIgnoringAsciiCase s.toList t.toList

end Text

end GenreProse
