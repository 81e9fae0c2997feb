-- SUMMARY: The composed normal form of text.
import GenreProse.Text.Decomposition

/-!
# Composed form

Normalization Form C: a text is taken apart into base characters and marks, the marks of each
base are sorted by combining class, and every mark that reaches its base without a blocking mark
between them is composed with it again.
-/

namespace GenreProse

/-! ## Syllables of Hangul -/

/-- Takes a syllable of Hangul apart into two or three letters. -/
def decomposeSyllable (code : Nat) : Chars :=
  let index := code - 0xAC00
  let lead := Char.ofNat (0x1100 + index / 588)
  let vowel := Char.ofNat (0x1161 + index % 588 / 28)
  if index % 28 = 0 then [lead, vowel]
  else [lead, vowel, Char.ofNat (0x11A7 + index % 28)]

/-- Composes a leading letter with a vowel, or a syllable of two letters with a third. -/
def composeSyllable? (first second : Nat) : Option Char :=
  if 0x1100 ≤ first && first ≤ 0x1112 && 0x1161 ≤ second && second ≤ 0x1175 then
    some (Char.ofNat (0xAC00 + (first - 0x1100) * 588 + (second - 0x1161) * 28))
  else if 0xAC00 ≤ first && first ≤ 0xD7A3 && (first - 0xAC00) % 28 == 0
      && 0x11A8 ≤ second && second ≤ 0x11C2 then
    some (Char.ofNat (first + (second - 0x11A7)))
  else
    none

/-! ## Decomposition -/

/-- What a character is taken apart into, from what its mapping gives: the first character of that
    is taken apart again. A character without a mapping stays. -/
def decomposeFirst (again : Char → Chars) (c : Char) : Option Chars → Chars
  | some (first :: rest) => again first ++ rest
  | _ => [c]

/-- The full decomposition of a character. The first argument bounds how deep the mappings
    nest; in the tables it is three. -/
def decomposeChar : Nat → Char → Chars
  | 0, c => [c]
  | depth + 1, c =>
    if 0xAC00 ≤ c.toNat && c.toNat ≤ 0xD7A3 then decomposeSyllable c.toNat
    else decomposeFirst (decomposeChar depth) c (decomposeOnce? c)

/-- Adds a character at the end of a reversed text. A mark moves before those of a higher
    class. -/
def insertMark (c : Char) : Chars → Chars
  | [] => [c]
  | d :: passed =>
    if combiningClass c ≠ 0 && combiningClass d > combiningClass c then d :: insertMark c passed
    else c :: d :: passed

/-- The text with all characters taken apart and all marks in order. -/
def decompose (s : Chars) : Chars :=
  ((s.flatMap (decomposeChar 3)).foldl (fun passed c => insertMark c passed) []).reverse

/-! ## Composition -/

/-- What two characters compose to. -/
def composeTwo? (first second : Char) : Option Char :=
  composeSyllable? first.toNat second.toNat <|> composePair? first second

/-- Composes marks with the base before them. `marks` holds those already passed since the base,
    the last one first: the next character is blocked unless its class is higher. -/
def composeOnto (base : Char) (marks : Chars) : Chars → Chars
  | [] => base :: marks.reverse
  | c :: s =>
    let free := match marks with
      | [] => true
      | mark :: _ => combiningClass mark < combiningClass c
    match (if free then composeTwo? base c else none) with
    | some whole => composeOnto whole marks s
    | none =>
      if combiningClass c = 0 then base :: marks.reverse ++ composeOnto c [] s
      else composeOnto base (c :: marks) s

/-- Composes a decomposed text. Marks before the first base stay as they are. -/
def recompose : Chars → Chars
  | [] => []
  | c :: s => if combiningClass c = 0 then composeOnto c [] s else c :: recompose s

/-- The composed normal form. Text below U+0300 has no marks and nothing to compose. -/
def compose (s : Chars) : Chars :=
  if s.all fun c => c.toNat < 0x300 then s else recompose (decompose s)

end GenreProse
