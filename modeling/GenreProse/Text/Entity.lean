-- SUMMARY: Character references in text, read and written.
import GenreProse.Text.EntityName

/-!
# Character references

Reading replaces `&name;`, `&#65;` and `&#x41;` by the character they stand for; whatever is not
a complete reference to an existing character stays as it is, and so do the numbers of control
characters other than white space. Writing escapes the characters that HTML gives a meaning to, in
text and in attribute values.
-/

namespace GenreProse

/-! ## Reading -/

def hexValue? (c : Char) : Option Nat :=
  if c.isDigit then some (c.toNat - 48)
  else if 'a' ≤ c && c ≤ 'f' then some (c.toNat - 87)
  else if 'A' ≤ c && c ≤ 'F' then some (c.toNat - 55)
  else none

/-- The number written in decimal digits; nothing for other characters or none at all. -/
def decimal? (s : Chars) : Option Nat :=
  if s.isEmpty || !s.all Char.isDigit then none
  else some (s.foldl (fun n c => n * 10 + (c.toNat - 48)) 0)

/-- The number written in hexadecimal digits; nothing for other characters or none at all. -/
def hexadecimal? (s : Chars) : Option Nat :=
  if s.isEmpty then none
  else s.foldlM (fun n c => (hexValue? c).map fun d => n * 16 + d) 0

/-- The character with the given code, if there is one. -/
def charOfCode? (code : Nat) : Option Char :=
  if code.isValidChar then some (Char.ofNat code) else none

/-- Whether a number below U+0020 is a tab, a line feed, a form feed or a carriage return. -/
def isSpacingControl (code : Nat) : Bool :=
  code == 0x9 || code == 0xA || code == 0xC || code == 0xD

/-- The character that the number of a reference stands for, if there is one. -/
def referredChar? (code : Nat) : Option Char :=
  if 0x20 ≤ code || isSpacingControl code then charOfCode? code else none

namespace Entity

/-- The character that the text between `&` and `;` stands for. -/
def decodeName? : Chars → Option Char
  | '#' :: 'x' :: digits => (hexadecimal? digits).bind referredChar?
  | '#' :: 'X' :: digits => (hexadecimal? digits).bind referredChar?
  | '#' :: digits => (decimal? digits).bind referredChar?
  | name => entity? (String.ofList name)

/-- Whether the character may stand between `&` and `;`. -/
def isNameChar (c : Char) : Bool :=
  isAsciiAlphanumeric c || c == '#'

/-- The reference that a text opens with, after its `&`: what it stands for, and how many
    characters it takes, the semicolon included. -/
def reference? (s : Chars) : Option (Char × Nat) :=
  let name := s.takeWhile isNameChar
  match s.dropWhile isNameChar with
  | ';' :: _ => (decodeName? name).map fun meant => (meant, name.length + 1)
  | _ => none

/-- Decodes references. The first argument counts the characters still to be skipped. -/
def decodeFrom : Nat → Chars → Chars
  | _, [] => []
  | k + 1, _ :: s => decodeFrom k s
  | 0, c :: s =>
    match (if c = '&' then reference? s else none) with
    | some (meant, used) => meant :: decodeFrom used s
    | none => c :: decodeFrom 0 s

def decode (s : String) : String :=
  Text.onChars (decodeFrom 0) s

/-! ## Writing -/

def escapeChar (c : Char) : Chars :=
  if c = '&' then "&amp;".toList
  else if c = '<' then "&lt;".toList
  else if c = '>' then "&gt;".toList
  else [c]

/-- A character of a double-quoted attribute value as HTML. -/
def escapeAttributeChar (c : Char) : Chars :=
  if c = '"' then "&quot;".toList else escapeChar c

def escape (s : String) : String :=
  Text.onChars (·.flatMap escapeChar) s

def escapeAttribute (s : String) : String :=
  Text.onChars (·.flatMap escapeAttributeChar) s

end Entity

end GenreProse
