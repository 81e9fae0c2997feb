-- SUMMARY: Percent encoding of addresses.
import GenreProse.Text.Basic

/-!
# Percent encoding

In a page address every byte outside ASCII, every control character and a dozen characters with
a meaning of their own are written as `%` and two hexadecimal digits.
-/

namespace GenreProse

namespace Percent

/-- The visible ASCII characters with a meaning of their own. -/
def special : Chars :=
  ['%', '#', '\'', '"', '&', '<', '>', '?', '[', ']']

/-- Whether a character is written as it is. -/
def isPlain (c : Char) : Bool :=
  0x20 < c.toNat && c.toNat < 0x7F && !special.elem c

/-- The capital hexadecimal digit for a number below sixteen. -/
def digit (n : Nat) : Char :=
  if n < 10 then Char.ofNat (48 + n) else Char.ofNat (55 + n)

/-- A byte as `%` and two digits. -/
def encodeByte (b : UInt8) : Chars :=
  ['%', digit (b.toNat / 16), digit (b.toNat % 16)]

def encodeChar (c : Char) : Chars :=
  if isPlain c then [c] else (String.utf8EncodeChar c).flatMap encodeByte

/-- The text with all but plain characters encoded. -/
def encode (s : String) : String :=
  Text.onChars (·.flatMap encodeChar) s

end Percent

end GenreProse
