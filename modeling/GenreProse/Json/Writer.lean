-- SUMMARY: Writing JSON text, on one line or indented.
import GenreProse.Json.Basic

/-!
# Writing JSON

The compact form has no blanks. The indented form puts every item and member on a line of its
own, two spaces deeper than what holds it; an empty array or object stays on its line.
-/

namespace GenreProse

namespace Json

/-- A lower-case hexadecimal digit, for a number below sixteen. -/
def hexDigit (n : Nat) : Char :=
  if n < 10 then Char.ofNat (48 + n) else Char.ofNat (87 + n)

/-- A character of a string as it is written between quotes. -/
def escapeChar (c : Char) : Chars :=
  if c = '"' then ['\\', '"']
  else if c = '\\' then ['\\', '\\']
  else if c = '\x08' then ['\\', 'b']
  else if c = '\x0c' then ['\\', 'f']
  else if c = '\n' then ['\\', 'n']
  else if c = '\r' then ['\\', 'r']
  else if c = '\t' then ['\\', 't']
  else if c.toNat < 0x20 then
    ['\\', 'u', '0', '0', hexDigit (c.toNat / 16), hexDigit (c.toNat % 16)]
  else [c]

def quote (s : String) : String :=
  "\"" ++ Text.onChars (·.flatMap escapeChar) s ++ "\""

/-- How the parts of an array or object are laid out. -/
structure Layout where
  /-- What stands before a part that lies so many levels deep. -/
  lineBreak : Nat → String
  /-- What stands between a key and its value. -/
  colon : String

/-- Everything on one line, without blanks. -/
def Layout.compact : Layout :=
  ⟨fun _ => "", ":"⟩

/-- A line for each part, two spaces deeper on every level. -/
def Layout.indented : Layout :=
  ⟨fun depth => "\n" ++ String.ofList (List.replicate (2 * depth) ' '), ": "⟩

def Layout.enclose (layout : Layout) (depth : Nat) (opening closing : String)
    (parts : List String) : String :=
  if parts.isEmpty then opening ++ closing
  else
    opening ++ Text.join "," (parts.map fun part => layout.lineBreak (depth + 1) ++ part)
      ++ layout.lineBreak depth ++ closing

mutual

/-- A value that lies so many levels deep. -/
def write (layout : Layout) (depth : Nat) : Json → String
  | null => "null"
  | bool true => "true"
  | bool false => "false"
  | integer n => toString n
  | decimal text => text
  | string text => quote text
  | array items => layout.enclose depth "[" "]" (writeItems layout (depth + 1) items)
  | object members =>
    layout.enclose depth "\x7b" "\x7d" (writeMembers layout (depth + 1) members)

def writeItems (layout : Layout) (depth : Nat) : List Json → List String
  | [] => []
  | item :: items => write layout depth item :: writeItems layout depth items

/-- The members of an object, each key with its value. -/
def writeMembers (layout : Layout) (depth : Nat) : List (String × Json) → List String
  | [] => []
  | (key, value) :: members =>
    (quote key ++ layout.colon ++ write layout depth value) :: writeMembers layout depth members

end

def compact (value : Json) : String :=
  write .compact 0 value

def indented (value : Json) : String :=
  write .indented 0 value

end Json

end GenreProse
