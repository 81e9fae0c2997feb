-- SUMMARY: Reading JSON text.
import GenreProse.Json.Basic
import GenreProse.Text.Entity

/-!
# Reading JSON

The reader accepts exactly the JSON grammar, with a bound on how deep arrays and objects nest.
It only tells whether the text is JSON, not what is wrong with it.
-/

namespace GenreProse

namespace Json

/-! ## Strings -/

/-- Where in a string the reader is. -/
inductive StringPlace where
  /-- Between two characters. -/
  | plain
  /-- After a backslash. -/
  | escaped
  /-- In an escape of four hexadecimal digits, of which so many are read. -/
  | code (digits value : Nat)

/-- The character that a one-letter escape stands for. -/
def escapeLetter? : Char → Option Char
  | '"' => some '"'
  | '\\' => some '\\'
  | '/' => some '/'
  | 'b' => some '\x08'
  | 'f' => some '\x0c'
  | 'n' => some '\n'
  | 'r' => some '\r'
  | 't' => some '\t'
  | _ => none

/-- Joins an escaped number to a first half that may wait for its second one: a character, or a
    half that waits. Halves that do not match are refused. -/
def joinHalves : Option Nat → Nat → Option (Except Nat Char)
  | none, n =>
    if 0xD800 ≤ n && n < 0xDC00 then some (.error n)
    else (charOfCode? n).map .ok
  | some high, n =>
    if 0xDC00 ≤ n && n < 0xE000 then
      (charOfCode? (0x10000 + (high - 0xD800) * 0x400 + (n - 0xDC00))).map .ok
    else none

/-- Reads a string up to its closing quote. `half` is the first half of a character that is
    written as two escapes. -/
def readString (place : StringPlace) (half : Option Nat) : Chars → Option (Chars × Chars)
  | [] => none
  | c :: s =>
    match place with
    | .plain =>
      if c = '\\' then readString .escaped half s
      else if half.isSome || c < ' ' then none
      else if c = '"' then some ([], s)
      else (readString .plain none s).map fun (text, rest) => (c :: text, rest)
    | .escaped =>
      if c = 'u' then readString (.code 0 0) half s
      else if half.isSome then none
      else match escapeLetter? c with
        | some letter => (readString .plain none s).map fun (text, rest) => (letter :: text, rest)
        | none => none
    | .code digits value =>
      match hexValue? c with
      | none => none
      | some d =>
        let value := value * 16 + d
        if digits < 3 then readString (.code (digits + 1) value) half s
        else match joinHalves half value with
          | none => none
          | some (.error high) => readString .plain (some high) s
          | some (.ok letter) =>
            (readString .plain none s).map fun (text, rest) => (letter :: text, rest)

/-! ## Numbers -/

/-- Splits off the digits at the start, of which there must be one. -/
def readDigits? (s : Chars) : Option (Chars × Chars) :=
  match s.takeWhile Char.isDigit with
  | [] => none
  | digits => some (digits, s.dropWhile Char.isDigit)

/-- Splits off the digits before the point: a zero alone, or digits that start with another. -/
def readWhole? : Chars → Option (Chars × Chars)
  | '0' :: s => some (['0'], s)
  | s => readDigits? s

/-- Splits off the point and the digits after it; nothing if there is no point. -/
def readFraction? : Chars → Option (Chars × Chars)
  | '.' :: s => (readDigits? s).map fun (digits, rest) => ('.' :: digits, rest)
  | s => some ([], s)

/-- Splits off the exponent; nothing if there is none. -/
def readExponent? : Chars → Option (Chars × Chars)
  | c :: s =>
    if c = 'e' || c = 'E' then
      let (sign, s) := match s with
        | '+' :: s => (['+'], s)
        | '-' :: s => (['-'], s)
        | s => ([], s)
      (readDigits? s).map fun (digits, rest) => (c :: sign ++ digits, rest)
    else some ([], c :: s)
  | [] => some ([], [])

/-- Reads a number. A negative zero is not an integer. -/
def readNumber? (s : Chars) : Option (Json × Chars) := do
  let (negative, s) := match s with
    | '-' :: s => (true, s)
    | s => (false, s)
  let (whole, s) ← readWhole? s
  let (fraction, s) ← readFraction? s
  let (exponent, s) ← readExponent? s
  let value ← decimal? whole
  if fraction.isEmpty && exponent.isEmpty && !(negative && value = 0) then
    return (.integer (if negative then -(value : Int) else value), s)
  else
    let sign := if negative then ['-'] else []
    return (.decimal (String.ofList (sign ++ whole ++ fraction ++ exponent)), s)

/-! ## Values -/

/-- Drops the blanks that JSON allows between tokens. -/
def skipBlanks (s : Chars) : Chars :=
  s.dropWhile fun c => c == ' ' || c == '\n' || c == '\t' || c == '\r'

/-- Reads the items of an array up to its bracket. The first number bounds how many. -/
def readItems (value : Chars → Option (Json × Chars)) :
    Nat → Chars → Option (List Json × Chars)
  | 0, _ => none
  | n + 1, s =>
    match value (skipBlanks s) with
    | none => none
    | some (item, s) =>
      match skipBlanks s with
      | ',' :: s => (readItems value n s).map fun (items, rest) => (item :: items, rest)
      | ']' :: s => some ([item], s)
      | _ => none

/-- Reads the members of an object up to its brace. The first number bounds how many. -/
def readMembers (value : Chars → Option (Json × Chars)) :
    Nat → Chars → Option (List (String × Json) × Chars)
  | 0, _ => none
  | n + 1, s =>
    match skipBlanks s with
    | '"' :: s =>
      match readString .plain none s with
      | none => none
      | some (key, s) =>
        match skipBlanks s with
        | ':' :: s =>
          match value (skipBlanks s) with
          | none => none
          | some (item, s) =>
            let entry := (String.ofList key, item)
            match skipBlanks s with
            | ',' :: s => (readMembers value n s).map fun (items, rest) => (entry :: items, rest)
            | '}' :: s => some ([entry], s)
            | _ => none
        | _ => none
    | _ => none

/-- Reads a value that holds nothing else. -/
def readScalar (s : Chars) : Option (Json × Chars) :=
  match s with
  | '"' :: s => (readString .plain none s).map fun (text, rest) =>
      (.string (String.ofList text), rest)
  | 'n' :: 'u' :: 'l' :: 'l' :: s => some (.null, s)
  | 't' :: 'r' :: 'u' :: 'e' :: s => some (.bool true, s)
  | 'f' :: 'a' :: 'l' :: 's' :: 'e' :: s => some (.bool false, s)
  | s => readNumber? s

/-- Reads a value. The first argument bounds how deep arrays and objects nest. -/
def readValue : Nat → Chars → Option (Json × Chars)
  | 0, s => readScalar s
  | depth + 1, s =>
    match s with
    | '[' :: s =>
      match skipBlanks s with
      | ']' :: s => some (.array [], s)
      | s => (readItems (readValue depth) s.length s).map fun (items, rest) => (.array items, rest)
    | '{' :: s =>
      match skipBlanks s with
      | '}' :: s => some (.object [], s)
      | s => (readMembers (readValue depth) s.length s).map fun (items, rest) =>
          (.object items, rest)
    | s => readScalar s

/-- How deep arrays and objects nest in a file that is read. -/
def nestingLimit : Nat :=
  127

/-- Reads a text that is one value, with blanks around it and arrays and objects nested no deeper
    than given. -/
def readNested? (nesting : Nat) (s : String) : Option Json :=
  match readValue nesting (skipBlanks s.toList) with
  | some (value, rest) => if (skipBlanks rest).isEmpty then some value else none
  | none => none

def read? (s : String) : Option Json :=
  readNested? nestingLimit s

end Json

end GenreProse
