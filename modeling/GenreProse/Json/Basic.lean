-- SUMMARY: JSON values.
import GenreProse.Text.Basic

/-!
# JSON values

Members of an object keep their order, and a key may come twice: readers decide what that means.
A number is kept as an integer if it is written as one; other numbers keep their text.
-/

namespace GenreProse

inductive Json where
  | null
  | bool (value : Bool)
  | integer (value : Int)
  | decimal (text : String)
  | string (text : String)
  | array (items : List Json)
  | object (members : List (String × Json))
  deriving Repr, Inhabited

namespace Json

def string? : Json → Option String
  | string text => some text
  | _ => none

def array? : Json → Option (List Json)
  | array items => some items
  | _ => none

def object? : Json → Option (List (String × Json))
  | object members => some members
  | _ => none

/-- An integer between zero and `last`. -/
def natUpTo? (last : Nat) : Json → Option Nat
  | integer (Int.ofNat n) => if n ≤ last then some n else none
  | _ => none

/-- A string, or nothing for `null`. -/
def optionalString? : Json → Option (Option String)
  | null => some none
  | string text => some (some text)
  | _ => none

end Json

end GenreProse
