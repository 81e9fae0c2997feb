-- SUMMARY: Spans of code points, the form of all character tables.
import GenreProse.Text.Basic

/-!
# Spans of code points

A character class is a list of spans. A mapping of characters is a list of shifts: spans whose
members, all or every second one, move by the same distance.
-/

namespace GenreProse

/-- The code points from `first` to `last`, both included. -/
structure Span where
  first : Nat
  last : Nat

/-- Whether one of the spans has the code point. -/
def Span.any (spans : List Span) (code : Nat) : Bool :=
  spans.any fun span => span.first ≤ code && code ≤ span.last

/-- The code points `first`, `first + stride`, up to `last`, each moved by `distance`. -/
structure Shift where
  first : Nat
  last : Nat
  stride : Nat
  distance : Int

def Shift.moves (shift : Shift) (code : Nat) : Bool :=
  shift.first ≤ code && code ≤ shift.last && (code - shift.first) % shift.stride == 0

/-- Moves a character as the first shift that has it says; other characters stay. -/
def Shift.apply (shifts : List Shift) (c : Char) : Char :=
  match shifts.find? fun shift => shift.moves c.toNat with
  | some shift => Char.ofNat (c.toNat + shift.distance).toNat
  | none => c

end GenreProse
