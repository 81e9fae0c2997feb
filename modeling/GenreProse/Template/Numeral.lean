-- SUMMARY: Templates for ordinals, fractions, measured values and sums of money.
import GenreProse.Number.Rounding
import GenreProse.Number.Words
import GenreProse.Template.Eval

/-!
# Numerals

Ordinals with their suffix, fractions with raised and lowered digits, values with their uncertainty
and unit, dollars, and numbers in words.
-/

namespace GenreProse

namespace Template

/-- A whole number with the letters of its ordinal, which may be raised. -/
def ordinalNumber (call : Call) : Prose :=
  match call.integerAt? .signed64 1 with
  | none => callError "Ordinal" "not a whole number"
  | some n =>
    let letters : Prose := .text (ordinalSuffix n)
    let letters := if call.flag "sup" then .styled .superscript letters else letters
    .concat [.text (toString n), letters]

/-- A fraction after a whole number, which may be missing. -/
def mixedFraction (whole : Option String) (numerator denominator : String) : Prose :=
  .concat
    [ .text ((whole.map (· ++ "+")).getD ""),
      .styled .superscript (.text numerator),
      .text "⁄",
      .styled .subscript (.text denominator) ]

def fraction (call : Call) : Prose :=
  match call.positional with
  | [] => .empty
  | [denominator] => mixedFraction none "1" denominator
  | [numerator, denominator] => mixedFraction none numerator denominator
  | whole :: numerator :: denominator :: _ => mixedFraction (some whole) numerator denominator

/-- Replaces the first hyphen by a minus sign. -/
def withMinusSign (s : String) : String :=
  match Text.cut? s "-" with
  | some (before, rest) => before ++ String.singleton minusSign ++ rest
  | none => s

def uncertainty (call : Call) : List Prose :=
  match call.at? 2 with
  | some text => [.text (" ± " ++ groupDecimal text)]
  | none => []

/-- The power of ten of a value, if it is given. -/
def powerOfTen (call : Call) : List Prose :=
  match call.nonblank? "e" with
  | some exponent =>
    [.text "×10", .styled .superscript (.text (withMinusSign exponent))]
  | none => []

/-- A value with its uncertainty, power of ten and unit. -/
def measuredValue (call : Call) : Eval Prose := do
  match (call.at? 1).filter fun text => (float? text).isSome with
  | none => return .error ("Error in " ++ inBraces "Val" ++ ": not a number")
  | some number =>
    let value := .text (groupDecimal number) :: uncertainty call ++ powerOfTen call
    match call.firstOf? ["u", "ul"] with
    | none => return .concat value
    | some unit =>
      let unit ← Eval.markup unit
      return .concat (value ++ [.text "\u00a0", unit])

def dollars (context : Context) (call : Call) : Prose :=
  let sign :=
    if call.flag "link" then context.link "United States dollar" "US$" else .text "US$"
  .concat [sign, .text (groupDecimal (call.getD "1"))]

def numberInWords (call : Call) : Prose :=
  let digits := (call.get? "1").map fun text => Text.replace text "," ""
  match digits.bind IntegerRange.signed64.read? with
  | some n => .text (cardinal n)
  | none => callError "Number to word" "not a whole number"

end Template

end GenreProse
