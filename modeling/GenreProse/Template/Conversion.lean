-- SUMMARY: The template that shows measured values in two units.
import GenreProse.Number.Rounding
import GenreProse.Template.Eval
import GenreProse.Template.Unit

/-!
# Conversions

A value, or a range of two, is shown in its own unit and in another one. The precision of the
converted value follows the digits of the given one unless it is asked for.
-/

namespace GenreProse

namespace Template

/-! ## Requests -/

/-- A number as it is written, with the value it has. -/
structure WrittenNumber where
  value : Float
  text : String

/-- Reads a finite number. Commas are dropped, and a typographic minus sign is a hyphen. -/
def WrittenNumber.read? (text : String) : Option WrittenNumber :=
  let cleaned := Text.replace (Text.replace text "," "") (String.singleton minusSign) "-"
  ((float? cleaned).filter Float.isFinite).map fun value => ⟨value, cleaned⟩

/-- The words between the two ends of a range. -/
def rangeWords : List String :=
  ["to", "-", "–", "and", "or", "by", "x", "×"]

structure Conversion where
  values : List WrittenNumber
  /-- The word between two values. -/
  range : Option String
  source : MeasureUnit
  target : MeasureUnit
  /-- The decimal places of the converted values. -/
  places : Option Int

/-- What is wrong with a request. -/
inductive ConversionError where
  | notNumber (text : String)
  | openRange
  | unknownUnit (code : String)
  | differentQuantities (source target : String)
  | precisionOutOfRange (text : String)
  deriving DecidableEq, Repr

/-- The message for a request that is wrong. -/
def ConversionError.message : ConversionError → String
  | notNumber text => "Error in convert: '" ++ text ++ "' is not a number"
  | openRange => "Error in convert: range needs two numbers"
  | unknownUnit code => "Error in convert: unknown unit '" ++ code ++ "'"
  | differentQuantities source target =>
    "Error in convert: cannot convert '" ++ source ++ "' to '" ++ target ++ "'"
  | precisionOutOfRange text => "Error in convert: precision '" ++ text ++ "' is out of range"

namespace Conversion

/-- The unit with a code. -/
def unitOf (code : String) : Except ConversionError MeasureUnit :=
  match MeasureUnit.find? code with
  | some unit => .ok unit
  | none => .error (.unknownUnit code)

/-- Reads the decimal places, which may be missing. -/
def placesOf (text : String) : Except ConversionError (Option Int) :=
  if text = "" then .ok none
  else
    match IntegerRange.signed32.read? text with
    | some places =>
      if -maxPlaces ≤ places ∧ places ≤ maxPlaces then .ok (some places)
      else .error (.precisionOutOfRange text)
    | none => .error (.precisionOutOfRange text)

/-- Reads what follows the values: the unit, the unit to convert to, and the precision. -/
def ofUnits (values : List WrittenNumber) (range : Option String) (rest : List String) :
    Except ConversionError Conversion := do
  let sourceCode := rest.headD ""
  let source ← unitOf sourceCode
  let targetCode := if rest.getD 1 "" = "" then source.target else rest.getD 1 ""
  let target ← unitOf targetCode
  if target.quantity ≠ source.quantity then
    throw (.differentQuantities sourceCode targetCode)
  return ⟨values, range, source, target, ← placesOf (rest.getD 2 "")⟩

/-- Reads the positional arguments of a request. -/
def ofArguments (arguments : List String) : Except ConversionError Conversion :=
  match (arguments.head?).bind WrittenNumber.read? with
  | none => .error (.notNumber (arguments.headD ""))
  | some first =>
    match arguments.drop 1 with
    | word :: rest =>
      if rangeWords.contains word then
        match (rest.head?).bind WrittenNumber.read? with
        | none => .error .openRange
        | some second => ofUnits [first, second] (some word) (rest.drop 1)
      else ofUnits [first] none (word :: rest)
    | [] => ofUnits [first] none []

/-! ## Text -/

/-- How a unit is named. -/
structure Naming where
  /-- By its symbol. -/
  abbreviated : Bool
  /-- As part of an adjective. -/
  adjective : Bool
  /-- In American spelling. -/
  american : Bool

def valuesText (range : Option String) (values : List String) : String :=
  match range, values with
  | some word, [first, last] =>
    if word = "-" ∨ word = "–" then first ++ "–" ++ last else first ++ " " ++ word ++ " " ++ last
  | _, values => Text.join " " values

/-- One side of a conversion. -/
def sideText (naming : Naming) (range : Option String) (unit : MeasureUnit)
    (values : List String) : String :=
  let text := valuesText range values
  let (singular, plural) :=
    match unit.american with
    | some names => if naming.american then names else (unit.singular, unit.plural)
    | none => (unit.singular, unit.plural)
  if naming.abbreviated then text ++ "\u00a0" ++ unit.symbol
  else if naming.adjective then text ++ "-" ++ singular
  else if range.isNone && values.head? = some "1" then text ++ " " ++ singular
  else text ++ " " ++ plural

/-- A converted value: to the given places, or to as many significant digits as the given value has,
    but at least two. -/
def convertedText (conversion : Conversion) (number : WrittenNumber) : String :=
  let value := conversion.source.convert conversion.target number.value
  groupDecimal <|
    match conversion.places with
    | some places => roundPlaces value places
    | none => roundSignificant value (max (significantDigits number.text) 2)

end Conversion

/-- A value in two units. The short form of the template abbreviates both. -/
def conversion (call : Call) : Prose :=
  match Conversion.ofArguments call.positional with
  | .error problem => .error problem.message
  | .ok conversion =>
    let short := (call.get? "abbr").getD (if call.template = "cvt" then "on" else "")
    let american := call.get? "sp" = some "us"
    let input := Conversion.sideText
      ⟨["on", "in", "values"].contains short, call.flag "adj", american⟩
      conversion.range conversion.source (conversion.values.map fun n => groupDecimal n.text)
    let output := Conversion.sideText
      ⟨!(["off", "in"].contains short), false, american⟩
      conversion.range conversion.target (conversion.values.map conversion.convertedText)
    match call.getD "disp" with
    | "or" => .text (input ++ " or " ++ output)
    | "flip" => .text (output ++ " (" ++ input ++ ")")
    | "out" => .text output
    | "output only" => .text output
    | _ => .text (input ++ " (" ++ output ++ ")")

end Template

end GenreProse
