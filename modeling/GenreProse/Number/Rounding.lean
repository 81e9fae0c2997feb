-- SUMMARY: Floating-point numbers, read from text and written with a given precision.
import GenreProse.Number.Integer

/-!
# Rounding

A double is read from decimal text as the nearest one, and written to so many places exactly: of
its true value, with a half going to the even neighbour. Rounding to tens or hundreds divides
first and takes a half away from zero.
-/

namespace GenreProse

/-! ## Reading -/

/-- The double nearest to a decimal number. Powers of ten far out of range are not computed. -/
def floatOfDecimal (digits : Chars) (exponent : Int) : Float :=
  let significant := digits.dropWhile (· == '0')
  let magnitude : Int := significant.length + exponent
  if significant.isEmpty || magnitude < -400 then 0.0
  else if magnitude > 400 then 1.0 / 0.0
  else
    let mantissa := (decimal? significant).getD 0
    if exponent < 0 then OfScientific.ofScientific mantissa true exponent.natAbs
    else OfScientific.ofScientific mantissa false exponent.natAbs

def exponent? : Chars → Option Int
  | '+' :: digits => (decimal? digits).map fun n => (n : Int)
  | '-' :: digits => (decimal? digits).map fun n => -(n : Int)
  | digits => (decimal? digits).map fun n => (n : Int)

/-- Reads a number without its sign: an infinity, no number, or digits with a point and an
    exponent. -/
def unsignedFloat? (s : Chars) : Option Float :=
  let name := String.ofList (s.map Char.toLower)
  if name = "inf" || name = "infinity" then some (1.0 / 0.0)
  else if name = "nan" then some (0.0 / 0.0)
  else
    let (mantissa, power) := match Chars.cutAt? (fun c => c == 'e' || c == 'E') s with
      | some (mantissa, power) => (mantissa, exponent? power)
      | none => (s, some 0)
    let (whole, fraction) := splitPoint mantissa
    let digits := whole ++ fraction
    if digits.isEmpty || !digits.all Char.isDigit then none
    else power.map fun power => floatOfDecimal digits (power - fraction.length)

/-- Reads a number with an optional sign. -/
def float? (s : String) : Option Float :=
  match s.toList with
  | '+' :: s => unsignedFloat? s
  | '-' :: s => (unsignedFloat? s).map fun x => -x
  | s => unsignedFloat? s

/-! ## Writing -/

/-- A finite double as a sign, a mantissa and a power of two. -/
structure Binary where
  negative : Bool
  mantissa : Nat
  exponent : Int

/-- The bit of a mantissa that a normal double leaves out, the one above the 52 that are kept. -/
def Binary.implicitBit : Nat :=
  4503599627370496

/-- Takes a finite double apart. -/
def Binary.ofFloat (x : Float) : Binary :=
  let bits := x.toBits.toNat
  let fraction := bits % implicitBit
  let power := bits / implicitBit % 2048
  let negative := bits.testBit 63
  if power = 0 then ⟨negative, fraction, -1074⟩
  else ⟨negative, fraction + implicitBit, (power : Int) - 1075⟩

/-- The quotient rounded to the nearest number, a half to the even one. -/
def divideToEven (numerator denominator : Nat) : Nat :=
  let quotient := numerator / denominator
  let twice := 2 * (numerator % denominator)
  if twice < denominator || (twice == denominator && quotient % 2 == 0) then quotient
  else quotient + 1

/-- The value times a power of ten, rounded to a whole number. -/
def Binary.scaled (x : Binary) (places : Nat) : Nat :=
  let numerator := x.mantissa * Nat.pow 10 places
  if x.exponent < 0 then divideToEven numerator (Nat.pow 2 x.exponent.natAbs)
  else numerator * Nat.pow 2 x.exponent.natAbs

/-- Puts a point before the last digits, with zeros in front where digits are missing. -/
def insertPoint (digits : Chars) (places : Nat) : Chars :=
  if places = 0 then digits
  else
    let padded := List.replicate (places + 1 - digits.length) '0' ++ digits
    padded.take (padded.length - places) ++ '.' :: padded.drop (padded.length - places)

/-- A double with exactly so many decimal places. -/
def fixedPlaces (x : Float) (places : Nat) : String :=
  if x.isNaN then "NaN"
  else if x.isInf then (if x < 0 then "-inf" else "inf")
  else
    let binary := Binary.ofFloat x
    let digits := (toString (binary.scaled places)).toList
    String.ofList ((if binary.negative then ['-'] else []) ++ insertPoint digits places)

/-- Drops the zeros that end a decimal fraction, and the point if nothing is left after it. -/
def dropFinalZeros (s : Chars) : Chars :=
  if s.any (· == '.') then Chars.dropEndWhile (· == '.') (Chars.dropEndWhile (· == '0') s) else s

/-! ## Rounding -/

/-- The largest number of places, in either direction, that is rounded to. -/
def maxPlaces : Int :=
  20

/-- A power of a double by repeated squaring. The first number bounds the squarings. -/
def floatPower (base result : Float) : Nat → Nat → Float
  | 0, _ => result
  | fuel + 1, n =>
    let result := if n % 2 = 1 then result * base else result
    if n / 2 = 0 then result else floatPower (base * base) result fuel (n / 2)

/-- The number rounded to decimal places, without zeros at the end. Negative places round to tens,
    hundreds and so on. A negative zero loses its sign. -/
def roundPlaces (x : Float) (places : Int) : String :=
  let places := max (-maxPlaces) (min maxPlaces places)
  let text :=
    if 0 ≤ places then fixedPlaces x places.natAbs
    else
      let factor := floatPower 10.0 1.0 64 places.natAbs
      fixedPlaces ((x / factor).round * factor) 0
  let text := Text.onChars dropFinalZeros text
  if text = "-0" then "0" else text

/-- The exponent of the first digit of a finite number that is not zero. -/
def decimalMagnitude (x : Float) : Int :=
  x.abs.log10.floor.toInt64.toInt

/-- The number rounded to so many significant digits. -/
def roundSignificant (x : Float) (digits : Nat) : String :=
  if x == 0.0 || !x.isFinite then roundPlaces x 0
  else roundPlaces x ((digits : Int) - 1 - decimalMagnitude x)

end GenreProse
