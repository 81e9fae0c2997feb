-- SUMMARY: Integers in decimal digits, read and grouped.
import GenreProse.Text.Entity

/-!
# Integers

Reading takes an optional sign and decimal digits, and refuses numbers outside of a range.
Writing groups the digits by three, with commas between the groups.
-/

namespace GenreProse

/-! ## Reading -/

/-- The integers from `least` to `greatest`. -/
structure IntegerRange where
  least : Int
  greatest : Int

namespace IntegerRange

def signed32 : IntegerRange :=
  ⟨-2147483648, 2147483647⟩

def signed64 : IntegerRange :=
  ⟨-9223372036854775808, 9223372036854775807⟩

def unsigned8 : IntegerRange :=
  ⟨0, 255⟩

def unsigned64 : IntegerRange :=
  ⟨0, 18446744073709551615⟩

/-- The integer itself, if it lies in the range. -/
def check (range : IntegerRange) (n : Int) : Option Int :=
  if range.least ≤ n ∧ n ≤ range.greatest then some n else none

/-- Reads an integer of the range. A minus sign is refused where nothing is negative. -/
def read? (range : IntegerRange) (s : String) : Option Int :=
  match s.toList with
  | '+' :: digits => (decimal? digits).bind fun n => range.check n
  | '-' :: digits =>
    if range.least < 0 then (decimal? digits).bind fun n => range.check (-(n : Int)) else none
  | digits => (decimal? digits).bind fun n => range.check n

end IntegerRange

/-! ## Grouping -/

/-- Puts a comma after every three digits, except at the end. -/
def groupByThree : Chars → Chars
  | a :: b :: c :: d :: rest => a :: b :: c :: ',' :: groupByThree (d :: rest)
  | digits => digits

/-- The digits in groups of three, counted from the right. -/
def groupDigits (digits : Chars) : Chars :=
  (groupByThree digits.reverse).reverse

def groupThousands (n : Int) : String :=
  String.ofList ((if n < 0 then ['-'] else []) ++ groupDigits (toString n.natAbs).toList)

def minusSign : Char :=
  '\u2212'

/-- Splits off a minus sign of either kind. -/
def splitMinus : Chars → Bool × Chars
  | c :: s => if c = '-' || c = minusSign then (true, s) else (false, c :: s)
  | [] => (false, [])

/-- The whole digits and the fraction digits of a decimal number; no fraction without a point. -/
def splitPoint (s : Chars) : Chars × Chars :=
  (Chars.cutAt? (· == '.') s).getD (s, [])

/-- A decimal number with its whole digits grouped, a typographic minus sign, and no point unless
    digits follow. Anything else stays as it is. -/
def groupDecimal (text : String) : String :=
  let (negative, unsigned) := splitMinus text.toList
  let (whole, fraction) := splitPoint unsigned
  if whole.isEmpty || !whole.all Char.isDigit || !fraction.all Char.isDigit then text
  else
    let sign := if negative then [minusSign] else []
    let point := if fraction.isEmpty then [] else '.' :: fraction
    String.ofList (sign ++ groupDigits whole ++ point)

/-- How many digits of a decimal number are significant, at least one. Zeros before the first other
    digit are not, and neither are zeros at the end of a whole number. -/
def significantDigits (text : String) : Nat :=
  let (whole, fraction) := splitPoint text.toList
  let digits := ((whole ++ fraction).filter Char.isDigit).dropWhile (· == '0')
  let significant :=
    if fraction.isEmpty then Chars.dropEndWhile (· == '0') digits else digits
  max significant.length 1

end GenreProse
