-- SUMMARY: Numbers in English words.

/-!
# Numbers in words

Cardinals join tens and ones by a hyphen and put `and` before the last two digits, as in
`one thousand two hundred and thirty-four`. An ordinal changes only the last word.
-/

namespace GenreProse

namespace Words

/-! ## Words -/

def ones : List String :=
  ["zero", "one", "two", "three", "four", "five", "six", "seven", "eight", "nine", "ten",
    "eleven", "twelve", "thirteen", "fourteen", "fifteen", "sixteen", "seventeen", "eighteen",
    "nineteen"]

/-- The words for the tens from twenty on. -/
def tens : List String :=
  ["twenty", "thirty", "forty", "fifty", "sixty", "seventy", "eighty", "ninety"]

/-- The powers of a thousand that have a name, the largest first. -/
def scales : List (Nat × String) :=
  [ (1000000000000000000, "quintillion"), (1000000000000000, "quadrillion"),
    (1000000000000, "trillion"), (1000000000, "billion"), (1000000, "million"),
    (1000, "thousand") ]

/-! ## Cardinals -/

/-- A number below a hundred: one word, or two with a hyphen. -/
def belowHundred (n : Nat) : String :=
  if n < 20 then ones.getD n ""
  else if n % 10 = 0 then tens.getD (n / 10 - 2) ""
  else tens.getD (n / 10 - 2) "" ++ "-" ++ ones.getD (n % 10) ""

def belowThousand (n : Nat) : List String :=
  if n / 100 = 0 then [belowHundred (n % 100)]
  else
    ones.getD (n / 100) "" :: "hundred"
      :: (if n % 100 = 0 then [] else ["and", belowHundred (n % 100)])

/-- What is left of a number below the named powers. It is joined by `and` if it has no
    hundreds. -/
def remainder (n : Nat) : List String :=
  if n = 0 then []
  else if n < 100 then "and" :: belowThousand n
  else belowThousand n

/-- A number of a thousand or more, by the named powers that are still left. -/
def byScales : List (Nat × String) → Nat → List String
  | [], n => remainder n
  | (scale, name) :: scales, n =>
    if scale ≤ n then belowThousand (n / scale) ++ name :: byScales scales (n % scale)
    else byScales scales n

def ofNat (n : Nat) : List String :=
  if n < 1000 then belowThousand n else byScales scales n

def ofInt (n : Int) : List String :=
  if n < 0 then "minus" :: ofNat n.natAbs else ofNat n.natAbs

/-! ## Ordinals -/

/-- The ordinal of a single word. -/
def ordinalWord (word : String) : String :=
  match word with
  | "one" => "first"
  | "two" => "second"
  | "three" => "third"
  | "five" => "fifth"
  | "eight" => "eighth"
  | "nine" => "ninth"
  | "twelve" => "twelfth"
  | _ =>
    match word.toList.reverse with
    | 'y' :: stem => String.ofList (stem.reverse ++ "ieth".toList)
    | _ => word ++ "th"

/-- The ordinal of a number below a hundred, in which only the part after a hyphen changes. -/
def ordinalHyphenated (word : String) : String :=
  let cs := word.toList
  match cs.dropWhile (· != '-') with
  | _ :: last =>
    String.ofList (cs.takeWhile (· != '-')) ++ "-" ++ ordinalWord (String.ofList last)
  | [] => ordinalWord word

def mapLast (f : String → String) : List String → List String
  | [] => []
  | [last] => [f last]
  | word :: words => word :: mapLast f words

end Words

/-- An integer in words, as `twenty-one`. -/
def cardinal (n : Int) : String :=
  " ".intercalate (Words.ofInt n)

/-- An integer as an ordinal in words, as `twenty-first`. -/
def ordinal (n : Int) : String :=
  " ".intercalate (Words.mapLast Words.ordinalHyphenated (Words.ofInt n))

/-- The letters after an ordinal in digits, as `rd` for 23. -/
def ordinalSuffix (n : Int) : String :=
  let n := n.natAbs
  if 11 ≤ n % 100 && n % 100 ≤ 13 then "th"
  else if n % 10 = 1 then "st"
  else if n % 10 = 2 then "nd"
  else if n % 10 = 3 then "rd"
  else "th"

end GenreProse
