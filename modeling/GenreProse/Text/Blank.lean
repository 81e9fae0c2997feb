-- SUMMARY: The characters that count as white space.

/-!
# Blank characters

White space is the Unicode property `White_Space`: twenty-five characters, of which six are
ASCII. Trimming, splitting into words and title normalisation all use this one class.
-/

namespace GenreProse

/-- Whether the character has the Unicode property `White_Space`. -/
def isBlank (c : Char) : Bool :=
  let n := c.toNat
  n == 0x20 || (0x9 ≤ n && n ≤ 0xD) || n == 0x85 || n == 0xA0 || n == 0x1680
    || (0x2000 ≤ n && n ≤ 0x200A) || n == 0x2028 || n == 0x2029 || n == 0x202F
    || n == 0x205F || n == 0x3000

end GenreProse
