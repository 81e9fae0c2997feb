-- SUMMARY: The English words of every number are read back, and all words come from the tables.
import GenreProse.Number.Words
import GenreProse.Proofs.Number.Ranges
import Mathlib.Algebra.Group.Nat.Defs

/-!
# Number words

A listener hears the words of a number one by one. Small numbers are added to what was heard since
the last power of a thousand, `hundred` multiplies it, and the name of a power closes it. For the
words of a number this gives the number, because each group that is closed is below a thousand.
-/

namespace GenreProse

namespace Words

/-! ## Meanings -/

/-- What a word does to the number heard so far. -/
inductive Meaning where
  /-- A number below a hundred, which is added. -/
  | unit (n : Nat)
  | hundred
  /-- A power of a thousand. -/
  | power (n : Nat)
  /-- The word joins others and means nothing by itself. -/
  | filler
  deriving DecidableEq, Repr

/-- The English words that numbers are made of, except for the sign. -/
def vocabulary : List (String × Meaning) :=
  [ ("zero", .unit 0), ("one", .unit 1), ("two", .unit 2), ("three", .unit 3), ("four", .unit 4),
    ("five", .unit 5), ("six", .unit 6), ("seven", .unit 7), ("eight", .unit 8),
    ("nine", .unit 9), ("ten", .unit 10), ("eleven", .unit 11), ("twelve", .unit 12),
    ("thirteen", .unit 13), ("fourteen", .unit 14), ("fifteen", .unit 15),
    ("sixteen", .unit 16), ("seventeen", .unit 17), ("eighteen", .unit 18),
    ("nineteen", .unit 19), ("twenty", .unit 20), ("thirty", .unit 30), ("forty", .unit 40),
    ("fifty", .unit 50), ("sixty", .unit 60), ("seventy", .unit 70), ("eighty", .unit 80),
    ("ninety", .unit 90), ("hundred", .hundred), ("thousand", .power (10 ^ 3)),
    ("million", .power (10 ^ 6)), ("billion", .power (10 ^ 9)), ("trillion", .power (10 ^ 12)),
    ("quadrillion", .power (10 ^ 15)), ("quintillion", .power (10 ^ 18)), ("and", .filler) ]

/-- A number that is being heard. -/
structure Heard where
  /-- The groups that a power of a thousand has closed. -/
  closed : Nat
  /-- The group that was heard since. -/
  opened : Nat

namespace Heard

def start : Heard :=
  ⟨0, 0⟩

/-- The number heard, if nothing follows. -/
def total (heard : Heard) : Nat :=
  heard.closed + heard.opened

/-- Hears one more meaning. -/
def next (heard : Heard) : Meaning → Heard
  | .unit n => { heard with opened := heard.opened + n }
  | .hundred => { heard with opened := heard.opened * 100 }
  | .power n => ⟨heard.closed + heard.opened * n, 0⟩
  | .filler => heard

/-- Hears one more word, if it is in the vocabulary. -/
def word? (heard : Heard) (word : String) : Option Heard :=
  (vocabulary.lookup word).map heard.next

end Heard

/-- Whether the character stands between two words. -/
def isGap (c : Char) : Bool :=
  c == ' ' || c == '-'

def wordsIn (text : String) : List String :=
  (Chars.splitAt isGap text.toList).map String.ofList

def natOf? (words : List String) : Option Nat :=
  (words.foldlM Heard.word? .start).map Heard.total

def intOf? : List String → Option Int
  | "minus" :: words => (natOf? words).map fun n : Nat => -(n : Int)
  | words => (natOf? words).map fun n : Nat => (n : Int)

/-- The integer that is written in words. -/
def readCardinal? (text : String) : Option Int :=
  intOf? (wordsIn text)

example : readCardinal? "minus two million and twenty-one" = some (-2000021) := by decide

/-! ## Splitting -/

/-- The words of two texts with a gap between them are those of both. -/
theorem wordsIn_append {gap : String} (hgap : gap = " " ∨ gap = "-") (s t : String) :
    wordsIn (s ++ gap ++ t) = wordsIn s ++ wordsIn t := by
  have hcons : ∃ c, isGap c ∧ gap.toList = [c] := by
    rcases hgap with rfl | rfl
    · exact ⟨' ', rfl, rfl⟩
    · exact ⟨'-', rfl, rfl⟩
  obtain ⟨c, hc, htoList⟩ := hcons
  simp only [wordsIn, String.toList_append, htoList, List.append_assoc, List.singleton_append,
    Chars.splitAt_append_cons hc, List.map_append]

/-- The words of phrases are those of each phrase. -/
theorem wordsIn_intercalate {phrases : List String} (hne : phrases ≠ []) :
    wordsIn (" ".intercalate phrases) = phrases.flatMap wordsIn := by
  induction phrases with
  | nil => exact absurd rfl hne
  | cons phrase phrases ih =>
    cases phrases with
    | nil => simp
    | cons second phrases =>
      rw [String.intercalate_cons_cons, wordsIn_append (.inl rfl), ih (List.cons_ne_nil _ _)]
      rfl

/-! ## Single words -/

/-- The text is a single word of the vocabulary. -/
structure Means (word : String) (meaning : Meaning) : Prop where
  wordsIn : wordsIn word = [word]
  lookup : vocabulary.lookup word = some meaning

instance (word : String) (meaning : Meaning) : Decidable (Means word meaning) :=
  decidable_of_iff (Words.wordsIn word = [word] ∧ vocabulary.lookup word = some meaning)
    ⟨fun h => ⟨h.1, h.2⟩, fun h => ⟨h.1, h.2⟩⟩

theorem means_ones : ∀ n < 20, Means (ones.getD n "") (.unit n) := by
  decide

theorem means_tens : ∀ n < 8, Means (tens.getD n "") (.unit (10 * (n + 2))) := by
  decide

/-! ## Phrases -/

/-- Hears the words of some phrases, one after the other. -/
def hear? (heard : Heard) (phrases : List String) : Option Heard :=
  (phrases.flatMap wordsIn).foldlM Heard.word? heard

variable {closed n : Nat} {heard : Heard} {word first second : String}
  {phrases : List String}

@[simp] theorem hear?_nil : hear? heard [] = some heard := rfl

/-- A word is heard by what it means. -/
theorem hear?_word {meaning : Meaning} (h : Means word meaning) :
    hear? heard (word :: phrases) = hear? (heard.next meaning) phrases := by
  rw [hear?, List.flatMap_cons, h.wordsIn, List.singleton_append, List.foldlM_cons, Heard.word?,
    h.lookup]
  rfl

/-- Words with a hyphen between them are heard one after the other. -/
theorem hear?_hyphen :
    hear? heard ((first ++ "-" ++ second) :: phrases) =
      hear? heard (first :: second :: phrases) := by
  simp only [hear?, List.flatMap_cons, wordsIn_append (.inr rfl), List.append_assoc]

/-- A number below a hundred is heard as one unit. -/
theorem hear?_belowHundred (hn : n < 100) :
    hear? heard (belowHundred n :: phrases) = hear? (heard.next (.unit n)) phrases := by
  unfold belowHundred
  split
  · next hsmall => exact hear?_word (means_ones n hsmall)
  · next hlarge =>
    have hten := means_tens (n / 10 - 2) (by omega)
    have hvalue : 10 * (n / 10 - 2 + 2) = n / 10 * 10 := by omega
    rw [hvalue] at hten
    split
    · next hround =>
      have hn' : n / 10 * 10 = n := by omega
      rw [hear?_word hten, hn']
    · have hone := means_ones (n % 10) (by omega)
      rw [hear?_hyphen, hear?_word hten, hear?_word hone]
      simp only [Heard.next, Nat.add_assoc, Nat.div_add_mod']

theorem means_hundred : Means "hundred" .hundred := by decide

theorem means_and : Means "and" .filler := by decide

/-- A number below a thousand is heard from nothing. -/
theorem hear?_belowThousand (hn : n < 1000) (closed : Nat) (phrases : List String) :
    hear? ⟨closed, 0⟩ (belowThousand n ++ phrases) = hear? ⟨closed, n⟩ phrases := by
  unfold belowThousand
  split
  · next hsmall =>
    rw [List.singleton_append, hear?_belowHundred (by omega)]
    simp only [Heard.next]
    congr 2
    omega
  · have hhundreds := means_ones (n / 100) (by omega)
    rw [List.cons_append, List.cons_append, hear?_word hhundreds, hear?_word means_hundred]
    split
    · rw [List.nil_append]
      simp only [Heard.next]
      congr 2
      omega
    · rw [List.cons_append, List.singleton_append, hear?_word means_and,
        hear?_belowHundred (by omega)]
      simp only [Heard.next]
      congr 2
      omega

/-- A number at the end is heard from nothing. -/
theorem hear?_remainder (hn : n < 1000) : hear? ⟨closed, 0⟩ (remainder n) = some ⟨closed, n⟩ := by
  have hbelow := hear?_belowThousand hn closed []
  rw [List.append_nil, hear?_nil] at hbelow
  unfold remainder
  split
  · next hzero => rw [hear?_nil, hzero]
  · split
    · rw [hear?_word means_and]
      exact hbelow
    · exact hbelow

/-! ## Powers of a thousand -/

/-- The powers, the largest first, that name the groups of three digits in all numbers below the
    bound. -/
inductive Ladder : Nat → List (Nat × String) → Prop where
  | nil : Ladder 1000 []
  | cons {bound scale : Nat} {name : String} {scales : List (Nat × String)}
      (below : Ladder scale scales) (means : Means name (.power scale))
      (step : bound = 1000 * scale) : Ladder bound ((scale, name) :: scales)

variable {bound : Nat}

theorem Ladder.pos {scales : List (Nat × String)} (h : Ladder bound scales) : 0 < bound := by
  induction h with
  | nil => omega
  | cons => omega

/-- The powers of a thousand lie under each other without a gap. -/
theorem ladder_scales : Ladder (10 ^ 21) scales := by
  iterate 6 refine .cons ?_ (by decide) (by decide)
  exact .nil

/-- All words of a number below the bound are heard, and add up to the number. -/
theorem hear?_byScales {scales : List (Nat × String)} (h : Ladder bound scales) (hn : n < bound)
    (closed : Nat) :
    (hear? ⟨closed, 0⟩ (byScales scales n)).map Heard.total = some (closed + n) := by
  induction h generalizing closed n with
  | nil => rw [byScales, hear?_remainder hn, Option.map_some, Heard.total]
  | @cons bound scale name scales below means step ih =>
    rw [byScales]
    split
    · have hgroup : n / scale < 1000 := Nat.div_lt_of_lt_mul (by rwa [Nat.mul_comm, ← step])
      have hrest : n % scale < scale := Nat.mod_lt _ below.pos
      rw [hear?_belowThousand hgroup, hear?_word means, Heard.next, ih hrest, Nat.add_assoc,
        Nat.div_add_mod']
    · exact ih (by omega) closed

/-- The words of a number add up to it. -/
theorem hear?_ofNat (hn : n < 10 ^ 21) : (hear? .start (ofNat n)).map Heard.total = some n := by
  unfold ofNat
  split
  · next hsmall =>
    have hbelow := hear?_belowThousand hsmall 0 []
    rw [List.append_nil, hear?_nil] at hbelow
    rw [Heard.start, hbelow, Option.map_some, Heard.total, Nat.zero_add]
  · have hall := hear?_byScales ladder_scales hn 0
    rwa [Nat.zero_add] at hall

/-! ## Tables -/

/-- The word for the tens of a number. There is none outside of the table. -/
def ten? (n : Nat) : Option String :=
  if 2 ≤ n / 10 then tens[n / 10 - 2]? else none

/-- A number below a hundred, unless a word is looked for outside of its table. -/
def belowHundred? (n : Nat) : Option String :=
  if n < 20 then ones[n]?
  else if n % 10 = 0 then ten? n
  else do return (← ten? n) ++ "-" ++ (← ones[n % 10]?)

def belowThousand? (n : Nat) : Option (List String) :=
  if n / 100 = 0 then do return [← belowHundred? (n % 100)]
  else do
    let hundreds ← ones[n / 100]?
    if n % 100 = 0 then return [hundreds, "hundred"]
    else return [hundreds, "hundred", "and", ← belowHundred? (n % 100)]

/-- What is left of a number, unless a word is looked for outside of its table. -/
def remainder? (n : Nat) : Option (List String) :=
  if n = 0 then some []
  else if n < 100 then do return "and" :: (← belowThousand? n)
  else belowThousand? n

def byScales? : List (Nat × String) → Nat → Option (List String)
  | [], n => remainder? n
  | (scale, name) :: scales, n =>
    if scale ≤ n then do
      return (← belowThousand? (n / scale)) ++ name :: (← byScales? scales (n % scale))
    else byScales? scales n

def ofNat? (n : Nat) : Option (List String) :=
  if n < 1000 then belowThousand? n else byScales? scales n

def ofInt? (n : Int) : Option (List String) := do
  let words ← ofNat? n.natAbs
  return if n < 0 then "minus" :: words else words

example : ofInt? (10 ^ 22) = none := by decide

theorem getElem?_eq_some_getD {table : List String} (h : n < table.length) :
    table[n]? = some (table.getD n "") := by
  simp [h]

/-- The word for the tens is in its table. -/
theorem ten?_eq (hlow : 20 ≤ n) (hhigh : n < 100) : ten? n = some (tens.getD (n / 10 - 2) "") := by
  have htable : n / 10 - 2 < tens.length := by
    change n / 10 - 2 < 8
    omega
  rw [ten?, if_pos (by omega), getElem?_eq_some_getD htable]

/-- The word for the ones is in its table. -/
theorem ones_eq (hn : n < 20) : ones[n]? = some (ones.getD n "") :=
  getElem?_eq_some_getD hn

/-- The words of a number below a hundred are in their tables. -/
theorem belowHundred?_eq (hn : n < 100) : belowHundred? n = some (belowHundred n) := by
  unfold belowHundred? belowHundred
  split
  · next hsmall => exact ones_eq hsmall
  · next hlarge =>
    rw [ten?_eq (by omega) hn, ones_eq (by omega)]
    split <;> rfl

/-- The words of a number below a thousand are in their tables. -/
theorem belowThousand?_eq (hn : n < 1000) : belowThousand? n = some (belowThousand n) := by
  unfold belowThousand? belowThousand
  rw [belowHundred?_eq (Nat.mod_lt _ (by omega)), ones_eq (by omega)]
  split
  · rfl
  · simp only [Option.bind_eq_bind, Option.bind_some]
    split <;> rfl

theorem remainder?_eq (hn : n < 1000) : remainder? n = some (remainder n) := by
  unfold remainder? remainder
  rw [belowThousand?_eq hn]
  split
  · rfl
  · split <;> rfl

/-- The words of a number below the greatest power of a thousand are in their tables. -/
theorem byScales?_eq {scales : List (Nat × String)} (h : Ladder bound scales) (hn : n < bound) :
    byScales? scales n = some (byScales scales n) := by
  induction h generalizing n with
  | nil => exact remainder?_eq hn
  | @cons bound scale name scales below means step ih =>
    rw [byScales?, byScales]
    split
    · have hgroup : n / scale < 1000 := Nat.div_lt_of_lt_mul (by rwa [Nat.mul_comm, ← step])
      rw [belowThousand?_eq hgroup, ih (Nat.mod_lt _ below.pos)]
      rfl
    · exact ih (by omega)

/-- No look-up for the words of a number is out of range. -/
theorem ofNat?_eq (hn : n < 10 ^ 21) : ofNat? n = some (ofNat n) := by
  unfold ofNat? ofNat
  split
  · next hsmall => exact belowThousand?_eq hsmall
  · exact byScales?_eq ladder_scales hn

/-- No word is looked for outside of its table. -/
theorem ofInt?_eq {n : Int} (hn : n.natAbs < 10 ^ 21) : ofInt? n = some (ofInt n) := by
  unfold ofInt? ofInt
  rw [ofNat?_eq hn, Option.bind_eq_bind, Option.bind_some]
  split <;> rfl

end Words

end GenreProse
