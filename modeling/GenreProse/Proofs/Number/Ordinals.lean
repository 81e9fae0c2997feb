-- SUMMARY: Ordinals in words are read back, and end with the letters of ordinals in digits.
import GenreProse.Proofs.Number.Words
import GenreProse.Proofs.Text.Ascii
import GenreProse.Proofs.Text.Trim

/-!
# Ordinals in words

The last word of a number is determined by its last two digits, unless both are zero: then it is
`hundred`, `zero` or the name of a power. An ordinal differs from the cardinal in this word only.
So it is read back like the cardinal, and the letters that it ends with depend on two digits too.
-/

namespace GenreProse

namespace Words

/-! ## Last words -/

/-- The words that a number can end with, each with its ordinal. -/
def ordinalWords : List (String × String) :=
  [ ("zero", "zeroth"), ("one", "first"), ("two", "second"), ("three", "third"),
    ("four", "fourth"), ("five", "fifth"), ("six", "sixth"), ("seven", "seventh"),
    ("eight", "eighth"), ("nine", "ninth"), ("ten", "tenth"), ("eleven", "eleventh"),
    ("twelve", "twelfth"), ("thirteen", "thirteenth"), ("fourteen", "fourteenth"),
    ("fifteen", "fifteenth"), ("sixteen", "sixteenth"), ("seventeen", "seventeenth"),
    ("eighteen", "eighteenth"), ("nineteen", "nineteenth"), ("twenty", "twentieth"),
    ("thirty", "thirtieth"), ("forty", "fortieth"), ("fifty", "fiftieth"),
    ("sixty", "sixtieth"), ("seventy", "seventieth"), ("eighty", "eightieth"),
    ("ninety", "ninetieth"), ("hundred", "hundredth"), ("thousand", "thousandth"),
    ("million", "millionth"), ("billion", "billionth"), ("trillion", "trillionth"),
    ("quadrillion", "quadrillionth"), ("quintillion", "quintillionth") ]

/-- The word that has the ordinal. -/
def cardinalWord? (ordinal : String) : Option String :=
  (ordinalWords.find? fun row => row.2 == ordinal).map Prod.fst

/-- The integer that is written in words of which the last is an ordinal. -/
def readOrdinal? (text : String) : Option Int :=
  let words := wordsIn text
  (words.getLast?.bind cardinalWord?).bind fun last => intOf? (words.dropLast ++ [last])

example : readOrdinal? "minus two hundred and twenty-first" = some (-221) := by decide

/-- Each ordinal of the table stands for one cardinal. -/
theorem cardinalWord?_ordinal : ∀ row ∈ ordinalWords, cardinalWord? row.2 = some row.1 := by
  decide

/-- These words have no gaps in them. -/
theorem isGap_ordinalWords :
    ∀ row ∈ ordinalWords, ∀ c ∈ row.1.toList ++ row.2.toList, isGap c = false := by
  have hall : ∀ row ∈ ordinalWords,
      (row.1.toList ++ row.2.toList).all fun c => isGap c = false := by decide
  exact fun row hrow => Chars.forall_of_all (hall row hrow)

/-- The names of the powers of ten that a round number can end with. -/
def roundWords : List String :=
  "hundred" :: scales.map Prod.snd

/-- The last phrase of a number: the text before the last word, and the last word. -/
inductive Ending (n : Nat) : String → String → Prop where
  | one (small : n % 100 < 20) (shown : n % 100 = 0 → n = 0) :
      Ending n "" (ones.getD (n % 100) "")
  | ten (large : 20 ≤ n % 100) (round : n % 10 = 0) :
      Ending n "" (tens.getD (n % 100 / 10 - 2) "")
  | tenAndOne (large : 20 ≤ n % 100) (shown : n % 10 ≠ 0) :
      Ending n (tens.getD (n % 100 / 10 - 2) "" ++ "-") (ones.getD (n % 10) "")
  | round {word : String} (round : n % 100 = 0) (name : word ∈ roundWords) : Ending n "" word

variable {m n : Nat} {front word : String}

theorem ordinalWord_ones : ∀ i < 20,
    (ones.getD i "", ordinalWord (ones.getD i "")) ∈ ordinalWords := by
  decide

theorem ordinalWord_tens : ∀ i < 8,
    (tens.getD i "", ordinalWord (tens.getD i "")) ∈ ordinalWords := by
  decide

theorem ordinalWord_round : ∀ word ∈ roundWords, (word, ordinalWord word) ∈ ordinalWords := by
  decide

/-- The last word becomes its ordinal. -/
theorem Ending.mem_ordinalWords (h : Ending n front word) :
    (word, ordinalWord word) ∈ ordinalWords := by
  cases h with
  | one small => exact ordinalWord_ones _ small
  | ten => exact ordinalWord_tens _ (by omega)
  | tenAndOne => exact ordinalWord_ones _ (by omega)
  | round _ name => exact ordinalWord_round _ name

/-- Only the last two digits matter for the last phrase, unless both are zero. -/
theorem Ending.congr (h : Ending m front word) (hdigits : m % 100 = n % 100) (hm : m ≠ 0) :
    Ending n front word := by
  have hlast : m % 10 = n % 10 := by omega
  cases h with
  | one small shown =>
    rw [hdigits]
    exact .one (by omega) (by omega)
  | ten large round =>
    rw [hdigits]
    exact .ten (by omega) (by omega)
  | tenAndOne large shown =>
    rw [hdigits, hlast]
    exact .tenAndOne (by omega) (by omega)
  | round round name => exact .round (by omega) name

/-! ## Last phrases -/

/-- The phrases end with the last phrase of a number. -/
def EndWith (phrases : List String) (n : Nat) : Prop :=
  ∃ before front word, phrases = before ++ [front ++ word] ∧ Ending n front word

variable {phrases : List String}

/-- Phrases before the last one make no difference. -/
theorem EndWith.after (h : EndWith phrases n) (before : List String) :
    EndWith (before ++ phrases) n := by
  obtain ⟨middle, front, word, rfl, hending⟩ := h
  exact ⟨before ++ middle, front, word, (List.append_assoc _ _ _).symm, hending⟩

/-- A round number ends with the name of a power of ten. -/
theorem endWith_round (hround : n % 100 = 0) (hname : word ∈ roundWords) (before : List String) :
    EndWith (before ++ [word]) n :=
  ⟨before, "", word, by rw [String.empty_append], .round hround hname⟩

/-- A number ends with its last two digits, if these are shown. -/
theorem endWith_belowHundred (hshown : n % 100 = 0 → n = 0) :
    EndWith [belowHundred (n % 100)] n := by
  unfold belowHundred
  split
  · next hsmall => exact ⟨[], "", _, by rw [String.empty_append]; rfl, .one hsmall hshown⟩
  · split
    · exact ⟨[], "", _, by rw [String.empty_append]; rfl, .ten (by omega) (by omega)⟩
    · have hlast : n % 100 % 10 = n % 10 := by omega
      rw [hlast]
      exact ⟨[], _, _, rfl, .tenAndOne (by omega) (by omega)⟩

theorem endWith_belowThousand (n : Nat) : EndWith (belowThousand n) n := by
  unfold belowThousand
  split
  · exact endWith_belowHundred (by omega)
  · split
    · next hround => exact endWith_round hround (by decide) [_]
    · next hshown =>
      exact (endWith_belowHundred fun hround => absurd hround hshown).after [_, _, "and"]

/-- A number that is not zero ends with its last three digits, if these are shown. -/
theorem endWith_remainder (hn : n ≠ 0) : EndWith (remainder n) n := by
  unfold remainder
  rw [if_neg hn]
  split
  · exact (endWith_belowThousand n).after ["and"]
  · exact endWith_belowThousand n

theorem byScales_zero {scales : List (Nat × String)} (h : ∀ row ∈ scales, row.1 ≠ 0) :
    byScales scales 0 = [] := by
  induction scales with
  | nil => rfl
  | cons row scales ih =>
    obtain ⟨hrow, hrest⟩ := List.forall_mem_cons.1 h
    rw [byScales, if_neg (by omega), ih hrest]

/-- All powers of a thousand are round numbers with round names. -/
theorem scales_rows : ∀ row ∈ scales, row.1 ≠ 0 ∧ row.1 % 100 = 0 ∧ row.2 ∈ roundWords := by
  decide

/-- What is left after a power decides on the last phrase, and if nothing is left the power does. -/
theorem endWith_byScales {rows : List (Nat × String)} (hrows : ∀ row ∈ rows, row ∈ scales)
    (hn : n ≠ 0) : EndWith (byScales rows n) n := by
  induction rows generalizing n with
  | nil => exact endWith_remainder hn
  | cons row rows ih =>
    obtain ⟨hrow, hrest⟩ := List.forall_mem_cons.1 hrows
    obtain ⟨-, hround, hname⟩ := scales_rows row hrow
    rw [byScales]
    split
    · have hdvd : 100 ∣ row.1 := Nat.dvd_of_mod_eq_zero hround
      have hdigits : n % row.1 % 100 = n % 100 := Nat.mod_mod_of_dvd n hdvd
      by_cases hleft : n % row.1 = 0
      · have hzero := byScales_zero fun row hmem => (scales_rows row (hrest row hmem)).1
        rw [hleft, hzero]
        exact endWith_round (by rw [← hdigits, hleft]) hname _
      · obtain ⟨before, front, word, heq, hending⟩ := ih hrest hleft
        have hphrase : EndWith (byScales rows (n % row.1)) n :=
          ⟨before, front, word, heq, hending.congr hdigits hleft⟩
        exact (hphrase.after [row.2]).after _
    · exact ih hrest hn

/-- The words of an integer end with a word for its last digits. -/
theorem endWith_ofInt (n : Int) : EndWith (ofInt n) n.natAbs := by
  have hwords : EndWith (ofNat n.natAbs) n.natAbs := by
    unfold ofNat
    split
    · exact endWith_belowThousand _
    · exact endWith_byScales (fun _ hrow => hrow) (by omega)
  unfold ofInt
  split
  · exact hwords.after ["minus"]
  · exact hwords

/-! ## Ordinals of phrases -/

theorem mapLast_append (f : String → String) (before : List String) (last : String) :
    mapLast f (before ++ [last]) = before ++ [f last] := by
  induction before with
  | nil => rfl
  | cons phrase before ih =>
    obtain ⟨second, rest, heq⟩ := List.exists_cons_of_ne_nil
      (List.append_ne_nil_of_right_ne_nil before (List.cons_ne_nil last []))
    rw [List.cons_append, heq, mapLast, ← heq, ih, List.cons_append]
    exact List.cons_ne_nil _ _

/-- In a word without a hyphen the whole word becomes an ordinal. -/
theorem ordinalHyphenated_plain (h : '-' ∉ word.toList) :
    ordinalHyphenated word = ordinalWord word := by
  have hnone : word.toList.dropWhile (· != '-') = [] := by
    rw [List.dropWhile_eq_nil_iff]
    intro c hc
    rw [bne_iff_ne]
    rintro rfl
    exact h hc
  simp only [ordinalHyphenated, hnone]

/-- Of two words with a hyphen between them the second becomes an ordinal. -/
theorem ordinalHyphenated_append {first second : String} (h : '-' ∉ first.toList) :
    ordinalHyphenated (first ++ "-" ++ second) = first ++ "-" ++ ordinalWord second := by
  have hfirst : ∀ c ∈ first.toList, (c != '-') = true := by
    intro c hc
    rw [bne_iff_ne]
    rintro rfl
    exact h hc
  have hsplit : (first ++ "-" ++ second).toList = first.toList ++ '-' :: second.toList := by
    simp only [String.toList_append, List.append_assoc]
    rfl
  have hhyphen : ∀ c ∈ ('-' :: second.toList).head?, (c != '-') = false := by
    rintro _ ⟨⟩
    rfl
  obtain ⟨htake, hdrop⟩ := Chars.takeWhile_run hfirst hhyphen
  simp only [ordinalHyphenated, hsplit, htake, hdrop, String.ofList_toList]

theorem not_mem_of_isGap {s : Chars} (h : ∀ c ∈ s, isGap c = false) : '-' ∉ s :=
  fun hmem => absurd (h '-' hmem) (by decide)

/-- The last word has no gap in it, and neither has its ordinal. -/
theorem Ending.isGap (h : Ending n front word) :
    (∀ c ∈ word.toList, isGap c = false) ∧ ∀ c ∈ (ordinalWord word).toList, isGap c = false :=
  List.forall_mem_append.1 (isGap_ordinalWords _ h.mem_ordinalWords)

/-- In a last phrase only the last word changes. -/
theorem Ending.ordinalHyphenated (h : Ending n front word) :
    ordinalHyphenated (front ++ word) = front ++ ordinalWord word := by
  have hword : '-' ∉ word.toList := not_mem_of_isGap h.isGap.1
  cases h with
  | one | ten | round =>
    rw [String.empty_append, String.empty_append, ordinalHyphenated_plain hword]
  | tenAndOne large =>
    have hrow := isGap_ordinalWords _ (ordinalWord_tens (n % 100 / 10 - 2) (by omega))
    exact ordinalHyphenated_append (not_mem_of_isGap (List.forall_mem_append.1 hrow).1)

/-! ## Whole texts -/

/-- The text ends between two words, or it is empty. -/
def EndsInGap (text : String) : Prop :=
  ∀ c ∈ text.toList.getLast?, isGap c

theorem endsInGap_empty : EndsInGap "" := nofun

theorem EndsInGap.after {text : String} (h : EndsInGap text) {before : String}
    (hbefore : EndsInGap before) : EndsInGap (before ++ text) := by
  intro c hc
  rw [String.toList_append, List.getLast?_append] at hc
  cases hlast : text.toList.getLast? with
  | none =>
    rw [hlast, Option.none_or] at hc
    exact hbefore c hc
  | some d =>
    rw [hlast, Option.some_or] at hc
    exact h c (hlast ▸ hc)

/-- What stands before the last phrase ends in a gap. -/
theorem exists_intercalate_append (before : List String) :
    ∃ head, EndsInGap head ∧ ∀ last, " ".intercalate (before ++ [last]) = head ++ last := by
  induction before with
  | nil => exact ⟨"", endsInGap_empty, fun last => by simp⟩
  | cons phrase before ih =>
    obtain ⟨head, hgap, hintercalate⟩ := ih
    have hspace : EndsInGap (phrase ++ " ") := by
      intro c hc
      obtain rfl : ' ' = c := by simpa using hc
      rfl
    refine ⟨phrase ++ " " ++ head, hgap.after hspace, fun last => ?_⟩
    rw [List.cons_append, String.intercalate_cons_of_ne_nil (by simp), hintercalate]
    simp only [String.append_assoc]

/-- What follows a gap is split by itself. -/
theorem exists_wordsIn_append {head : String} (h : EndsInGap head) :
    ∃ words, ∀ last, (∀ c ∈ last.toList, isGap c = false) →
      wordsIn (head ++ last) = words ++ [last] := by
  rcases List.eq_nil_or_concat head.toList with hnil | ⟨front, c, hconcat⟩
  · refine ⟨[], fun last hlast => ?_⟩
    rw [wordsIn, String.toList_append, hnil, List.nil_append, Chars.splitAt_eq_singleton hlast]
    simp
  · have hc : Words.isGap c := h c (by simp [hconcat])
    refine ⟨(Chars.splitAt Words.isGap front).map String.ofList, fun last hlast => ?_⟩
    rw [wordsIn, String.toList_append, hconcat, List.concat_eq_append, List.append_assoc,
      List.singleton_append, Chars.splitAt_append_cons hc, Chars.splitAt_eq_singleton hlast]
    simp

/-- A cardinal and its ordinal are the same up to the last word. -/
theorem exists_lastWord (n : Int) : ∃ head front word, Ending n.natAbs front word ∧
    EndsInGap head ∧ cardinal n = head ++ word ∧ ordinal n = head ++ ordinalWord word := by
  obtain ⟨before, front, word, hphrases, hending⟩ := endWith_ofInt n
  obtain ⟨head, hgap, hintercalate⟩ := exists_intercalate_append before
  have hfront : EndsInGap front := by
    cases hending with
    | one | ten | round => exact endsInGap_empty
    | tenAndOne =>
      intro c hc
      obtain rfl : '-' = c := by simpa using hc
      rfl
  refine ⟨head ++ front, front, word, hending, hfront.after hgap, ?_, ?_⟩
  · rw [cardinal, hphrases, hintercalate, String.append_assoc]
  · rw [ordinal, hphrases, mapLast_append, hending.ordinalHyphenated, hintercalate,
      String.append_assoc]

/-! ## Reading -/

theorem natAbs_lt {n : Int} (h : IntegerRange.signed64.Has n) : n.natAbs < 10 ^ 21 := by
  obtain ⟨hleast, hgreatest⟩ := h
  simp only [IntegerRange.signed64] at hleast hgreatest
  omega

/-- The word for the sign is no number, so words of a number are not those of a negative one. -/
theorem intOf?_of_natOf? {words : List String} (h : natOf? words = some n) :
    intOf? words = some (n : Int) := by
  unfold intOf?
  split
  · next words =>
    have hminus : natOf? ("minus" :: words) = none := rfl
    rw [hminus] at h
    cases h
  · rw [h, Option.map_some]

/-- The words of a number are read back. -/
theorem natOf?_ofNat (hn : n < 10 ^ 21) : natOf? ((ofNat n).flatMap wordsIn) = some n :=
  hear?_ofNat hn

/-- A cardinal is read back. -/
theorem readCardinal?_cardinal {n : Int} (h : IntegerRange.signed64.Has n) :
    readCardinal? (cardinal n) = some n := by
  have hnat := natOf?_ofNat (natAbs_lt h)
  have hne : ofInt n ≠ [] := by
    obtain ⟨before, front, word, hphrases, -⟩ := endWith_ofInt n
    simp [hphrases]
  rw [readCardinal?, cardinal, wordsIn_intercalate hne]
  unfold ofInt
  split
  · next hneg =>
    have hminus : wordsIn "minus" = ["minus"] := by decide
    rw [List.flatMap_cons, hminus, List.singleton_append, intOf?, hnat, Option.map_some]
    congr 1
    omega
  · next hpos =>
    rw [intOf?_of_natOf? hnat]
    congr 1
    omega

/-- An ordinal is read back. -/
theorem readOrdinal?_ordinal {n : Int} (h : IntegerRange.signed64.Has n) :
    readOrdinal? (ordinal n) = some n := by
  obtain ⟨head, front, word, hending, hgap, hcardinal, hordinal⟩ := exists_lastWord n
  obtain ⟨words, hwords⟩ := exists_wordsIn_append hgap
  have hread := readCardinal?_cardinal h
  rw [readCardinal?, hcardinal, hwords word hending.isGap.1] at hread
  have hback := cardinalWord?_ordinal _ hending.mem_ordinalWords
  rw [readOrdinal?, hordinal, hwords _ hending.isGap.2]
  simp only [List.getLast?_concat, List.dropLast_concat, Option.bind_some, hback, hread]

/-! ## Ordinals in digits -/

/-- The letters after an ordinal depend on its last digit, and on whether it is one of the teens. -/
theorem ordinalSuffix_congr {m n : Int} (hlast : m.natAbs % 10 = n.natAbs % 10)
    (hteens : (11 ≤ m.natAbs % 100 ∧ m.natAbs % 100 ≤ 13) ↔
      (11 ≤ n.natAbs % 100 ∧ n.natAbs % 100 ≤ 13)) : ordinalSuffix m = ordinalSuffix n := by
  simp only [ordinalSuffix, Bool.and_eq_true, decide_eq_true_eq, hlast, hteens]

theorem ordinalSuffix_ones : ∀ i < 20,
    (ordinalSuffix (i : Nat)).toList <:+ (ordinalWord (ones.getD i "")).toList := by
  decide

theorem ordinalSuffix_tens : ∀ i < 8,
    (ordinalSuffix 0).toList <:+ (ordinalWord (tens.getD i "")).toList := by
  decide

theorem ordinalSuffix_round : ∀ word ∈ roundWords,
    (ordinalSuffix 0).toList <:+ (ordinalWord word).toList := by
  decide

/-- The suffix of the digits ends the ordinal of the last word. -/
theorem Ending.ordinalSuffix {n : Int} (h : Ending n.natAbs front word) :
    (ordinalSuffix n).toList <:+ (ordinalWord word).toList := by
  have hcast (i : Nat) : (i : Int).natAbs = i := Int.natAbs_natCast i
  cases h with
  | one small =>
    have hsuffix : GenreProse.ordinalSuffix n = GenreProse.ordinalSuffix (n.natAbs % 100 : Nat) :=
      ordinalSuffix_congr (by rw [hcast]; omega) (by rw [hcast]; omega)
    rw [hsuffix]
    exact ordinalSuffix_ones _ small
  | tenAndOne large =>
    have hsuffix : GenreProse.ordinalSuffix n = GenreProse.ordinalSuffix (n.natAbs % 10 : Nat) :=
      ordinalSuffix_congr (by rw [hcast]; omega) (by rw [hcast]; omega)
    rw [hsuffix]
    exact ordinalSuffix_ones _ (by omega)
  | ten large round =>
    have hsuffix : GenreProse.ordinalSuffix n = GenreProse.ordinalSuffix 0 :=
      ordinalSuffix_congr (by rw [round]; rfl) (by omega)
    rw [hsuffix]
    exact ordinalSuffix_tens _ (by omega)
  | round round name =>
    have hsuffix : GenreProse.ordinalSuffix n = GenreProse.ordinalSuffix 0 :=
      ordinalSuffix_congr (by omega) (by omega)
    rw [hsuffix]
    exact ordinalSuffix_round _ name

end Words

/-- Each integer of 64 bits is read back from its words, as a cardinal and as an ordinal. The two
    differ in the last word only, and no word is looked for outside of its table. -/
theorem number_words_readBack {n : Int} (h : IntegerRange.signed64.Has n) :
    Words.readCardinal? (cardinal n) = some n ∧
    (∃ head word ordinalWord, Words.EndsInGap head ∧ (word, ordinalWord) ∈ Words.ordinalWords ∧
      cardinal n = head ++ word ∧ ordinal n = head ++ ordinalWord) ∧
    Words.readOrdinal? (ordinal n) = some n ∧
    (∀ m, IntegerRange.signed64.Has m →
      (cardinal m = cardinal n ↔ m = n) ∧ (ordinal m = ordinal n ↔ m = n)) ∧
    Words.ofInt? n = some (Words.ofInt n) := by
  have hcardinal := Words.readCardinal?_cardinal h
  have hordinal := Words.readOrdinal?_ordinal h
  refine ⟨hcardinal, ?_, hordinal, fun m hm => ⟨⟨fun heq => ?_, fun heq => by rw [heq]⟩,
    ⟨fun heq => ?_, fun heq => by rw [heq]⟩⟩, Words.ofInt?_eq (Words.natAbs_lt h)⟩
  · obtain ⟨head, front, word, hending, hgap, hwords, hordinals⟩ := Words.exists_lastWord n
    exact ⟨head, word, _, hgap, hending.mem_ordinalWords, hwords, hordinals⟩
  · have hread := Words.readCardinal?_cardinal hm
    rw [heq, hcardinal] at hread
    exact (Option.some.inj hread).symm
  · have hread := Words.readOrdinal?_ordinal hm
    rw [heq, hordinal] at hread
    exact (Option.some.inj hread).symm

/-- The least integer, which has no opposite in 64 bits. -/
theorem number_words_readBack_least :
    IntegerRange.signed64.Has (-9223372036854775808) ∧
    cardinal (-9223372036854775808) =
      "minus nine quintillion two hundred and twenty-three quadrillion " ++
      "three hundred and seventy-two trillion thirty-six billion " ++
      "eight hundred and fifty-four million seven hundred and seventy-five thousand " ++
      "eight hundred and eight" ∧
    Words.readCardinal? (cardinal (-9223372036854775808)) = some (-9223372036854775808) ∧
    Words.readOrdinal? (ordinal (-9223372036854775808)) = some (-9223372036854775808) := by
  have hleast : IntegerRange.signed64.Has (-9223372036854775808) := by decide
  obtain ⟨hcardinal, -, hordinal, -⟩ := number_words_readBack hleast
  exact ⟨hleast, by decide +kernel, hcardinal, hordinal⟩

/-- An ordinal in words ends with the letters after the ordinal in digits. -/
theorem ordinalSuffix_suffix_ordinal (n : Int) :
    (ordinalSuffix n).toList <:+ (ordinal n).toList := by
  obtain ⟨head, front, word, hending, -, -, hordinal⟩ := Words.exists_lastWord n
  rw [hordinal, String.toList_append]
  exact hending.ordinalSuffix.trans (List.suffix_append _ _)

end GenreProse
