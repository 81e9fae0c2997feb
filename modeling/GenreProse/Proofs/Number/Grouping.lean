-- SUMMARY: Grouping digits loses nothing, and grouping twice is grouping once.
import GenreProse.Proofs.Number.Digits

/-!
# Grouped digits

Grouped digits are one to three digits and then groups of three, each after a comma. Without the
commas they are the digits again. In a decimal number only the whole digits are grouped. The text
changes in two more ways: the minus sign gets its typographic form, and a point without digits after
it is dropped. A text that is no decimal number stays, so a number that has commas stays too.
-/

namespace GenreProse

variable {s : Chars}

/-! ## Groups -/

/-- One to three digits, and then groups of three digits, each after a comma. -/
inductive Grouped : Chars → Prop where
  | first {group : Chars} (digits : ∀ c ∈ group, c.isDigit) (ne_nil : group ≠ [])
      (length : group.length ≤ 3) : Grouped group
  | next {s group : Chars} (before : Grouped s) (digits : ∀ c ∈ group, c.isDigit)
      (length : group.length = 3) : Grouped (s ++ ',' :: group)

/-- A digit is the last character of the first text. The second starts with three digits, which a
    comma or the end follows. -/
def MayJoin (before after : Chars) : Prop :=
  (∃ d ∈ before.getLast?, d.isDigit) ∧
  ∃ group rest, after = group ++ rest ∧ group.length = 3 ∧ (∀ c ∈ group, c.isDigit) ∧
    ∀ c ∈ rest.head?, c = ','

/-- Each comma stands between a digit and three digits, which a comma or the end follows. -/
def HasCommasByThree (s : Chars) : Prop :=
  ∀ before after, s = before ++ ',' :: after → MayJoin before after

/-- The text with its commas removed. -/
def withoutCommas (s : Chars) : Chars :=
  s.filter (· != ',')

theorem comma_not_mem (h : ∀ c ∈ s, c.isDigit) : ',' ∉ s :=
  fun hmem => absurd (h ',' hmem) (by decide)

theorem withoutCommas_eq_self (h : ',' ∉ s) : withoutCommas s = s := by
  rw [withoutCommas, List.filter_eq_self]
  intro c hc
  rw [bne_iff_ne]
  rintro rfl
  exact h hc

theorem withoutCommas_append (s t : Chars) :
    withoutCommas (s ++ t) = withoutCommas s ++ withoutCommas t :=
  List.filter_append s t

/-- Commas may be taken out before or after the text is turned around. -/
theorem withoutCommas_reverse (s : Chars) : withoutCommas s.reverse = (withoutCommas s).reverse :=
  List.filter_reverse

namespace Grouped

theorem isDigit_getLast? (h : Grouped s) : ∃ d ∈ s.getLast?, d.isDigit := by
  -- The last group is not empty, whichever group it is.
  obtain ⟨front, group, rfl, hdigits, hne⟩ :
      ∃ front group, s = front ++ group ∧ (∀ c ∈ group, c.isDigit) ∧ group ≠ [] := by
    cases h with
    | first digits ne_nil => exact ⟨[], s, rfl, digits, ne_nil⟩
    | @next front group _ digits length =>
      have hne : group ≠ [] := List.ne_nil_of_length_pos (by omega)
      exact ⟨front ++ [','], group, by simp, digits, hne⟩
  have hlast : (front ++ group).getLast? = some (group.getLast hne) := by
    rw [List.getLast?_append, List.getLast?_eq_some_getLast hne, Option.some_or]
  exact ⟨_, hlast, hdigits _ (List.getLast_mem hne)⟩

/-- Grouped digits have their commas after each three digits from the right. -/
theorem hasCommasByThree (h : Grouped s) : HasCommasByThree s := by
  induction h with
  | @first group digits =>
    rintro before after rfl
    exact absurd (by simp) (comma_not_mem digits)
  | @next s group hs digits length ih =>
    intro before after hsplit
    have hadded : MayJoin s group :=
      ⟨hs.isDigit_getLast?, group, [], (List.append_nil group).symm, length, digits, nofun⟩
    rcases List.append_eq_append_iff.1 hsplit with ⟨middle, rfl, hafter⟩ | ⟨middle, rfl, hafter⟩
    · -- The comma is the added one, because none is in the last group.
      cases middle with
      | nil => rwa [List.append_nil, ← (List.cons.inj hafter).2]
      | cons c middle =>
        have hmem : ',' ∈ group := (List.cons.inj hafter).2 ▸ by simp
        exact absurd hmem (comma_not_mem digits)
    · cases middle with
      | nil => rwa [List.append_nil, ← (List.cons.inj hafter).2] at hadded
      | cons c middle =>
        -- The comma was there before, and what follows its group is longer now.
        obtain ⟨rfl, rfl⟩ := List.cons.inj hafter
        obtain ⟨hlast, three, rest, rfl, hthree, hdigits, hhead⟩ := ih before middle rfl
        refine ⟨hlast, three, rest ++ ',' :: group, List.append_assoc .., hthree, hdigits, ?_⟩
        cases rest with
        | nil => simp
        | cons d rest => exact hhead

end Grouped

/-- A comma is never the first character, so something else may stand in front. -/
theorem HasCommasByThree.cons (h : HasCommasByThree s) {c : Char} (hc : c ≠ ',') :
    HasCommasByThree (c :: s) := by
  intro before after hsplit
  cases before with
  | nil => exact absurd (List.cons.inj hsplit).1 hc
  | cons b before =>
    obtain ⟨hlast, hgroup⟩ := h before after (List.cons.inj hsplit).2
    obtain ⟨d, hd, hdigit⟩ := hlast
    exact ⟨⟨d, by simp_all [List.getLast?_cons], hdigit⟩, hgroup⟩

/-! ## Grouping -/

/-- Without its commas a grouped text is the text itself. -/
theorem withoutCommas_groupByThree (h : ',' ∉ s) : withoutCommas (groupByThree s) = s := by
  fun_induction groupByThree s with
  | case1 a b c d rest ih =>
    obtain ⟨hfront, hrest⟩ : ',' ∉ [a, b, c] ∧ ',' ∉ d :: rest :=
      not_or.1 (mt List.mem_append.2 h)
    calc withoutCommas ([a, b, c] ++ ',' :: groupByThree (d :: rest))
      _ = withoutCommas [a, b, c] ++ withoutCommas (groupByThree (d :: rest)) :=
        withoutCommas_append _ _
      _ = [a, b, c] ++ d :: rest := by rw [withoutCommas_eq_self hfront, ih hrest]
  | case2 => exact withoutCommas_eq_self h

/-- From the right, three digits and a comma stand before the groups that are left. -/
theorem grouped_groupByThree (hdigits : ∀ c ∈ s, c.isDigit) (hne : s ≠ []) :
    Grouped (groupByThree s).reverse := by
  fun_induction groupByThree s with
  | case1 a b c d rest ih =>
    obtain ⟨hfront, hrest⟩ : (∀ e ∈ [a, b, c], e.isDigit) ∧ ∀ e ∈ d :: rest, e.isDigit :=
      List.forall_mem_append.1 hdigits
    have hsplit : (a :: b :: c :: ',' :: groupByThree (d :: rest)).reverse =
        (groupByThree (d :: rest)).reverse ++ ',' :: [a, b, c].reverse := by simp
    rw [hsplit]
    exact (ih hrest (List.cons_ne_nil _ _)).next (fun e he => hfront e (List.mem_reverse.1 he)) rfl
  | case2 digits hshort =>
    refine .first (fun c hc => hdigits c (List.mem_reverse.1 hc)) (by simpa using hne) ?_
    rw [List.length_reverse]
    match digits, hshort with
    | [], _ | [_], _ | [_, _], _ | [_, _, _], _ => simp
    | a :: b :: c :: d :: rest, hshort => exact absurd rfl (hshort a b c d rest)

/-- A text that is not grouped has a comma. -/
theorem groupByThree_eq_self_or (s : Chars) : groupByThree s = s ∨ ',' ∈ groupByThree s := by
  fun_cases groupByThree s with
  | case1 => exact .inr (by simp)
  | case2 => exact .inl rfl

/-- Digits are grouped by grouping. -/
theorem grouped_groupDigits (hdigits : ∀ c ∈ s, c.isDigit) (hne : s ≠ []) :
    Grouped (groupDigits s) :=
  grouped_groupByThree (fun c hc => hdigits c (List.mem_reverse.1 hc))
    (mt List.reverse_eq_nil_iff.1 hne)

/-- Without the commas the digits are left. -/
theorem withoutCommas_groupDigits (h : ',' ∉ s) : withoutCommas (groupDigits s) = s := by
  rw [groupDigits, withoutCommas_reverse,
    withoutCommas_groupByThree (mt List.mem_reverse.1 h), List.reverse_reverse]

theorem groupDigits_eq_self_or (s : Chars) : groupDigits s = s ∨ ',' ∈ groupDigits s := by
  refine (groupByThree_eq_self_or s.reverse).imp (fun heq => ?_) List.mem_reverse.2
  rw [groupDigits, heq, List.reverse_reverse]

/-! ## Integers -/

/-- The sign of an integer in decimal digits. -/
def signOf (n : Int) : Chars :=
  if n < 0 then ['-'] else []

theorem signOf_natCast (n : Nat) : signOf n = [] :=
  if_neg (Int.not_lt.2 (Int.natCast_nonneg n))

theorem toList_toString (n : Int) :
    (toString n).toList = signOf n ++ (toString n.natAbs).toList := by
  cases n with
  | ofNat n => rfl
  | negSucc n =>
    rw [signOf, if_pos (Int.negSucc_lt_zero n)]
    exact String.toList_append

/-- The sign of an integer stands before its groups. -/
theorem toList_groupThousands (n : Int) :
    (groupThousands n).toList = signOf n ++ groupDigits (toString n.natAbs).toList :=
  String.toList_ofList

theorem grouped_natAbs (n : Int) : Grouped (groupDigits (toString n.natAbs).toList) :=
  grouped_groupDigits (fun _ hc => isDigit_of_mem_toString hc)
    (List.ne_nil_of_length_pos (length_toString_pos _))

/-- Without the commas an integer is left as it is written. -/
theorem withoutCommas_groupThousands (n : Int) :
    withoutCommas (groupThousands n).toList = (toString n).toList := by
  have hsign : ',' ∉ signOf n := by
    rw [signOf]
    split <;> decide
  have hdigits : ',' ∉ (toString n.natAbs).toList :=
    comma_not_mem fun _ hc => isDigit_of_mem_toString hc
  rw [toList_groupThousands, withoutCommas_append, withoutCommas_eq_self hsign,
    withoutCommas_groupDigits hdigits, toList_toString]

/-- An integer has its commas after each three digits from the right. -/
theorem hasCommasByThree_groupThousands (n : Int) :
    HasCommasByThree (groupThousands n).toList := by
  have hgrouped := (grouped_natAbs n).hasCommasByThree
  rw [toList_groupThousands, signOf]
  split
  · rw [List.singleton_append]
    exact hgrouped.cons (by decide)
  · rwa [List.nil_append]

/-! ## Decimal numbers -/

/-- A decimal number as it may be written. -/
@[ext]
structure Decimal where
  /-- A minus sign of either kind, or nothing. -/
  sign : Chars
  whole : Chars
  /-- A point and the digits after it, or nothing. -/
  tail : Chars
  isSign : sign = [] ∨ sign = ['-'] ∨ sign = [minusSign]
  isDigit_of_mem_whole : ∀ c ∈ whole, c.isDigit
  whole_ne_nil : whole ≠ []
  isTail : tail = [] ∨ ∃ fraction, tail = '.' :: fraction ∧ ∀ c ∈ fraction, c.isDigit

namespace Decimal

variable (number : Decimal)

def text : Chars :=
  number.sign ++ (number.whole ++ number.tail)

def groupedText : Chars :=
  number.sign ++ (groupDigits number.whole ++ number.tail)

/-- The number with a typographic minus sign, and without a point that no digit follows. -/
def tidied : Decimal where
  sign := if number.sign = [] then [] else [minusSign]
  whole := number.whole
  tail := if number.tail = ['.'] then [] else number.tail
  isSign := by split <;> simp
  isDigit_of_mem_whole := number.isDigit_of_mem_whole
  whole_ne_nil := number.whole_ne_nil
  isTail := by
    split
    · exact .inl rfl
    · exact number.isTail

/-- A whole number in decimal digits. -/
def ofNat (n : Nat) : Decimal where
  sign := []
  whole := (toString n).toList
  tail := []
  isSign := .inl rfl
  isDigit_of_mem_whole := fun _ hc => isDigit_of_mem_toString hc
  whole_ne_nil := List.ne_nil_of_length_pos (length_toString_pos n)
  isTail := .inl rfl

theorem text_ofNat (n : Nat) : (ofNat n).text = (toString n).toList := by
  simp [text, ofNat]

theorem groupedText_tidied_ofNat (n : Nat) :
    (ofNat n).tidied.groupedText = groupDigits (toString n).toList := by
  simp [groupedText, tidied, ofNat]

/-- A tidied number has nothing left to tidy. -/
theorem tidied_tidied : number.tidied.tidied = number.tidied := by
  ext1
  · simp only [tidied]
    split <;> simp
  · rfl
  · simp only [tidied]
    split <;> simp_all

theorem comma_not_mem_text : ',' ∉ number.text := by
  rw [text, List.mem_append, List.mem_append, not_or, not_or]
  refine ⟨?_, comma_not_mem number.isDigit_of_mem_whole, ?_⟩
  · rcases number.isSign with h | h | h <;> rw [h] <;> decide
  · rcases number.isTail with h | ⟨fraction, h, hdigits⟩
    · rw [h]
      exact List.not_mem_nil
    · rw [h, List.mem_cons, not_or]
      exact ⟨by decide, comma_not_mem hdigits⟩

/-- Without the commas a number is left as it is written. -/
theorem withoutCommas_groupedText : withoutCommas number.groupedText = number.text := by
  have hcomma := number.comma_not_mem_text
  rw [text, List.mem_append, List.mem_append, not_or, not_or] at hcomma
  obtain ⟨hsign, hwhole, htail⟩ := hcomma
  rw [groupedText, withoutCommas_append, withoutCommas_append, withoutCommas_eq_self hsign,
    withoutCommas_groupDigits hwhole, withoutCommas_eq_self htail, text]

theorem groupedText_eq_text_or : number.groupedText = number.text ∨ ',' ∈ number.groupedText := by
  refine (groupDigits_eq_self_or number.whole).imp (fun heq => ?_) fun hmem => ?_
  · rw [groupedText, heq, text]
  · simp [groupedText, hmem]

/-! ### Parts -/

/-- The sign is split off before the number. -/
theorem splitMinus_text :
    splitMinus number.text = (!number.sign.isEmpty, number.whole ++ number.tail) := by
  rcases number.isSign with h | h | h
  · -- A digit is no minus sign.
    obtain ⟨d, whole, hwhole⟩ := List.exists_cons_of_ne_nil number.whole_ne_nil
    have hdigit : d.isDigit := number.isDigit_of_mem_whole d (hwhole ▸ List.mem_cons_self)
    have hminus : ¬(d = '-' ∨ d = minusSign) := by
      rintro (rfl | rfl) <;> exact absurd hdigit (by decide)
    simp [text, h, hwhole, splitMinus, not_or.1 hminus]
  · simp [text, h, splitMinus]
  · simp [text, h, splitMinus]

/-- The whole part ends at the point. -/
theorem splitPoint_whole_tail :
    splitPoint (number.whole ++ number.tail) = (number.whole, number.tail.drop 1) := by
  have hwhole : ∀ c ∈ number.whole, (c == '.') = false := by
    intro c hc
    rw [beq_eq_false_iff_ne]
    rintro rfl
    exact absurd (number.isDigit_of_mem_whole '.' hc) (by decide)
  rcases number.isTail with h | ⟨fraction, h, -⟩
  · rw [h, List.append_nil, splitPoint, Chars.cutAt?_eq_none hwhole]
    rfl
  · rw [h, splitPoint, Chars.cutAt?_first hwhole (beq_self_eq_true '.')]
    rfl

/-- A text that is a number is grouped in its whole part. -/
theorem toList_groupDecimal {s : String} (h : s.toList = number.text) :
    (groupDecimal s).toList = number.tidied.groupedText := by
  have hnonempty : number.whole.isEmpty = false := List.isEmpty_eq_false_iff.2 number.whole_ne_nil
  have hwhole : number.whole.all Char.isDigit := List.all_eq_true.2 number.isDigit_of_mem_whole
  have hfraction : (number.tail.drop 1).all Char.isDigit := by
    rcases number.isTail with h | ⟨fraction, h, hdigits⟩
    · rw [h]
      rfl
    · rw [h]
      exact List.all_eq_true.2 hdigits
  have hpoint : (if (number.tail.drop 1).isEmpty then [] else '.' :: number.tail.drop 1) =
      number.tidied.tail := by
    rcases number.isTail with h | ⟨fraction, h, -⟩
    · simp [tidied, h]
    · simp [tidied, h]
  simp only [groupDecimal, h, splitMinus_text, splitPoint_whole_tail, hnonempty, hwhole, hfraction,
    hpoint, Bool.not_true, Bool.or_self, Bool.false_eq_true, if_false, String.toList_ofList]
  simp [groupedText, tidied]

example : groupDecimal "-12345." = "\u221212,345" := by decide

end Decimal

/-- Splitting off a sign loses nothing. -/
theorem splitMinus_append (s : Chars) :
    ∃ sign, (sign = [] ∨ sign = ['-'] ∨ sign = [minusSign]) ∧ s = sign ++ (splitMinus s).2 := by
  fun_cases splitMinus s with
  | case1 c s hc => exact ⟨[c], by simpa using hc, rfl⟩
  | case2 => exact ⟨[], .inl rfl, rfl⟩
  | case3 => exact ⟨[], .inl rfl, rfl⟩

/-- Splitting at the point loses nothing. -/
theorem splitPoint_append (s : Chars) :
    ∃ tail, (tail = [] ∨ tail = '.' :: (splitPoint s).2) ∧ s = (splitPoint s).1 ++ tail := by
  cases hcut : Chars.cutAt? (· == '.') s with
  | none =>
    rw [splitPoint, hcut]
    exact ⟨[], .inl rfl, (List.append_nil s).symm⟩
  | some parts =>
    obtain ⟨c, hc, hs⟩ := Chars.eq_append_of_cutAt? hcut
    rw [splitPoint, hcut]
    exact ⟨'.' :: parts.2, .inr rfl, eq_of_beq hc ▸ hs⟩

/-- What is not the text of a decimal number stays as it is. -/
theorem groupDecimal_eq_self_or (s : String) :
    groupDecimal s = s ∨ ∃ number : Decimal, s.toList = number.text := by
  obtain ⟨sign, hsign, hminus⟩ := splitMinus_append s.toList
  obtain ⟨tail, htail, hpoint⟩ := splitPoint_append (splitMinus s.toList).2
  simp only [groupDecimal]
  split
  · exact .inl rfl
  · next hparts =>
    simp only [Bool.or_eq_true, Bool.not_eq_true', not_or, Bool.not_eq_false] at hparts
    obtain ⟨⟨hne, hwhole⟩, hfraction⟩ := hparts
    refine .inr ⟨⟨sign, (splitPoint (splitMinus s.toList).2).1, tail, hsign,
      List.all_eq_true.1 hwhole, mt List.isEmpty_iff.2 hne, ?_⟩, ?_⟩
    · exact htail.imp_right fun h => ⟨_, h, List.all_eq_true.1 hfraction⟩
    · rw [Decimal.text, ← hpoint, ← hminus]

/-- A text with commas is left as it is. -/
theorem groupDecimal_eq_self {s : String} (h : ',' ∈ s.toList) : groupDecimal s = s := by
  refine (groupDecimal_eq_self_or s).resolve_right fun ⟨number, hnumber⟩ => ?_
  exact number.comma_not_mem_text (hnumber ▸ h)

/-- Grouping twice is grouping once. -/
theorem groupDecimal_groupDecimal (s : String) :
    groupDecimal (groupDecimal s) = groupDecimal s := by
  rcases groupDecimal_eq_self_or s with heq | ⟨number, hnumber⟩
  · rw [heq, heq]
  have hgrouped := number.toList_groupDecimal hnumber
  rcases number.tidied.groupedText_eq_text_or with heq | hcomma
  · -- Without a comma the grouped text is a decimal number again, and a tidy one.
    rw [heq] at hgrouped
    rw [← String.toList_inj, number.tidied.toList_groupDecimal hgrouped, number.tidied_tidied, heq,
      hgrouped]
  · exact groupDecimal_eq_self (hgrouped ▸ hcomma)

/-- Grouping digits loses nothing. The commas of an integer stand before groups of three digits, and
    without them its digits are as before. A number that is not negative is grouped in the same way
    as a decimal number. Any text is grouped only once, and without the commas that it gets it is as
    before, up to its minus sign and a point at its end. -/
theorem grouping_lossless :
    (∀ n : Int, withoutCommas (groupThousands n).toList = (toString n).toList ∧
      HasCommasByThree (groupThousands n).toList ∧
      ∃ grouped, (groupThousands n).toList = signOf n ++ grouped ∧ Grouped grouped) ∧
    (∀ n : Nat, groupDecimal (toString n) = groupThousands n) ∧
    ∀ s : String, groupDecimal (groupDecimal s) = groupDecimal s ∧
      (groupDecimal s = s ∨ ∃ number : Decimal, s.toList = number.text ∧
        withoutCommas (groupDecimal s).toList = number.tidied.text) := by
  refine ⟨fun n => ?_, fun n => ?_, fun s => ⟨groupDecimal_groupDecimal s, ?_⟩⟩
  · exact ⟨withoutCommas_groupThousands n, hasCommasByThree_groupThousands n,
      _, toList_groupThousands n, grouped_natAbs n⟩
  · rw [← String.toList_inj, (Decimal.ofNat n).toList_groupDecimal (Decimal.text_ofNat n).symm,
      Decimal.groupedText_tidied_ofNat, toList_groupThousands, signOf_natCast, Int.natAbs_natCast,
      List.nil_append]
  · refine (groupDecimal_eq_self_or s).imp_right fun ⟨number, hnumber⟩ => ⟨number, hnumber, ?_⟩
    rw [number.toList_groupDecimal hnumber, number.tidied.withoutCommas_groupedText]

end GenreProse
