-- SUMMARY: Dates that are written in numbers or in English are read back.
import GenreProse.Proofs.Calendar.DayNumbers
import GenreProse.Proofs.Number.Digits

/-!
# Written dates

Dates are read in three forms, which are tried one after the other: in numbers from the year on,
with the name of the month first, and with the day first. What is written in one form is refused by
the readers before its own, also where a short year may be taken for a day. So a date is read back
with what is known of it and no more. Only in numbers may a year have a minus sign.
-/

namespace GenreProse

namespace PartialDate

variable {year : Int} {month day width : Nat} {name s rest : Chars}

/-! ## Parts -/

/-- A date is the one that is made of its parts. -/
theorem of?_parts (date : PartialDate) : of? date.year date.month date.day = some date := by
  obtain ⟨year, month, day, hvalid, hday⟩ := date
  unfold of?
  rw [dif_pos hvalid]
  split
  · next hmonth =>
    obtain rfl : month = 0 := hmonth
    obtain rfl : day = 0 := hday rfl
    rfl
  · rfl

theorem natAbs_year_lt (date : PartialDate) : date.year.natAbs < 10 ^ 4 := by
  obtain ⟨hleast, hgreatest, -⟩ := date.valid
  unfold minYear at hleast
  unfold maxYear at hgreatest
  omega

theorem month_le (date : PartialDate) : date.month ≤ 12 :=
  (Nat.le_max_left _ _).trans date.valid.2.2.2.1

theorem month_lt (date : PartialDate) : date.month < 10 ^ 2 :=
  Nat.lt_of_le_of_lt date.month_le (by decide)

theorem day_lt (date : PartialDate) : date.day < 10 ^ 2 := by
  obtain ⟨-, -, hfirst, hlast, -, hday⟩ := date.valid
  have hlength := (Date.daysInMonth_bounds date.year hfirst hlast).2
  exact Nat.lt_of_le_of_lt ((Nat.le_max_left _ _).trans (hday.trans hlength)) (by decide)

/-! ## Dates in numbers -/

/-- What follows the year in a date in numbers. -/
def afterYear? (year : Int) (s : Chars) : Option PartialDate :=
  match s with
  | [] => of? year 0 0
  | '-' :: s => do
    let (month, s) ← takeNumber? 1 2 s
    match s with
    | [] => of? year month 0
    | '-' :: s => of? year month (← onlyNumber? 1 2 s)
    | _ => none
  | _ => none

/-- The reader takes the year from its digits and goes on after it. -/
theorem ofNumbers?_digits {n : Nat} (hwidth : width ≤ 4) (hn : n < 10 ^ 4)
    (hrest : ∀ c ∈ rest.head?, c.isDigit = false) :
    ofNumbers? (paddedDigits width n ++ rest) = afterYear? n rest := by
  have htake := takeNumber?_paddedDigits hwidth (by decide) hn hrest
  obtain ⟨first, digits, hdigits, hfirst⟩ := exists_paddedDigits_cons width n
  rw [hdigits, List.cons_append] at htake ⊢
  have hsign : first ≠ '-' := by
    rintro rfl
    exact absurd hfirst (by decide)
  rw [ofNumbers?]
  · dsimp only
    rw [htake]
    rfl
  · rintro s heq
    exact hsign (List.cons.inj heq).1

/-- The reader takes a year with its sign, if it has one. -/
theorem ofNumbers?_year (hyear : year.natAbs < 10 ^ 4)
    (hrest : ∀ c ∈ rest.head?, c.isDigit = false) :
    ofNumbers? ((zeroPadded 4 year).toList ++ rest) = afterYear? year rest := by
  rw [toList_zeroPadded]
  split
  · have hwidth : 4 - 1 ≤ 4 := by decide
    have htake := takeNumber?_paddedDigits hwidth (by decide) hyear hrest
    have hsign : -(year.natAbs : Int) = year := by omega
    simp only [ofNumbers?, List.cons_append, htake, Option.bind_eq_bind, Option.bind_some, if_true,
      hsign]
    rfl
  · have hsign : (year.natAbs : Int) = year := by omega
    rw [ofNumbers?_digits (Nat.le_refl 4) hyear hrest, hsign]

/-- A text that starts with neither a digit nor a minus sign is no date in numbers. -/
theorem ofNumbers?_eq_none (hdigit : ∀ c ∈ s.head?, c.isDigit = false) (hminus : '-' ∉ s.head?) :
    ofNumbers? s = none := by
  rw [ofNumbers?]
  · simp [takeNumber?_eq_none hdigit]
  · rintro rest rfl
    exact hminus rfl

/-- After the year a month is read. -/
theorem afterYear?_month (hmonth : month < 10 ^ 2) :
    afterYear? year ('-' :: paddedDigits 2 month) = of? year month 0 := by
  have htake := takeNumber?_paddedDigits_end (Nat.le_refl 2) (by decide) hmonth
  simp only [afterYear?, htake, Option.bind_eq_bind, Option.bind_some]

/-- After the year a month and a day are read. -/
theorem afterYear?_day (hmonth : month < 10 ^ 2) (hday : day < 10 ^ 2) :
    afterYear? year ('-' :: (paddedDigits 2 month ++ '-' :: paddedDigits 2 day)) =
      of? year month day := by
  have hnext : ∀ c ∈ ('-' :: paddedDigits 2 day).head?, c.isDigit = false := by
    rintro _ ⟨⟩
    rfl
  have htake := takeNumber?_paddedDigits (Nat.le_refl 2) (by decide) hmonth hnext
  have honly := onlyNumber?_paddedDigits (Nat.le_refl 2) (by decide) hday
  simp only [afterYear?, htake, honly, Option.bind_eq_bind, Option.bind_some]

/-- Only what is known of the date is written. -/
theorem toList_iso (date : PartialDate) : date.iso.toList = (zeroPadded 4 date.year).toList ++
    if date.month = 0 then []
    else '-' :: (paddedDigits 2 date.month ++
      if date.day = 0 then [] else '-' :: paddedDigits 2 date.day) := by
  unfold iso
  dsimp only
  split
  · simp
  · split <;> simp [toList_zeroPadded_natCast]

theorem isBlank_of_mem_iso (date : PartialDate) : ∀ c ∈ date.iso.toList, isBlank c = false := by
  have hdigits (width n : Nat) : ∀ c ∈ paddedDigits width n, isBlank c = false :=
    fun _ hc => isBlank_of_isDigit (isDigit_of_mem_paddedDigits hc)
  have hminus : isBlank '-' = false := rfl
  rw [toList_iso, toList_zeroPadded]
  refine List.forall_mem_append.2 ⟨?_, ?_⟩
  · split
    · exact List.forall_mem_cons.2 ⟨hminus, hdigits _ _⟩
    · exact hdigits _ _
  · split
    · nofun
    · refine List.forall_mem_cons.2 ⟨hminus, List.forall_mem_append.2 ⟨hdigits _ _, ?_⟩⟩
      split
      · nofun
      · exact List.forall_mem_cons.2 ⟨hminus, hdigits _ _⟩

/-- A date in numbers is read back, whatever is known of it and also before the year 0. -/
theorem read?_iso (date : PartialDate) : read? date.iso = some date := by
  have hread : ofNumbers? date.iso.toList = some date := by
    rw [toList_iso, ofNumbers?_year date.natAbs_year_lt, ← of?_parts date]
    · split
      · next hmonth =>
        rw [hmonth, date.day_zero hmonth]
        rfl
      · split
        · next hday => rw [List.append_nil, afterYear?_month date.month_lt, hday]
        · exact afterYear?_day date.month_lt date.day_lt
    · split
      · nofun
      · rintro _ ⟨⟩
        rfl
  simp only [read?, Chars.trim_eq_self date.isBlank_of_mem_iso, hread,
    Option.orElse_eq_orElse, Option.orElse_eq_or, Option.some_or]

/-! ## Dates in English -/

theorem isDigit_of_isAsciiLetter {c : Char} (h : isAsciiLetter c) : c.isDigit = false := by
  rw [Bool.eq_false_iff]
  intro hdigit
  have hletter := toNat_of_isAsciiLetter h
  have hcode := toNat_of_isDigit hdigit
  omega

/-- Whether a text is a word of letters that is read as the name of a month. -/
structure IsMonthName (name : Chars) (month : Nat) : Prop where
  ne_nil : name ≠ []
  letters : ∀ c ∈ name, isAsciiLetter c
  isRead : month? (String.ofList name) = some month

instance (name : Chars) (month : Nat) : Decidable (IsMonthName name month) :=
  decidable_of_iff (name ≠ [] ∧ name.all isAsciiLetter = true ∧
      month? (String.ofList name) = some month)
    ⟨fun ⟨hne, hletters, hread⟩ => ⟨hne, List.all_eq_true.1 hletters, hread⟩,
      fun h => ⟨h.ne_nil, List.all_eq_true.2 h.letters, h.isRead⟩⟩

/-- The names of months that are written are names of months. -/
theorem isMonthName_monthName (hfirst : month ≠ 0) (hlast : month ≤ 12) :
    IsMonthName (monthName month).toList month := by
  have hall : ∀ month ∈ List.range' 1 12, IsMonthName (monthName month).toList month := by
    decide +kernel
  exact hall month (List.mem_range'_1.2 (by omega))

theorem IsMonthName.isAsciiLetter_head (h : IsMonthName name month) (rest : Chars) :
    ∀ c ∈ (name ++ rest).head?, isAsciiLetter c := by
  obtain ⟨first, letters, rfl⟩ := List.exists_cons_of_ne_nil h.ne_nil
  rintro _ ⟨⟩
  exact h.letters first List.mem_cons_self

/-- The English form of a date with a year that is not negative. -/
theorem toList_display (date : PartialDate) (hyear : 0 ≤ date.year) (dayFirst : Bool) :
    (date.display dayFirst).toList =
      let name := (monthName date.month).toList
      let year := paddedDigits 0 date.year.natAbs
      let day := paddedDigits 0 date.day
      if date.month = 0 then year
      else if date.day = 0 then name ++ ' ' :: year
      else if dayFirst then day ++ ' ' :: (name ++ ' ' :: year)
      else name ++ ' ' :: (day ++ ',' :: ' ' :: year) := by
  have hyear' := toList_toString_of_nonneg hyear
  have hday := (paddedDigits_zero date.day).symm
  have hspace : " ".toList = [' '] := rfl
  have hcomma : ", ".toList = [',', ' '] := rfl
  unfold display
  dsimp only
  split_ifs <;> simp only [String.toList_append, hyear', hday, hspace, hcomma, List.append_assoc,
    List.cons_append, List.nil_append]

/-! ### Blanks and commas -/

theorem dropComma_space (s : Chars) : dropComma (' ' :: s) = ' ' :: s :=
  rfl

theorem dropComma_comma (s : Chars) : dropComma (',' :: s) = s :=
  rfl

/-- A space before something else is a blank that is taken. -/
theorem takeBlanks?_space (h : ∀ c ∈ s.head?, isBlank c = false) :
    takeBlanks? (' ' :: s) = some s := by
  have hstart : Chars.trimStart s = s := (Chars.takeWhile_none h).2
  have hblank : isBlank ' ' = true := rfl
  simp only [takeBlanks?, hblank, if_true, hstart]

theorem takeBlanks?_digits (width n : Nat) (rest : Chars) :
    takeBlanks? (' ' :: (paddedDigits width n ++ rest)) = some (paddedDigits width n ++ rest) :=
  takeBlanks?_space (isBlank_head_paddedDigits width n rest)

/-- A text that ends with a number and does not start with a blank is trimmed. -/
theorem trim_append_digits {front : Chars} (h : ∀ c ∈ front.head?, isBlank c = false) (n : Nat) :
    Chars.trim (front ++ paddedDigits 0 n) = front ++ paddedDigits 0 n := by
  have hdigits : ∀ c ∈ paddedDigits 0 n, isBlank c = false :=
    fun _ hc => isBlank_of_isDigit (isDigit_of_mem_paddedDigits hc)
  refine Chars.trim_of_ends ?_ ?_
  · cases front with
    | nil =>
      rw [List.nil_append]
      exact fun c hc => hdigits c (List.mem_of_head? hc)
    | cons first front => exact h
  · rw [List.getLast?_append_of_ne_nil _ (paddedDigits_ne_nil 0 n)]
    exact fun c hc => hdigits c (List.mem_of_getLast? hc)

/-! ### Years and days -/

/-- A reader of a word refuses a text that starts with a digit. -/
theorem takeWord?_digits (width n : Nat) (rest : Chars) :
    takeWord? (paddedDigits width n ++ rest) = none := by
  obtain ⟨first, digits, hdigits, hfirst⟩ := exists_paddedDigits_cons width n
  have hletter : isAsciiLetter first = false := by
    rw [Bool.eq_false_iff]
    intro hletter
    exact absurd hfirst (Bool.eq_false_iff.1 (isDigit_of_isAsciiLetter hletter))
  simp [takeWord?, hdigits, hletter]

/-- Digits are no name of a month. -/
theorem ofMonthFirst?_digits (width n : Nat) (rest : Chars) :
    ofMonthFirst? (paddedDigits width n ++ rest) = none := by
  simp only [ofMonthFirst?, takeWord?_digits, Option.bind_eq_bind, Option.bind_none]

/-- A number with a blank after it is no date in numbers. -/
theorem ofNumbers?_day {day : Nat} (hday : day < 10 ^ 2) (rest : Chars) :
    ofNumbers? (paddedDigits 0 day ++ ' ' :: rest) = none := by
  refine ofNumbers?_digits (Nat.zero_le 4) (Nat.lt_trans hday (by decide)) ?_
  rintro _ ⟨⟩
  rfl

/-- The year at the end is read. -/
theorem onlyYear?_digits {n : Nat} (hn : n < 10 ^ 4) :
    (takeBlanks? (' ' :: paddedDigits 0 n)).bind (onlyNumber? 1 4) = some n := by
  have hblanks := takeBlanks?_digits 0 n []
  rw [List.append_nil] at hblanks
  rw [hblanks, Option.bind_some, onlyNumber?_paddedDigits (Nat.zero_le 4) (by decide) hn]

/-- A number that is taken ends where the digits end. -/
theorem takeNumber?_rest {least most n : Nat} (h : takeNumber? least most s = some (n, rest)) :
    rest = s.dropWhile Char.isDigit := by
  obtain ⟨-, hnumber⟩ := Option.ite_none_right_eq_some.1 h
  obtain ⟨_, -, heq⟩ := Option.map_eq_some_iff.1 hnumber
  exact (Prod.mk.inj heq).2.symm

section

variable (hname : IsMonthName name month)

include hname

/-- A name of a month is taken as one word. -/
theorem IsMonthName.takeWord?_eq (rest : Chars) :
    takeWord? (name ++ ' ' :: rest) = some (name, ' ' :: rest) := by
  have hspace : ∀ c ∈ (' ' :: rest).head?, isAsciiLetter c = false := by
    rintro _ ⟨⟩
    rfl
  obtain ⟨htake, hdrop⟩ := Chars.takeWhile_run hname.letters hspace
  obtain ⟨first, letters, rfl⟩ := List.exists_cons_of_ne_nil hname.ne_nil
  rw [takeWord?, htake, hdrop]
  rfl

/-- A text that starts with a name is no date in numbers. -/
theorem IsMonthName.ofNumbers?_eq (rest : Chars) : ofNumbers? (name ++ rest) = none := by
  have hletter := hname.isAsciiLetter_head rest
  refine ofNumbers?_eq_none (fun c hc => isDigit_of_isAsciiLetter (hletter c hc)) fun hminus => ?_
  exact absurd (hletter '-' hminus) (by decide)

/-- A date with the month first is read. -/
theorem IsMonthName.ofMonthFirst?_day {day n : Nat} (hday : day < 10 ^ 2) (hn : n < 10 ^ 4) :
    ofMonthFirst? (name ++ ' ' :: (paddedDigits 0 day ++ ',' :: ' ' :: paddedDigits 0 n)) =
      of? n month day := by
  have hcomma : ∀ c ∈ (',' :: ' ' :: paddedDigits 0 n).head?, c.isDigit = false := by
    rintro _ ⟨⟩
    rfl
  have htake := takeNumber?_paddedDigits (Nat.zero_le 2) (by decide) hday hcomma
  obtain ⟨s, hblanks, honly⟩ := Option.bind_eq_some_iff.1 (onlyYear?_digits hn)
  simp only [ofMonthFirst?, hname.takeWord?_eq, takeBlanks?_digits, htake, dropComma_comma, hblanks,
    honly, hname.isRead, Option.bind_eq_bind, Option.bind_some]

/-- Without a second number there is no day, however short the year is. -/
theorem IsMonthName.ofMonthFirst?_year (n : Nat) :
    ofMonthFirst? (name ++ ' ' :: paddedDigits 0 n) = none := by
  have hblanks := takeBlanks?_digits 0 n []
  have hend : ∀ c ∈ ([] : Chars).head?, c.isDigit = false := nofun
  have hdrop := (takeWhile_paddedDigits 0 n hend).2
  rw [List.append_nil] at hblanks hdrop
  simp only [ofMonthFirst?, hname.takeWord?_eq, hblanks, Option.bind_eq_bind, Option.bind_some]
  -- A short year is taken for a day, but the text has ended then and no year follows.
  rcases htake : takeNumber? 1 2 (paddedDigits 0 n) with _ | ⟨day, s⟩
  · rfl
  · obtain rfl : s = [] := (takeNumber?_rest htake).trans hdrop
    rfl

/-- After the day, the month and the year are read. -/
theorem IsMonthName.ofMonthAndYear?_eq {n : Nat} (hn : n < 10 ^ 4) (day : Nat) :
    ofMonthAndYear? day (name ++ ' ' :: paddedDigits 0 n) = of? n month day := by
  obtain ⟨s, hblanks, honly⟩ := Option.bind_eq_some_iff.1 (onlyYear?_digits hn)
  simp only [ofMonthAndYear?, hname.takeWord?_eq, dropComma_space, hblanks, honly, hname.isRead,
    Option.bind_eq_bind, Option.bind_some]

/-- Without a day the month may stand first in the form with the day first. -/
theorem IsMonthName.ofDayFirst?_year {n : Nat} (hn : n < 10 ^ 4) :
    ofDayFirst? (name ++ ' ' :: paddedDigits 0 n) = of? n month 0 := by
  have hletter := hname.isAsciiLetter_head (' ' :: paddedDigits 0 n)
  have htake : takeNumber? 1 2 (name ++ ' ' :: paddedDigits 0 n) = none :=
    takeNumber?_eq_none (fun c hc => isDigit_of_isAsciiLetter (hletter c hc)) 2
  simp only [ofDayFirst?, htake, hname.ofMonthAndYear?_eq hn]

/-- A date with the day first is read. -/
theorem IsMonthName.ofDayFirst?_day {day n : Nat} (hday : day < 10 ^ 2) (hn : n < 10 ^ 4) :
    ofDayFirst? (paddedDigits 0 day ++ ' ' :: (name ++ ' ' :: paddedDigits 0 n)) =
      of? n month day := by
  have hspace : ∀ c ∈ (' ' :: (name ++ ' ' :: paddedDigits 0 n)).head?, c.isDigit = false := by
    rintro _ ⟨⟩
    rfl
  have htake := takeNumber?_paddedDigits (Nat.zero_le 2) (by decide) hday hspace
  have hblanks : takeBlanks? (' ' :: (name ++ ' ' :: paddedDigits 0 n)) =
      some (name ++ ' ' :: paddedDigits 0 n) :=
    takeBlanks?_space fun c hc => isBlank_of_isAsciiLetter (hname.isAsciiLetter_head _ c hc)
  simp only [ofDayFirst?, htake, hblanks, Option.bind_some, hname.ofMonthAndYear?_eq hn]

end

/-! ### All forms -/

/-- The readers are tried in order. -/
theorem read?_of_trim {text : String} (htext : text.toList = s) (htrim : Chars.trim s = s) :
    read? text = (ofNumbers? s).or ((ofMonthFirst? s).or (ofDayFirst? s)) := by
  simp only [read?, htext, htrim, Option.orElse_eq_orElse, Option.orElse_eq_or]

/-- A date in English is read back, with the day or the month first, unless its year is negative. -/
theorem read?_display (date : PartialDate) (hyear : 0 ≤ date.year) (dayFirst : Bool) :
    read? (date.display dayFirst) = some date := by
  have htext := date.toList_display hyear dayFirst
  have hsign : (date.year.natAbs : Int) = date.year := Int.natAbs_of_nonneg hyear
  have hn := date.natAbs_year_lt
  have hdate := date.of?_parts
  rw [← hsign] at hdate
  dsimp only at htext
  generalize date.year.natAbs = n at *
  split at htext
  case isTrue hmonth =>
    have hstart : ∀ c ∈ ([] : Chars).head?, isBlank c = false := nofun
    have hend : ∀ c ∈ ([] : Chars).head?, c.isDigit = false := nofun
    have htrim := trim_append_digits hstart n
    have hnumbers := ofNumbers?_digits (Nat.zero_le 4) hn hend
    rw [List.nil_append] at htrim
    rw [List.append_nil] at hnumbers
    rw [hmonth, date.day_zero hmonth] at hdate
    rw [read?_of_trim htext htrim, hnumbers, afterYear?, hdate, Option.some_or]
  case isFalse hmonth =>
    have hname := isMonthName_monthName hmonth date.month_le
    generalize (monthName date.month).toList = name at *
    have hstart (rest : Chars) : ∀ c ∈ (name ++ rest).head?, isBlank c = false :=
      fun c hc => isBlank_of_isAsciiLetter (hname.isAsciiLetter_head rest c hc)
    split at htext
    case isTrue hday =>
      have htrim := trim_append_digits (hstart [' ']) n
      rw [List.append_assoc, List.singleton_append] at htrim
      rw [read?_of_trim htext htrim, hname.ofNumbers?_eq, hname.ofMonthFirst?_year,
        hname.ofDayFirst?_year hn, ← hday, hdate, Option.none_or, Option.none_or]
    case isFalse hday =>
      split at htext
      case isTrue =>
        have hfront : ∀ c ∈ (paddedDigits 0 date.day ++ ' ' :: (name ++ [' '])).head?,
            isBlank c = false :=
          isBlank_head_paddedDigits 0 date.day _
        have htrim := trim_append_digits hfront n
        simp only [List.append_assoc, List.cons_append, List.nil_append] at htrim
        rw [read?_of_trim htext htrim, ofNumbers?_day date.day_lt, ofMonthFirst?_digits,
          hname.ofDayFirst?_day date.day_lt hn, hdate, Option.none_or, Option.none_or]
      case isFalse =>
        have htrim := trim_append_digits (hstart (' ' :: (paddedDigits 0 date.day ++ [',', ' ']))) n
        simp only [List.append_assoc, List.cons_append, List.nil_append] at htrim
        rw [read?_of_trim htext htrim, hname.ofNumbers?_eq, hname.ofMonthFirst?_day date.day_lt hn,
          hdate, Option.none_or, Option.some_or]

/-- A date is read back as it was written: in numbers always, and in English from the year 0 on. -/
theorem read?_written (date : PartialDate) :
    read? date.iso = some date ∧
      (0 ≤ date.year → ∀ dayFirst, read? (date.display dayFirst) = some date) :=
  ⟨date.read?_iso, date.read?_display⟩

/-- A short year has zeros in front in numbers and none in English. -/
theorem read?_written_shortYear :
    let date : PartialDate := ⟨89, 7, 5, by decide, by decide⟩
    date.iso = "0089-07-05" ∧ date.display true = "5 July 89" ∧ date.display false = "July 5, 89" ∧
      read? "0089-07-05" = some date ∧ read? "5 July 89" = some date ∧
        read? "July 5, 89" = some date := by
  intro date
  have hiso : date.iso = "0089-07-05" := by decide +kernel
  have hdayFirst : date.display true = "5 July 89" := by decide +kernel
  have hmonthFirst : date.display false = "July 5, 89" := by decide +kernel
  obtain ⟨hnumbers, henglish⟩ := date.read?_written
  have hyear : 0 ≤ date.year := by decide
  refine ⟨hiso, hdayFirst, hmonthFirst, hiso ▸ hnumbers, ?_, ?_⟩
  · exact hdayFirst ▸ henglish hyear true
  · exact hmonthFirst ▸ henglish hyear false

end PartialDate

end GenreProse
