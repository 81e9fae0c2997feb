-- SUMMARY: When the removal of a name cuts a word of the description in two.
import GenreProse.Proofs.Restatement.Repetition
import GenreProse.Text.Digit
import GenreProse.Text.Letter

/-!
# Word breaks

A template call ends with a brace and a name in bold with a quote, so that no word goes on after
them. A plain name has no mark at its end: it is dropped also where it is only the start of a longer
word. This is the only way in which a word of the description is cut in two.
-/

namespace GenreProse

open Chars

/-- Whether no code point is in both spans. -/
def Span.apart (a b : Span) : Bool :=
  a.last.blt b.first || b.last.blt a.first

theorem Span.not_mem_of_apart {a b : Span} (h : a.apart b) {code : Nat}
    (ha : a.first ≤ code ∧ code ≤ a.last) : ¬(b.first ≤ code ∧ code ≤ b.last) := by
  simp only [apart, Bool.or_eq_true, Nat.blt_eq] at h
  omega

namespace Restatement

variable {words : List Chars} {s rest : Chars}

/-! ## Letters and digits -/

/-- Whether the character is a letter or a decimal digit, of any script. -/
def isWordChar (c : Char) : Bool :=
  isLetter c || isDecimalDigit c

/-- The letters and the digits as spans. -/
def wordSpans : List Span :=
  letterSpans ++ digitZeros.map fun start => ⟨start, start + 9⟩

/-- The letters and digits are in their spans. -/
theorem exists_span_of_isWordChar {c : Char} (h : isWordChar c) :
    ∃ span ∈ wordSpans, span.first ≤ c.toNat ∧ c.toNat ≤ span.last := by
  simp only [wordSpans, List.mem_append, List.mem_map]
  rcases Bool.or_eq_true_iff.1 h with hletter | hdigit
  · unfold isLetter at hletter
    split at hletter
    · rcases toNat_of_isAsciiLetter hletter with hcapital | hsmall
      · exact ⟨⟨0x41, 0x5A⟩, .inl List.mem_cons_self, hcapital⟩
      · exact ⟨⟨0x61, 0x7A⟩, .inl (List.mem_cons_of_mem _ List.mem_cons_self), hsmall⟩
    · obtain ⟨span, hspan, hcode⟩ := List.any_eq_true.1 hletter
      exact ⟨span, .inl hspan, by simpa using hcode⟩
  · unfold isDecimalDigit at hdigit
    split at hdigit
    · exact ⟨⟨0x30, 0x39⟩, .inr ⟨0x30, List.mem_cons_self, rfl⟩, toNat_of_isDigit hdigit⟩
    · obtain ⟨start, hstart, hcode⟩ := List.any_eq_true.1 hdigit
      simp only [Bool.and_eq_true, decide_eq_true_eq] at hcode
      exact ⟨⟨start, start + 9⟩, .inr ⟨start, hstart, rfl⟩, hcode.1, Nat.le_of_lt_succ hcode.2⟩

theorem wordSpans_apart : (wordSpans.all fun span => caselessSpans.all span.apart) = true := by
  decide +kernel

/-- What stands between words or next to them is no part of a word. -/
theorem isWordChar_of_isCaseless {c : Char} (h : isCaseless c) : isWordChar c = false := by
  rw [Bool.eq_false_iff]
  intro hword
  obtain ⟨caseless, hcaseless, hcode⟩ := Span.exists_of_any h
  obtain ⟨span, hspan, hcode'⟩ := exists_span_of_isWordChar hword
  have hapart := List.all_eq_true.1 (List.all_eq_true.1 wordSpans_apart span hspan) _ hcaseless
  exact Span.not_mem_of_apart hapart hcode' hcode

theorem isWordChar_of_isBlank {c : Char} (h : isBlank c) : isWordChar c = false :=
  isWordChar_of_isCaseless (isCaseless_of_isSeparator (by simp [isSeparator, h]))

/-! ## Cuts -/

/-- Whether the text ends with a letter or digit. -/
def EndsInWord (s : Chars) : Prop :=
  ∃ c ∈ s.getLast?, isWordChar c

/-- Whether the text starts with a letter or digit. -/
def StartsInWord (s : Chars) : Prop :=
  ∃ c ∈ s.head?, isWordChar c

/-- Whether the text is cut inside of a word: what is dropped ends with a letter or digit, and what is
    left starts with one. -/
def CutsWord (s rest : Chars) : Prop :=
  ∃ dropped, s = dropped ++ rest ∧ EndsInWord dropped ∧ StartsInWord rest

/-- Whether a word is cut is seen on both sides of the cut. -/
theorem cutsWord_append {dropped : Chars} :
    CutsWord (dropped ++ rest) rest ↔ EndsInWord dropped ∧ StartsInWord rest := by
  constructor
  · rintro ⟨dropped', heq, hcut⟩
    rwa [List.append_cancel_right heq]
  · exact fun hcut => ⟨dropped, rfl, hcut⟩

/-- What stands before makes no difference to the end. -/
theorem endsInWord_append {front : Chars} (h : s ≠ []) :
    EndsInWord (front ++ s) ↔ EndsInWord s := by
  unfold EndsInWord
  rw [List.getLast?_append_of_ne_nil _ h]

theorem not_endsInWord {gap : Chars} (hgap : ∀ c ∈ gap, isWordChar c = false) :
    ¬EndsInWord gap := by
  rintro ⟨c, hlast, hc⟩
  have hnot := hgap c (List.mem_of_getLast? hlast)
  rw [hc] at hnot
  cases hnot

/-- After characters that are no part of a word, the text does not end in one. -/
theorem not_endsInWord_append {front gap : Chars} (hfront : ¬EndsInWord front)
    (hgap : ∀ c ∈ gap, isWordChar c = false) : ¬EndsInWord (front ++ gap) := by
  by_cases hnil : gap = []
  · rwa [hnil, List.append_nil]
  · rw [endsInWord_append hnil]
    exact not_endsInWord hgap

/-- Where nothing is dropped, no word is cut. -/
theorem not_cutsWord_self (s : Chars) : ¬CutsWord s s := by
  rintro ⟨dropped, heq, hend, -⟩
  obtain rfl : dropped = [] := List.self_eq_append_left.1 heq
  exact not_endsInWord (List.forall_mem_nil _) hend

theorem isWordChar_of_mem_takeWhile (s : Chars) :
    ∀ c ∈ s.takeWhile isBlank, isWordChar c = false :=
  fun _ hc => isWordChar_of_isBlank (List.mem_takeWhile_imp hc)

/-- A gap between what is dropped and what is left cuts no word. -/
theorem not_cutsWord_of_dropped {dropped gap : Chars} (hdropped : ¬EndsInWord dropped)
    (hgap : ∀ c ∈ gap, isWordChar c = false) (h : s = dropped ++ (gap ++ rest)) :
    ¬CutsWord s rest := by
  rw [h, ← List.append_assoc, cutsWord_append]
  exact fun hcut => not_endsInWord_append hdropped hgap hcut.1

/-! ## Template calls -/

/-- A call ends with a brace. -/
theorem not_cutsWord_stripCall? (h : stripCall? words s = some rest) : ¬CutsWord s rest := by
  obtain ⟨opened, inner, tail, rfl, hcall, -, rfl⟩ := exists_call_of_stripCall? h
  have hbrace : ¬EndsInWord ('{' :: '{' :: (inner ++ ['}', '}'])) := by
    rw [← List.cons_append, ← List.cons_append, endsInWord_append (List.cons_ne_nil _ _)]
    rintro ⟨_, ⟨⟩, hbrace⟩
    exact absurd hbrace (by decide)
  refine not_cutsWord_of_dropped hbrace (isWordChar_of_mem_takeWhile tail) ?_
  rw [trimStart, List.takeWhile_append_dropWhile, Markup.eq_append_of_balanced? hcall]
  simp

/-! ## Names in bold -/

theorem exists_append_withoutComma (s : Chars) :
    ∃ comma, s = comma ++ withoutComma s ∧ ∀ c ∈ comma, isWordChar c = false := by
  unfold withoutComma
  split
  · next h =>
    obtain ⟨rest, rfl⟩ := h
    exact ⟨[',', ' '], rfl, Chars.forall_of_all (by decide)⟩
  · exact ⟨[], rfl, List.forall_mem_nil _⟩

/-- A name in bold ends with a quote. -/
theorem not_cutsWord_stripBold? (hwords : ∀ word ∈ words, IsWord word) (hne : words ≠ [])
    (h : stripBold? words s = some rest) : ¬CutsWord s rest := by
  obtain ⟨tail, hphrase, hrest⟩ := Option.map_eq_some_iff.1 h
  obtain ⟨article, statement, rfl, -, -⟩ := (afterPhrase?_bold_eq_some_iff hwords hne).1 hphrase
  rw [getD_after?_comma] at hrest
  obtain ⟨comma, hcomma, hgap⟩ := exists_append_withoutComma (trimStart tail)
  have hquote : ¬EndsInWord (article ++ (boldMark ++ (statement ++ boldMark))) := by
    rw [endsInWord_append (by simp [boldMark]), endsInWord_append (by simp [boldMark]),
      endsInWord_append (by simp [boldMark])]
    rintro ⟨_, ⟨⟩, hquote⟩
    exact absurd hquote (by decide)
  have htail : tail = tail.takeWhile isBlank ++ comma ++ rest := by
    rw [List.append_assoc, ← hrest, ← hcomma]
    exact List.takeWhile_append_dropWhile.symm
  have hblanks : ∀ c ∈ tail.takeWhile isBlank ++ comma, isWordChar c = false :=
    List.forall_mem_append.2 ⟨isWordChar_of_mem_takeWhile tail, hgap⟩
  refine not_cutsWord_of_dropped hquote hblanks ?_
  rw [← htail]
  simp

/-- A name in bold with a comma ends with the comma, or with blanks. -/
theorem not_cutsWord_boldComma (hwords : ∀ word ∈ words, IsWord word) (hne : words ≠ [])
    (h : ((Pattern.boldComma words).rests s).head? = some rest) : ¬CutsWord s rest := by
  obtain ⟨article, statement, tail, rfl, -, -, rfl⟩ := exists_comma_of_head?_rests hwords hne h
  have hcomma : ¬EndsInWord (boldOpening article statement [',']) := by
    unfold boldOpening
    rw [endsInWord_append (by simp [boldMark]), endsInWord_append (by simp [boldMark]),
      endsInWord_append (by simp [boldMark]), endsInWord_append (List.cons_ne_nil _ _)]
    exact not_endsInWord (Chars.forall_of_all (by decide))
  refine not_cutsWord_of_dropped hcomma (isWordChar_of_mem_takeWhile tail) ?_
  rw [trimStart, List.takeWhile_append_dropWhile]
  simp [boldOpening]

/-! ## Plain names -/

/-- The text opens with the plain name as in the statement, maybe after an article. A name that is
    found after an article comes before one that has the article for its first word. -/
inductive OpensPlainly (words : List Chars) : Chars → Chars → Chars → Prop where
  | after {article statement rest : Chars} (harticle : IsArticle article) (hne : article ≠ [])
      (hstates : States words statement) :
      OpensPlainly words (article ++ (statement ++ rest)) statement rest
  | bare {statement rest : Chars} (hstates : States words statement)
      (hnot : ∀ article statement' rest', IsArticle article → article ≠ [] →
        States words statement' → statement ++ rest ≠ article ++ (statement' ++ rest')) :
      OpensPlainly words (statement ++ rest) statement rest

theorem OpensPlainly.exists_states {statement : Chars} (h : OpensPlainly words s statement rest) :
    ∃ article, s = article ++ (statement ++ rest) ∧ States words statement := by
  cases h with
  | after _ _ hstates => exact ⟨_, rfl, hstates⟩
  | bare hstates _ => exact ⟨[], rfl, hstates⟩

section

variable (hwords : ∀ word ∈ words, IsWord word)
include hwords

/-- A statement after an article is where the reader of articles leads to. -/
theorem afterArticle?_eq {article statement : Chars} (harticle : IsArticle article)
    (hne : article ≠ []) (hstates : States words statement) (rest : Chars) :
    afterArticle? (article ++ (statement ++ rest)) = some (statement ++ rest) := by
  cases harticle with
  | none => exact absurd rfl hne
  | the hword hblanks hblank =>
    exact afterArticle?_the hword hblanks hblank (hstates.startsShown hwords rest)

/-- What is read after an article is a statement. -/
theorem bind_afterArticle?_eq_some_iff (hne : words ≠ []) :
    (afterArticle? s).bind (afterWords? words) = some rest ↔
      ∃ article statement, s = article ++ (statement ++ rest) ∧ IsArticle article ∧
        article ≠ [] ∧ States words statement := by
  constructor
  · intro h
    obtain ⟨tail, harticle, hread⟩ := Option.bind_eq_some_iff.1 h
    obtain ⟨article, rfl, hisArticle, hthe⟩ := isArticle_of_afterArticle? harticle
    obtain ⟨statement, rfl, hstates⟩ := afterWords?_states hne hread
    exact ⟨article, statement, rfl, hisArticle, hthe, hstates⟩
  · rintro ⟨article, statement, rfl, harticle, hthe, hstates⟩
    rw [afterArticle?_eq hwords harticle hthe hstates, Option.bind_some,
      hstates.afterWords?_eq hwords]

/-- Nothing is read after an article if and only if no name can be found there. -/
theorem bind_afterArticle?_eq_none_iff (hne : words ≠ []) :
    (afterArticle? s).bind (afterWords? words) = none ↔
      ∀ article statement rest, IsArticle article → article ≠ [] → States words statement →
        s ≠ article ++ (statement ++ rest) := by
  rw [Option.eq_none_iff_forall_ne_some]
  constructor
  · intro hnone article statement rest harticle hthe hstates hs
    exact hnone rest ((bind_afterArticle?_eq_some_iff hwords hne).2
      ⟨article, statement, hs, harticle, hthe, hstates⟩)
  · intro hnot rest h
    obtain ⟨article, statement, hs, harticle, hthe, hstates⟩ :=
      (bind_afterArticle?_eq_some_iff hwords hne).1 h
    exact hnot article statement rest harticle hthe hstates hs

/-- What follows a plain name, with or without an article before it. -/
theorem afterPhrase?_plain_eq_some_iff (hne : words ≠ []) :
    afterPhrase? (afterWords? words) s = some rest ↔
      ∃ statement, OpensPlainly words s statement rest := by
  constructor
  · intro h
    rcases (Option.orElse_eq_some _ _ _).1 h with hfound | ⟨hnone, hplain⟩
    · obtain ⟨article, statement, rfl, harticle, hthe, hstates⟩ :=
        (bind_afterArticle?_eq_some_iff hwords hne).1 hfound
      exact ⟨statement, .after harticle hthe hstates⟩
    · obtain ⟨statement, rfl, hstates⟩ := afterWords?_states hne hplain
      exact ⟨statement, .bare hstates ((bind_afterArticle?_eq_none_iff hwords hne).1 hnone)⟩
  · rintro ⟨statement, hopens⟩
    unfold afterPhrase?
    cases hopens with
    | after harticle hthe hstates =>
      rw [afterArticle?_eq hwords harticle hthe hstates, Option.bind_some,
        hstates.afterWords?_eq hwords]
      rfl
    | bare hstates hnot =>
      rw [(bind_afterArticle?_eq_none_iff hwords hne).2 hnot, hstates.afterWords?_eq hwords]
      rfl

/-- A plain name that is dropped cuts a word if its statement and what follows it meet inside of
    one. -/
theorem OpensPlainly.cutsWord_iff {statement tail : Chars}
    (h : OpensPlainly words s statement tail) :
    CutsWord s (trimStart tail) ↔ EndsInWord statement ∧ StartsInWord tail := by
  obtain ⟨article, rfl, hstates⟩ := h.exists_states
  have hstatement : statement ≠ [] := by
    obtain ⟨c, more, rfl, -⟩ := hstates.exists_cons hwords
    exact List.cons_ne_nil _ _
  by_cases hshown : ∀ c ∈ tail.head?, isBlank c = false
  · rw [trimStart, (takeWhile_none hshown).2, ← List.append_assoc, cutsWord_append,
      endsInWord_append hstatement]
  · -- Blanks are dropped with the name, and no word starts with a blank.
    obtain ⟨c, hhead, hblank⟩ : ∃ c ∈ tail.head?, isBlank c := by simpa using hshown
    obtain ⟨more, rfl⟩ := List.head?_eq_some_iff.1 hhead
    have hgap : (c :: more).takeWhile isBlank ≠ [] := by simp [hblank]
    refine iff_of_false ?_ ?_
    · have hsplit : c :: more = (c :: more).takeWhile isBlank ++ trimStart (c :: more) :=
        List.takeWhile_append_dropWhile.symm
      rw [hsplit, ← List.append_assoc, ← List.append_assoc, ← hsplit, cutsWord_append,
        endsInWord_append hgap]
      exact fun hcut => not_endsInWord (isWordChar_of_mem_takeWhile _) hcut.1
    · rintro ⟨-, _, ⟨⟩, hword⟩
      rw [isWordChar_of_isBlank hblank] at hword
      cases hword

/-- A plain name is cut off a word if its statement ends inside of one. -/
theorem cutsWord_stripPlain?_iff (hne : words ≠ []) :
    CutsWord s ((stripPlain? words s).getD s) ↔ ∃ statement rest,
      OpensPlainly words s statement rest ∧ EndsInWord statement ∧ StartsInWord rest := by
  unfold stripPlain?
  cases hplain : afterPhrase? (afterWords? words) s with
  | none =>
    refine iff_of_false (not_cutsWord_self s) ?_
    rintro ⟨statement, rest, hopens, -⟩
    have hread := (afterPhrase?_plain_eq_some_iff hwords hne).2 ⟨statement, hopens⟩
    rw [hplain] at hread
    cases hread
  | some tail =>
    change CutsWord s (trimStart tail) ↔ _
    constructor
    · intro hcut
      obtain ⟨statement, hopens⟩ := (afterPhrase?_plain_eq_some_iff hwords hne).1 hplain
      exact ⟨statement, tail, hopens, (hopens.cutsWord_iff hwords).1 hcut⟩
    · rintro ⟨statement, rest, hopens, hcut⟩
      have hread := (afterPhrase?_plain_eq_some_iff hwords hne).2 ⟨statement, hopens⟩
      obtain rfl := Option.some.inj (hplain.symm.trans hread)
      exact (hopens.cutsWord_iff hwords).2 hcut

end

/-! ## Matchers -/

namespace Checked

variable {accepts : Pattern → Bool}

/-- A restatement that cuts no word keeps the later ones from being tried. -/
theorem cutsWord_orElse_iff {pattern : Pattern} {found later : Option Chars} {p q : Prop}
    (hfound : ∀ rest, found = some rest → ¬CutsWord s rest) (hnone : found = none ↔ ¬p)
    (hlater : CutsWord s (later.getD s) ↔ q) :
    CutsWord s ((accepted accepts pattern found <|> later).getD s) ↔
      ¬(accepts pattern ∧ p) ∧ q := by
  rw [← accepted_eq_none_iff hnone]
  cases haccepted : accepted accepts pattern found with
  | none => simp [hlater]
  | some rest => simp [hfound rest (eq_of_accepted haccepted)]

/-- What a matcher drops cuts a word only if it is a plain name. -/
theorem cutsWord_stripped_iff (hwords : ∀ word ∈ words, IsWord word) (s : Chars) :
    CutsWord s (stripped accepts words s) ↔
      ¬(accepts (.name words) ∧ OpensWithCall words s) ∧
      ¬(accepts (.bold words) ∧ OpensWithBold words s) ∧
      ¬(accepts (.boldComma words) ∧ OpensWithComma words s) ∧
      accepts (.plain words) ∧ ∃ statement rest, OpensPlainly words s statement rest ∧
        EndsInWord statement ∧ StartsInWord rest := by
  unfold stripped
  split
  · next hnil =>
    refine iff_of_false (not_cutsWord_self _) ?_
    rintro ⟨-, -, -, -, statement, rest, hopens, -⟩
    obtain ⟨-, -, hstates⟩ := hopens.exists_states
    exact hstates.ne_nil hnil
  · next hne =>
    rw [afterMatch?_eq_readers hwords hne]
    refine cutsWord_orElse_iff (fun _ => not_cutsWord_stripCall?)
      (stripCall?_eq_none_iff hwords hne) ?_
    refine cutsWord_orElse_iff (fun _ => not_cutsWord_stripBold? hwords hne)
      (stripBold?_eq_none_iff hwords hne) ?_
    refine cutsWord_orElse_iff (fun _ => not_cutsWord_boldComma hwords hne)
      (head?_rests_boldComma_eq_none_iff hwords hne) ?_
    unfold accepted
    split
    · next haccepts => simp [cutsWord_stripPlain?_iff hwords hne, haccepts]
    · next hrefused => simp [not_cutsWord_self, hrefused]

end Checked

/-- A word of the description is cut in two if and only if it opens with the plain name, which ends
    with a letter or digit, and another one follows directly, and neither a template call with the
    name in it nor the name in bold comes first. For a matcher that refuses patterns, the pattern of
    the plain name has to be accepted, and what comes first counts only where its pattern is. -/
theorem strip_cutsWord_iff (name description : String) :
    (CutsWord description.toList (strip name description).toList ↔
      ¬OpensWithCall (wordsOf name) description.toList ∧
      ¬OpensWithBold (wordsOf name) description.toList ∧
      ∃ statement rest, OpensPlainly (wordsOf name) description.toList statement rest ∧
        EndsInWord statement ∧ StartsInWord rest) ∧
    ∀ accepts, ∃ rest, Checked.strip accepts (wordsOf name) description.toList = .some rest ∧
      (CutsWord description.toList rest ↔
        ¬(accepts (.name (wordsOf name)) ∧ OpensWithCall (wordsOf name) description.toList) ∧
        ¬(accepts (.bold (wordsOf name)) ∧ OpensWithBold (wordsOf name) description.toList) ∧
        ¬(accepts (.boldComma (wordsOf name)) ∧
          OpensWithComma (wordsOf name) description.toList) ∧
        accepts (.plain (wordsOf name)) ∧
        ∃ statement rest, OpensPlainly (wordsOf name) description.toList statement rest ∧
          EndsInWord statement ∧ StartsInWord rest) := by
  have hwords : ∀ word ∈ wordsOf name, IsWord word := fun _ => isWord_of_mem_wordsOf
  constructor
  · rw [toList_strip_eq_stripped, Checked.cutsWord_stripped_iff hwords]
    constructor
    · rintro ⟨hcall, hbold, -, -, hplain⟩
      exact ⟨fun h => hcall ⟨rfl, h⟩, fun h => hbold ⟨rfl, h⟩, hplain⟩
    · rintro ⟨hcall, hbold, hplain⟩
      exact ⟨fun h => hcall h.2, fun h => hbold h.2, fun h => hbold h.2.opensWithBold, rfl, hplain⟩
  · exact fun accepts =>
      ⟨_, Checked.strip_eq_stripped hwords _, Checked.cutsWord_stripped_iff hwords _⟩

/-- The name is only the start of the first word, which is cut in two. -/
theorem strip_cuts_rocksteady :
    (∃ c ∈ "Rock".toList.getLast?, isWordChar c) ∧
    strip "Rock" "Rocksteady is a genre." = "steady is a genre." ∧
    CutsWord "Rocksteady is a genre.".toList (strip "Rock" "Rocksteady is a genre.").toList := by
  have hstrip : strip "Rock" "Rocksteady is a genre." = "steady is a genre." := by decide +kernel
  refine ⟨⟨'k', by decide, by decide⟩, hstrip, ?_⟩
  rw [hstrip]
  exact ⟨"Rock".toList, by decide, ⟨'k', by decide, by decide⟩, ⟨'s', by decide, by decide⟩⟩

end Restatement

end GenreProse
