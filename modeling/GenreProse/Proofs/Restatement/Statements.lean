-- SUMMARY: What counts as a statement of a name, and that the readers of a name find just these.
import GenreProse.Proofs.Text.CaseMaps
import GenreProse.Proofs.Text.Trim
import GenreProse.Restatement
import Mathlib.Data.List.Forall2
import Mathlib.Data.List.TakeWhile

/-!
# Statements of a name

A text states a name if it has the words of the name in order, in any case, with blanks and hyphens
between each two. A word has no separators in it, also when case is ignored, so there is only one
way to read the separators between two words, and the readers of a name need not go back.
-/

namespace GenreProse

namespace Restatement

/-! ## Case -/

/-- The code points of the separators, the apostrophe and the comma. -/
def caselessSpans : List Span :=
  [⟨0x9, 0xD⟩, ⟨0x20, 0x20⟩, ⟨0x27, 0x27⟩, ⟨0x2C, 0x2D⟩, ⟨0x85, 0x85⟩, ⟨0xA0, 0xA0⟩,
    ⟨0x1680, 0x1680⟩, ⟨0x2000, 0x200A⟩, ⟨0x2028, 0x2029⟩, ⟨0x202F, 0x202F⟩, ⟨0x205F, 0x205F⟩,
    ⟨0x3000, 0x3000⟩]

/-- Whether the character stands between words or next to them. It has no case. -/
def isCaseless (c : Char) : Bool :=
  Span.any caselessSpans c.toNat

/-- Separators have no case. -/
theorem isCaseless_of_isSeparator {c : Char} (h : isSeparator c) : isCaseless c := by
  have hhyphen : c = '-' ↔ c.toNat = 0x2D := Char.toNat_inj.symm
  simp only [isSeparator, isBlank, Bool.or_eq_true, Bool.and_eq_true, beq_iff_eq,
    decide_eq_true_eq, hhyphen] at h
  simp only [isCaseless, caselessSpans, Span.any_cons, Span.any_nil, Bool.false_eq_true, or_false]
  omega

/-- Case folding moves none of these characters, and moves nothing to where one of them is. -/
theorem foldShifts_avoid : ∀ shift ∈ foldShifts, ∀ span ∈ caselessSpans, shift.Avoids span := by
  decide +kernel

theorem foldChar_cases (c : Char) :
    foldChar c = c ∨ ¬isCaseless c ∧ ¬isCaseless (foldChar c) := by
  unfold foldChar
  split
  · have hcapitals : ∀ c ∈ capitals, ¬isCaseless c ∧ ¬isCaseless c.toLower :=
      Chars.forall_of_all (by decide)
    exact (mem_capitals_or_toLower_eq c).symm.imp_right (hcapitals c)
  · exact Shift.apply_cases foldShifts_avoid c

/-- It makes no difference which of two characters is folded first. -/
theorem sameFolded_comm (c d : Char) : sameFolded c d = sameFolded d c :=
  Bool.beq_comm

/-- A character without case is the same only as itself. -/
theorem sameFolded_iff_of_isCaseless {c d : Char} (hc : isCaseless c) :
    sameFolded c d ↔ c = d := by
  have hfold : foldChar c = c := (foldChar_cases c).resolve_right fun h => h.1 hc
  rw [sameFolded, hfold, beq_iff_eq]
  constructor
  · rintro rfl
    exact (foldChar_cases d).resolve_right fun h => h.2 hc
  · rintro rfl
    exact hfold.symm

/-- Characters that are the same when case is ignored are both separators or both not. -/
theorem isSeparator_of_sameFolded {c d : Char} (h : sameFolded c d) :
    isSeparator c = isSeparator d := by
  rw [Bool.eq_iff_iff]
  constructor
  · intro hc
    rwa [← (sameFolded_iff_of_isCaseless (isCaseless_of_isSeparator hc)).1 h]
  · intro hd
    rw [sameFolded_comm] at h
    rwa [← (sameFolded_iff_of_isCaseless (isCaseless_of_isSeparator hd)).1 h]

/-! ## Words -/

/-- Whether a text is a word of some name. -/
structure IsWord (word : Chars) : Prop where
  ne_nil : word ≠ []
  noSeparator : ∀ c ∈ word, isSeparator c = false

theorem not_of_mem_splitAt {test : Char → Bool} {s part : Chars} (h : part ∈ Chars.splitAt test s) :
    ∀ c ∈ part, test c = false := by
  fun_induction Chars.splitAt test s generalizing part with
  | case1 =>
    obtain rfl := List.mem_singleton.1 h
    exact List.forall_mem_nil _
  | case2 c s htest ih =>
    rcases List.mem_cons.1 h with rfl | hpart
    · exact List.forall_mem_nil _
    · exact ih hpart
  | case3 c s htest hnil ih =>
    obtain rfl := List.mem_singleton.1 h
    simpa using htest
  | case4 c s htest part parts hparts ih =>
    rw [hparts] at ih
    rcases List.mem_cons.1 h with rfl | hpart
    · exact List.forall_mem_cons.2 ⟨by simpa using htest, ih List.mem_cons_self⟩
    · exact ih (List.mem_cons_of_mem _ hpart)

/-- The words of a name are not empty and have no separators in them. -/
theorem isWord_of_mem_wordsOf {name : String} {word : Chars} (h : word ∈ wordsOf name) :
    IsWord word := by
  obtain ⟨hpart, hne⟩ := List.mem_filter.1 h
  exact ⟨by simpa using hne, not_of_mem_splitAt hpart⟩

/-- The text is the word when case is ignored. -/
abbrev SameWord (word text : Chars) : Prop :=
  List.Forall₂ (fun c d => sameFolded c d) word text

/-- What the reader of words passes is the word, up to case. -/
theorem afterWord?_eq_some_iff {word s rest : Chars} :
    afterWord? word s = some rest ↔ ∃ text, s = text ++ rest ∧ SameWord word text := by
  fun_induction afterWord? word s with
  | case1 s =>
    constructor
    · rintro ⟨⟩
      exact ⟨[], rfl, .nil⟩
    · rintro ⟨text, rfl, hsame⟩
      cases hsame
      rfl
  | case2 c word =>
    constructor
    · rintro ⟨⟩
    · rintro ⟨text, hs, hsame⟩
      cases hsame
      cases hs
  | case3 w word c s hfirst ih =>
    rw [ih]
    constructor
    · rintro ⟨text, rfl, hsame⟩
      exact ⟨c :: text, rfl, .cons hfirst hsame⟩
    · rintro ⟨text, hs, hsame⟩
      cases hsame with
      | cons _ hsame =>
        cases hs
        exact ⟨_, rfl, hsame⟩
  | case4 w word c s hfirst =>
    constructor
    · rintro ⟨⟩
    · rintro ⟨text, hs, hsame⟩
      cases hsame with
      | cons hsame _ =>
        cases hs
        exact absurd hsame hfirst

/-- What is the same as a word starts with no separator. -/
theorem IsWord.exists_cons {word text : Chars} (hword : IsWord word) (hsame : SameWord word text) :
    ∃ c rest, text = c :: rest ∧ isSeparator c = false := by
  cases hsame with
  | nil => exact absurd rfl hword.ne_nil
  | cons hfirst hrest =>
    refine ⟨_, _, rfl, ?_⟩
    rw [← isSeparator_of_sameFolded hfirst]
    exact hword.noSeparator _ List.mem_cons_self

/-! ## Statements -/

/-- The text states the name with the given words: it has the words in order, in any case, with
    separators between each two. -/
inductive States : List Chars → Chars → Prop where
  | last {word text : Chars} (hword : SameWord word text) : States [word] text
  | next {word text gap statement : Chars} {words : List Chars} (hword : SameWord word text)
      (hgap : gap ≠ []) (hseparators : ∀ c ∈ gap, isSeparator c) (hrest : States words statement) :
      States (word :: words) (text ++ (gap ++ statement))

theorem States.ne_nil {words : List Chars} {statement : Chars} (h : States words statement) :
    words ≠ [] := by
  cases h <;> simp

/-- A statement starts with a character of the name. -/
theorem States.exists_cons {words : List Chars} {statement : Chars}
    (hwords : ∀ word ∈ words, IsWord word) (h : States words statement) :
    ∃ c rest, statement = c :: rest ∧ isSeparator c = false := by
  cases h with
  | last hword => exact (hwords _ List.mem_cons_self).exists_cons hword
  | next hword _ _ _ =>
    obtain ⟨c, rest, rfl, hc⟩ := (hwords _ List.mem_cons_self).exists_cons hword
    exact ⟨c, _, rfl, hc⟩

/-- A statement is no shorter than the words of the name. -/
theorem States.length_le {words : List Chars} {statement : Chars} (h : States words statement) :
    words.flatten.length ≤ statement.length := by
  induction h with
  | last hword => simp [hword.length_eq]
  | next hword _ _ _ ih =>
    simp only [List.flatten_cons, List.length_append, hword.length_eq]
    omega

/-- The separators before a text that starts with none are read as a whole. -/
theorem takeWhile_gap {test : Char → Bool} {gap rest : Chars} (hgap : ∀ c ∈ gap, test c)
    (hrest : ∃ c tail, rest = c :: tail ∧ test c = false) :
    (gap ++ rest).takeWhile test = gap ∧ (gap ++ rest).dropWhile test = rest := by
  obtain ⟨c, tail, rfl, hc⟩ := hrest
  refine Chars.takeWhile_run hgap ?_
  rintro _ ⟨⟩
  exact hc

/-- What the reader of words passes is a statement. -/
theorem afterWords?_states {words : List Chars} {s rest : Chars} (hne : words ≠ [])
    (h : afterWords? words s = some rest) :
    ∃ statement, s = statement ++ rest ∧ States words statement := by
  fun_induction afterWords? words s with
  | case1 => exact absurd rfl hne
  | case2 word s =>
    obtain ⟨text, hs, hword⟩ := afterWord?_eq_some_iff.1 h
    exact ⟨text, hs, .last hword⟩
  | case3 => cases h
  | case4 => cases h
  | case5 word words s hmore tail hafter first gap hgap ih =>
    obtain ⟨text, rfl, hword⟩ := afterWord?_eq_some_iff.1 hafter
    obtain ⟨statement, hstatement, hrest⟩ := ih hmore h
    refine ⟨text ++ (tail.takeWhile isSeparator ++ statement), ?_, .next hword ?_ ?_ hrest⟩
    · simp only [List.append_assoc, ← hstatement, List.takeWhile_append_dropWhile]
    · simp [hgap]
    · exact fun c => List.mem_takeWhile_imp

/-- After a word and the separators after it, the other words are read. -/
theorem afterWords?_cons {word gap s rest : Chars} {words : List Chars} (hne : words ≠ [])
    (hafter : afterWord? word s = some (gap ++ rest)) (hgap : gap ≠ [])
    (hseparators : ∀ c ∈ gap, isSeparator c)
    (hrest : ∃ c tail, rest = c :: tail ∧ isSeparator c = false) :
    afterWords? (word :: words) s = afterWords? words rest := by
  obtain ⟨htake, hdrop⟩ := takeWhile_gap hseparators hrest
  obtain ⟨next, others, rfl⟩ := List.exists_cons_of_ne_nil hne
  obtain ⟨d, more, rfl⟩ := List.exists_cons_of_ne_nil hgap
  simp only [afterWords?, hafter, htake, hdrop]

/-- A statement is passed, as far as it goes. -/
theorem States.afterWords?_eq {words : List Chars} {statement : Chars}
    (hwords : ∀ word ∈ words, IsWord word) (h : States words statement) (rest : Chars) :
    afterWords? words (statement ++ rest) = some rest := by
  induction h with
  | last hword => exact afterWord?_eq_some_iff.2 ⟨_, rfl, hword⟩
  | @next word text gap statement words hword hgap hseparators hrest ih =>
    obtain ⟨-, hothers⟩ := List.forall_mem_cons.1 hwords
    obtain ⟨c, tail, hstart, hc⟩ := hrest.exists_cons hothers
    have hafter : afterWord? word (text ++ (gap ++ statement) ++ rest) =
        some (gap ++ (statement ++ rest)) :=
      afterWord?_eq_some_iff.2 ⟨text, by simp, hword⟩
    have hshown : ∃ c tail', statement ++ rest = c :: tail' ∧ isSeparator c = false :=
      ⟨c, tail ++ rest, by simp [hstart], hc⟩
    rw [afterWords?_cons hrest.ne_nil hafter hgap hseparators hshown]
    exact ih hothers

/-- The words occur in a text if some part of it states the name. -/
theorem occurIn_iff {words : List Chars} (hwords : ∀ word ∈ words, IsWord word) (hne : words ≠ [])
    {s : Chars} : occurIn words s ↔ ∃ statement, States words statement ∧ statement <:+: s := by
  have hstart {s : Chars} : (afterWords? words s).isSome ↔
      ∃ statement, States words statement ∧ statement <+: s := by
    constructor
    · intro h
      obtain ⟨rest, hrest⟩ := Option.isSome_iff_exists.1 h
      obtain ⟨statement, rfl, hstates⟩ := afterWords?_states hne hrest
      exact ⟨statement, hstates, List.prefix_append _ _⟩
    · rintro ⟨statement, hstates, rest, rfl⟩
      rw [hstates.afterWords?_eq hwords]
      rfl
  induction s with
  | nil => simp only [occurIn, hstart, List.prefix_nil, List.infix_nil]
  | cons c s ih =>
    simp only [occurIn, Bool.or_eq_true, hstart, ih, List.infix_cons_iff, ← exists_or,
      ← and_or_left]

end Restatement

end GenreProse
