-- SUMMARY: A name in bold is recognised in every spelling, and dropped with the blanks after it.
import GenreProse.Proofs.Restatement.Patterns

/-!
# Names in bold

A description that opens with a name in bold, maybe after an article, is cut at one place only: after
the bold, the blanks that follow it, and a comma with a space. It does not matter how the name is
spelled. A matcher that may refuse patterns cuts there too if it accepts the one for the name in
bold, whatever else it refuses.
-/

namespace GenreProse

open Chars

namespace Restatement

variable {words : List Chars} {s rest : Chars}

/-! ## Spellings -/

/-- Folding does not see the case of ASCII letters. -/
theorem foldChar_toLower (c : Char) : foldChar c.toLower = foldChar c :=
  eq_of_toLower (Chars.forall_of_all (by decide)) c

/-- Texts that differ only in the case of ASCII letters are the same word. -/
theorem sameWord_of_map_toLower {word text : Chars}
    (h : word.map Char.toLower = text.map Char.toLower) : SameWord word text := by
  rw [← List.forall₂_eq_eq_eq, List.forall₂_map_left_iff, List.forall₂_map_right_iff] at h
  refine h.imp fun c d hlower => ?_
  rw [sameFolded, beq_iff_eq, ← foldChar_toLower c, hlower, foldChar_toLower d]

/-! ## Articles -/

/-- An article starts with a `T` or `t`. -/
theorem head?_article_append {article : Chars} {c : Char} (harticle : IsArticle article)
    (hc : sameFolded 'T' c = false) (hrest : rest.head? ≠ some c) :
    (article ++ rest).head? ≠ some c := by
  cases harticle with
  | none => exact hrest
  | @the text blanks hword =>
    have hletters : "The".toList = ['T', 'h', 'e'] := rfl
    rw [hletters] at hword
    cases hword with
    | cons hfirst _ =>
      intro hhead
      obtain rfl := Option.some.inj hhead
      rw [hc] at hfirst
      cases hfirst

/-- A phrase that does not start with an article is found after any article. -/
theorem afterPhrase?_article_append {phrase : Chars → Option Chars} {article : Chars}
    (harticle : IsArticle article) (hphrase : phrase s = some rest) (hstart : StartsShown s)
    (hplain : afterArticle? s = none) : afterPhrase? phrase (article ++ s) = some rest := by
  unfold afterPhrase?
  cases harticle with
  | none => simp [hplain, hphrase]
  | the hword hne hblanks =>
    rw [afterArticle?_the hword hne hblanks hstart]
    simp [hphrase]

/-! ## What follows the bold -/

/-- The reader of bold finds a statement between two marks. -/
theorem afterBold?_eq_some_iff (hwords : ∀ word ∈ words, IsWord word) (hne : words ≠ []) :
    afterBold? words s = some rest ↔ ∃ statement,
      s = boldMark ++ (statement ++ (boldMark ++ rest)) ∧ States words statement := by
  constructor
  · exact afterBold?_eq_some hne
  · rintro ⟨statement, rfl, hstates⟩
    exact hstates.afterBold?_eq hwords rest

/-- What follows a name in bold, with or without an article before it. -/
theorem afterPhrase?_bold_eq_some_iff (hwords : ∀ word ∈ words, IsWord word) (hne : words ≠ []) :
    afterPhrase? (afterBold? words) s = some rest ↔
      ∃ article statement, s = article ++ (boldMark ++ (statement ++ (boldMark ++ rest))) ∧
        IsArticle article ∧ States words statement := by
  constructor
  · intro h
    obtain ⟨article, tail, rfl, harticle, hbold⟩ := exists_article_of_afterPhrase? h
    obtain ⟨statement, rfl, hstates⟩ := (afterBold?_eq_some_iff hwords hne).1 hbold
    exact ⟨article, statement, rfl, harticle, hstates⟩
  · rintro ⟨article, statement, rfl, harticle, hstates⟩
    have hbold := hstates.afterBold?_eq hwords rest
    exact afterPhrase?_article_append harticle hbold ⟨'\'', _, rfl, by decide⟩ rfl

/-- Only a brace opens a template call. -/
theorem stripCall?_eq_none (h : s.head? ≠ some '{') : stripCall? words s = none := by
  unfold stripCall?
  cases s with
  | nil => rfl
  | cons c s =>
    have hc : '{' ≠ c := fun heq => h (heq ▸ rfl)
    simp [after?, hc]

/-- A text without the comma and the space that it starts with, if it starts with both. -/
def withoutComma (s : Chars) : Chars :=
  if [',', ' '] <+: s then s.drop 2 else s

theorem getD_after?_comma (s : Chars) : (after? [',', ' '] s).getD s = withoutComma s := by
  unfold withoutComma
  split
  · next h =>
    obtain ⟨rest, rfl⟩ := h
    rfl
  · next h =>
    rw [← opensWith_iff, opensWith, Option.isSome_iff_ne_none, not_not] at h
    rw [h, Option.getD_none]

/-- A description that opens with a name in bold, after an article or not, keeps what follows the
    blanks after the bold, but no comma with a space. The name may be in any case, and with any blanks
    and hyphens between its words. A matcher cuts at the same place, whatever patterns it refuses
    other than the one for a name in bold. -/
theorem strip_bold {name : String} {article statement blanks : Chars} (harticle : IsArticle article)
    (hstates : States (wordsOf name) statement) (hblanks : ∀ c ∈ blanks, isBlank c)
    (hrest : ∀ c ∈ rest.head?, isBlank c = false) :
    let description := article ++ (boldMark ++ (statement ++ (boldMark ++ (blanks ++ rest))))
    strip name (String.ofList description) = String.ofList (withoutComma rest) ∧
      ∀ accepts, accepts (.bold (wordsOf name)) →
        Checked.strip accepts (wordsOf name) description = .some (withoutComma rest) := by
  intro description
  have hwords : ∀ word ∈ wordsOf name, IsWord word := fun _ => isWord_of_mem_wordsOf
  have hne := hstates.ne_nil
  have hphrase : afterPhrase? (afterBold? (wordsOf name)) description = some (blanks ++ rest) :=
    (afterPhrase?_bold_eq_some_iff hwords hne).2 ⟨article, statement, rfl, harticle, hstates⟩
  have hcall : stripCall? (wordsOf name) description = none :=
    stripCall?_eq_none (head?_article_append harticle (by decide) (by simp [boldMark]))
  have htrim : trimStart (blanks ++ rest) = rest := (takeWhile_run hblanks hrest).2
  constructor
  · have hbold : stripBold? (wordsOf name) description = some (withoutComma rest) := by
      rw [stripBold?, hphrase, Option.map_some, htrim, getD_after?_comma]
    rw [← String.toList_inj, toList_strip, if_neg hne, String.toList_ofList, String.toList_ofList,
      afterRestatement?, hcall, hbold]
    rfl
  · intro accepts haccepts
    have hmatch : ((Pattern.bold (wordsOf name)).rests description).head? = some rest := by
      rw [Pattern.head?_rests_bold hwords, hphrase, Option.map_some, htrim]
    rw [Checked.strip_eq hwords hne, Checked.afterMatch?, hcall, hmatch]
    simp [Checked.accepted, haccepts, getD_after?_comma]

/-- The words of the name are an article and words with apostrophes, one of them right before the
    mark that closes the bold. -/
theorem strip_bold_apostrophes :
    IsArticle "thE ".toList ∧
    States (wordsOf "The Rock 'n' roll'") "the-ROCK \t'N' - roll'".toList ∧
    (∀ c ∈ ['\n'], isBlank c) ∧ (∀ c ∈ ", a genre".toList.head?, isBlank c = false) ∧
    strip "The Rock 'n' roll'" "thE '''the-ROCK \t'N' - roll''''\n, a genre" = "a genre" := by
  have harticle : IsArticle "thE ".toList := by
    have hthe : "thE ".toList = "thE".toList ++ [' '] := by decide
    rw [hthe]
    have hblank : ∀ c ∈ [' '], isBlank c := Chars.forall_of_all (by decide)
    exact .the (sameWord_of_map_toLower (by decide)) (by decide) hblank
  have hstates : States (wordsOf "The Rock 'n' roll'") "the-ROCK \t'N' - roll'".toList := by
    have hwords : wordsOf "The Rock 'n' roll'" =
        ["The".toList, "Rock".toList, "'n'".toList, "roll'".toList] := by decide
    have hstatement : "the-ROCK \t'N' - roll'".toList = "the".toList ++ (['-'] ++ ("ROCK".toList ++
        ([' ', '\t'] ++ ("'N'".toList ++ ([' ', '-', ' '] ++ "roll'".toList))))) := by decide
    have hyphen : ∀ c ∈ ['-'], isSeparator c := Chars.forall_of_all (by decide)
    have htab : ∀ c ∈ [' ', '\t'], isSeparator c := Chars.forall_of_all (by decide)
    have hspaced : ∀ c ∈ [' ', '-', ' '], isSeparator c := Chars.forall_of_all (by decide)
    rw [hwords, hstatement]
    refine .next (sameWord_of_map_toLower (by decide)) (List.cons_ne_nil _ _) hyphen ?_
    refine .next (sameWord_of_map_toLower (by decide)) (List.cons_ne_nil _ _) htab ?_
    refine .next (sameWord_of_map_toLower (by decide)) (List.cons_ne_nil _ _) hspaced ?_
    exact .last (sameWord_of_map_toLower (by decide))
  have hblanks : ∀ c ∈ ['\n'], isBlank c := Chars.forall_of_all (by decide)
  have hrest : ∀ c ∈ ", a genre".toList.head?, isBlank c = false := by
    rintro _ ⟨⟩
    rfl
  have hstrip := (strip_bold harticle hstates hblanks hrest).1
  exact ⟨harticle, hstates, hblanks, hrest, hstrip⟩

end Restatement

end GenreProse
