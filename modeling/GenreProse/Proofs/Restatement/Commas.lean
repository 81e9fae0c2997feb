-- SUMMARY: A comma after a name in bold goes with one space and with nothing else.
import GenreProse.Proofs.Restatement.BoldNames

/-!
# Commas after names in bold

There is a pattern for a name in bold with a comma and any blanks after it. The pattern without the
comma matches wherever that one does, and is tried first. It leaves the comma, which is then dropped
with one space after it. So other blanks stay, and the comma with them if they do not start with a
space.
-/

namespace GenreProse

open Chars

namespace Restatement

variable {words : List Chars} {article statement blanks tail rest : Chars}

/-- A text that opens with a name in bold, maybe after an article. -/
def boldOpening (article statement tail : Chars) : Chars :=
  article ++ (boldMark ++ (statement ++ (boldMark ++ tail)))

/-- After the name in bold comes the tail. -/
theorem afterPhrase?_boldOpening (hwords : ∀ word ∈ words, IsWord word)
    (harticle : IsArticle article) (hstates : States words statement) (tail : Chars) :
    afterPhrase? (afterBold? words) (boldOpening article statement tail) = some tail :=
  (afterPhrase?_bold_eq_some_iff hwords hstates.ne_nil).2
    ⟨article, statement, rfl, harticle, hstates⟩

theorem stripCall?_boldOpening (words : List Chars) (harticle : IsArticle article)
    (statement tail : Chars) :
    stripCall? words (boldOpening article statement tail) = none :=
  stripCall?_eq_none (head?_article_append harticle (by decide) (by simp [boldMark]))

/-- Of a name in bold the tail is left, without blanks and a comma. -/
theorem toList_strip_boldOpening {name : String} (harticle : IsArticle article)
    (hstates : States (wordsOf name) statement) (tail : Chars) :
    (strip name (String.ofList (boldOpening article statement tail))).toList =
      withoutComma (trimStart tail) := by
  have hphrase := afterPhrase?_boldOpening (fun _ => isWord_of_mem_wordsOf) harticle hstates tail
  have hcall := stripCall?_boldOpening (wordsOf name) harticle statement tail
  rw [toList_strip, if_neg hstates.ne_nil, String.toList_ofList, afterRestatement?, hcall,
    stripBold?, hphrase, Option.map_some, getD_after?_comma]
  rfl

/-- What is left of a comma and blanks: without the comma and the first blank if that is a space. -/
def afterComma (blanks rest : Chars) : Chars :=
  if blanks.head? = some ' ' then blanks.tail ++ rest else ',' :: (blanks ++ rest)

/-- A comma goes with one space. -/
theorem withoutComma_comma (hrest : ∀ c ∈ rest.head?, isBlank c = false) :
    withoutComma (',' :: (blanks ++ rest)) = afterComma blanks rest := by
  cases blanks with
  | nil =>
    have hspace : ¬[' '] <+: rest := by
      rintro ⟨rest, rfl⟩
      exact absurd (hrest ' ' rfl) (by decide)
    simp [withoutComma, afterComma, hspace]
  | cons c blanks =>
    by_cases hc : c = ' '
    · subst hc
      simp [withoutComma, afterComma]
    · simp [withoutComma, afterComma, hc, Ne.symm hc]

/-- All blanks after a comma are dropped with it only if they are one space. -/
theorem afterComma_eq_iff : afterComma blanks rest = rest ↔ blanks = [' '] := by
  unfold afterComma
  cases blanks with
  | nil => simp
  | cons c blanks =>
    by_cases hc : c = ' '
    · simp [hc]
    · have hlonger : ',' :: c :: (blanks ++ rest) ≠ rest := by
        intro heq
        have hlength := congrArg List.length heq
        simp at hlength
        omega
      simp [hc, hlonger]

/-- The pattern with a comma leaves what follows the comma and all blanks after it. -/
theorem head?_rests_boldComma (hwords : ∀ word ∈ words, IsWord word)
    (harticle : IsArticle article) (hstates : States words statement) (tail : Chars) :
    ((Pattern.boldComma words).rests
      (boldOpening article statement (',' :: tail))).head? = some (trimStart tail) := by
  have hphrase := afterPhrase?_boldOpening hwords harticle hstates (',' :: tail)
  have hcomma : (Pattern.word [',']).rests (',' :: tail) = [tail] := by
    rw [Pattern.rests_mark (Chars.forall_of_all (by decide))]
    rfl
  have hnext : ((Pattern.seq (.word [',']) (.many isBlank)).rests (',' :: tail)).head?
      = some (trimStart tail) := by
    rw [Pattern.rests, hcomma, List.flatMap_singleton, Pattern.rests, Pattern.head?_restsOfMany]
    rfl
  exact Pattern.head?_rests_phrase_of_eq_some (Pattern.rests_inBold hwords _)
    (fun _ s hc => Pattern.afterBold?_blank hc s) hphrase hnext

/-- The pattern with a comma matches only a name in bold with a comma after it. -/
theorem exists_comma_of_head?_rests (hwords : ∀ word ∈ words, IsWord word) (hne : words ≠ [])
    {s : Chars} (h : ((Pattern.boldComma words).rests s).head? = some rest) :
    ∃ article statement tail, s = boldOpening article statement (',' :: tail) ∧
      IsArticle article ∧ States words statement ∧ rest = trimStart tail := by
  obtain ⟨article, start, after, rfl, harticle, hread, hrest⟩ :=
    Pattern.exists_of_mem_rests_phrase (Pattern.rests_inBold hwords _)
      (fun _ s hc => Pattern.afterBold?_blank hc s) (List.mem_of_head? h)
  obtain ⟨statement, rfl, hstates⟩ := afterBold?_eq_some hne hread
  obtain ⟨tail, hcomma, -⟩ := List.mem_flatMap.1 hrest
  rw [Pattern.rests_mark (Chars.forall_of_all (by decide)), Option.mem_toList] at hcomma
  obtain rfl := Chars.after?_eq_some_iff.1 hcomma
  have hfirst := head?_rests_boldComma hwords harticle hstates tail
  exact ⟨article, statement, tail, rfl, harticle, hstates, Option.some.inj (h.symm.trans hfirst)⟩

/-- A comma right after a name in bold is dropped with the first character after it if that is a
    space, and stays otherwise. So all blanks after the comma are dropped with it only where they
    are one space. A matcher that refuses the pattern for a name in bold uses the one with a comma,
    and always drops them. -/
theorem strip_comma_iff {name : String} (harticle : IsArticle article)
    (hstates : States (wordsOf name) statement) (hblanks : ∀ c ∈ blanks, isBlank c)
    (hrest : ∀ c ∈ rest.head?, isBlank c = false) :
    let description := boldOpening article statement (',' :: (blanks ++ rest))
    strip name (String.ofList description) = String.ofList (afterComma blanks rest) ∧
    (strip name (String.ofList description) = String.ofList rest ↔ blanks = [' ']) ∧
    ∀ accepts, accepts (.bold (wordsOf name)) = false → accepts (.boldComma (wordsOf name)) →
      Checked.strip accepts (wordsOf name) description = .some rest := by
  intro description
  have hwords : ∀ word ∈ wordsOf name, IsWord word := fun _ => isWord_of_mem_wordsOf
  have hstrip : strip name (String.ofList description) =
      String.ofList (afterComma blanks rest) := by
    rw [← String.toList_inj, toList_strip_boldOpening harticle hstates, String.toList_ofList,
      trimStart, List.dropWhile_cons_of_neg (by decide), withoutComma_comma hrest]
  refine ⟨hstrip, ?_, fun accepts hbold hcomma => ?_⟩
  · rw [hstrip, String.ofList_inj, afterComma_eq_iff]
  · have hcall : stripCall? (wordsOf name) description = none :=
      stripCall?_boldOpening (wordsOf name) harticle statement _
    have hmatch := head?_rests_boldComma hwords harticle hstates (blanks ++ rest)
    rw [trimStart, (takeWhile_run hblanks hrest).2] at hmatch
    rw [Checked.strip_eq hwords hstates.ne_nil, Checked.afterMatch?, hcall, hmatch]
    simp [Checked.accepted, hbold, hcomma]

/-- The comma is followed by a space and a line feed: the line feed stays. -/
theorem strip_comma_lineFeed :
    IsArticle [] ∧ States (wordsOf "Hip house") "hip-house".toList ∧
    (∀ c ∈ [' ', '\n'], isBlank c) ∧ (∀ c ∈ "also".toList.head?, isBlank c = false) ∧
    strip "Hip house" "'''hip-house''', \nalso" = "\nalso" := by
  have hstates : States (wordsOf "Hip house") "hip-house".toList := by
    have hwords : wordsOf "Hip house" = ["Hip".toList, "house".toList] := by decide
    have hstatement : "hip-house".toList = "hip".toList ++ (['-'] ++ "house".toList) := by decide
    have hyphen : ∀ c ∈ ['-'], isSeparator c := Chars.forall_of_all (by decide)
    rw [hwords, hstatement]
    refine .next (sameWord_of_map_toLower (by decide)) (List.cons_ne_nil _ _) hyphen ?_
    exact .last (sameWord_of_map_toLower (by decide))
  have hblanks : ∀ c ∈ [' ', '\n'], isBlank c := Chars.forall_of_all (by decide)
  have hrest : ∀ c ∈ "also".toList.head?, isBlank c = false := by
    rintro _ ⟨⟩
    rfl
  have hstrip := (strip_comma_iff .none hstates hblanks hrest).1
  exact ⟨.none, hstates, hblanks, hrest, hstrip⟩

/-- A comma stays if there is no blank after it, and of two spaces one stays. -/
theorem strip_keeps_comma :
    strip "Hip house" "'''Hip house''',also" = ",also" ∧
    strip "Hip house" "'''Hip house''',  also" = " also" := by
  decide +kernel

end Restatement

end GenreProse
