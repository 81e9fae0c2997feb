-- SUMMARY: Which descriptions open with a restatement of a name, and what is dropped of them.
import GenreProse.Markup.Parse
import GenreProse.Proofs.Restatement.Statements

/-!
# Openings

A description restates a name if it opens with a template call that has the name in it, with the
name in bold, or with the plain name, the latter two maybe after an article. It is changed if and
only if it opens with a restatement, and what is dropped of it states the name.
-/

namespace GenreProse

namespace Restatement

variable {words : List Chars} {s rest : Chars}

/-! ## Articles -/

/-- Nothing, or the article `The` in any case and the blanks after it. -/
inductive IsArticle : Chars → Prop where
  | none : IsArticle []
  | the {text blanks : Chars} (hword : SameWord "The".toList text) (hne : blanks ≠ [])
      (hblanks : ∀ c ∈ blanks, isBlank c) : IsArticle (text ++ blanks)

/-- Whether the text starts with a character that is no blank. -/
def StartsShown (s : Chars) : Prop :=
  ∃ c tail, s = c :: tail ∧ isBlank c = false

/-- A statement starts with no blank. -/
theorem States.startsShown {statement : Chars} (hwords : ∀ word ∈ words, IsWord word)
    (h : States words statement) (rest : Chars) : StartsShown (statement ++ rest) := by
  obtain ⟨c, tail, rfl, hc⟩ := h.exists_cons hwords
  simp only [isSeparator, Bool.or_eq_false_iff] at hc
  exact ⟨c, tail ++ rest, rfl, hc.1⟩

/-- What the reader of articles passes is an article. -/
theorem isArticle_of_afterArticle? (h : afterArticle? s = some rest) :
    ∃ article, s = article ++ rest ∧ IsArticle article ∧ article ≠ [] := by
  unfold afterArticle? at h
  split at h
  · cases h
  · next tail hafter =>
    obtain ⟨text, rfl, hword⟩ := afterWord?_eq_some_iff.1 hafter
    split at h
    · cases h
    · next first blanks hblanks =>
      refine ⟨text ++ tail.takeWhile isBlank, ?_, .the hword (by simp [hblanks]) ?_, ?_⟩
      · obtain rfl := Option.some.inj h
        simp [Chars.trimStart]
      · exact fun c => List.mem_takeWhile_imp
      · simp [hblanks]

/-- The article is passed with its blanks. -/
theorem afterArticle?_the {text blanks : Chars} (hword : SameWord "The".toList text)
    (hne : blanks ≠ []) (hblanks : ∀ c ∈ blanks, isBlank c) (hrest : StartsShown rest) :
    afterArticle? (text ++ blanks ++ rest) = some rest := by
  have hafter : afterWord? "The".toList (text ++ blanks ++ rest) = some (blanks ++ rest) :=
    afterWord?_eq_some_iff.2 ⟨text, by simp, hword⟩
  obtain ⟨htake, hdrop⟩ := takeWhile_gap hblanks hrest
  obtain ⟨c, more, rfl⟩ := List.exists_cons_of_ne_nil hne
  simp only [afterArticle?, hafter, htake, Chars.trimStart, hdrop]

/-- A phrase is read after an article or at once. -/
theorem exists_article_of_afterPhrase? {phrase : Chars → Option Chars}
    (h : afterPhrase? phrase s = some rest) :
    ∃ article tail, s = article ++ tail ∧ IsArticle article ∧ phrase tail = some rest := by
  rcases (Option.orElse_eq_some _ _ _).1 h with hthe | ⟨-, hplain⟩
  · obtain ⟨tail, harticle, hphrase⟩ := Option.bind_eq_some_iff.1 hthe
    obtain ⟨article, hs, hisArticle, -⟩ := isArticle_of_afterArticle? harticle
    exact ⟨article, tail, hs, hisArticle, hphrase⟩
  · exact ⟨[], s, rfl, .none, hplain⟩

/-- A phrase that starts with no blank is found after any article. -/
theorem IsArticle.isSome_afterPhrase? {phrase : Chars → Option Chars} {article tail : Chars}
    (h : IsArticle article) (hphrase : (phrase tail).isSome) (hstart : StartsShown tail) :
    (afterPhrase? phrase (article ++ tail)).isSome := by
  cases h with
  | none => simp [afterPhrase?, hphrase]
  | the hword hne hblanks =>
    rw [afterPhrase?, afterArticle?_the hword hne hblanks hstart]
    simp [hphrase]

/-! ## The name in bold -/

/-- What the reader of bold passes is a statement between two marks. -/
theorem afterBold?_eq_some (hne : words ≠ []) (h : afterBold? words s = some rest) :
    ∃ statement, s = boldMark ++ (statement ++ (boldMark ++ rest)) ∧ States words statement := by
  obtain ⟨tail, hname, hclosing⟩ := Option.bind_eq_some_iff.1 h
  obtain ⟨opened, hopening, hwords⟩ := Option.bind_eq_some_iff.1 hname
  obtain ⟨statement, rfl, hstates⟩ := afterWords?_states hne hwords
  obtain rfl := Chars.after?_eq_some_iff.1 hopening
  obtain rfl := Chars.after?_eq_some_iff.1 hclosing
  exact ⟨statement, rfl, hstates⟩

/-- A statement in bold is passed. -/
theorem States.afterBold?_eq {statement : Chars} (hwords : ∀ word ∈ words, IsWord word)
    (h : States words statement) (rest : Chars) :
    afterBold? words (boldMark ++ (statement ++ (boldMark ++ rest))) = some rest := by
  have hopening : Chars.after? boldMark (boldMark ++ (statement ++ (boldMark ++ rest))) = _ :=
    Chars.after?_eq_some_iff.2 rfl
  have hclosing : Chars.after? boldMark (boldMark ++ rest) = _ := Chars.after?_eq_some_iff.2 rfl
  rw [afterBold?, hopening, Option.bind_some, h.afterWords?_eq hwords, Option.bind_some, hclosing]

/-! ## Restatements -/

/-- The text opens with a restatement of the name with the given words. -/
inductive Restates (words : List Chars) : Chars → Prop where
  /-- A template call with the name in it. -/
  | call {opened inner rest statement : Chars}
      (hcall : Markup.balanced? '{' '}' 1 opened = some (inner, rest))
      (hstates : States words statement)
      (hwithin : statement <:+: '{' :: '{' :: (inner ++ ['}', '}'])) :
      Restates words ('{' :: '{' :: opened)
  /-- The name in bold. -/
  | bold {article statement rest : Chars} (harticle : IsArticle article)
      (hstates : States words statement) :
      Restates words (article ++ (boldMark ++ (statement ++ (boldMark ++ rest))))
  /-- The plain name. -/
  | plain {article statement rest : Chars} (harticle : IsArticle article)
      (hstates : States words statement) :
      Restates words (article ++ (statement ++ rest))

theorem Restates.ne_nil (h : Restates words s) : words ≠ [] := by
  cases h with
  | call _ hstates _ => exact hstates.ne_nil
  | bold _ hstates => exact hstates.ne_nil
  | plain _ hstates => exact hstates.ne_nil

/-- The text without the restatement that it opens with, if it opens with one. -/
def afterRestatement? (words : List Chars) (s : Chars) : Option Chars :=
  stripCall? words s <|> stripBold? words s <|> stripPlain? words s

/-- A description is cut after the first restatement that is found. -/
theorem toList_strip (name description : String) : (strip name description).toList =
    if wordsOf name = [] then description.toList
    else (afterRestatement? (wordsOf name) description.toList).getD description.toList := by
  unfold strip afterRestatement?
  simp only [List.isEmpty_iff]
  split
  · rfl
  · split
    · next hfound => rw [hfound, String.toList_ofList, Option.getD_some]
    · next hfound => rw [hfound, Option.getD_none]

/-- What is dropped is the start of the text, and states the name somewhere. -/
def DropsStatement (words : List Chars) (s rest : Chars) : Prop :=
  ∃ dropped statement, s = dropped ++ rest ∧ States words statement ∧ statement <:+: dropped

/-- What states the name may be dropped. -/
theorem States.drops {statement : Chars} (h : States words statement) (rest : Chars) :
    DropsStatement words (statement ++ rest) rest :=
  ⟨statement, statement, rfl, h, List.infix_rfl⟩

/-- More may be dropped before a statement. -/
theorem DropsStatement.before (h : DropsStatement words s rest) (front : Chars) :
    DropsStatement words (front ++ s) rest := by
  obtain ⟨dropped, statement, rfl, hstates, hwithin⟩ := h
  refine ⟨front ++ dropped, statement, by simp, hstates, ?_⟩
  exact hwithin.trans (List.suffix_append _ _).isInfix

/-- More may be dropped after a statement. -/
theorem DropsStatement.more (more : Chars) (h : DropsStatement words s (more ++ rest)) :
    DropsStatement words s rest := by
  obtain ⟨dropped, statement, rfl, hstates, hwithin⟩ := h
  refine ⟨dropped ++ more, statement, by simp, hstates, ?_⟩
  exact hwithin.trans (List.prefix_append _ _).isInfix

/-- What is dropped is at least as long as the letters of the name. -/
theorem DropsStatement.length_le (h : DropsStatement words s rest) :
    rest.length + words.flatten.length ≤ s.length := by
  obtain ⟨dropped, statement, rfl, hstates, hwithin⟩ := h
  have hstatement := hstates.length_le
  have hdropped := hwithin.length_le
  rw [List.length_append]
  omega

theorem exists_append_trimStart (s : Chars) : ∃ blanks, s = blanks ++ Chars.trimStart s :=
  ⟨s.takeWhile isBlank, List.takeWhile_append_dropWhile.symm⟩

/-- A call with the name in it is dropped, with the blanks after it. -/
theorem stripCall?_call {opened inner tail : Chars}
    (hcall : Markup.balanced? '{' '}' 1 opened = some (inner, tail)) :
    stripCall? words ('{' :: '{' :: opened) =
      if occurIn words ('{' :: '{' :: (inner ++ ['}', '}'])) then some (Chars.trimStart tail)
      else none := by
  have hopened : Chars.after? ['{', '{'] ('{' :: '{' :: opened) = some opened := rfl
  have hspan : '{' :: '{' :: opened = '{' :: '{' :: (inner ++ ['}', '}']) ++ tail := by
    simp [Markup.eq_append_of_balanced? hcall]
  simp only [stripCall?, hopened, hcall]
  rw [hspan, List.length_append, Nat.add_sub_cancel, List.take_left]

/-- A call that is dropped has the name in it. -/
theorem exists_call_of_stripCall? (h : stripCall? words s = some rest) : ∃ opened inner tail,
    s = '{' :: '{' :: opened ∧ Markup.balanced? '{' '}' 1 opened = some (inner, tail) ∧
      occurIn words ('{' :: '{' :: (inner ++ ['}', '}'])) ∧ rest = Chars.trimStart tail := by
  have hfound := h
  unfold stripCall? at hfound
  split at hfound
  · cases hfound
  · next opened hopened =>
    split at hfound
    · cases hfound
    · next inner tail hcall =>
      obtain rfl := Chars.after?_eq_some_iff.1 hopened
      rw [List.cons_append, List.cons_append, List.nil_append, stripCall?_call hcall] at h
      split at h
      · next hoccurs => exact ⟨opened, inner, tail, rfl, hcall, hoccurs, (Option.some.inj h).symm⟩
      · cases h

/-- A name in bold is dropped with its article, and with what belongs to it. -/
theorem exists_bold_of_stripBold? (hne : words ≠ []) (h : stripBold? words s = some rest) :
    ∃ article statement more, IsArticle article ∧ States words statement ∧
      s = article ++ (boldMark ++ (statement ++ (boldMark ++ (more ++ rest)))) := by
  obtain ⟨tail, hphrase, hrest⟩ := Option.map_eq_some_iff.1 h
  obtain ⟨article, phrase, rfl, harticle, hbold⟩ := exists_article_of_afterPhrase? hphrase
  obtain ⟨statement, rfl, hstates⟩ := afterBold?_eq_some hne hbold
  obtain ⟨blanks, hblanks⟩ := exists_append_trimStart tail
  cases hcomma : Chars.after? [',', ' '] (Chars.trimStart tail) with
  | none =>
    obtain rfl : Chars.trimStart tail = rest := by simpa [hcomma] using hrest
    exact ⟨article, statement, blanks, harticle, hstates, by rw [← hblanks]⟩
  | some left =>
    obtain rfl : left = rest := by simpa [hcomma] using hrest
    refine ⟨article, statement, blanks ++ [',', ' '], harticle, hstates, ?_⟩
    rw [List.append_assoc blanks, ← Chars.after?_eq_some_iff.1 hcomma, ← hblanks]

/-- A plain name is dropped with its article, and with what belongs to it. -/
theorem exists_plain_of_stripPlain? (hne : words ≠ []) (h : stripPlain? words s = some rest) :
    ∃ article statement more, IsArticle article ∧ States words statement ∧
      s = article ++ (statement ++ (more ++ rest)) := by
  obtain ⟨tail, hphrase, rfl⟩ := Option.map_eq_some_iff.1 h
  obtain ⟨article, phrase, rfl, harticle, hwords⟩ := exists_article_of_afterPhrase? hphrase
  obtain ⟨statement, rfl, hstates⟩ := afterWords?_states hne hwords
  obtain ⟨blanks, hblanks⟩ := exists_append_trimStart tail
  exact ⟨article, statement, blanks, harticle, hstates, by rw [← hblanks]⟩

section

variable (hwords : ∀ word ∈ words, IsWord word) (hne : words ≠ [])
include hwords hne

/-- A call with the name in it is found. -/
theorem isSome_stripCall? {opened inner tail statement : Chars}
    (hcall : Markup.balanced? '{' '}' 1 opened = some (inner, tail))
    (hstates : States words statement)
    (hwithin : statement <:+: '{' :: '{' :: (inner ++ ['}', '}'])) :
    (stripCall? words ('{' :: '{' :: opened)).isSome := by
  have hoccurs := (occurIn_iff hwords hne).2 ⟨statement, hstates, hwithin⟩
  rw [stripCall?_call hcall, if_pos hoccurs]
  rfl

omit hne in
/-- A name in bold is found. -/
theorem isSome_stripBold? {article statement : Chars} (harticle : IsArticle article)
    (hstates : States words statement) (rest : Chars) :
    (stripBold? words (article ++ (boldMark ++ (statement ++ (boldMark ++ rest))))).isSome := by
  rw [stripBold?, Option.isSome_map]
  refine harticle.isSome_afterPhrase? ?_ ⟨'\'', _, rfl, by decide⟩
  rw [hstates.afterBold?_eq hwords]
  rfl

omit hne in
/-- A plain name is found. -/
theorem isSome_stripPlain? {article statement : Chars} (harticle : IsArticle article)
    (hstates : States words statement) (rest : Chars) :
    (stripPlain? words (article ++ (statement ++ rest))).isSome := by
  rw [stripPlain?, Option.isSome_map]
  refine harticle.isSome_afterPhrase? ?_ (hstates.startsShown hwords rest)
  rw [hstates.afterWords?_eq hwords]
  rfl

/-- Whatever is dropped states the name, and the text restates it. -/
theorem restates_of_afterRestatement? (h : afterRestatement? words s = some rest) :
    Restates words s ∧ DropsStatement words s rest := by
  unfold afterRestatement? at h
  rcases (Option.orElse_eq_some _ _ _).1 h with hcall | ⟨-, hlater⟩
  · obtain ⟨opened, inner, tail, rfl, hbalanced, hoccurs, rfl⟩ := exists_call_of_stripCall? hcall
    obtain ⟨statement, hstates, hwithin⟩ := (occurIn_iff hwords hne).1 hoccurs
    obtain ⟨blanks, hblanks⟩ := exists_append_trimStart tail
    refine ⟨.call hbalanced hstates hwithin, DropsStatement.more blanks ?_⟩
    rw [← hblanks]
    refine ⟨_, statement, ?_, hstates, hwithin⟩
    simp [Markup.eq_append_of_balanced? hbalanced]
  · rcases (Option.orElse_eq_some _ _ _).1 hlater with hbold | ⟨-, hplain⟩
    · obtain ⟨article, statement, more, harticle, hstates, rfl⟩ :=
        exists_bold_of_stripBold? hne hbold
      refine ⟨.bold harticle hstates, DropsStatement.more (boldMark ++ more) ?_⟩
      simpa using ((hstates.drops _).before boldMark).before article
    · obtain ⟨article, statement, more, harticle, hstates, rfl⟩ :=
        exists_plain_of_stripPlain? hne hplain
      exact ⟨.plain harticle hstates, ((hstates.drops _).before article).more⟩

/-- A text that restates the name is changed. -/
theorem Restates.isSome_afterRestatement? (h : Restates words s) :
    (afterRestatement? words s).isSome := by
  have hsome : (stripCall? words s).isSome ∨ (stripBold? words s).isSome ∨
      (stripPlain? words s).isSome := by
    cases h with
    | call hcall hstates hwithin => exact .inl (isSome_stripCall? hwords hne hcall hstates hwithin)
    | bold harticle hstates => exact .inr (.inl (isSome_stripBold? hwords harticle hstates _))
    | plain harticle hstates => exact .inr (.inr (isSome_stripPlain? hwords harticle hstates _))
  unfold afterRestatement?
  simpa using hsome

theorem flatten_length_pos : 0 < words.flatten.length := by
  obtain ⟨word, others, rfl⟩ := List.exists_cons_of_ne_nil hne
  have hword := (hwords word List.mem_cons_self).ne_nil
  simp only [List.flatten_cons, List.length_append]
  have := List.length_pos_of_ne_nil hword
  omega

end

/-! ## Descriptions -/

/-- A description that restates nothing is kept, and one that does is shortened by a statement. -/
theorem strip_cases (name description : String) :
    (¬Restates (wordsOf name) description.toList ∧ strip name description = description) ∨
      (Restates (wordsOf name) description.toList ∧
        DropsStatement (wordsOf name) description.toList (strip name description).toList) := by
  have hwords : ∀ word ∈ wordsOf name, IsWord word := fun _ => isWord_of_mem_wordsOf
  have hstrip := toList_strip name description
  split at hstrip
  · next hnil =>
    left
    refine ⟨?_, String.toList_inj.1 hstrip⟩
    exact fun h => h.ne_nil hnil
  · next hne =>
    cases hfound : afterRestatement? (wordsOf name) description.toList with
    | none =>
      left
      rw [hfound, Option.getD_none] at hstrip
      refine ⟨?_, String.toList_inj.1 hstrip⟩
      intro h
      have hsome := h.isSome_afterRestatement? hwords hne
      simp [hfound] at hsome
    | some rest =>
      right
      rw [hfound, Option.getD_some] at hstrip
      rw [hstrip]
      exact restates_of_afterRestatement? hwords hne hfound

/-- A restatement makes the description shorter by at least the letters of the name. -/
theorem strip_length_le {name description : String}
    (h : Restates (wordsOf name) description.toList) :
    (strip name description).length + (wordsOf name).flatten.length ≤ description.length ∧
      0 < (wordsOf name).flatten.length := by
  rcases strip_cases name description with ⟨hnot, -⟩ | ⟨-, hdrops⟩
  · exact absurd h hnot
  · have hlength := hdrops.length_le
    obtain ⟨_, statement, -, hstates, -⟩ := hdrops
    have hpos := flatten_length_pos (fun _ => isWord_of_mem_wordsOf) hstates.ne_nil
    rw [String.length_toList, String.length_toList] at hlength
    exact ⟨hlength, hpos⟩

/-- Exactly the descriptions that restate nothing are kept. -/
theorem strip_eq_self_iff (name description : String) :
    strip name description = description ↔ ¬Restates (wordsOf name) description.toList := by
  constructor
  · intro heq h
    obtain ⟨hlength, hpos⟩ := strip_length_le h
    rw [heq] at hlength
    omega
  · intro hnot
    rcases strip_cases name description with ⟨-, hkept⟩ | ⟨h, -⟩
    · exact hkept
    · exact absurd h hnot

end Restatement

end GenreProse
