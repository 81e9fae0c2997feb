-- SUMMARY: Patterns with byte offsets find the same restatements as the readers.
import GenreProse.Proofs.Markup.Slices
import GenreProse.Proofs.Restatement.Openings

/-!
# Patterns

The restatements of a name can be written as patterns, which a matcher tries in order of preference:
it takes as much as it can and gives some of it back where the rest fails. A match tells where it
ends in bytes, and the description is cut there. The readers of names never go back; as no word
starts with a separator, what a matcher would give back never helps. The matcher may also refuse a
pattern, if it is too large.
-/

namespace GenreProse

open Chars

namespace Restatement

/-! ## Matching -/

/-- A pattern for the start of a text. -/
inductive Pattern where
  /-- No characters. -/
  | nothing
  /-- One character that passes the test. -/
  | one (test : Char → Bool)
  /-- Characters that pass the test, as many as possible. -/
  | many (test : Char → Bool)
  /-- A pattern that may be missing. -/
  | optional (pattern : Pattern)
  /-- Two patterns, one after the other. -/
  | seq (first next : Pattern)

namespace Pattern

/-- What remains after each number of characters that pass the test, the largest number first. -/
def restsOfMany (test : Char → Bool) : Chars → List Chars
  | [] => [[]]
  | c :: s => if test c then restsOfMany test s ++ [c :: s] else [c :: s]

/-- What remains after each match at the start of the text, the preferred match first. -/
def rests : Pattern → Chars → List Chars
  | nothing, s => [s]
  | one _, [] => []
  | one test, c :: s => if test c then [s] else []
  | many test, s => restsOfMany test s
  | optional pattern, s => pattern.rests s ++ [s]
  | seq first next, s => (first.rests s).flatMap next.rests

/-- The byte offset at which the preferred match at the start of the text ends. -/
def matchEnd? (pattern : Pattern) (s : Chars) : Option Nat :=
  (pattern.rests s).head?.map fun rest => byteLength s - byteLength rest

/-- Whether the pattern matches anywhere in the text. -/
def occursIn (pattern : Pattern) (s : Chars) : Bool :=
  s.tails.any fun tail => !(pattern.rests tail).isEmpty

def word : Chars → Pattern
  | [] => nothing
  | c :: s => seq (one (sameFolded c)) (word s)

/-- One or more characters that pass the test. -/
def atLeastOne (test : Char → Bool) : Pattern :=
  seq (one test) (many test)

/-- Words with separators between each two. -/
def name : List Chars → Pattern
  | [] => nothing
  | [first] => word first
  | first :: next :: words => seq (word first) (seq (atLeastOne isSeparator) (name (next :: words)))

/-- A pattern that may come after an article. -/
def afterArticle (phrase : Pattern) : Pattern :=
  seq (optional (seq (word "The".toList) (atLeastOne isBlank))) phrase

/-- Words in bold, and what comes after them. -/
def inBold (words : List Chars) (next : Pattern) : Pattern :=
  seq (word boldMark) (seq (name words) (seq (word boldMark) next))

def bold (words : List Chars) : Pattern :=
  afterArticle (inBold words (many isBlank))

/-- The name in bold, a comma and the blanks after it. -/
def boldComma (words : List Chars) : Pattern :=
  afterArticle (inBold words (seq (word [',']) (many isBlank)))

def plain (words : List Chars) : Pattern :=
  afterArticle (seq (name words) (many isBlank))

/-! ## Matches are what readers read -/

/-- A match leaves an ending of the text. -/
theorem suffix_of_mem_rests {pattern : Pattern} {s rest : Chars} (h : rest ∈ pattern.rests s) :
    rest <:+ s := by
  induction pattern generalizing s rest with
  | nothing =>
    obtain rfl := List.mem_singleton.1 h
    exact List.suffix_refl _
  | one test =>
    cases s with
    | nil => cases h
    | cons c s =>
      simp only [rests] at h
      split at h
      · obtain rfl := List.mem_singleton.1 h
        exact List.suffix_cons _ _
      · cases h
  | many test =>
    simp only [rests] at h
    induction s with
    | nil =>
      obtain rfl := List.mem_singleton.1 h
      exact List.suffix_refl _
    | cons c s ih =>
      simp only [restsOfMany] at h
      split at h
      · rcases List.mem_append.1 h with hmore | hnone
        · exact (ih hmore).trans (List.suffix_cons _ _)
        · obtain rfl := List.mem_singleton.1 hnone
          exact List.suffix_refl _
      · obtain rfl := List.mem_singleton.1 h
        exact List.suffix_refl _
  | optional pattern ih =>
    rcases List.mem_append.1 h with hthere | hmissing
    · exact ih hthere
    · obtain rfl := List.mem_singleton.1 hmissing
      exact List.suffix_refl _
  | seq first next ihfirst ihnext =>
    obtain ⟨middle, hfirst, hnext⟩ := List.mem_flatMap.1 h
    exact (ihnext hnext).trans (ihfirst hfirst)

theorem rests_word (w s : Chars) : (word w).rests s = (afterWord? w s).toList := by
  fun_induction afterWord? w s with
  | case1 => rfl
  | case2 => rfl
  | case3 w ws c s hsame ih => simp [word, rests, hsame, ih]
  | case4 w ws c s hsame => simp [word, rests, hsame]

/-- The preferred match takes as many characters as it can. -/
theorem head?_restsOfMany (test : Char → Bool) (s : Chars) :
    (restsOfMany test s).head? = some (s.dropWhile test) := by
  induction s with
  | nil => rfl
  | cons c s ih =>
    by_cases hc : test c
    · simp [restsOfMany, hc, ih]
    · simp [restsOfMany, hc]

/-- Where nothing starts with a character that passes the test, giving some back is in vain. -/
theorem flatMap_restsOfMany {test : Char → Bool} {f : Chars → List Chars}
    (hf : ∀ c s, test c → f (c :: s) = []) (s : Chars) :
    (restsOfMany test s).flatMap f = f (s.dropWhile test) := by
  induction s with
  | nil => simp [restsOfMany]
  | cons c s ih =>
    by_cases hc : test c
    · simp [restsOfMany, hc, ih, hf c s hc]
    · simp [restsOfMany, hc]

theorem flatMap_rests_atLeastOne {test : Char → Bool} {f : Chars → List Chars}
    (hf : ∀ c s, test c → f (c :: s) = []) (s : Chars) :
    ((atLeastOne test).rests s).flatMap f =
      if s.takeWhile test = [] then [] else f (s.dropWhile test) := by
  cases s with
  | nil => simp [atLeastOne, rests]
  | cons c s =>
    by_cases hc : test c
    · simp [atLeastOne, rests, hc, flatMap_restsOfMany hf]
    · simp [atLeastOne, rests, hc]

/-- A word does not match where a separator comes first. -/
theorem afterWord?_separator {w : Chars} (hw : IsWord w) {c : Char} (hc : isSeparator c)
    (s : Chars) : afterWord? w (c :: s) = none := by
  rw [Option.eq_none_iff_forall_ne_some]
  intro rest h
  obtain ⟨text, htext, hsame⟩ := afterWord?_eq_some_iff.1 h
  obtain ⟨d, tail, rfl, hd⟩ := hw.exists_cons hsame
  obtain ⟨rfl, -⟩ := List.cons.inj htext
  rw [hc] at hd
  cases hd

theorem afterWords?_separator {words : List Chars} (hwords : ∀ word ∈ words, IsWord word)
    (hne : words ≠ []) {c : Char} (hc : isSeparator c) (s : Chars) :
    afterWords? words (c :: s) = none := by
  obtain ⟨first, others, rfl⟩ := List.exists_cons_of_ne_nil hne
  have hfirst := afterWord?_separator (hwords first List.mem_cons_self) hc s
  cases others <;> simp [afterWords?, hfirst]

/-- A name matches what its reader reads. -/
theorem rests_name {words : List Chars} (hwords : ∀ word ∈ words, IsWord word) (s : Chars) :
    (name words).rests s = (afterWords? words s).toList := by
  induction words generalizing s with
  | nil => rfl
  | cons first words ih =>
    obtain ⟨hfirst, hothers⟩ := List.forall_mem_cons.1 hwords
    cases words with
    | nil => exact rests_word first s
    | cons next words =>
      have hstart : ∀ c s, isSeparator c → (name (next :: words)).rests (c :: s) = [] := by
        intro c s hc
        rw [ih hothers, afterWords?_separator hothers (List.cons_ne_nil _ _) hc]
        rfl
      simp only [name, rests, rests_word]
      cases hafter : afterWord? first s with
      | none => simp [afterWords?, hafter]
      | some tail =>
        simp only [Option.toList_some, List.flatMap_singleton, flatMap_rests_atLeastOne hstart]
        cases hgap : tail.takeWhile isSeparator with
        | nil => simp [afterWords?, hafter, hgap]
        | cons c gap => simp [afterWords?, hafter, hgap, ih hothers]

/-- A name occurs where its reader finds it. -/
theorem occursIn_name {words : List Chars} (hwords : ∀ word ∈ words, IsWord word) (s : Chars) :
    (name words).occursIn s = occurIn words s := by
  have hhere (s : Chars) :
      (!((name words).rests s).isEmpty) = (afterWords? words s).isSome := by
    rw [rests_name hwords]
    cases afterWords? words s <;> rfl
  simp only [occursIn, hhere]
  induction s with
  | nil => simp [occurIn]
  | cons c s ih => simp [occurIn, ih]

/-- What remains after a phrase: first the matches after an article, then those without one. -/
theorem rests_afterArticle {phrase : Pattern}
    (hphrase : ∀ c s, isBlank c → phrase.rests (c :: s) = []) (s : Chars) :
    (afterArticle phrase).rests s =
      (afterArticle? s).toList.flatMap phrase.rests ++ phrase.rests s := by
  have hthe : ((word "The".toList).rests s).flatMap
      (fun tail => ((atLeastOne isBlank).rests tail).flatMap phrase.rests) =
        (afterArticle? s).toList.flatMap phrase.rests := by
    rw [rests_word]
    unfold afterArticle?
    cases afterWord? "The".toList s with
    | none => rfl
    | some tail =>
      simp only [Option.toList_some, List.flatMap_singleton, flatMap_rests_atLeastOne hphrase]
      cases tail.takeWhile isBlank with
      | nil => rfl
      | cons c blanks => simp [Chars.trimStart]
  simp only [afterArticle, rests, List.flatMap_append, List.flatMap_assoc, hthe,
    List.flatMap_singleton]

/-- A mark without case matches itself only. -/
theorem rests_mark {mark : Chars} (hmark : ∀ c ∈ mark, isCaseless c) (s : Chars) :
    (word mark).rests s = (after? mark s).toList := by
  rw [rests_word]
  congr 1
  induction mark generalizing s with
  | nil => rfl
  | cons m mark ih =>
    obtain ⟨hm, hrest⟩ := List.forall_mem_cons.1 hmark
    cases s with
    | nil => rfl
    | cons c s => simp only [afterWord?, after?, sameFolded_iff_of_isCaseless hm, ih hrest]

/-- The pattern of bold matches what its reader reads. -/
theorem rests_inBold {words : List Chars} (hwords : ∀ word ∈ words, IsWord word) (next : Pattern)
    (s : Chars) :
    (inBold words next).rests s = (afterBold? words s).toList.flatMap next.rests := by
  have hmark : ∀ c ∈ boldMark, isCaseless c := Chars.forall_of_all (by decide)
  simp only [inBold, rests, rests_mark hmark, rests_name hwords, afterBold?]
  cases after? boldMark s with
  | none => rfl
  | some opened =>
    cases hname : afterWords? words opened with
    | none => simp [hname]
    | some tail => cases hclosing : after? boldMark tail <;> simp [hname, hclosing]

section Phrase

variable {phrase : Pattern} {reader : Chars → Option Chars} {next : Chars → List Chars}
  (hrests : ∀ s, phrase.rests s = (reader s).toList.flatMap next)
  (hreader : ∀ c s, isBlank c → reader (c :: s) = none)
include hrests hreader

/-- The pattern with an article matches with the article first. -/
theorem rests_phrase (s : Chars) : (afterArticle phrase).rests s =
    ((afterArticle? s).bind reader).toList.flatMap next ++ (reader s).toList.flatMap next := by
  have hphrase : ∀ c s, isBlank c → phrase.rests (c :: s) = [] := by
    intro c s hc
    rw [hrests, hreader c s hc]
    rfl
  rw [rests_afterArticle hphrase, hrests]
  congr 1
  cases afterArticle? s with
  | none => rfl
  | some tail => simp [hrests]

/-- If something remains after a phrase in any case, the preferred match is that of the reader. -/
theorem head?_rests_phrase {first : Chars → Chars} (hnext : ∀ s, (next s).head? = some (first s))
    (s : Chars) :
    ((afterArticle phrase).rests s).head? = (afterPhrase? reader s).map first := by
  rw [rests_phrase hrests hreader, afterPhrase?]
  cases (afterArticle? s).bind reader with
  | none => cases reader s <;> simp [hnext]
  | some tail => simp [List.head?_append, hnext]

/-- What follows the phrase may fail to match elsewhere. -/
theorem head?_rests_phrase_of_eq_some {s tail rest : Chars} (h : afterPhrase? reader s = some tail)
    (hrest : (next tail).head? = some rest) :
    ((afterArticle phrase).rests s).head? = some rest := by
  rw [rests_phrase hrests hreader]
  rcases (Option.orElse_eq_some _ _ _).1 h with harticle | ⟨harticle, hplain⟩
  · simp [harticle, List.head?_append, hrest]
  · simp [harticle, hplain, hrest]

/-- Where the reader finds nothing, the pattern does not match. -/
theorem rests_phrase_of_none {s : Chars} (h : afterPhrase? reader s = none) :
    (afterArticle phrase).rests s = [] := by
  obtain ⟨harticle, hplain⟩ : (afterArticle? s).bind reader = none ∧ reader s = none := by
    simpa [afterPhrase?] using h
  rw [rests_phrase hrests hreader, harticle, hplain]
  rfl

/-- What remains after a phrase is a part of what its reader leaves, with or without an article. -/
theorem exists_of_mem_rests_phrase {s rest : Chars} (h : rest ∈ (afterArticle phrase).rests s) :
    ∃ article start tail, s = article ++ start ∧ IsArticle article ∧ reader start = some tail ∧
      rest ∈ next tail := by
  rw [rests_phrase hrests hreader] at h
  rcases List.mem_append.1 h with hthe | hplain
  · obtain ⟨tail, htail, hrest⟩ := List.mem_flatMap.1 hthe
    obtain ⟨start, hstart, hread⟩ := Option.bind_eq_some_iff.1 (Option.mem_toList.1 htail)
    obtain ⟨article, rfl, harticle, -⟩ := isArticle_of_afterArticle? hstart
    exact ⟨article, start, tail, rfl, harticle, hread, hrest⟩
  · obtain ⟨tail, htail, hrest⟩ := List.mem_flatMap.1 hplain
    exact ⟨[], s, tail, rfl, .none, Option.mem_toList.1 htail, hrest⟩

end Phrase

theorem afterBold?_blank {words : List Chars} {c : Char} (hc : isBlank c) (s : Chars) :
    afterBold? words (c :: s) = none := by
  have hquote : '\'' ≠ c := by
    rintro rfl
    exact absurd hc (by decide)
  simp [afterBold?, boldMark, after?, hquote]

section

variable {words : List Chars} (hwords : ∀ word ∈ words, IsWord word)
include hwords

theorem rests_plain (s : Chars) : (seq (name words) (many isBlank)).rests s =
    (afterWords? words s).toList.flatMap (restsOfMany isBlank) := by
  simp only [rests, rests_name hwords]

theorem afterWords?_blank (hne : words ≠ []) (c : Char) (s : Chars) (hc : isBlank c) :
    afterWords? words (c :: s) = none :=
  afterWords?_separator hwords hne (by simp [isSeparator, hc]) s

/-- The preferred match of bold is what the reader finds. -/
theorem head?_rests_bold (s : Chars) :
    ((bold words).rests s).head? = (afterPhrase? (afterBold? words) s).map trimStart :=
  head?_rests_phrase (rests_inBold hwords (many isBlank)) (fun _ s hc => afterBold?_blank hc s)
    (head?_restsOfMany isBlank) s

/-- The preferred match of a plain name is what the reader finds. -/
theorem head?_rests_plain (hne : words ≠ []) (s : Chars) :
    ((plain words).rests s).head? = stripPlain? words s :=
  head?_rests_phrase (rests_plain hwords) (afterWords?_blank hwords hne)
    (head?_restsOfMany isBlank) s

/-- The pattern with a comma matches only where the one without it does. -/
theorem rests_boldComma {s : Chars} (h : afterPhrase? (afterBold? words) s = none) :
    (boldComma words).rests s = [] :=
  rests_phrase_of_none (rests_inBold hwords _) (fun _ s hc => afterBold?_blank hc s) h

/-- A match of the name in bold drops a statement of the name, whatever comes after the bold. -/
theorem drops_of_mem_inBold (hne : words ≠ []) {next : Pattern} {s rest : Chars}
    (h : rest ∈ (afterArticle (inBold words next)).rests s) : DropsStatement words s rest := by
  obtain ⟨article, start, tail, rfl, -, hread, hrest⟩ := exists_of_mem_rests_phrase
    (rests_inBold hwords next) (fun _ s hc => afterBold?_blank hc s) h
  obtain ⟨statement, rfl, hstates⟩ := afterBold?_eq_some hne hread
  obtain ⟨more, rfl⟩ := suffix_of_mem_rests hrest
  refine DropsStatement.more (boldMark ++ more) ?_
  simpa using ((hstates.drops _).before boldMark).before article

/-- A match of the plain name drops a statement of the name. -/
theorem drops_of_mem_plain (hne : words ≠ []) {s rest : Chars}
    (h : rest ∈ (plain words).rests s) : DropsStatement words s rest := by
  obtain ⟨article, start, tail, rfl, -, hread, hrest⟩ := exists_of_mem_rests_phrase
    (rests_plain hwords) (afterWords?_blank hwords hne) h
  obtain ⟨statement, rfl, hstates⟩ := afterWords?_states hne hread
  have hblanks : rest ∈ (many isBlank).rests tail := hrest
  obtain ⟨more, rfl⟩ := suffix_of_mem_rests hblanks
  exact ((hstates.drops _).before article).more more

end

end Pattern

/-! ## Cutting at byte offsets -/

namespace Checked

/-- Drops a template call that opens the text and has a match for the name in it, and the blanks
    after the call. -/
def stripCall (accepts : Pattern → Bool) (words : List Chars) (s : Chars) : Part (Option Chars) :=
  if opensWith ['{', '{'] s then do
    match ← Markup.Checked.findBalanced s.bytes '{'.toUInt8 '}'.toUInt8 with
    | none => return none
    | some stop =>
      let span ← sliceTo s (stop + 2)
      if accepts (.name words) && (Pattern.name words).occursIn span then
        return some (trimStart (← sliceFrom s (stop + 2)))
      else return none
  else return none

/-- Drops the preferred match of a pattern at the start of the text. -/
def dropMatch (accepts : Pattern → Bool) (pattern : Pattern) (s : Chars) : Part (Option Chars) :=
  if accepts pattern then
    match pattern.matchEnd? s with
    | none => return none
    | some stop => return some (← sliceFrom s stop)
  else return none

/-- Drops the first restatement that is found. The matcher uses only patterns that it accepts. -/
def strip (accepts : Pattern → Bool) (words : List Chars) (s : Chars) : Part Chars :=
  if words = [] then return s
  else do
    match ← stripCall accepts words s with
    | some rest => return rest
    | none =>
      match ← dropMatch accepts (.bold words) s with
      | some rest => return (after? [',', ' '] rest).getD rest
      | none =>
        match ← dropMatch accepts (.boldComma words) s with
        | some rest => return rest
        | none => return (← dropMatch accepts (.plain words) s).getD s

/-- A result that needs a pattern. -/
def accepted (accepts : Pattern → Bool) (pattern : Pattern) (found : Option Chars) :
    Option Chars :=
  if accepts pattern then found else none

variable {accepts : Pattern → Bool}

/-- All slices around a call are in range. -/
theorem stripCall_eq {words : List Chars} (hwords : ∀ word ∈ words, IsWord word) (s : Chars) :
    stripCall accepts words s = .some (accepted accepts (.name words) (stripCall? words s)) := by
  unfold stripCall
  cases hopened : after? ['{', '{'] s with
  | none =>
    have hnot : opensWith ['{', '{'] s = false := by simp [opensWith, hopened]
    have hnone : stripCall? words s = none := by simp [stripCall?, hopened]
    rw [hnone, hnot]
    simp [accepted]
  | some opened =>
    obtain rfl := Chars.after?_eq_some_iff.1 hopened
    have hopens : opensWith ['{', '{'] ('{' :: '{' :: opened) := rfl
    rw [List.cons_append, List.cons_append, List.nil_append, if_pos hopens,
      Markup.Checked.findBalanced_opened (by decide) (by decide)]
    cases hcall : Markup.balanced? '{' '}' 1 opened with
    | none =>
      have hnone : stripCall? words ('{' :: '{' :: opened) = none := by
        simp only [stripCall?, show after? ['{', '{'] ('{' :: '{' :: opened) = some opened from rfl,
          hcall]
      rw [hnone]
      simp [accepted]
    | some found =>
      obtain ⟨inner, tail⟩ := found
      have hspan : '{' :: '{' :: opened = '{' :: '{' :: (inner ++ ['}', '}']) ++ tail := by
        simp [Markup.eq_append_of_balanced? hcall]
      have hlength : 2 + byteLength inner + 2
          = byteLength ('{' :: '{' :: (inner ++ ['}', '}'])) := by
        have hone : '{'.utf8Size = 1 ∧ '}'.utf8Size = 1 := by decide
        simp only [byteLength_cons, byteLength_append, byteLength_nil, hone]
        omega
      have htail := Markup.Checked.sliceFrom_balanced (by decide) (by decide) hcall
      rw [stripCall?_call hcall]
      simp only [Option.map_some, Part.bind_eq_bind, Part.bind_some, sliceTo_eq_some hspan hlength,
        Pattern.occursIn_name hwords, htail, accepted]
      cases accepts (.name words) <;> cases occurIn words _ <;> rfl

/-- The slice after a match is in range. -/
theorem dropMatch_eq (pattern : Pattern) (s : Chars) : dropMatch accepts pattern s =
    .some (accepted accepts pattern (pattern.rests s).head?) := by
  unfold dropMatch accepted Pattern.matchEnd?
  split
  · cases hrest : (pattern.rests s).head? with
    | none => rfl
    | some rest =>
      obtain ⟨dropped, rfl⟩ := Pattern.suffix_of_mem_rests (List.mem_of_head? hrest)
      have hcut : sliceFrom (dropped ++ rest) (byteLength (dropped ++ rest) - byteLength rest) =
          .some rest := sliceFrom_eq_some rfl (by simp)
      simp only [Option.map_some, hcut]
      exact Part.bind_some _ _
  · rfl

/-- The text without the first restatement that a matcher finds, if it finds one. -/
def afterMatch? (accepts : Pattern → Bool) (words : List Chars) (s : Chars) : Option Chars :=
  accepted accepts (.name words) (stripCall? words s) <|>
    (accepted accepts (.bold words) ((Pattern.bold words).rests s).head?).map
      (fun rest => (after? [',', ' '] rest).getD rest) <|>
    accepted accepts (.boldComma words) ((Pattern.boldComma words).rests s).head? <|>
    accepted accepts (.plain words) ((Pattern.plain words).rests s).head?

/-- A matcher has a result for every text. -/
theorem strip_eq {words : List Chars} (hwords : ∀ word ∈ words, IsWord word) (hne : words ≠ [])
    (s : Chars) : strip accepts words s = .some ((afterMatch? accepts words s).getD s) := by
  rw [strip, if_neg hne, stripCall_eq hwords, Part.bind_eq_bind, Part.bind_some, afterMatch?]
  cases accepted accepts (.name words) (stripCall? words s) with
  | some rest => rfl
  | none =>
    simp only [dropMatch_eq, Part.bind_eq_bind, Part.bind_some]
    cases accepted accepts (.bold words) ((Pattern.bold words).rests s).head? with
    | some rest => rfl
    | none =>
      cases accepted accepts (.boldComma words) ((Pattern.boldComma words).rests s).head? with
      | some rest => rfl
      | none => rfl

/-- The readers of names find what patterns other than the one with a comma match. -/
theorem afterMatch?_eq_readers {words : List Chars} (hwords : ∀ word ∈ words, IsWord word)
    (hne : words ≠ []) (s : Chars) : afterMatch? accepts words s =
      (accepted accepts (.name words) (stripCall? words s) <|>
        accepted accepts (.bold words) (stripBold? words s) <|>
        accepted accepts (.boldComma words) ((Pattern.boldComma words).rests s).head? <|>
        accepted accepts (.plain words) (stripPlain? words s)) := by
  have hbold : (accepted accepts (.bold words) ((Pattern.bold words).rests s).head?).map
      (fun rest => (after? [',', ' '] rest).getD rest) =
        accepted accepts (.bold words) (stripBold? words s) := by
    rw [Pattern.head?_rests_bold hwords]
    unfold accepted
    split
    · rw [Option.map_map]
      rfl
    · rfl
  rw [afterMatch?, hbold, Pattern.head?_rests_plain hwords hne]

/-- A matcher that accepts all patterns finds what the readers find. The pattern with a comma is
    never needed. -/
theorem afterMatch?_eq {words : List Chars} (hwords : ∀ word ∈ words, IsWord word)
    (hne : words ≠ []) (haccepts : ∀ pattern, accepts pattern) (s : Chars) :
    afterMatch? accepts words s = afterRestatement? words s := by
  simp only [afterMatch?_eq_readers hwords hne, accepted, haccepts, if_true, afterRestatement?]
  cases hphrase : afterPhrase? (afterBold? words) s with
  | some rest => simp [stripBold?, hphrase]
  | none => simp [Pattern.rests_boldComma hwords hphrase]

theorem eq_of_accepted {pattern : Pattern} {found : Option Chars} {rest : Chars}
    (h : accepted accepts pattern found = some rest) : found = some rest := by
  unfold accepted at h
  split at h
  · exact h
  · cases h

theorem mem_of_accepted {pattern : Pattern} {s rest : Chars}
    (h : accepted accepts pattern (pattern.rests s).head? = some rest) : rest ∈ pattern.rests s :=
  List.mem_of_head? (eq_of_accepted h)

/-- Whatever patterns a matcher accepts, what it drops states the name. -/
theorem afterMatch?_drops {words : List Chars} (hwords : ∀ word ∈ words, IsWord word)
    (hne : words ≠ []) {s rest : Chars} (h : afterMatch? accepts words s = some rest) :
    DropsStatement words s rest := by
  rcases (Option.orElse_eq_some _ _ _).1 h with hcall | ⟨-, hlater⟩
  · refine (restates_of_afterRestatement? hwords hne ?_).2
    simp [afterRestatement?, eq_of_accepted hcall]
  · rcases (Option.orElse_eq_some _ _ _).1 hlater with hbold | ⟨-, hlater⟩
    · obtain ⟨tail, htail, hrest⟩ := Option.map_eq_some_iff.1 hbold
      have hdrops := Pattern.drops_of_mem_inBold hwords hne (mem_of_accepted htail)
      cases hcomma : after? [',', ' '] tail with
      | none => simpa [← hrest, hcomma] using hdrops
      | some left =>
        rw [Chars.after?_eq_some_iff.1 hcomma] at hdrops
        simpa [← hrest, hcomma] using hdrops.more
    · rcases (Option.orElse_eq_some _ _ _).1 hlater with hcomma | ⟨-, hplain⟩
      · exact Pattern.drops_of_mem_inBold hwords hne (mem_of_accepted hcomma)
      · exact Pattern.drops_of_mem_plain hwords hne (mem_of_accepted hplain)

end Checked

/-! ## Descriptions -/

/-- What is left is the end of the text, and if something is dropped, it states the name. -/
def ShortensByStatement (words : List Chars) (s rest : Chars) : Prop :=
  rest <:+ s ∧ (rest ≠ s → DropsStatement words s rest)

theorem DropsStatement.shortens {words : List Chars} {s rest : Chars}
    (h : DropsStatement words s rest) : ShortensByStatement words s rest := by
  obtain ⟨dropped, statement, rfl, hstates, hwithin⟩ := h
  exact ⟨List.suffix_append _ _, fun _ => ⟨dropped, statement, rfl, hstates, hwithin⟩⟩

theorem shortens_refl (words : List Chars) (s : Chars) : ShortensByStatement words s s :=
  ⟨List.suffix_refl s, fun hne => absurd rfl hne⟩

/-- What is left of a description is its end, and what is dropped, if anything, states the name. It
    is what a matcher of patterns cuts off at byte offsets; and also if the matcher refuses some of
    the patterns, it cuts between two characters and drops a statement of the name or nothing. -/
theorem strip_shortens (name description : String) :
    (wordsOf name = [] → strip name description = description) ∧
    ShortensByStatement (wordsOf name) description.toList (strip name description).toList ∧
    Checked.strip (fun _ => true) (wordsOf name) description.toList =
      .some (strip name description).toList ∧
    ∀ accepts, ∃ rest, Checked.strip accepts (wordsOf name) description.toList = .some rest ∧
      ShortensByStatement (wordsOf name) description.toList rest := by
  have hwords : ∀ word ∈ wordsOf name, IsWord word := fun _ => isWord_of_mem_wordsOf
  have hstrip := toList_strip name description
  by_cases hne : wordsOf name = []
  · rw [if_pos hne] at hstrip
    have hchecked (accepts : Pattern → Bool) :
        Checked.strip accepts (wordsOf name) description.toList = .some description.toList :=
      if_pos hne
    rw [hstrip]
    exact ⟨fun _ => String.toList_inj.1 hstrip, shortens_refl _ _, hchecked _,
      fun accepts => ⟨_, hchecked accepts, shortens_refl _ _⟩⟩
  · rw [if_neg hne] at hstrip
    have hchecked : Checked.strip (fun _ => true) (wordsOf name) description.toList =
        .some (strip name description).toList := by
      rw [Checked.strip_eq hwords hne, Checked.afterMatch?_eq hwords hne fun _ => rfl, hstrip]
    have hshortens (accepts : Pattern → Bool) :
        ∃ rest, Checked.strip accepts (wordsOf name) description.toList = .some rest ∧
          ShortensByStatement (wordsOf name) description.toList rest := by
      refine ⟨_, Checked.strip_eq hwords hne _, ?_⟩
      cases hfound : Checked.afterMatch? accepts (wordsOf name) description.toList with
      | none => exact shortens_refl _ _
      | some rest => exact (Checked.afterMatch?_drops hwords hne hfound).shortens
    obtain ⟨rest, hrest, hall⟩ := hshortens fun _ => true
    obtain rfl := Part.some_injective (hrest.symm.trans hchecked)
    exact ⟨fun hnil => absurd hnil hne, hall, hchecked, hshortens⟩

/-- The words of the name stand in the description with a hyphen and in other capitals. -/
theorem strip_shortens_hyphenated :
    strip "Hip house" "The '''hip-House''', also known as house rap" =
      "also known as house rap" ∧
    ∃ dropped statement, "The '''hip-House''', also known as house rap".toList =
        dropped ++ "also known as house rap".toList ∧
      States ["Hip".toList, "house".toList] statement ∧ statement <:+: dropped := by
  have hwords : wordsOf "Hip house" = ["Hip".toList, "house".toList] := by decide
  have hstrip : strip "Hip house" "The '''hip-House''', also known as house rap" =
      "also known as house rap" := by decide +kernel
  obtain ⟨-, ⟨-, hdrops⟩, -⟩ :=
    strip_shortens "Hip house" "The '''hip-House''', also known as house rap"
  rw [hstrip, hwords] at hdrops
  exact ⟨hstrip, hdrops (by decide)⟩

end Restatement

end GenreProse
