-- SUMMARY: What the normal form puts between two words of a title.
import GenreProse.Proofs.Text.Composition
import GenreProse.Proofs.Title.Runs

/-!
# Gaps between words

The normal form keeps all shown characters in order. Between two of them it has a single space if
the run there starts with a blank or an underscore, and nothing otherwise: where a run starts with a
direction mark and has a space in it, two words are joined.
-/

namespace GenreProse

namespace Title

open Chars

variable {a b c : Char} {run gap gap' s before after front back front' back' : Chars}

/-! ## Shown characters -/

/-- The characters of a text that are not trimmed. -/
def shownOf (s : Chars) : Chars :=
  s.filter fun c => !isTrimmed c

/-- What is shown of two texts is shown of both. -/
theorem shownOf_append (s t : Chars) : shownOf (s ++ t) = shownOf s ++ shownOf t :=
  List.filter_append s t

theorem shownOf_shown (hc : isTrimmed c = false) : shownOf (c :: s) = c :: shownOf s := by
  simp [shownOf, hc]

theorem shownOf_trimmed (hrun : ∀ c ∈ run, isTrimmed c) : shownOf run = [] :=
  List.filter_eq_nil_iff.2 fun c hc => by simp [hrun c hc]

/-- What a run is replaced with shows nothing. -/
theorem trimmed_spacing (run : Chars) : ∀ c ∈ spacing run, isTrimmed c :=
  fun _ => isTrimmed_of_mem_spacing

/-- After a shown character, all shown characters are kept in order. -/
theorem shownOf_inside (s : Chars) : shownOf (inside s) = shownOf s := by
  induction s using run_induction with
  | nil => rfl
  | shown c s hc ih => rw [inside_shown hc, shownOf_shown hc, shownOf_shown hc, ih]
  | last run hrun => rw [inside_last hrun, shownOf_trimmed hrun.trimmed]; rfl
  | run run b s hrun hb ih =>
    rw [inside_run hrun hb, shownOf_append, shownOf_append, shownOf_shown hb, shownOf_shown hb, ih,
      shownOf_trimmed hrun.trimmed, shownOf_trimmed (trimmed_spacing run)]

/-- What follows a shown character has a normal form of its own. -/
theorem exists_inside_append (ha : isTrimmed a = false) (before s : Chars) :
    ∃ front, inside (before ++ a :: s) = front ++ a :: inside s ∧
      shownOf front = shownOf before := by
  induction before using run_induction with
  | nil => exact ⟨[], inside_shown ha, rfl⟩
  | shown c before hc ih =>
    obtain ⟨front, heq, hshown⟩ := ih
    refine ⟨c :: front, ?_, ?_⟩
    · rw [List.cons_append, inside_shown hc, heq, List.cons_append]
    · rw [shownOf_shown hc, shownOf_shown hc, hshown]
  | last run hrun =>
    refine ⟨spacing run, inside_run hrun ha, ?_⟩
    rw [shownOf_trimmed hrun.trimmed, shownOf_trimmed (trimmed_spacing run)]
  | run run b before hrun hb ih =>
    obtain ⟨front, heq, hshown⟩ := ih
    refine ⟨spacing run ++ b :: front, ?_, ?_⟩
    · rw [List.append_assoc, List.cons_append, inside_run hrun hb, heq, List.append_assoc,
        List.cons_append]
    · rw [shownOf_append, shownOf_append, shownOf_shown hb, shownOf_shown hb, hshown,
        shownOf_trimmed hrun.trimmed, shownOf_trimmed (trimmed_spacing run)]

/-- A run at the start may leave something that shows nothing. -/
theorem exists_tidy_run (hrun : IsRun run) (hb : isTrimmed b = false) (s : Chars) :
    ∃ opening, tidy (run ++ b :: s) = opening ++ b :: inside s ∧ shownOf opening = [] := by
  by_cases hspace : run = [' ']
  · subst hspace
    rw [List.singleton_append, tidy_space hb]
    split
    · exact ⟨[' '], rfl, by decide⟩
    · exact ⟨[], rfl, rfl⟩
  · exact ⟨[], tidy_wide hrun hspace hb, rfl⟩

/-- Up to a shown character, the normal form has the shown characters before it. -/
theorem exists_tidy_append (ha : isTrimmed a = false) (before s : Chars) :
    ∃ front, tidy (before ++ a :: s) = front ++ a :: inside s ∧
      shownOf front = shownOf before := by
  induction before using run_induction with
  | nil => exact ⟨[], tidy_shown ha, rfl⟩
  | shown c before hc _ =>
    obtain ⟨front, heq, hshown⟩ := exists_inside_append ha before s
    refine ⟨c :: front, ?_, ?_⟩
    · rw [List.cons_append, tidy_shown hc, heq, List.cons_append]
    · rw [shownOf_shown hc, shownOf_shown hc, hshown]
  | last run hrun =>
    obtain ⟨opening, heq, hshown⟩ := exists_tidy_run hrun ha s
    exact ⟨opening, heq, by rw [hshown, shownOf_trimmed hrun.trimmed]⟩
  | run run b before hrun hb _ =>
    obtain ⟨front, hinside, hshown⟩ := exists_inside_append ha before s
    obtain ⟨opening, heq, hopening⟩ := exists_tidy_run hrun hb (before ++ a :: s)
    refine ⟨opening ++ b :: front, ?_, ?_⟩
    · rw [List.append_assoc, List.cons_append, heq, hinside, List.append_assoc, List.cons_append]
    · rw [shownOf_append, shownOf_append, shownOf_shown hb, shownOf_shown hb, hshown, hopening,
        shownOf_trimmed hrun.trimmed]

/-! ## Gaps -/

/-- The text has the two characters with just the gap between them, in the places that the shown
    characters before and after them determine. -/
def HasGap (before : Chars) (a : Char) (gap : Chars) (b : Char) (after s : Chars) : Prop :=
  ∃ front back, s = front ++ a :: (gap ++ b :: back) ∧ shownOf front = shownOf before ∧
    shownOf back = shownOf after

/-- The gap that a run should leave: a space if there is a blank or an underscore anywhere in it. -/
def wordGap (run : Chars) : Chars :=
  if run.any isSeparator then [' '] else []

theorem trimmed_wordGap (run : Chars) : ∀ c ∈ wordGap run, isTrimmed c := by
  unfold wordGap
  split
  · simp [isTrimmed_space]
  · exact List.forall_mem_nil _

/-- A run leaves the gap that it should leave if it starts with a separator or has none. -/
theorem spacing_eq_wordGap_iff (hne : run ≠ []) : spacing run = wordGap run ↔
    (∃ c ∈ run.head?, isSeparator c) ∨ ∀ c ∈ run, isSeparator c = false := by
  obtain ⟨c, run, rfl⟩ := List.exists_cons_of_ne_nil hne
  by_cases hc : isSeparator c
  · simp [spacing, wordGap, hc]
  · by_cases hany : run.any isSeparator
    · have hmore : ∃ d ∈ run, isSeparator d := List.any_eq_true.1 hany
      simpa [spacing, wordGap, hc, hany] using hmore
    · have hnone : ∀ d ∈ run, isSeparator d = false := by simpa using hany
      simpa [spacing, wordGap, hc, hany] using hnone

/-- A text is split at a shown character in one place only, if what is shown before it is known. -/
theorem front_eq_of_shownOf (ha : isTrimmed a = false)
    (h : front ++ a :: s = (front ++ gap) ++ b :: after)
    (hshown : shownOf (front ++ gap) = shownOf front) : gap = [] := by
  rw [List.append_assoc, List.append_cancel_left_eq] at h
  rw [shownOf_append, List.append_right_eq_self] at hshown
  cases gap with
  | nil => rfl
  | cons d gap =>
    obtain ⟨rfl, -⟩ := List.cons_eq_cons.1 h
    rw [shownOf_shown ha] at hshown
    cases hshown

/-- There is only one gap between two shown characters. -/
theorem gap_unique (ha : isTrimmed a = false) (hb : isTrimmed b = false)
    (hgap : ∀ c ∈ gap, isTrimmed c) (hgap' : ∀ c ∈ gap', isTrimmed c)
    (hshown : shownOf front = shownOf front')
    (h : front ++ a :: (gap ++ b :: back) = front' ++ a :: (gap' ++ b :: back')) : gap = gap' := by
  -- The shown characters in front fix the place of the first character.
  have hfront : front = front' := by
    rcases List.append_eq_append_iff.1 h with ⟨more, rfl, -⟩ | ⟨more, rfl, -⟩
    · rw [front_eq_of_shownOf ha h hshown.symm, List.append_nil]
    · rw [front_eq_of_shownOf ha h.symm hshown, List.append_nil]
  subst hfront
  have hrest := (List.cons_eq_cons.1 (List.append_cancel_left h)).2
  rw [← (takeWhile_isTrimmed (s := back) hgap hb).1, hrest, (takeWhile_isTrimmed hgap' hb).1]

/-- Between two shown characters a run leaves its spacing. -/
theorem hasGap_tidy (ha : isTrimmed a = false) (hb : isTrimmed b = false) (hrun : IsRun run)
    (before after : Chars) :
    HasGap before a (spacing run) b after (tidy (before ++ a :: (run ++ b :: after))) := by
  obtain ⟨front, heq, hshown⟩ := exists_tidy_append ha before (run ++ b :: after)
  exact ⟨front, inside after, by rw [heq, inside_run hrun hb], hshown, shownOf_inside after⟩

/-- Two shown characters with a run between them are kept with a space or nothing between them, as
    the first character of the run says. This is the gap that the run should leave if and only if
    the run starts with a separator or has none. -/
theorem hasGap_normalize_iff {text : String}
    (htext : composed text = before ++ a :: (run ++ b :: after)) (ha : isTrimmed a = false)
    (hb : isTrimmed b = false) (hrun : IsRun run) :
    HasGap before a (spacing run) b after (normalize text).toList ∧
    (HasGap before a (wordGap run) b after (normalize text).toList ↔
      (∃ c ∈ run.head?, isSeparator c) ∨ ∀ c ∈ run, isSeparator c = false) := by
  rw [toList_normalize, htext, ← spacing_eq_wordGap_iff hrun.ne_nil]
  have hgap := hasGap_tidy ha hb hrun before after
  refine ⟨hgap, ?_, fun h => h ▸ hgap⟩
  obtain ⟨front, back, htidy, hfront, -⟩ := hgap
  rintro ⟨front', back', heq, hfront', -⟩
  exact gap_unique ha hb (trimmed_spacing run) (trimmed_wordGap run) (hfront.trans hfront'.symm)
    (htidy.symm.trans heq)

/-- The run between the words mixes an underscore with a space that is written as a reference. -/
theorem hasGap_normalize_house :
    composed "Hip_&#32;house" = "Hi".toList ++ 'p' :: (['_', ' '] ++ 'h' :: "ouse".toList) ∧
    isTrimmed 'p' = false ∧ isTrimmed 'h' = false ∧ IsRun ['_', ' '] ∧
    HasGap "Hi".toList 'p' [' '] 'h' "ouse".toList (normalize "Hip_&#32;house").toList := by
  have htext : composed "Hip_&#32;house" =
      "Hi".toList ++ 'p' :: (['_', ' '] ++ 'h' :: "ouse".toList) := by decide +kernel
  have hrun : IsRun ['_', ' '] := ⟨List.cons_ne_nil _ _, forall_of_all (by decide)⟩
  have hgap := hasGap_normalize_iff htext (by decide) (by decide) hrun
  exact ⟨htext, by decide, by decide, hrun, hgap.2.2 (.inl ⟨'_', rfl, by decide⟩)⟩

/-- The run between the digits starts with a direction mark, so that its space is lost. -/
theorem normalize_joins_digits :
    composed "1\u200e 2" = '1' :: (['\u200e', ' '] ++ ['2']) ∧ IsRun ['\u200e', ' '] ∧
    normalize "1\u200e 2" = "12" ∧
    ¬HasGap [] '1' (wordGap ['\u200e', ' ']) '2' [] (normalize "1\u200e 2").toList := by
  have htext : composed "1\u200e 2" = ['1', '\u200e', ' ', '2'] := by
    have hdecode : (Entity.decode "1\u200e 2").toList = ['1', '\u200e', ' ', '2'] := by
      decide +kernel
    have hapart : ∀ c ∈ ['1', '\u200e', ' ', '2'], Span.any apartSpans c.toNat :=
      forall_of_all (by decide)
    rw [composed, hdecode]
    exact compose_eq_self fun c hc => standsApart (hapart c hc)
  have hnormal : normalize "1\u200e 2" = "12" := by
    rw [← String.toList_inj, toList_normalize, htext]
    decide +kernel
  refine ⟨htext, ⟨List.cons_ne_nil _ _, forall_of_all (by decide)⟩, hnormal, ?_⟩
  rw [hnormal]
  rintro ⟨front, back, hsplit, -⟩
  have hgap : wordGap ['\u200e', ' '] = [' '] := by decide
  have hspace : ' ' ∈ "12".toList := by
    rw [hsplit, hgap]
    simp
  exact absurd hspace (by decide)

end Title

end GenreProse
