-- SUMMARY: Normal titles have single spaces between words, and at most one at the start.
import GenreProse.Proofs.Title.Runs

/-!
# Spacing of titles

The normal form of a title should have no trimmed characters but single spaces between shown ones.
It has another one in just one case: a single space at the start of the text stays if some run after
it is replaced, because the text before that run is then kept as it stands.
-/

namespace GenreProse

namespace Title

open Chars

/-- A text whose trimmed characters are single spaces between shown ones. -/
structure IsSpaced (s : Chars) : Prop where
  start : ∀ c ∈ s.head?, isTrimmed c = false
  finish : ∀ c ∈ s.getLast?, isTrimmed c = false
  between : ∀ before c after, s = before ++ c :: after → isTrimmed c →
    c = ' ' ∧ (∃ a ∈ before.getLast?, isTrimmed a = false) ∧
      ∃ b ∈ after.head?, isTrimmed b = false

/-- The text has a run between two shown characters that is not a single space. -/
def HasWideRun (s : Chars) : Prop :=
  ∃ before a run b after, s = before ++ a :: (run ++ b :: after) ∧ isTrimmed a = false ∧
    isTrimmed b = false ∧ IsRun run ∧ run ≠ [' ']

/-- The text starts with a single space and has a run that is replaced. -/
def KeepsSpace (s : Chars) : Prop :=
  ∃ b rest, s = ' ' :: b :: rest ∧ isTrimmed b = false ∧ HasWideRun (b :: rest)

variable {a b c : Char} {run s before after : Chars}

/-! ## Texts with single spaces -/

theorem isSpaced_nil : IsSpaced [] :=
  ⟨nofun, nofun, by simp⟩

/-- Nothing that is trimmed may come first. -/
theorem not_isSpaced_cons (hc : isTrimmed c = true) : ¬IsSpaced (c :: s) := by
  intro h
  have hstart := h.start c rfl
  rw [hc] at hstart
  cases hstart

/-- A shown character may come first. -/
theorem IsSpaced.cons (hc : isTrimmed c = false) (h : IsSpaced s) : IsSpaced (c :: s) where
  start := by
    rintro _ ⟨⟩
    exact hc
  finish := by
    cases s with
    | nil =>
      rintro _ ⟨⟩
      exact hc
    | cons d s =>
      rw [List.getLast?_cons_cons]
      exact h.finish
  between := by
    intro before d after hsplit hd
    cases before with
    | nil =>
      obtain ⟨rfl, -⟩ := List.cons_eq_cons.1 hsplit
      rw [hc] at hd
      cases hd
    | cons e before =>
      obtain ⟨rfl, hrest⟩ := List.cons_eq_cons.1 hsplit
      obtain ⟨hspace, ⟨a, hlast, ha⟩, hafter⟩ := h.between before d after hrest hd
      have hlast' : a ∈ ([c] ++ before).getLast? :=
        List.mem_getLast?_append_of_mem_getLast? hlast
      exact ⟨hspace, ⟨a, hlast', ha⟩, hafter⟩

/-- A single space may follow a shown character that is put in front. -/
theorem IsSpaced.space (hc : isTrimmed c = false) (hne : s ≠ []) (h : IsSpaced s) :
    IsSpaced (c :: ' ' :: s) where
  start := by
    rintro _ ⟨⟩
    exact hc
  finish := by
    obtain ⟨b, s, rfl⟩ := List.exists_cons_of_ne_nil hne
    rw [List.getLast?_cons_cons, List.getLast?_cons_cons]
    exact h.finish
  between := by
    intro before d after hsplit hd
    match before with
    | [] =>
      obtain ⟨rfl, -⟩ := List.cons_eq_cons.1 hsplit
      rw [hc] at hd
      cases hd
    | [_] =>
      obtain ⟨rfl, hrest⟩ := List.cons_eq_cons.1 hsplit
      obtain ⟨rfl, rfl⟩ := List.cons_eq_cons.1 hrest
      obtain ⟨b, s, rfl⟩ := List.exists_cons_of_ne_nil hne
      exact ⟨rfl, ⟨c, rfl, hc⟩, b, rfl, h.start b rfl⟩
    | _ :: _ :: before =>
      simp only [List.cons_append, List.cons.injEq] at hsplit
      obtain ⟨rfl, rfl, hrest⟩ := hsplit
      obtain ⟨hspace, ⟨a, hlast, ha⟩, hafter⟩ := h.between before d after hrest hd
      have hlast' : a ∈ ([c, ' '] ++ before).getLast? :=
        List.mem_getLast?_append_of_mem_getLast? hlast
      exact ⟨hspace, ⟨a, hlast', ha⟩, hafter⟩

/-- The rest of a spaced text from a shown character on is spaced. -/
theorem IsSpaced.of_append (hb : isTrimmed b = false) (front : Chars)
    (h : IsSpaced (front ++ b :: s)) : IsSpaced (b :: s) where
  start := by
    rintro _ ⟨⟩
    exact hb
  finish := by
    rw [← List.getLast?_append_of_ne_nil front (List.cons_ne_nil b s)]
    exact h.finish
  between := by
    intro before c after hsplit hc
    have hwhole : front ++ b :: s = (front ++ before) ++ c :: after := by
      rw [hsplit, List.append_assoc]
    obtain ⟨hspace, ⟨a, hlast, ha⟩, hafter⟩ := h.between _ c after hwhole hc
    refine ⟨hspace, ⟨a, ?_, ha⟩, hafter⟩
    cases before with
    | nil =>
      obtain ⟨rfl, -⟩ := List.cons_eq_cons.1 hsplit
      rw [hb] at hc
      cases hc
    | cons d before => rwa [List.getLast?_append_of_ne_nil _ (List.cons_ne_nil d before)] at hlast

/-- After a shown character comes a spaced text, or a space and one that is not empty. -/
theorem isSpaced_cons_iff (hc : isTrimmed c = false) : IsSpaced (c :: s) ↔
    IsSpaced s ∨ ∃ rest, s = ' ' :: rest ∧ rest ≠ [] ∧ IsSpaced rest := by
  constructor
  · intro h
    cases s with
    | nil => exact .inl isSpaced_nil
    | cons d s =>
      by_cases hd : isTrimmed d
      · obtain ⟨rfl, -, b, hhead, hb⟩ := h.between [c] d s rfl hd
        obtain ⟨s, rfl⟩ := List.head?_eq_some_iff.1 hhead
        exact .inr ⟨_, rfl, List.cons_ne_nil _ _, IsSpaced.of_append hb [c, ' '] h⟩
      · exact .inl (IsSpaced.of_append (Bool.eq_false_iff.2 hd) [c] h)
  · rintro (h | ⟨rest, rfl, hne, h⟩)
    · exact h.cons hc
    · exact h.space hc hne

/-! ## Normal form -/

/-- After a shown character, a text becomes one with single spaces. -/
theorem isSpaced_cons_inside (ha : isTrimmed a = false) (s : Chars) : IsSpaced (a :: inside s) := by
  induction s using run_induction generalizing a with
  | nil => exact isSpaced_nil.cons ha
  | shown c s hc ih =>
    rw [inside_shown hc]
    exact (ih hc).cons ha
  | last run hrun =>
    rw [inside_last hrun]
    exact isSpaced_nil.cons ha
  | run run b s hrun hb ih =>
    rw [inside_run hrun hb, spacing]
    split
    · exact (ih hb).space ha (List.cons_ne_nil _ _)
    · exact (ih hb).cons ha

theorem HasWideRun.cons (h : HasWideRun s) : HasWideRun (c :: s) := by
  obtain ⟨before, a, run, b, after, rfl, hwide⟩ := h
  exact ⟨c :: before, a, run, b, after, rfl, hwide⟩

/-- A wide run stays one in a longer text. -/
theorem HasWideRun.append (h : HasWideRun s) (front : Chars) : HasWideRun (front ++ s) := by
  obtain ⟨before, a, run, b, after, rfl, hwide⟩ := h
  exact ⟨front ++ before, a, run, b, after, by rw [List.append_assoc], hwide⟩

/-- A run that is replaced after a shown character is replaced also in a longer text. -/
theorem replaces_append (ha : isTrimmed a = false) (h : replaces s) (before : Chars) :
    replaces (before ++ a :: s) := by
  induction before using run_induction with
  | nil => rwa [List.nil_append, replaces_shown ha]
  | shown c before hc ih => rwa [List.cons_append, replaces_shown hc]
  | last run hrun => rw [replaces_run hrun ha, h, Bool.or_true]
  | run run b before hrun hb ih =>
    rw [List.append_assoc, List.cons_append, replaces_run hrun hb, ih, Bool.or_true]

/-- Runs are replaced after a shown character if one of them is not a single space. -/
theorem replaces_iff (ha : isTrimmed a = false) : replaces s ↔ HasWideRun (a :: s) := by
  constructor
  · intro h
    induction s using run_induction generalizing a with
    | nil => cases h
    | shown c s hc ih =>
      rw [replaces_shown hc] at h
      exact (ih hc h).cons
    | last run hrun =>
      rw [replaces_last hrun] at h
      cases h
    | run run b s hrun hb ih =>
      rw [replaces_run hrun hb, Bool.or_eq_true, decide_eq_true_eq] at h
      rcases h with hwide | hlater
      · exact ⟨[], a, run, b, s, rfl, ha, hb, hrun, hwide⟩
      · exact (ih hb hlater).append (a :: run)
  · rintro ⟨before, c, run, b, after, hsplit, hc, hb, hrun, hwide⟩
    have hreplaces : replaces (run ++ b :: after) := by simp [replaces_run hrun hb, hwide]
    cases before with
    | nil =>
      obtain ⟨rfl, rfl⟩ := List.cons_eq_cons.1 hsplit
      exact hreplaces
    | cons d before =>
      obtain ⟨rfl, rfl⟩ := List.cons_eq_cons.1 hsplit
      exact replaces_append hc hreplaces before

/-- The normal form has single spaces only, or one more at its start. -/
theorem isSpaced_tidy_or (s : Chars) : IsSpaced (tidy s) ∧ ¬KeepsSpace s ∨
    KeepsSpace s ∧ ∃ rest, tidy s = ' ' :: rest ∧ IsSpaced rest := by
  induction s using run_induction with
  | nil => exact .inl ⟨isSpaced_nil, by rintro ⟨_, _, ⟨⟩, -⟩⟩
  | shown c s hc _ =>
    rw [tidy_shown hc]
    refine .inl ⟨isSpaced_cons_inside hc s, ?_⟩
    rintro ⟨b, rest, hsplit, -⟩
    obtain ⟨rfl, -⟩ := List.cons_eq_cons.1 hsplit
    cases hc
  | last run hrun =>
    rw [tidy_last hrun]
    refine .inl ⟨isSpaced_nil, ?_⟩
    rintro ⟨b, rest, rfl, hb, -⟩
    rw [hrun.trimmed b (by simp)] at hb
    cases hb
  | run run b s hrun hb _ =>
    have hspaced := isSpaced_cons_inside hb s
    by_cases hspace : run = [' ']
    · subst hspace
      rw [List.singleton_append, tidy_space hb]
      split
      · next hreplaces =>
        exact .inr ⟨⟨b, s, rfl, hb, (replaces_iff hb).1 hreplaces⟩, _, rfl, hspaced⟩
      · next hstays =>
        refine .inl ⟨hspaced, ?_⟩
        rintro ⟨_, _, ⟨⟩, -, hwide⟩
        exact hstays ((replaces_iff hb).2 hwide)
    · rw [tidy_wide hrun hspace hb]
      refine .inl ⟨hspaced, ?_⟩
      rintro ⟨c, rest, hsplit, hc, -⟩
      have hrun' := (takeWhile_isTrimmed (s := s) hrun.trimmed hb).1
      have hone : (' ' :: c :: rest).takeWhile isTrimmed = [' '] := by simp [isTrimmed_space, hc]
      rw [hsplit, hone] at hrun'
      exact hspace hrun'.symm

/-- The normal form has single spaces only, unless the text starts with a single space that is
    kept. -/
theorem isSpaced_tidy_iff : IsSpaced (tidy s) ↔ ¬KeepsSpace s := by
  rcases isSpaced_tidy_or s with ⟨hspaced, hnot⟩ | ⟨hkeeps, rest, htidy, -⟩
  · exact iff_of_true hspaced hnot
  · rw [htidy]
    exact iff_of_false (not_isSpaced_cons isTrimmed_space) (not_not.2 hkeeps)

/-- Without the space that may be left at its start, the normal form has single spaces only. -/
theorem isSpaced_dropWhile_tidy (s : Chars) : IsSpaced ((tidy s).dropWhile isTrimmed) := by
  rcases isSpaced_tidy_or s with ⟨hspaced, -⟩ | ⟨-, rest, htidy, hspaced⟩
  · rwa [(takeWhile_none hspaced.start).2]
  · rw [htidy, List.dropWhile_cons_of_pos isTrimmed_space, (takeWhile_none hspaced.start).2]
    exact hspaced

end Title

end GenreProse
