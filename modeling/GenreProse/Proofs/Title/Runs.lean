-- SUMMARY: Titles run by run: what each run of trimmed characters becomes.
import GenreProse.Proofs.Text.Trim
import GenreProse.Title

/-!
# Runs in titles

A text is made of runs of trimmed characters and of the other characters, the shown ones. A run
between two shown characters becomes a space or nothing, by its first character alone. A run at
either end vanishes, except for a single space at the start: it stays if some later run is replaced.
-/

namespace GenreProse

namespace Title

open Chars

/-! ## Runs -/

/-- A run of trimmed characters. -/
structure IsRun (run : Chars) : Prop where
  ne_nil : run ≠ []
  trimmed : ∀ c ∈ run, isTrimmed c

/-- What a run between two shown characters becomes. -/
def spacing (run : Chars) : Chars :=
  if run.head?.any isSeparator then [' '] else []

variable {a b c : Char} {run s before after : Chars}

theorem isTrimmed_space : isTrimmed ' ' = true := by decide

theorem isTrimmed_of_mem_spacing (h : c ∈ spacing run) : isTrimmed c = true := by
  unfold spacing at h
  split at h
  · obtain rfl := List.mem_singleton.1 h
    exact isTrimmed_space
  · cases h

/-- A run followed by a shown character is read as a whole. -/
theorem takeWhile_isTrimmed (hrun : ∀ c ∈ run, isTrimmed c) (hb : isTrimmed b = false) :
    (run ++ b :: s).takeWhile isTrimmed = run ∧ (run ++ b :: s).dropWhile isTrimmed = b :: s := by
  refine takeWhile_run hrun ?_
  rintro _ ⟨⟩
  exact hb

/-- A text starts with a shown character, or it is a run, or it starts with a run and a shown
    character after it. -/
theorem run_induction {P : Chars → Prop} (nil : P [])
    (shown : ∀ c s, isTrimmed c = false → P s → P (c :: s)) (last : ∀ run, IsRun run → P run)
    (run : ∀ run b s, IsRun run → isTrimmed b = false → P s → P (run ++ b :: s)) (s : Chars) :
    P s := by
  -- The recursion is on what follows a whole run, so the induction is on the length.
  induction hlength : s.length using Nat.strong_induction_on generalizing s with
  | _ n ih =>
    subst hlength
    match s with
    | [] => exact nil
    | c :: s =>
      by_cases hc : isTrimmed c
      · have hne : (c :: s).takeWhile isTrimmed ≠ [] := by simp [hc]
        have hfirst : IsRun ((c :: s).takeWhile isTrimmed) :=
          ⟨hne, fun _ => List.mem_takeWhile_imp⟩
        have hsplit := List.takeWhile_append_dropWhile (p := isTrimmed) (l := c :: s)
        cases hrest : (c :: s).dropWhile isTrimmed with
        | nil =>
          rw [hrest, List.append_nil] at hsplit
          rw [← hsplit]
          exact last _ hfirst
        | cons b after =>
          have hb : isTrimmed b = false := by
            have hhead := List.head?_dropWhile_not isTrimmed (c :: s)
            simpa [hrest] using hhead
          have hshorter : after.length < (c :: s).length := by
            have hle := (List.dropWhile_suffix (l := c :: s) isTrimmed).length_le
            rw [hrest] at hle
            exact hle
          rw [hrest] at hsplit
          rw [← hsplit]
          exact run _ b after hfirst hb (ih _ hshorter after rfl)
      · exact shown c s (by simpa using hc) (ih _ (Nat.lt_succ_self _) s rfl)

/-! ## One step -/

/-- A run is not opened by a shown character. -/
theorem startsRun_of_not_isTrimmed (hc : isTrimmed c = false) : startsRun c s = false := by
  simp [startsRun, hc]

/-- A shown character is kept. -/
theorem collapseRuns_shown (hc : isTrimmed c = false) (opening : Bool) :
    collapseRuns none opening (c :: s) =
      ((collapseRuns none false s).1, c :: (collapseRuns none false s).2) := by
  rw [collapseRuns, if_neg (by simp [startsRun_of_not_isTrimmed hc])]

/-- A run that was opened is passed over up to the next shown character. -/
theorem collapseRuns_passing (hrun : ∀ c ∈ run, isTrimmed c) (hb : isTrimmed b = false)
    (opened : Run) (opening : Bool) :
    collapseRuns (some opened) opening (run ++ b :: s) =
      (true, opened.replacement ++ b :: (collapseRuns none false s).2) := by
  induction run generalizing opening with
  | nil => simp [collapseRuns, hb]
  | cons c run ih =>
    obtain ⟨hc, hrun⟩ := List.forall_mem_cons.1 hrun
    rw [List.cons_append, collapseRuns, if_pos hc, ih hrun]

/-- A run that was opened is dropped at the end of the text. -/
theorem collapseRuns_closing (hrun : ∀ c ∈ run, isTrimmed c) (opened : Run) (opening : Bool) :
    collapseRuns (some opened) opening run = (false, []) := by
  induction run generalizing opening with
  | nil => rfl
  | cons c run ih =>
    obtain ⟨hc, hrun⟩ := List.forall_mem_cons.1 hrun
    rw [collapseRuns, if_pos hc, ih hrun]

/-- A run between shown characters is replaced unless it is a single space. -/
theorem collapseRuns_run (hrun : IsRun run) (hb : isTrimmed b = false) (opening : Bool) :
    collapseRuns none opening (run ++ b :: s) =
      if run = [' '] then ((collapseRuns none false s).1, ' ' :: b :: (collapseRuns none false s).2)
      else (true, (if opening then [] else spacing run) ++ b :: (collapseRuns none false s).2) := by
  split
  · next hspace =>
    subst hspace
    have hstays : startsRun ' ' (b :: s) = false := by simp [startsRun, hb]
    rw [List.singleton_append, collapseRuns, hstays, if_neg Bool.false_ne_true,
      collapseRuns_shown hb]
  · next hwide =>
    obtain ⟨c, rest, rfl⟩ := List.exists_cons_of_ne_nil hrun.ne_nil
    obtain ⟨hc, hrest⟩ := List.forall_mem_cons.1 hrun.trimmed
    have hstarts : startsRun c (rest ++ b :: s) = true := by
      cases rest with
      | nil => simpa [startsRun, hc, hb] using hwide
      | cons d rest => simp [startsRun, hc, hrest d List.mem_cons_self]
    rw [List.cons_append, collapseRuns, if_pos hstarts, collapseRuns_passing hrest hb]
    by_cases hsep : isSeparator c <;> cases opening <;> simp [Run.replacement, spacing, hsep]

/-- A run at the end of the text is dropped, or it is a single space. -/
theorem collapseRuns_last (hrun : IsRun run) (opening : Bool) :
    collapseRuns none opening run = (false, if run = [' '] then [' '] else []) := by
  split
  · next hspace =>
    subst hspace
    cases opening <;> decide
  · next hwide =>
    obtain ⟨c, rest, rfl⟩ := List.exists_cons_of_ne_nil hrun.ne_nil
    obtain ⟨hc, hrest⟩ := List.forall_mem_cons.1 hrun.trimmed
    have hstarts : startsRun c rest = true := by
      cases rest with
      | nil => simpa [startsRun, hc] using hwide
      | cons d rest => simp [startsRun, hc, hrest d List.mem_cons_self]
    rw [collapseRuns, if_pos hstarts, collapseRuns_closing hrest]

/-! ## After a shown character -/

/-- What a text becomes after a shown character. -/
def inside (s : Chars) : Chars :=
  dropEndWhile isTrimmed (collapseRuns none false s).2

/-- Whether a run is replaced in a text that stands after a shown character. -/
def replaces (s : Chars) : Bool :=
  (collapseRuns none false s).1

/-- What is dropped at the end ends at a shown character. -/
theorem dropEndWhile_shown (hb : isTrimmed b = false) (front s : Chars) :
    dropEndWhile isTrimmed (front ++ b :: s) = front ++ b :: dropEndWhile isTrimmed s := by
  have hkept : (b :: s).rdropWhile isTrimmed = b :: s.rdropWhile isTrimmed := by
    have hb' : [b].rdropWhile isTrimmed = [b] := by simp [List.rdropWhile, hb]
    rw [← List.singleton_append, rdropWhile_append, hb']
    split
    · next hnil => rw [hnil]
    · rfl
  rw [dropEndWhile_eq_rdropWhile, rdropWhile_append, hkept, if_neg (List.cons_ne_nil _ _),
    dropEndWhile_eq_rdropWhile]

theorem dropEndWhile_trimmed (hrun : ∀ c ∈ run, isTrimmed c) : dropEndWhile isTrimmed run = [] := by
  rw [dropEndWhile_eq_rdropWhile]
  exact List.rdropWhile_eq_nil_iff.2 hrun

theorem inside_shown (hc : isTrimmed c = false) : inside (c :: s) = c :: inside s := by
  rw [inside, collapseRuns_shown hc]
  exact dropEndWhile_shown hc [] _

/-- A run at the end goes. -/
theorem inside_last (hrun : IsRun run) : inside run = [] := by
  rw [inside, collapseRuns_last hrun]
  exact dropEndWhile_trimmed (by split <;> simp [isTrimmed_space])

/-- A run before a shown character leaves its spacing. -/
theorem inside_run (hrun : IsRun run) (hb : isTrimmed b = false) :
    inside (run ++ b :: s) = spacing run ++ b :: inside s := by
  rw [inside, collapseRuns_run hrun hb]
  split
  · next hspace =>
    subst hspace
    exact dropEndWhile_shown hb [' '] _
  · exact dropEndWhile_shown hb (spacing run) _

theorem replaces_shown (hc : isTrimmed c = false) : replaces (c :: s) = replaces s := by
  rw [replaces, collapseRuns_shown hc, replaces]

theorem replaces_last (hrun : IsRun run) : replaces run = false := by
  rw [replaces, collapseRuns_last hrun]

/-- A run is replaced unless it is one space. -/
theorem replaces_run (hrun : IsRun run) (hb : isTrimmed b = false) :
    replaces (run ++ b :: s) = (decide (run ≠ [' ']) || replaces s) := by
  rw [replaces, collapseRuns_run hrun hb]
  by_cases hspace : run = [' '] <;> simp [hspace, replaces]

/-- A text without runs to replace is only trimmed at its end. -/
theorem dropEndWhile_of_not_replaces (h : replaces s = false) :
    dropEndWhile isTrimmed s = inside s := by
  induction s using run_induction with
  | nil => rfl
  | shown c s hc ih =>
    rw [replaces_shown hc] at h
    rw [inside_shown hc, ← ih h]
    exact dropEndWhile_shown hc [] s
  | last run hrun => rw [inside_last hrun, dropEndWhile_trimmed hrun.trimmed]
  | run run b s hrun hb ih =>
    rw [replaces_run hrun hb, Bool.or_eq_false_iff, decide_eq_false_iff_not, not_not] at h
    obtain ⟨rfl, hnot⟩ := h
    rw [inside_run hrun hb, ← ih hnot]
    exact dropEndWhile_shown hb [' '] s

/-! ## Whole texts -/

/-- Where nothing is replaced the text is only trimmed. -/
theorem tidy_of_collapseRuns {replaced : Bool} {rest : Chars}
    (h : collapseRuns none true s = (replaced, rest)) :
    tidy s = if replaced then dropEndWhile isTrimmed rest else trimBy isTrimmed s := by
  rw [tidy, h]

theorem tidy_nil : tidy [] = [] := rfl

/-- A shown character at the start is kept. -/
theorem tidy_shown (hc : isTrimmed c = false) : tidy (c :: s) = c :: inside s := by
  rw [tidy_of_collapseRuns (collapseRuns_shown hc true)]
  split
  · exact dropEndWhile_shown hc [] _
  · next hstays =>
    rw [trimBy, List.dropWhile_cons_of_neg (by simp [hc]),
      ← dropEndWhile_of_not_replaces (Bool.eq_false_iff.2 hstays)]
    exact dropEndWhile_shown hc [] s

/-- Of a run alone nothing is left. -/
theorem tidy_last (hrun : IsRun run) : tidy run = [] := by
  rw [tidy_of_collapseRuns (collapseRuns_last hrun true), if_neg Bool.false_ne_true, trimBy,
    List.dropWhile_eq_nil_iff.2 hrun.trimmed]
  rfl

/-- A run at the start is dropped if it is not a single space. -/
theorem tidy_wide (hrun : IsRun run) (hwide : run ≠ [' ']) (hb : isTrimmed b = false) :
    tidy (run ++ b :: s) = b :: inside s := by
  have hcollapsed := collapseRuns_run (s := s) hrun hb true
  rw [if_neg hwide] at hcollapsed
  rw [tidy_of_collapseRuns hcollapsed, if_pos rfl]
  exact dropEndWhile_shown hb [] _

/-- A single space at the start is dropped if no run after it is replaced. -/
theorem tidy_space (hb : isTrimmed b = false) :
    tidy (' ' :: b :: s) = if replaces s then ' ' :: b :: inside s else b :: inside s := by
  have hrun : IsRun [' '] := ⟨List.cons_ne_nil _ _, by simp [isTrimmed_space]⟩
  have hcollapsed := collapseRuns_run (s := s) hrun hb true
  rw [if_pos rfl] at hcollapsed
  rw [← List.singleton_append, tidy_of_collapseRuns hcollapsed]
  change (if replaces s then _ else _) = _
  split
  · exact dropEndWhile_shown hb [' '] _
  · next hstays =>
    have hfirst := (takeWhile_isTrimmed (s := s) hrun.trimmed hb).2
    rw [trimBy, hfirst, ← dropEndWhile_of_not_replaces (Bool.eq_false_iff.2 hstays)]
    exact dropEndWhile_shown hb [] s

/-- The characters that a text stands for, in composed form. -/
def composed (text : String) : Chars :=
  compose (Entity.decode text).toList

/-- A text is tidied after its characters are composed. -/
theorem toList_normalize (text : String) : (normalize text).toList = tidy (composed text) :=
  String.toList_ofList

end Title

end GenreProse
