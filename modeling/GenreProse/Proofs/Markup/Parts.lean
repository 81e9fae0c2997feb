-- SUMMARY: The parts of a text that is split at top level are not split again.
import GenreProse.Proofs.Markup.Splitting
import GenreProse.Proofs.Text.Ascii
import GenreProse.Proofs.Text.Trim

/-!
# Parts

A part of a text that is split at top level holds no separator outside of calls, links and tags, and
it holds none if it is read by itself either: no token of the text goes on past the end of a part,
so its tokens are those of the text. The same is true of what is left of such a part after another
separator, and without the blanks around it.
-/

namespace GenreProse

namespace Markup

variable {separator other c : Char} {nesting opened : Nesting} {more : Nat} {s : Chars}

/-! ## Texts of one part -/

/-- Whether a text has no separator at top level, scanned with something open before it. -/
def Unsplit (separator : Char) (nesting : Nesting) (more : Nat) (s : Chars) : Prop :=
  splitFrom separator nesting more s = [s]

/-- A character more makes one part only of one part. -/
theorem consFirst_eq_singleton {parts : List Chars} (h : parts ≠ []) :
    consFirst c parts = [c :: s] ↔ parts = [s] := by
  cases parts with
  | nil => exact absurd rfl h
  | cons part parts => simp [consFirst]

theorem exists_of_consFirst {parts following : List Chars} {first : Chars} (h : parts ≠ [])
    (heq : consFirst c parts = first :: following) :
    ∃ part, parts = part :: following ∧ first = c :: part := by
  obtain ⟨part, others, rfl⟩ := List.exists_cons_of_ne_nil h
  obtain ⟨rfl, rfl⟩ := List.cons.inj heq
  exact ⟨part, rfl, rfl⟩

theorem unsplit_nil : Unsplit separator nesting more [] := by
  rw [Unsplit, splitFrom]

/-- Inside of a token nothing is split. -/
theorem unsplit_inside : Unsplit separator nesting (more + 1) (c :: s) ↔
    Unsplit separator nesting more s := by
  rw [Unsplit, splitFrom, consFirst_eq_singleton (splitFrom_ne_nil _ _ _ _), Unsplit]

/-- A token is not split, and the rest is scanned with what is open after it. -/
theorem unsplit_token (h : nesting.token? c s = some (opened, more)) :
    Unsplit separator nesting 0 (c :: s) ↔ Unsplit separator opened more s := by
  rw [Unsplit, splitFrom, h]
  exact consFirst_eq_singleton (splitFrom_ne_nil _ _ _ _)

/-- A character that starts no token is passed unless the text is cut at it. -/
theorem unsplit_char (h : nesting.token? c s = none) :
    Unsplit separator nesting 0 (c :: s) ↔
      nesting.cutsAt separator c s = false ∧ Unsplit separator nesting 0 s := by
  rw [Unsplit, splitFrom, h]
  dsimp only
  split
  · next hseparator => simp [hseparator]
  · next hother =>
    rw [Bool.not_eq_true] at hother
    rw [consFirst_eq_singleton (splitFrom_ne_nil _ _ _ _)]
    exact (and_iff_right hother).symm

/-- Text without brackets and tags meets any other text between two tokens. -/
theorem Meet.of_plain {before : Chars} (h : ∀ d ∈ before, d ∉ '<' :: brackets) (after : Chars) :
    Meet before after := by
  refine .of_not_mem (fun hmem => h '<' hmem List.mem_cons_self) fun d hd hlast => ?_
  exact absurd (List.mem_cons_of_mem _ hd) (h d (List.mem_of_getLast? hlast))

/-- A text without the separator is one part. -/
theorem Unsplit.of_not_mem (h : separator ∉ s) : Unsplit separator nesting more s := by
  fun_induction splitFrom separator nesting more s with
  | case1 => exact unsplit_nil
  | case2 nesting more c s ih => exact unsplit_inside.2 (ih (List.not_mem_of_not_mem_cons h))
  | case3 nesting c s opened more htoken ih =>
    exact (unsplit_token htoken).2 (ih (List.not_mem_of_not_mem_cons h))
  | case4 nesting c s htoken hseparator ih =>
    obtain ⟨rfl, -⟩ := cutsAt_iff.1 hseparator
    exact absurd List.mem_cons_self h
  | case5 nesting c s htoken hother ih =>
    exact (unsplit_char htoken).2 ⟨Bool.not_eq_true _ ▸ hother,
      ih (List.not_mem_of_not_mem_cons h)⟩

/-! ## Tokens of beginnings -/

/-- What follows a text makes no difference for a tag that is closed in the text. -/
theorem token?_append_of_mem {first : Chars} (hnext : first ≠ []) (hend : c = '<' → '>' ∈ first)
    (rest : Chars) : nesting.token? c (first ++ rest) = nesting.token? c first := by
  have hhead : (first ++ rest).head? = first.head? := by
    obtain ⟨d, first, rfl⟩ := List.exists_cons_of_ne_nil hnext
    rfl
  refine token?_congr hhead fun htag _ => ?_
  rw [cutAt?_append ⟨'>', hend htag, rfl⟩, Option.map_map]
  rfl

/-- A token that a text begins with is a token of a longer text, too. -/
theorem token?_of_prefix {first : Chars} (hfirst : first <+: s) {token : Nesting × Nat}
    (h : nesting.token? c first = some token) : nesting.token? c s = some token := by
  obtain ⟨rest, rfl⟩ := hfirst
  rw [token?_append_of_mem ?_ ?_ rest, h]
  · rintro rfl
    simp [Nesting.token?] at h
  · rintro rfl
    obtain ⟨hmem, -⟩ | ⟨-, -, -, -, inside, rest, rfl, -⟩ := token?_cases h
    · exact absurd hmem (by decide)
    · exact List.mem_append_right _ List.mem_cons_self

/-- A token that ends in a beginning of the text is a token of it. -/
theorem token?_beginning {first : Chars} (hfirst : first <+: s)
    (h : nesting.token? c s = some (opened, more)) (hmore : more ≤ first.length) :
    nesting.token? c first = some (opened, more) := by
  have hcases := token?_cases h
  obtain ⟨rest, rfl⟩ := hfirst
  rw [token?_append_of_mem ?_ ?_ rest] at h
  · exact h
  · rintro rfl
    obtain ⟨-, -, rfl⟩ | ⟨-, -, -, -, inside, rest, -, rfl⟩ := hcases <;> cases hmore
  · rintro rfl
    obtain ⟨hmem, -⟩ | ⟨-, -, -, -, inside, after, heq, rfl⟩ := hcases
    · exact absurd hmem (by decide)
    · have hinside : inside ++ ['>'] <+: first ++ rest := ⟨after, by rw [heq]; simp⟩
      have hheld : inside ++ ['>'] <+: first :=
        List.prefix_of_prefix_length_le hinside (List.prefix_append _ _) (by simpa using hmore)
      exact hheld.subset (List.mem_append_right _ (List.mem_singleton_self _))

/-! ## Parts of a text -/

/-- The characters of a token are in one part. -/
theorem length_of_splitFrom {first : Chars} {parts : List Chars} (hmore : more ≤ s.length)
    (h : splitFrom separator nesting more s = first :: parts) : more ≤ first.length := by
  induction more generalizing s first with
  | zero => exact Nat.zero_le _
  | succ more ih =>
    cases s with
    | nil => cases hmore
    | cons c s =>
      rw [splitFrom] at h
      obtain ⟨part, hparts, rfl⟩ := exists_of_consFirst (splitFrom_ne_nil _ _ _ _) h
      exact Nat.succ_le_succ (ih (Nat.le_of_succ_le_succ hmore) hparts)

/-- The first part starts as the text does, if the text does not start with a separator. -/
theorem head?_of_splitFrom {first : Chars} {parts : List Chars}
    (h : splitFrom separator nesting 0 s = first :: parts) (hs : s.head? ≠ some separator) :
    first.head? = s.head? := by
  cases s with
  | nil =>
    obtain ⟨rfl, -⟩ := List.cons.inj ((splitFrom.eq_1 _ _ _).symm.trans h)
    rfl
  | cons c s =>
    have hcuts : nesting.cutsAt separator c s = false := by
      rw [Bool.eq_false_iff]
      intro hcuts
      exact hs (congrArg some (cutsAt_iff.1 hcuts).1)
    rw [splitFrom] at h
    split at h
    · obtain ⟨part, -, rfl⟩ := exists_of_consFirst (splitFrom_ne_nil _ _ _ _) h
      rfl
    · rw [hcuts, if_neg Bool.false_ne_true] at h
      obtain ⟨part, -, rfl⟩ := exists_of_consFirst (splitFrom_ne_nil _ _ _ _) h
      rfl

/-- A character that does not cut the text does not cut the part that it is in. -/
theorem cutsAt_of_splitFrom {first : Chars} {parts : List Chars}
    (h : splitFrom separator nesting 0 s = first :: parts)
    (hother : nesting.cutsAt separator c s = false) :
    nesting.cutsAt separator c first = false := by
  rw [Bool.eq_false_iff] at hother ⊢
  intro hcuts
  obtain ⟨rfl, htop, hplain⟩ := cutsAt_iff.1 hcuts
  refine hother (cutsAt_iff.2 ⟨rfl, htop, ?_⟩)
  rw [Bool.eq_false_iff] at hplain ⊢
  intro hstarts
  -- The character is the `<` of a tag, and what follows it is no `<`.
  have hnext : s.head? ≠ some c := by
    obtain ⟨rfl, hopens⟩ := startsTag_iff.1 hstarts
    intro hnext
    rw [hnext] at hopens
    exact absurd hopens (by decide)
  rw [← startsTag_congr (head?_of_splitFrom h hnext)] at hstarts
  exact hplain hstarts

/-- No part of a text is split again: neither the first one, where it is, nor any other by
    itself. -/
theorem unsplit_of_splitFrom {first : Chars} {parts : List Chars}
    (h : splitFrom separator nesting more s = first :: parts) :
    Unsplit separator nesting more first ∧ ∀ part ∈ parts, Unsplit separator .top 0 part := by
  fun_induction splitFrom separator nesting more s generalizing first parts with
  | case1 =>
    cases h
    exact ⟨unsplit_nil, List.forall_mem_nil _⟩
  | case2 nesting more c s ih =>
    obtain ⟨part, hparts, rfl⟩ := exists_of_consFirst (splitFrom_ne_nil _ _ _ _) h
    obtain ⟨hpart, hfollowing⟩ := ih hparts
    exact ⟨unsplit_inside.2 hpart, hfollowing⟩
  | case3 nesting c s opened more htoken ih =>
    obtain ⟨part, hparts, rfl⟩ := exists_of_consFirst (splitFrom_ne_nil _ _ _ _) h
    obtain ⟨hpart, hfollowing⟩ := ih hparts
    have hmore := length_of_splitFrom (length_le_of_token? htoken) hparts
    exact ⟨(unsplit_token (token?_beginning (prefix_of_splitFrom hparts) htoken hmore)).2 hpart,
      hfollowing⟩
  | case4 nesting c s htoken hseparator ih =>
    obtain ⟨-, htop, -⟩ := cutsAt_iff.1 hseparator
    obtain ⟨rfl, hrest⟩ := List.cons.inj h
    obtain ⟨part, following, hparts⟩ :=
      List.exists_cons_of_ne_nil (splitFrom_ne_nil separator nesting 0 s)
    obtain rfl := hrest.symm.trans hparts
    obtain ⟨hpart, hfollowing⟩ := ih hparts
    rw [Nesting.eq_top htop] at hpart
    exact ⟨unsplit_nil, List.forall_mem_cons.2 ⟨hpart, hfollowing⟩⟩
  | case5 nesting c s htoken hother ih =>
    obtain ⟨part, hparts, rfl⟩ := exists_of_consFirst (splitFrom_ne_nil _ _ _ _) h
    obtain ⟨hpart, hfollowing⟩ := ih hparts
    have hplain : nesting.token? c part = none := by
      refine Option.eq_none_iff_forall_ne_some.2 fun token hpresent => ?_
      have hsame := token?_of_prefix (prefix_of_splitFrom hparts) hpresent
      cases htoken.symm.trans hsame
    have hcuts := cutsAt_of_splitFrom hparts (Bool.not_eq_true _ ▸ hother)
    exact ⟨(unsplit_char hplain).2 ⟨hcuts, hpart⟩, hfollowing⟩

/-- Each part of a text is one part. -/
theorem unsplit_of_mem {part : Chars} (h : part ∈ splitTopLevel separator s) :
    Unsplit separator .top 0 part := by
  obtain ⟨first, parts, hparts⟩ :=
    List.exists_cons_of_ne_nil (splitFrom_ne_nil separator .top 0 s)
  obtain ⟨hfirst, hothers⟩ := unsplit_of_splitFrom hparts
  rw [splitTopLevel, hparts] at h
  obtain rfl | h := List.mem_cons.1 h
  · exact hfirst
  · exact hothers part h

/-! ## Parts of a part -/

/-- What follows a separator in a text without another separator is without it, too. -/
theorem Unsplit.after {first next : Chars} {parts : List Chars}
    (h : Unsplit other nesting more s)
    (hparts : splitFrom separator nesting more s = first :: next :: parts) :
    Unsplit other .top 0 ([separator].intercalate (next :: parts)) := by
  fun_induction splitFrom separator nesting more s generalizing first with
  | case1 => cases hparts
  | case2 nesting more c s ih =>
    obtain ⟨part, hrest, -⟩ := exists_of_consFirst (splitFrom_ne_nil _ _ _ _) hparts
    exact ih (unsplit_inside.1 h) hrest
  | case3 nesting c s opened more htoken ih =>
    obtain ⟨part, hrest, -⟩ := exists_of_consFirst (splitFrom_ne_nil _ _ _ _) hparts
    exact ih ((unsplit_token htoken).1 h) hrest
  | case4 nesting c s htoken hseparator ih =>
    obtain ⟨-, htop, -⟩ := cutsAt_iff.1 hseparator
    obtain ⟨-, hrest⟩ := List.cons.inj hparts
    rw [← hrest, intercalate_splitFrom]
    exact Nesting.eq_top htop ▸ ((unsplit_char htoken).1 h).2
  | case5 nesting c s htoken hother ih =>
    obtain ⟨part, hrest, -⟩ := exists_of_consFirst (splitFrom_ne_nil _ _ _ _) hparts
    exact ih ((unsplit_char htoken).1 h).2 hrest

/-- Blanks start no token. -/
theorem token?_of_isBlank (h : isBlank c) : nesting.token? c s = none := by
  have hbrackets : ∀ d ∈ '<' :: brackets, isBlank d = false := Chars.forall_of_all (by decide)
  refine Option.eq_none_iff_forall_not_mem.2 fun (opened, more) htoken => ?_
  have hmem : c ∈ '<' :: brackets := by
    obtain ⟨hmem, -⟩ | ⟨rfl, -⟩ := token?_cases htoken
    · exact List.mem_cons_of_mem _ hmem
    · exact List.mem_cons_self
  rw [hbrackets c hmem] at h
  cases h

/-- Blanks after a text belong to no token of it. -/
theorem token?_append_of_blank {after : Chars} (hafter : ∀ d ∈ after, isBlank d) :
    nesting.token? c (s ++ after) = nesting.token? c s := by
  have hbrackets : ∀ d ∈ '>' :: brackets, isBlank d = false := Chars.forall_of_all (by decide)
  have hnot {d : Char} (hd : d ∈ '>' :: brackets) : d ∉ after := fun hmem =>
    Bool.false_ne_true ((hbrackets d hd).symm.trans (hafter d hmem))
  cases hshort : nesting.token? c s with
  | some token => exact token?_of_prefix (List.prefix_append s after) hshort
  | none =>
    refine Option.eq_none_iff_forall_not_mem.2 fun (opened, more) htoken => ?_
    have hends : more ≤ s.length := by
      by_contra hlong
      obtain ⟨hmem, hnext, rfl⟩ | ⟨-, -, -, -, inside, rest, heq, rfl⟩ := token?_cases htoken
      · obtain rfl : s = [] := List.eq_nil_of_length_eq_zero (by omega)
        exact hnot (List.mem_cons_of_mem _ hmem) (List.mem_of_head? hnext)
      · have hdrop := congrArg (List.drop s.length) heq
        rw [List.drop_left, List.drop_append_of_le_length (by omega)] at hdrop
        exact hnot List.mem_cons_self (hdrop ▸ List.mem_append_right _ List.mem_cons_self)
    have hheld := token?_beginning (List.prefix_append s after) htoken hends
    exact absurd (hshort.symm.trans hheld) nofun

theorem isBlank_of_opensTag (h : opensTag c) : isBlank c = false := by
  obtain hletter | hslash := Bool.or_eq_true_iff.1 h
  · exact isBlank_of_isAsciiLetter hletter
  · rw [beq_iff_eq.1 hslash]
    decide

/-- Blanks after a text start no tag with the end of it. -/
theorem startsTag_append_of_blank {after : Chars} (hafter : ∀ d ∈ after, isBlank d) :
    startsTag c (s ++ after) = startsTag c s := by
  cases s with
  | cons d s => rfl
  | nil =>
    rw [List.nil_append, startsTag_nil, Bool.eq_false_iff]
    intro hstarts
    obtain ⟨d, hd, hopens⟩ := (Option.any_eq_true _ _).1 (startsTag_iff.1 hstarts).2
    have hblank := hafter d (List.mem_of_head? hd)
    rw [isBlank_of_opensTag hopens] at hblank
    cases hblank

/-- A text stays one part without the blanks at its start. -/
theorem Unsplit.dropWhile (h : Unsplit separator nesting 0 s) :
    Unsplit separator nesting 0 (s.dropWhile isBlank) := by
  induction s with
  | nil => exact h
  | cons c s ih =>
    rw [List.dropWhile_cons]
    split
    · next hblank => exact ih ((unsplit_char (token?_of_isBlank hblank)).1 h).2
    · exact h

/-- A text stays one part without the blanks at its end. -/
theorem Unsplit.beginning {after : Chars} (hmore : more ≤ s.length)
    (h : Unsplit separator nesting more (s ++ after)) (hafter : ∀ d ∈ after, isBlank d) :
    Unsplit separator nesting more s := by
  fun_induction splitFrom separator nesting more s with
  | case1 => exact unsplit_nil
  | case2 nesting more c s ih =>
    exact unsplit_inside.2 (ih (Nat.le_of_succ_le_succ hmore) (unsplit_inside.1 h))
  | case3 nesting c s opened more htoken ih =>
    have hlonger := (token?_append_of_blank hafter).trans htoken
    exact (unsplit_token htoken).2 (ih (length_le_of_token? htoken) ((unsplit_token hlonger).1 h))
  | case4 nesting c s htoken _ ih | case5 nesting c s htoken _ ih =>
    have hlonger := (token?_append_of_blank hafter).trans htoken
    obtain ⟨hc, hrest⟩ := (unsplit_char hlonger).1 h
    rw [Nesting.cutsAt, startsTag_append_of_blank hafter] at hc
    exact (unsplit_char htoken).2 ⟨hc, ih (Nat.zero_le _) hrest⟩

/-- Trimming keeps a text one part. -/
theorem Unsplit.trim (h : Unsplit separator .top 0 s) :
    Unsplit separator .top 0 (Chars.trim s) := by
  rw [Chars.trim_eq_rdropWhile]
  have hstart : Unsplit separator .top 0 ((s.dropWhile isBlank).rdropWhile isBlank ++
      (s.dropWhile isBlank).rtakeWhile isBlank) := by
    rw [List.rdropWhile_append_rtakeWhile]
    exact h.dropWhile
  exact hstart.beginning (Nat.zero_le _) fun _ => List.mem_rtakeWhile_imp

/-! ## Arguments of calls -/

/-- A text without an equals sign is an argument without a name. -/
theorem parseParameter_of_not_mem (h : '=' ∉ s) : parseParameter s = ⟨none, String.ofList s⟩ := by
  have hparts : splitTopLevel '=' s = [s] := Unsplit.of_not_mem h
  rw [Markup.parseParameter, cutTopLevel?, hparts]

/-- The value of an argument is one part, since the argument is. -/
theorem Unsplit.parseParameter (h : Unsplit '|' .top 0 s) :
    Unsplit '|' .top 0 (parseParameter s).value.toList := by
  unfold Markup.parseParameter
  split
  · next name value hcut =>
    obtain ⟨-, next, parts, hparts⟩ := splitTopLevel_of_cutTopLevel? hcut
    rw [cutTopLevel?, hparts] at hcut
    cases hcut
    rw [String.toList_ofList]
    exact h.after hparts
  · rwa [String.toList_ofList]

/-- The value of an argument is no longer than the argument. -/
theorem length_parseParameter (s : Chars) : (parseParameter s).value.toList.length ≤ s.length := by
  unfold Markup.parseParameter
  split
  · next name value hcut =>
    obtain ⟨hs, -⟩ := splitTopLevel_of_cutTopLevel? hcut
    rw [hs, String.toList_ofList, List.length_append, List.length_cons]
    omega
  · rw [String.toList_ofList]

theorem length_of_mem_intercalate {part : Chars} {parts : List Chars} (h : part ∈ parts) :
    part.length ≤ ([separator].intercalate parts).length := by
  induction parts with
  | nil => cases h
  | cons first parts ih =>
    cases parts with
    | nil => rw [List.mem_singleton.1 h, List.intercalate_singleton]
    | cons next parts =>
      rw [List.intercalate_cons_cons, List.length_append, List.length_append]
      obtain rfl | h := List.mem_cons.1 h
      · omega
      · have hrest := ih h
        omega

theorem length_of_mem_splitTopLevel {part : Chars} (h : part ∈ splitTopLevel separator s) :
    part.length ≤ s.length := by
  have hlength : part.length ≤ ([separator].intercalate (splitTopLevel separator s)).length :=
    length_of_mem_intercalate h
  rwa [splitTopLevel, intercalate_splitFrom] at hlength

/-- The parameters of a call with the given inside are parts of it. -/
theorem exists_part_of_parseTemplate {inner : Chars} {name : String} {parameters : List Parameter}
    (h : parseTemplate inner = .template name parameters) {parameter : Parameter}
    (hmem : parameter ∈ parameters) :
    ∃ part ∈ splitTopLevel '|' inner, Markup.parseParameter part = parameter := by
  unfold parseTemplate at h
  split at h
  · cases h
    cases hmem
  · next hparts =>
    cases h
    obtain ⟨part, hpart, rfl⟩ := List.mem_map.1 hmem
    exact ⟨part, hparts ▸ List.mem_cons_of_mem _ hpart, rfl⟩

end Markup

end GenreProse
