-- SUMMARY: Splitting a text at top level part by part: where two texts meet between two tokens.
import GenreProse.Markup.Parse

/-!
# Splitting at top level

The scan for separators looks ahead: a bracket may be the first of a doubled one, and a tag goes on
to its end, if it has one. Where two texts meet between two tokens, the parts of both together are
those of the first and then those of the second, scanned with what is open at that point.
-/

namespace GenreProse

namespace Markup

variable {separator : Char} {nesting : Nesting} {before after : Chars}

/-! ## Parts -/

theorem consFirst_ne_nil (c : Char) (parts : List Chars) : consFirst c parts ≠ [] := by
  cases parts <;> simp [consFirst]

theorem consFirst_eq_modifyHead (c : Char) {parts : List Chars} (h : parts ≠ []) :
    consFirst c parts = parts.modifyHead (c :: ·) := by
  cases parts with
  | nil => exact absurd rfl h
  | cons part parts => rfl

theorem splitFrom_ne_nil (separator : Char) (nesting : Nesting) (more : Nat) (s : Chars) :
    splitFrom separator nesting more s ≠ [] := by
  fun_cases splitFrom separator nesting more s with
  | case1 => simp
  | case2 => exact consFirst_ne_nil _ _
  | case3 => exact consFirst_ne_nil _ _
  | case4 => simp
  | case5 => exact consFirst_ne_nil _ _

/-- A character more at the start of the first part is one more at the start of the text. -/
theorem intercalate_consFirst (separator c : Char) {parts : List Chars} (h : parts ≠ []) :
    [separator].intercalate (consFirst c parts) = c :: [separator].intercalate parts := by
  match parts with
  | [] => exact absurd rfl h
  | [part] => simp [consFirst, List.intercalate]
  | part :: next :: parts => simp [consFirst, List.intercalate]

theorem startsTag_iff {c : Char} {s : Chars} :
    startsTag c s ↔ c = '<' ∧ s.head?.any opensTag := by
  simp [startsTag]

@[simp]
theorem startsTag_nil (c : Char) : startsTag c [] = false := by
  simp [startsTag]

theorem startsTag_of_ne {c : Char} (h : c ≠ '<') (s : Chars) : startsTag c s = false := by
  simp [startsTag, h]

/-- Whether a tag starts depends on the next character only. -/
theorem startsTag_congr {c : Char} {s s' : Chars} (h : s.head? = s'.head?) :
    startsTag c s = startsTag c s' := by
  unfold startsTag
  rw [h]

/-- The text is cut where nothing is open, at separators that start no tag. -/
theorem cutsAt_iff {c : Char} {s : Chars} : nesting.cutsAt separator c s ↔
    c = separator ∧ nesting.isTop ∧ startsTag c s = false := by
  simp [Nesting.cutsAt, and_assoc]

/-- Joining the parts gives the text back. -/
theorem intercalate_splitFrom (separator : Char) (nesting : Nesting) (more : Nat) (s : Chars) :
    [separator].intercalate (splitFrom separator nesting more s) = s := by
  fun_induction splitFrom separator nesting more s with
  | case1 => rfl
  | case2 nesting more c s ih =>
    rw [intercalate_consFirst separator c (splitFrom_ne_nil _ _ _ _), ih]
  | case3 nesting c s after more _ ih =>
    rw [intercalate_consFirst separator c (splitFrom_ne_nil _ _ _ _), ih]
  | case4 nesting c s _ hseparator ih =>
    obtain ⟨rfl, -⟩ := cutsAt_iff.1 hseparator
    obtain ⟨part, parts, hparts⟩ := List.exists_cons_of_ne_nil (splitFrom_ne_nil c nesting 0 s)
    rw [hparts] at ih ⊢
    rw [← ih]
    simp [List.intercalate]
  | case5 nesting c s _ _ ih =>
    rw [intercalate_consFirst separator c (splitFrom_ne_nil _ _ _ _), ih]

/-- The parts of a text and of what follows it: the last part of the one goes on with the first
    part of the other. -/
def glue : List Chars → List Chars → List Chars
  | [], parts => parts
  | [last], [] => [last]
  | [last], first :: parts => (last ++ first) :: parts
  | part :: next :: parts, following => part :: glue (next :: parts) following

theorem glue_cons {parts : List Chars} (h : parts ≠ []) (part : Chars) (following : List Chars) :
    glue (part :: parts) following = part :: glue parts following := by
  cases parts with
  | nil => exact absurd rfl h
  | cons next parts => rfl

theorem glue_ne_nil {parts : List Chars} (h : parts ≠ []) (following : List Chars) :
    glue parts following ≠ [] := by
  match parts, following with
  | [], _ => exact absurd rfl h
  | [_], [] => simp [glue]
  | [_], _ :: _ => simp [glue]
  | _ :: _ :: _, _ => simp [glue]

theorem glue_nil_part {parts : List Chars} (h : parts ≠ []) : glue [[]] parts = parts := by
  cases parts with
  | nil => exact absurd rfl h
  | cons first parts => rfl

/-- The first part stays the first one when more parts follow. -/
theorem glue_consFirst {parts following : List Chars} (hparts : parts ≠ [])
    (hfollowing : following ≠ []) (c : Char) :
    glue (consFirst c parts) following = consFirst c (glue parts following) := by
  match parts, following with
  | [], _ => exact absurd rfl hparts
  | _, [] => exact absurd rfl hfollowing
  | [_], _ :: _ => rfl
  | _ :: _ :: _, _ :: _ => rfl

/-- Only the last part of the first list and the first part of the second are changed. -/
theorem glue_append_cons (front : List Chars) (last first : Chars) (back : List Chars) :
    glue (front ++ [last]) (first :: back) = front ++ (last ++ first) :: back := by
  induction front with
  | nil => rfl
  | cons part front ih => rw [List.cons_append, glue_cons (by simp), ih, List.cons_append]

/-! ## Texts that meet between tokens -/

/-- The characters that open or close a call or a link where they are doubled. -/
def brackets : List Char :=
  ['{', '}', '[', ']']

/-- Whether the point between two texts is between two tokens of a scan: it parts no doubled
    bracket, and it is not inside of what is a tag or becomes one with a `>` after the point. -/
structure Meet (before after : Chars) : Prop where
  bracket : ∀ c ∈ brackets, before.getLast? = some c → after.head? ≠ some c
  tag : ∀ front inside, before = front ++ '<' :: inside → (inside ++ after).head?.any opensTag →
    '>' ∈ inside

/-- Without tags before the point only brackets matter. -/
theorem Meet.of_not_mem (h : '<' ∉ before)
    (hbracket : ∀ c ∈ brackets, before.getLast? = some c → after.head? ≠ some c) :
    Meet before after := by
  refine ⟨hbracket, fun front inside hbefore _ => absurd ?_ h⟩
  rw [hbefore]
  exact List.mem_append_right front List.mem_cons_self

/-- The point is between two tokens of an ending, too. -/
theorem Meet.ending {ending : Chars} (h : Meet before after) (hending : ending <:+ before) :
    Meet ending after := by
  obtain ⟨front, rfl⟩ := hending
  refine ⟨fun c hc hlast => h.bracket c hc ?_, fun inner inside heq => h.tag (front ++ inner) _ ?_⟩
  · rw [List.getLast?_append, hlast]
    rfl
  · rw [heq, List.append_assoc]

/-- And of a beginning of what follows. -/
theorem Meet.beginning {beginning : Chars} (h : Meet before after) (hbeginning : beginning <+: after) :
    Meet before beginning := by
  obtain ⟨rest, rfl⟩ := hbeginning
  refine ⟨fun c hc hlast hnext => h.bracket c hc hlast ?_, fun front inside heq hopens => ?_⟩
  · rw [List.head?_append, hnext]
    rfl
  · refine h.tag front inside heq ?_
    rw [← List.append_assoc, List.head?_append]
    cases hhead : (inside ++ beginning).head? with
    | none => simp [hhead] at hopens
    | some c => simpa [hhead] using hopens

/-- A search that ends in a text does not look at what follows the text. -/
theorem cutAt?_append {test : Char → Bool} {s : Chars} (h : ∃ c ∈ s, test c) (rest : Chars) :
    Chars.cutAt? test (s ++ rest) =
      (Chars.cutAt? test s).map fun found => (found.1, found.2 ++ rest) := by
  fun_induction Chars.cutAt? test s with
  | case1 => simp at h
  | case2 c s htest => simp [Chars.cutAt?, htest]
  | case3 c s htest ih =>
    have hs : ∃ c ∈ s, test c := by simpa [htest] using h
    simp [Chars.cutAt?, htest, ih hs, Function.comp_def]

/-- A token is a doubled bracket, or a tag where nothing is open. -/
theorem token?_cases {c : Char} {s : Chars} {opened : Nesting} {more : Nat}
    (h : nesting.token? c s = some (opened, more)) :
    (c ∈ brackets ∧ s.head? = some c ∧ more = 1) ∨
      (c = '<' ∧ s.head?.any opensTag ∧ nesting.isTop ∧ opened = nesting ∧
        ∃ inside rest, s = inside ++ '>' :: rest ∧ more = inside.length + 1) := by
  unfold Nesting.token? at h
  simp only [Bool.and_eq_true, decide_eq_true_eq] at h
  have hpair {bracket : Char} {found : Nesting} (hmem : bracket ∈ brackets)
      (hc : c = bracket) (hnext : s.head? = some bracket)
      (hfound : some (found, 1) = some (opened, more)) :
      c ∈ brackets ∧ s.head? = some c ∧ more = 1 := by
    cases hfound
    exact ⟨hc ▸ hmem, hc ▸ hnext, rfl⟩
  split at h
  · next hopen => exact .inl (hpair (by decide) hopen.1 hopen.2 h)
  split at h
  · next hclose => exact .inl (hpair (by decide) hclose.1.1 hclose.1.2 h)
  split at h
  · next hopen => exact .inl (hpair (by decide) hopen.1 hopen.2 h)
  split at h
  · next hclose => exact .inl (hpair (by decide) hclose.1.1 hclose.1.2 h)
  split at h
  · next htag =>
    rw [startsTag_iff] at htag
    obtain ⟨⟨inside, rest⟩, hcut, hfound⟩ := Option.map_eq_some_iff.1 h
    obtain ⟨closing, hclosing, rfl⟩ := Chars.eq_append_of_cutAt? hcut
    cases hfound
    obtain rfl : closing = '>' := by simpa using hclosing
    exact .inr ⟨htag.2.1, htag.2.2, htag.1, rfl, inside, rest, rfl, rfl⟩
  · cases h

/-- A token ends in the text that it is read from. -/
theorem length_le_of_token? {c : Char} {s : Chars} {opened : Nesting} {more : Nat}
    (h : nesting.token? c s = some (opened, more)) : more ≤ s.length := by
  obtain ⟨-, hnext, rfl⟩ | ⟨-, -, -, -, inside, rest, rfl, rfl⟩ := token?_cases h
  · cases s with
    | nil => cases hnext
    | cons => exact Nat.le_add_left 1 _
  · simp only [List.length_append, List.length_cons]
    omega

/-- A character that ends the first of two texts that meet starts no token. -/
theorem token?_last {c : Char} (h : Meet [c] after) (nesting : Nesting) :
    nesting.token? c after = none := by
  refine Option.eq_none_iff_forall_not_mem.2 fun (opened, more) htoken => ?_
  obtain ⟨hmem, hnext, -⟩ | ⟨rfl, hopens, -⟩ := token?_cases htoken
  · exact h.bracket c hmem rfl hnext
  · exact List.not_mem_nil (h.tag [] [] rfl hopens)

/-- Whether a token starts depends on the next character and, for a tag, on where it ends. -/
theorem token?_congr {c : Char} {s s' : Chars} (hnext : s.head? = s'.head?)
    (hend : c = '<' → s'.head?.any opensTag →
      (Chars.cutAt? (· == '>') s).map Prod.fst = (Chars.cutAt? (· == '>') s').map Prod.fst) :
    nesting.token? c s = nesting.token? c s' := by
  have htag : (if (nesting.isTop && startsTag c s') = true then
        (Chars.cutAt? (· == '>') s).map fun found => (nesting, found.1.length + 1) else none) =
      if (nesting.isTop && startsTag c s') = true then
        (Chars.cutAt? (· == '>') s').map fun found => (nesting, found.1.length + 1)
      else none := by
    split
    · next hopens =>
      rw [Bool.and_eq_true, startsTag_iff] at hopens
      have hsame := congrArg (Option.map fun inner => (nesting, inner.length + 1))
        (hend hopens.2.1 hopens.2.2)
      rwa [Option.map_map, Option.map_map] at hsame
    · rfl
  unfold Nesting.token?
  dsimp only
  rw [startsTag_congr hnext, hnext]
  exact congrArg _ (congrArg _ (congrArg _ (congrArg _ htag)))

/-- Where two texts meet, the tokens of the first are those that it has by itself. -/
theorem token?_append {c : Char} {s : Chars} (h : Meet (c :: s) after) (nesting : Nesting) :
    nesting.token? c (s ++ after) = nesting.token? c s := by
  cases s with
  | nil =>
    have halone : nesting.token? c [] = none := by simp [Nesting.token?]
    rw [List.nil_append, token?_last h, halone]
  | cons d s =>
    refine token?_congr rfl ?_
    rintro rfl hopens
    have hclosed : ∃ x ∈ d :: s, (x == '>') = true := ⟨'>', h.tag [] (d :: s) rfl hopens, rfl⟩
    rw [cutAt?_append hclosed, Option.map_map]
    rfl

/-- Where two texts meet, the first is cut where it is by itself. -/
theorem cutsAt_append {c : Char} {s : Chars} (h : Meet (c :: s) after) (nesting : Nesting) :
    nesting.cutsAt separator c (s ++ after) = nesting.cutsAt separator c s := by
  have hsame : startsTag c (s ++ after) = startsTag c s := by
    cases s with
    | cons d s => rfl
    | nil =>
      rw [List.nil_append, startsTag_nil, Bool.eq_false_iff]
      intro hstarts
      obtain ⟨rfl, hopens⟩ := startsTag_iff.1 hstarts
      exact List.not_mem_nil (h.tag [] [] rfl hopens)
  rw [Nesting.cutsAt, Nesting.cutsAt, hsame]

/-- What is open after a text. The number counts the characters of the current token still to
    come. -/
def Nesting.through (nesting : Nesting) : Nat → Chars → Nesting
  | _, [] => nesting
  | more + 1, _ :: s => nesting.through more s
  | 0, c :: s =>
    match nesting.token? c s with
    | some (opened, more) => opened.through more s
    | none => nesting.through 0 s

/-- The parts of two texts that meet are those of the first and then those of the second, where
    the last part of the one goes on with the first part of the other. -/
theorem splitFrom_append {more : Nat} (hmore : more ≤ before.length)
    (h : Meet (before.drop more) after) :
    splitFrom separator nesting more (before ++ after) =
      glue (splitFrom separator nesting more before)
        (splitFrom separator (nesting.through more before) 0 after) := by
  fun_induction splitFrom separator nesting more before with
  | case1 nesting more =>
    obtain rfl : more = 0 := Nat.le_zero.1 hmore
    exact (glue_nil_part (splitFrom_ne_nil _ _ _ _)).symm
  | case2 nesting more c s ih =>
    rw [glue_consFirst (splitFrom_ne_nil _ _ _ _) (splitFrom_ne_nil _ _ _ _), Nesting.through,
      ← ih (Nat.le_of_succ_le_succ hmore) h]
    rfl
  | case3 nesting c s opened more htoken ih =>
    rw [glue_consFirst (splitFrom_ne_nil _ _ _ _) (splitFrom_ne_nil _ _ _ _), Nesting.through,
      htoken, ← ih (length_le_of_token? htoken) (h.ending ?_), List.cons_append, splitFrom,
      token?_append h, htoken]
    exact (List.drop_suffix _ _).trans (List.suffix_cons _ _)
  | case4 nesting c s htoken hseparator ih =>
    rw [glue_cons (splitFrom_ne_nil _ _ _ _), Nesting.through, htoken,
      ← ih (Nat.zero_le _) (h.ending (List.suffix_cons _ _)), List.cons_append, splitFrom,
      token?_append h, htoken, cutsAt_append h]
    simp only [hseparator, if_true]
  | case5 nesting c s htoken hother ih =>
    rw [glue_consFirst (splitFrom_ne_nil _ _ _ _) (splitFrom_ne_nil _ _ _ _), Nesting.through,
      htoken, ← ih (Nat.zero_le _) (h.ending (List.suffix_cons _ _)), List.cons_append, splitFrom,
      token?_append h, htoken, cutsAt_append h]
    simp only [hother, if_false, Bool.false_eq_true]

theorem splitTopLevel_append (separator : Char) (h : Meet before after) :
    splitTopLevel separator (before ++ after) =
      glue (splitTopLevel separator before)
        (splitFrom separator (Nesting.top.through 0 before) 0 after) :=
  splitFrom_append (Nat.zero_le _) h

/-- Without brackets and tags every separator counts. -/
theorem splitTopLevel_eq_splitOn {s : Chars} (h : ∀ c ∈ s, c ∉ '<' :: brackets) :
    splitTopLevel separator s = s.splitOn separator := by
  unfold splitTopLevel
  induction s with
  | nil => exact (List.splitOn_nil separator).symm
  | cons c s ih =>
    obtain ⟨hc, hs⟩ := List.forall_mem_cons.1 h
    have htoken : Nesting.top.token? c s = none := by
      refine Option.eq_none_iff_forall_not_mem.2 fun (opened, more) htoken => hc ?_
      obtain ⟨hmem, -⟩ | ⟨rfl, -⟩ := token?_cases htoken
      · exact List.mem_cons_of_mem _ hmem
      · exact List.mem_cons_self
    have hcuts : Nesting.top.cutsAt separator c s = decide (c = separator) := by
      have hne : c ≠ '<' := by
        rintro rfl
        exact hc List.mem_cons_self
      simp [Nesting.cutsAt, startsTag_of_ne hne, Nesting.top, Nesting.isTop]
    rw [splitFrom, htoken, List.splitOn_cons_eq_if_modifyHead,
      ← consFirst_eq_modifyHead c (List.splitOn_ne_nil _ _), ← ih hs]
    simp only [hcuts, beq_iff_eq, decide_eq_true_eq]

/-! ## The last part -/

/-- Only where nothing is open is the count of both brackets zero. -/
theorem Nesting.eq_top (h : nesting.isTop) : nesting = .top := by
  obtain ⟨calls, links⟩ := nesting
  obtain ⟨rfl, rfl⟩ : calls = 0 ∧ links = 0 := by simpa [isTop] using h
  rfl

/-- A text that is one part is this part. -/
theorem eq_of_splitFrom_eq_singleton {more : Nat} {s part : Chars}
    (h : splitFrom separator nesting more s = [part]) : s = part := by
  rw [← intercalate_splitFrom separator nesting more s, h, List.intercalate_singleton]

/-- The last part is an ending of the text. -/
theorem suffix_of_splitFrom (front : List Chars) {more : Nat} {s last : Chars}
    (h : splitFrom separator nesting more s = front ++ [last]) : last <:+ s := by
  rw [← intercalate_splitFrom separator nesting more s, h]
  clear h
  induction front with
  | nil => exact List.intercalate_singleton ▸ List.suffix_refl last
  | cons part front ih =>
    obtain ⟨next, following, hrest⟩ := List.exists_cons_of_ne_nil
      (List.append_ne_nil_of_right_ne_nil front (List.cons_ne_nil last []))
    rw [List.cons_append, hrest, List.intercalate_cons_cons, ← hrest]
    exact ih.trans (List.suffix_append _ _)

/-- The first part is a beginning of the text. -/
theorem prefix_of_splitFrom {more : Nat} {s first : Chars} {back : List Chars}
    (h : splitFrom separator nesting more s = first :: back) : first <+: s := by
  rw [← intercalate_splitFrom separator nesting more s, h]
  cases back with
  | nil => exact List.intercalate_singleton ▸ List.prefix_refl first
  | cons next back =>
    rw [List.intercalate_cons_cons, List.append_assoc]
    exact List.prefix_append _ _

theorem eq_cons_of_consFirst {c : Char} {parts front : List Chars} {first last : Chars}
    (h : consFirst c parts = first :: (front ++ [last])) :
    ∃ part, parts = part :: (front ++ [last]) := by
  cases parts with
  | nil => simp [consFirst] at h
  | cons part parts => exact ⟨part, by rw [(List.cons.inj h).2]⟩

/-- A separator counts where nothing is open, so what is open after the text is what is open after
    the part that follows the last of them. -/
theorem through_eq_of_splitFrom {more : Nat} {s first last : Chars} {front : List Chars}
    (h : splitFrom separator nesting more s = first :: (front ++ [last])) :
    nesting.through more s = Nesting.top.through 0 last := by
  fun_induction splitFrom separator nesting more s generalizing first front with
  | case1 => simp at h
  | case2 nesting more c s ih =>
    obtain ⟨part, hparts⟩ := eq_cons_of_consFirst h
    exact ih hparts
  | case3 nesting c s opened more htoken ih =>
    obtain ⟨part, hparts⟩ := eq_cons_of_consFirst h
    rw [Nesting.through, htoken]
    exact ih hparts
  | case4 nesting c s htoken hseparator ih =>
    obtain ⟨-, htop, -⟩ := cutsAt_iff.1 hseparator
    rw [Nesting.through, htoken]
    obtain ⟨-, hrest⟩ := List.cons.inj h
    cases front with
    | nil => rw [Nesting.eq_top htop, eq_of_splitFrom_eq_singleton hrest]
    | cons next front => exact ih hrest
  | case5 nesting c s htoken hother ih =>
    obtain ⟨part, hparts⟩ := eq_cons_of_consFirst h
    rw [Nesting.through, htoken]
    exact ih hparts

/-! ## The first separator -/

/-- Where a text has more than one part, the first separator ends the first part. -/
theorem cutTopLevel?_of_splitTopLevel {s first next : Chars} {parts : List Chars}
    (h : splitTopLevel separator s = first :: next :: parts) :
    ∃ rest, cutTopLevel? separator s = some (first, rest) ∧ s = first ++ separator :: rest := by
  refine ⟨[separator].intercalate (next :: parts), by rw [cutTopLevel?, h], ?_⟩
  rw [← intercalate_splitFrom separator .top 0 s, ← splitTopLevel, h]
  simp [List.intercalate]

/-- Without a separator the text is one part. -/
theorem splitTopLevel_eq_singleton {s : Chars} (h : cutTopLevel? separator s = none) :
    splitTopLevel separator s = [s] := by
  match hparts : splitTopLevel separator s with
  | [] => exact absurd hparts (splitFrom_ne_nil _ _ _ _)
  | [part] => rw [eq_of_splitFrom_eq_singleton hparts]
  | first :: next :: parts =>
    obtain ⟨rest, hcut, -⟩ := cutTopLevel?_of_splitTopLevel hparts
    exact absurd (h.symm.trans hcut) nofun

/-- The first separator is between the first part and the others. -/
theorem splitTopLevel_of_cutTopLevel? {s first rest : Chars}
    (h : cutTopLevel? separator s = some (first, rest)) :
    s = first ++ separator :: rest ∧
      ∃ next parts, splitTopLevel separator s = first :: next :: parts := by
  match hparts : splitTopLevel separator s with
  | [] => exact absurd hparts (splitFrom_ne_nil _ _ _ _)
  | [part] => simp [cutTopLevel?, hparts] at h
  | first' :: next :: parts =>
    obtain ⟨rest', hcut, hs⟩ := cutTopLevel?_of_splitTopLevel hparts
    obtain ⟨rfl, rfl⟩ := Prod.mk.inj (Option.some.inj (h.symm.trans hcut))
    exact ⟨hs, next, parts, rfl⟩

/-- The first separator of a text is the first one of a longer text, too. -/
theorem cutTopLevel?_append {first rest : Chars} (hmeet : Meet before after)
    (h : cutTopLevel? separator before = some (first, rest)) :
    cutTopLevel? separator (before ++ after) = some (first, rest ++ after) := by
  obtain ⟨hbefore, next, parts, hparts⟩ := splitTopLevel_of_cutTopLevel? h
  have hglued := splitTopLevel_append separator hmeet
  rw [hparts, glue_cons (List.cons_ne_nil _ _)] at hglued
  obtain ⟨next', parts', hrest⟩ := List.exists_cons_of_ne_nil (glue_ne_nil
    (List.cons_ne_nil next parts) (splitFrom separator (Nesting.top.through 0 before) 0 after))
  rw [hrest] at hglued
  obtain ⟨rest', hcut, happend⟩ := cutTopLevel?_of_splitTopLevel hglued
  rw [hbefore, List.append_assoc] at happend
  obtain rfl := (List.cons.inj (List.append_cancel_left happend)).2
  exact hcut

end Markup

end GenreProse
