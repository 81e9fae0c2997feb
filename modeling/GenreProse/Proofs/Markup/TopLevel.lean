-- SUMMARY: A text is split at just those separators that a scan comes to with nothing open.
import Mathlib.Logic.Relation
import GenreProse.Proofs.Markup.Parts

/-!
# Separators at top level

A scan passes a text from the left, a token or a single character in one step. A doubled brace or
bracket opens or closes a call or a link; where nothing is open, a tag is passed as a whole. A
separator is at top level if the scan comes to it with nothing open.

A text is split at just these separators. What stands before one of them and what stands after it
are split by themselves as they are in the whole text. Joining the parts gives the text back, and no
part is split again.
-/

namespace GenreProse

namespace Markup

variable {separator c : Char} {nesting opened : Nesting} {more : Nat}
  {s inside before after rest : Chars} {front back : List Chars}

/-! ## Steps of a scan -/

namespace Nesting

/-- A scan passes a token. What is open and what is still to come are given before and after it. -/
inductive TokenStep : Nesting × Chars → Nesting × Chars → Prop where
  | openCall {calls links : Nat} {s : Chars} :
    TokenStep (⟨calls, links⟩, '{' :: '{' :: s) (⟨calls + 1, links⟩, s)
  | closeCall {calls links : Nat} {s : Chars} :
    TokenStep (⟨calls + 1, links⟩, '}' :: '}' :: s) (⟨calls, links⟩, s)
  | openLink {calls links : Nat} {s : Chars} :
    TokenStep (⟨calls, links⟩, '[' :: '[' :: s) (⟨calls, links + 1⟩, s)
  | closeLink {calls links : Nat} {s : Chars} :
    TokenStep (⟨calls, links + 1⟩, ']' :: ']' :: s) (⟨calls, links⟩, s)
  /-- In a call or a link a tag is no token, and without an end it is none anywhere. -/
  | tag {inside s : Chars} (hopens : inside.head?.any opensTag) (hinside : '>' ∉ inside) :
    TokenStep (top, '<' :: (inside ++ '>' :: s)) (top, s)

/-- A scan passes a token, or a character where no token starts. -/
inductive Step : Nesting × Chars → Nesting × Chars → Prop where
  | token {here there : Nesting × Chars} (h : TokenStep here there) : Step here there
  | character {nesting : Nesting} {c : Char} {s : Chars}
    (h : ∀ there, ¬TokenStep (nesting, c :: s) there) : Step (nesting, c :: s) (nesting, s)

/-- A scan comes from one point of a text to another one. -/
abbrev Scans : Nesting × Chars → Nesting × Chars → Prop :=
  Relation.ReflTransGen Step

/-- A tag is a token up to its first `>`. -/
theorem token?_tag (hopens : inside.head?.any opensTag) (hinside : '>' ∉ inside) (s : Chars) :
    top.token? '<' (inside ++ '>' :: s) = some (top, inside.length + 1) := by
  have hcut : Chars.cutAt? (· == '>') (inside ++ '>' :: s) = some (inside, s) := by
    refine Chars.cutAt?_first (fun d hd => ?_) rfl
    rw [beq_eq_false_iff_ne]
    rintro rfl
    exact hinside hd
  obtain ⟨d, inside, rfl⟩ : ∃ d rest, inside = d :: rest :=
    List.exists_cons_of_ne_nil (by rintro rfl; cases hopens)
  have hstarts : startsTag '<' (d :: (inside ++ '>' :: s)) := startsTag_iff.2 ⟨rfl, hopens⟩
  rw [List.cons_append] at hcut ⊢
  simp only [token?, hstarts, hcut]
  rfl

/-- A scan passes the token that the search finds. -/
theorem tokenStep_of_token? (h : nesting.token? c s = some (opened, more)) :
    TokenStep (nesting, c :: s) (opened, s.drop more) := by
  obtain ⟨hmem, hnext, rfl⟩ | ⟨rfl, hopens, htop, rfl, front, back, hs, -⟩ := token?_cases h
  · obtain ⟨rest, rfl⟩ := List.head?_eq_some_iff.1 hnext
    obtain ⟨calls, links⟩ := nesting
    obtain rfl | rfl | rfl | rfl : c = '{' ∨ c = '}' ∨ c = '[' ∨ c = ']' := by
      simpa [brackets] using hmem
    · obtain rfl : ⟨calls + 1, links⟩ = opened := by simpa [token?] using h
      exact .openCall
    · cases calls with
      | zero => simp [token?, startsTag] at h
      | succ calls =>
        obtain rfl : ⟨calls, links⟩ = opened := by simpa [token?] using h
        exact .closeCall
    · obtain rfl : ⟨calls, links + 1⟩ = opened := by simpa [token?] using h
      exact .openLink
    · cases links with
      | zero => simp [token?, startsTag] at h
      | succ links =>
        obtain rfl : ⟨calls, links⟩ = opened := by simpa [token?] using h
        exact .closeLink
  · obtain rfl := eq_top htop
    -- The tag ends with the first `>` after its start.
    obtain ⟨inside, rest, rfl, hinside⟩ := List.eq_append_cons_of_mem
      (hs ▸ List.mem_append_right front List.mem_cons_self : '>' ∈ s)
    have hstart : inside.head?.any opensTag := by
      cases inside with
      | nil => exact absurd (show opensTag '>' from hopens) (by decide)
      | cons d inside => exact hopens
    cases h.symm.trans (token?_tag hstart hinside rest)
    simpa using TokenStep.tag hstart hinside

/-- The steps over tokens are those that the search for a token finds. -/
theorem tokenStep_iff {there : Nesting × Chars} : TokenStep (nesting, c :: s) there ↔
    ∃ more, nesting.token? c s = some (there.1, more) ∧ there.2 = s.drop more := by
  constructor
  · intro h
    cases h with
    | openCall => exact ⟨1, by simp [token?], rfl⟩
    | closeCall => exact ⟨1, by simp [token?], rfl⟩
    | openLink => exact ⟨1, by simp [token?], rfl⟩
    | closeLink => exact ⟨1, by simp [token?], rfl⟩
    | tag hopens hinside => exact ⟨_, token?_tag hopens hinside _, by simp⟩
  · rintro ⟨more, htoken, hrest⟩
    have hstep := tokenStep_of_token? htoken
    rwa [← hrest] at hstep

/-- Where the search finds no token, the scan passes none. -/
theorem token?_eq_none_iff : nesting.token? c s = none ↔
    ∀ there, ¬TokenStep (nesting, c :: s) there := by
  constructor
  · intro hnone there hstep
    obtain ⟨more, htoken, -⟩ := tokenStep_iff.1 hstep
    cases hnone.symm.trans htoken
  · intro hnone
    exact Option.eq_none_iff_forall_not_mem.2 fun _ htoken => hnone _ (tokenStep_of_token? htoken)

/-- A step passes a character and what belongs to the same token. -/
theorem exists_of_step (h : Step (nesting, s) (opened, rest)) :
    ∃ c inside, s = c :: (inside ++ rest) ∧
      (nesting.token? c (inside ++ rest) = some (opened, inside.length) ∨
        inside = [] ∧ opened = nesting ∧ nesting.token? c rest = none) := by
  cases h with
  | token h =>
    cases s with
    | nil => cases h
    | cons c s =>
      obtain ⟨more, htoken, hrest⟩ := tokenStep_iff.1 h
      obtain rfl : rest = s.drop more := hrest
      have hinside : (s.take more).length = more :=
        List.length_take_of_le (length_le_of_token? htoken)
      refine ⟨c, s.take more, by rw [List.take_append_drop], .inl ?_⟩
      rw [List.take_append_drop, hinside]
      exact htoken
  | @character _ c _ h =>
    exact ⟨c, [], rfl, .inr ⟨rfl, rfl, token?_eq_none_iff.2 h⟩⟩

/-- A step comes to an ending of the text. -/
theorem suffix_of_step {here there : Nesting × Chars} (h : Step here there) :
    there.2 <:+ here.2 := by
  obtain ⟨c, inside, hs, -⟩ := exists_of_step h
  rw [hs]
  exact (List.suffix_append inside there.2).trans (List.suffix_cons c _)

/-- A scan comes to endings of the text. -/
theorem suffix_of_scans {here there : Nesting × Chars} (h : Scans here there) :
    there.2 <:+ here.2 := by
  induction h with
  | refl => exact List.suffix_refl _
  | tail _ hstep ih => exact (suffix_of_step hstep).trans ih

end Nesting

/-! ## Parts before and after a point -/

/-- The rest of a token goes into one part. -/
theorem splitFrom_inside (separator : Char) (nesting : Nesting) (inside s : Chars) :
    splitFrom separator nesting inside.length (inside ++ s) =
      inside.foldr consFirst (splitFrom separator nesting 0 s) := by
  induction inside with
  | nil => rfl
  | cons c inside ih =>
    rw [List.length_cons, List.cons_append, splitFrom, ih, List.foldr_cons]

/-- The characters of a token go into one part. -/
theorem splitFrom_token (h : nesting.token? c (inside ++ s) = some (opened, inside.length)) :
    splitFrom separator nesting 0 (c :: (inside ++ s)) =
      (c :: inside).foldr consFirst (splitFrom separator opened 0 s) := by
  rw [splitFrom, h, List.foldr_cons, ← splitFrom_inside]

theorem foldr_consFirst_ne_nil {parts : List Chars} (h : parts ≠ []) (text : Chars) :
    text.foldr consFirst parts ≠ [] := by
  cases text with
  | nil => exact h
  | cons c text => exact consFirst_ne_nil _ _

/-- Text before the first part goes into it, whatever follows. -/
theorem glue_foldr_consFirst {parts following : List Chars} (hparts : parts ≠ [])
    (hfollowing : following ≠ []) (text : Chars) :
    glue (text.foldr consFirst parts) following = text.foldr consFirst (glue parts following) := by
  induction text with
  | nil => rfl
  | cons c text ih =>
    rw [List.foldr_cons, glue_consFirst (foldr_consFirst_ne_nil hparts text) hfollowing, ih,
      List.foldr_cons]

/-- Before a separator the text is cut where it is without it. -/
theorem cutsAt_append_separator (hafter : after.head? = some separator) :
    nesting.cutsAt separator c (s ++ after) = nesting.cutsAt separator c s := by
  cases s with
  | cons d s => rfl
  | nil =>
    rw [Bool.eq_iff_iff, cutsAt_iff, cutsAt_iff, List.nil_append]
    refine and_congr_right ?_
    rintro rfl
    have hplain : startsTag c after = false := by
      rw [Bool.eq_false_iff]
      intro hstarts
      obtain ⟨rfl, hopens⟩ := startsTag_iff.1 hstarts
      rw [hafter] at hopens
      exact absurd hopens (by decide)
    rw [hplain, startsTag_nil]

/-- Where a scan comes to a separator, the parts are those of the text before it by itself and then
    those of the text from it on. -/
theorem splitFrom_of_scans {here : Nesting × Chars} (h : Nesting.Scans here (opened, after))
    (hafter : after.head? = some separator) (hbefore : here.2 = before ++ after) :
    splitFrom separator here.1 0 here.2 =
      glue (splitFrom separator here.1 0 before) (splitFrom separator opened 0 after) := by
  -- From the start of the scan on: what a step passes belongs to the text before the point, since
  -- the scan still comes to the point after it.
  induction h using Relation.ReflTransGen.head_induction_on generalizing before with
  | refl =>
    obtain rfl : before = [] := List.append_left_eq_self.1 hbefore.symm
    exact (glue_nil_part (splitFrom_ne_nil _ _ _ _)).symm
  | @head here there hstep hscan ih =>
    obtain ⟨nesting, s⟩ := here
    obtain ⟨next, rest⟩ := there
    obtain ⟨between, rfl⟩ := Nesting.suffix_of_scans hscan
    obtain ⟨c, inside, rfl, hstart⟩ := Nesting.exists_of_step hstep
    obtain rfl : before = c :: (inside ++ between) :=
      List.append_cancel_right (hbefore.symm.trans (by simp))
    have hrest := ih rfl
    dsimp only at hrest ⊢
    obtain htoken | ⟨rfl, rfl, htoken⟩ := hstart
    · have halone : nesting.token? c (inside ++ between) = some (next, inside.length) :=
        token?_beginning ⟨after, List.append_assoc _ _ _⟩ htoken (by simp)
      rw [splitFrom_token htoken, hrest, splitFrom_token halone,
        glue_foldr_consFirst (splitFrom_ne_nil _ _ _ _) (splitFrom_ne_nil _ _ _ _)]
    · have halone : next.token? c between = none := by
        refine Option.eq_none_iff_forall_not_mem.2 fun token hpresent => ?_
        have hsame := token?_of_prefix (List.prefix_append between after) hpresent
        cases htoken.symm.trans hsame
      rw [List.nil_append, List.nil_append, splitFrom, splitFrom, htoken, halone,
        cutsAt_append_separator hafter]
      dsimp only
      split
      · rw [hrest, glue_cons (splitFrom_ne_nil _ _ _ _)]
      · rw [hrest, glue_consFirst (splitFrom_ne_nil _ _ _ _) (splitFrom_ne_nil _ _ _ _)]

theorem glue_nil_cons {parts : List Chars} (h : parts ≠ []) (following : List Chars) :
    glue parts ([] :: following) = parts ++ following := by
  have hlast := List.dropLast_append_getLast h
  rw [← hlast, glue_append_cons, List.append_nil, List.append_assoc]
  rfl

/-! ## Separators at top level -/

/-- Whether a separator between two texts is at top level of the text that they form with it. -/
structure AtTopLevel (separator : Char) (before after : Chars) : Prop where
  /-- A scan comes to the separator with nothing open. -/
  scans : Nesting.Scans (.top, before ++ separator :: after) (.top, separator :: after)
  /-- The separator starts no token. -/
  single : ∀ there, ¬Nesting.TokenStep (.top, separator :: after) there
  /-- Nor is it the `<` of a tag without an end. -/
  plain : startsTag separator after = false

/-- At a separator that counts the first part is empty. -/
theorem splitFrom_separator (h : ∀ there, ¬Nesting.TokenStep (.top, separator :: after) there)
    (hplain : startsTag separator after = false) :
    splitFrom separator .top 0 (separator :: after) = [] :: splitTopLevel separator after := by
  have hcuts : Nesting.top.cutsAt separator separator after := cutsAt_iff.2 ⟨rfl, rfl, hplain⟩
  rw [splitFrom, Nesting.token?_eq_none_iff.2 h]
  simp only [hcuts, if_true, splitTopLevel]

/-- The texts before and after a separator at top level are split by themselves. -/
theorem AtTopLevel.splitTopLevel_eq (h : AtTopLevel separator before after) :
    splitTopLevel separator (before ++ separator :: after) =
      splitTopLevel separator before ++ splitTopLevel separator after := by
  have hparts : splitTopLevel separator (before ++ separator :: after) =
      glue (splitTopLevel separator before) (splitFrom separator .top 0 (separator :: after)) :=
    splitFrom_of_scans h.scans rfl rfl
  have hne : splitTopLevel separator before ≠ [] := splitFrom_ne_nil _ _ _ _
  rw [hparts, splitFrom_separator h.single h.plain, glue_nil_cons hne]

/-- Joining two lists of parts puts a separator between them. -/
theorem intercalate_append (separator : Char) (hfront : front ≠ []) (hback : back ≠ []) :
    [separator].intercalate (front ++ back) =
      [separator].intercalate front ++ separator :: [separator].intercalate back := by
  obtain ⟨next, back, rfl⟩ := List.exists_cons_of_ne_nil hback
  induction front with
  | nil => exact absurd rfl hfront
  | cons first front ih =>
    cases front with
    | nil => simp [List.intercalate_cons_cons]
    | cons second front =>
      rw [List.cons_append, List.cons_append, List.intercalate_cons_cons, ← List.cons_append,
        ih (List.cons_ne_nil _ _), List.intercalate_cons_cons]
      simp

/-- A scan comes to what is between two parts with nothing open. -/
theorem scans_of_splitFrom {first : Chars}
    (h : splitFrom separator nesting more s = first :: (front ++ back)) (hback : back ≠ []) :
    Nesting.Scans (nesting, s.drop more) (.top, separator :: [separator].intercalate back) ∧
      (∀ there, ¬Nesting.TokenStep (.top, separator :: [separator].intercalate back) there) ∧
      startsTag separator ([separator].intercalate back) = false := by
  -- Each recursive call of the split is one step of the scan, or goes on inside of a token that the
  -- scan has passed.
  fun_induction splitFrom separator nesting more s generalizing first front with
  | case1 =>
    obtain ⟨-, hnil⟩ := List.cons.inj h
    exact absurd (List.append_eq_nil_iff.1 hnil.symm).2 hback
  | case2 nesting more c s ih =>
    obtain ⟨part, hparts, -⟩ := exists_of_consFirst (splitFrom_ne_nil _ _ _ _) h
    exact ih hparts
  | case3 nesting c s opened more htoken ih =>
    obtain ⟨part, hparts, -⟩ := exists_of_consFirst (splitFrom_ne_nil _ _ _ _) h
    obtain ⟨hscans, hsingle⟩ := ih hparts
    exact ⟨hscans.head (.token (Nesting.tokenStep_of_token? htoken)), hsingle⟩
  | case4 nesting c s htoken hseparator ih =>
    obtain ⟨rfl, htop, hplain⟩ := cutsAt_iff.1 hseparator
    obtain rfl := Nesting.eq_top htop
    obtain ⟨-, hrest⟩ := List.cons.inj h
    have hsingle := Nesting.token?_eq_none_iff.1 htoken
    cases front with
    | nil =>
      obtain rfl : splitFrom c .top 0 s = back := hrest
      rw [intercalate_splitFrom]
      exact ⟨.refl, hsingle, hplain⟩
    | cons second front =>
      obtain ⟨hscans, hlater⟩ := ih hrest
      exact ⟨hscans.head (.character hsingle), hlater⟩
  | case5 nesting c s htoken hother ih =>
    obtain ⟨part, hparts, -⟩ := exists_of_consFirst (splitFrom_ne_nil _ _ _ _) h
    obtain ⟨hscans, hsingle⟩ := ih hparts
    exact ⟨hscans.head (.character (Nesting.token?_eq_none_iff.1 htoken)), hsingle⟩

/-- What is between two parts is a separator at top level. -/
theorem atTopLevel_of_splitTopLevel (h : splitTopLevel separator s = front ++ back)
    (hfront : front ≠ []) (hback : back ≠ []) :
    AtTopLevel separator ([separator].intercalate front) ([separator].intercalate back) := by
  have hs : s = [separator].intercalate front ++ separator :: [separator].intercalate back := by
    rw [← intercalate_append separator hfront hback, ← h]
    exact (intercalate_splitFrom separator .top 0 s).symm
  obtain ⟨first, front, rfl⟩ := List.exists_cons_of_ne_nil hfront
  obtain ⟨hscans, hsingle, hplain⟩ := scans_of_splitFrom h hback
  refine ⟨?_, hsingle, hplain⟩
  rw [← hs]
  exact hscans

/-- A separator is at top level where the parts of the text are those of its two sides. -/
theorem atTopLevel_iff : AtTopLevel separator before after ↔
    splitTopLevel separator (before ++ separator :: after) =
      splitTopLevel separator before ++ splitTopLevel separator after := by
  constructor
  · exact AtTopLevel.splitTopLevel_eq
  · intro h
    have hpoint := atTopLevel_of_splitTopLevel h (splitFrom_ne_nil _ _ _ _)
      (splitFrom_ne_nil _ _ _ _)
    rwa [splitTopLevel, splitTopLevel, intercalate_splitFrom, intercalate_splitFrom] at hpoint

instance : Decidable (AtTopLevel separator before after) :=
  decidable_of_iff _ atTopLevel_iff.symm

-- A tag holds a separator only if it has an end.
example : AtTopLevel '|' "<i".toList "b".toList ∧ ¬AtTopLevel '|' "<i".toList "b>".toList := by
  decide

-- The `<` of a tag without an end is no separator.
example : AtTopLevel '<' "a<b".toList "1".toList ∧ ¬AtTopLevel '<' "a".toList "b<1".toList := by
  decide

/-- Splitting at top level loses nothing and is final: joining the parts gives the text back, and a
    part is split into nothing but itself. The text is split where a separator is at top level and
    only there, and on both sides of it as the sides are by themselves. -/
theorem splitTopLevel_lossless_final (separator : Char) (s : Chars) :
    [separator].intercalate (splitTopLevel separator s) = s ∧
      (∀ part ∈ splitTopLevel separator s, splitTopLevel separator part = [part]) ∧
      (∀ front back, front ≠ [] → back ≠ [] → splitTopLevel separator s = front ++ back →
        AtTopLevel separator ([separator].intercalate front) ([separator].intercalate back)) ∧
      ∀ before after, s = before ++ separator :: after → AtTopLevel separator before after →
        splitTopLevel separator s =
          splitTopLevel separator before ++ splitTopLevel separator after := by
  refine ⟨intercalate_splitFrom separator .top 0 s, fun part hpart => unsplit_of_mem hpart, ?_, ?_⟩
  · intro front back hfront hback hparts
    exact atTopLevel_of_splitTopLevel hparts hfront hback
  · rintro before after rfl hpoint
    exact hpoint.splitTopLevel_eq

/-- A stray closer, a link that holds a separator and a tag, and a tag without an end. -/
theorem splitTopLevel_lossless_final_strayCloser :
    "[[b|<i|c>]]".toList ∈ splitTopLevel '|' "a]]|[[b|<i|c>]]|<d|e".toList ∧
      splitTopLevel '|' "[[b|<i|c>]]".toList = ["[[b|<i|c>]]".toList] ∧
      splitTopLevel '|' "a]]|[[b|<i|c>]]|<d|e".toList =
        ["a]]".toList] ++ ["[[b|<i|c>]]".toList, "<d".toList, "e".toList] ∧
      AtTopLevel '|' "a]]".toList "[[b|<i|c>]]|<d|e".toList ∧
      AtTopLevel '|' "a]]|[[b|<i|c>]]|<d".toList "e".toList ∧
      splitTopLevel '|' "a]]|[[b|<i|c>]]|<d|e".toList =
        splitTopLevel '|' "a]]|[[b|<i|c>]]|<d".toList ++ splitTopLevel '|' "e".toList := by
  obtain ⟨-, hfinal, hjoints, hsides⟩ :=
    splitTopLevel_lossless_final '|' "a]]|[[b|<i|c>]]|<d|e".toList
  have hmem : "[[b|<i|c>]]".toList ∈ splitTopLevel '|' "a]]|[[b|<i|c>]]|<d|e".toList := by decide
  have hparts : splitTopLevel '|' "a]]|[[b|<i|c>]]|<d|e".toList =
      ["a]]".toList] ++ ["[[b|<i|c>]]".toList, "<d".toList, "e".toList] := by decide
  have hpoint : AtTopLevel '|' "a]]|[[b|<i|c>]]|<d".toList "e".toList := by decide
  exact ⟨hmem, hfinal _ hmem, hparts, hjoints _ _ (by decide) (by decide) hparts, hpoint,
    hsides _ _ rfl hpoint⟩

end Markup

end GenreProse
