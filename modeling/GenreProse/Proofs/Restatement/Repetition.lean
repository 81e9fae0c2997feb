-- SUMMARY: How often a restatement of a name can be dropped, whatever patterns the matcher refuses.
import GenreProse.Proofs.Restatement.Commas
import Mathlib.Logic.Function.Iterate

/-!
# Repetition

What is left of a description may open with a restatement again, so that one run is not always
enough; but each run shortens the description by a statement of the name. This also goes for a
matcher that refuses patterns. For such a matcher only the openings count whose pattern it accepts.
-/

namespace GenreProse

open Chars

namespace Restatement

variable {words : List Chars} {s rest : Chars}

/-! ## Openings -/

/-- The text opens with a template call that has the name in it. -/
def OpensWithCall (words : List Chars) (s : Chars) : Prop :=
  ∃ opened inner rest statement, s = '{' :: '{' :: opened ∧
    Markup.balanced? '{' '}' 1 opened = some (inner, rest) ∧ States words statement ∧
      statement <:+: '{' :: '{' :: (inner ++ ['}', '}'])

/-- The text opens with the name in bold, maybe after an article. -/
def OpensWithBold (words : List Chars) (s : Chars) : Prop :=
  ∃ article statement rest, s = article ++ (boldMark ++ (statement ++ (boldMark ++ rest))) ∧
    IsArticle article ∧ States words statement

/-- The text opens with the name in bold and a comma directly after it. -/
def OpensWithComma (words : List Chars) (s : Chars) : Prop :=
  ∃ article statement rest, s = boldOpening article statement (',' :: rest) ∧
    IsArticle article ∧ States words statement

/-- The text opens with the plain name, maybe after an article. -/
def OpensWithName (words : List Chars) (s : Chars) : Prop :=
  ∃ article statement rest, s = article ++ (statement ++ rest) ∧ IsArticle article ∧
    States words statement

/-- A name in bold with a comma is a name in bold. -/
theorem OpensWithComma.opensWithBold (h : OpensWithComma words s) : OpensWithBold words s := by
  obtain ⟨article, statement, rest, rfl, harticle, hstates⟩ := h
  exact ⟨article, statement, ',' :: rest, rfl, harticle, hstates⟩

section

variable (hwords : ∀ word ∈ words, IsWord word)
include hwords

/-- No call is dropped if and only if the text opens with none that has the name in it. -/
theorem stripCall?_eq_none_iff (hne : words ≠ []) :
    stripCall? words s = none ↔ ¬OpensWithCall words s := by
  constructor
  · rintro hnone ⟨opened, inner, rest, statement, rfl, hcall, hstates, hwithin⟩
    have hfound := isSome_stripCall? hwords hne hcall hstates hwithin
    rw [hnone] at hfound
    cases hfound
  · intro hnot
    refine Option.eq_none_iff_forall_ne_some.2 fun rest hfound => ?_
    obtain ⟨opened, inner, tail, rfl, hcall, hoccurs, -⟩ := exists_call_of_stripCall? hfound
    obtain ⟨statement, hstates, hwithin⟩ := (occurIn_iff hwords hne).1 hoccurs
    exact hnot ⟨opened, inner, tail, statement, rfl, hcall, hstates, hwithin⟩

/-- No bold is dropped if and only if the text opens with no name in bold. -/
theorem stripBold?_eq_none_iff (hne : words ≠ []) :
    stripBold? words s = none ↔ ¬OpensWithBold words s := by
  rw [stripBold?, Option.map_eq_none_iff, Option.eq_none_iff_forall_ne_some]
  simp only [ne_eq, afterPhrase?_bold_eq_some_iff hwords hne, OpensWithBold, not_exists]
  grind

/-- The pattern with a comma leaves nothing if and only if no comma is after a name in bold. -/
theorem head?_rests_boldComma_eq_none_iff (hne : words ≠ []) :
    ((Pattern.boldComma words).rests s).head? = none ↔ ¬OpensWithComma words s := by
  constructor
  · rintro hnone ⟨article, statement, rest, rfl, harticle, hstates⟩
    rw [head?_rests_boldComma hwords harticle hstates] at hnone
    cases hnone
  · intro hnot
    refine Option.eq_none_iff_forall_ne_some.2 fun rest hfound => ?_
    obtain ⟨article, statement, tail, rfl, harticle, hstates, -⟩ :=
      exists_comma_of_head?_rests hwords hne hfound
    exact hnot ⟨article, statement, tail, rfl, harticle, hstates⟩

/-- No plain name is dropped if and only if the text opens with none. -/
theorem stripPlain?_eq_none_iff (hne : words ≠ []) :
    stripPlain? words s = none ↔ ¬OpensWithName words s := by
  constructor
  · rintro hnone ⟨article, statement, rest, rfl, harticle, hstates⟩
    have hfound := isSome_stripPlain? hwords harticle hstates rest
    rw [hnone] at hfound
    cases hfound
  · intro hnot
    refine Option.eq_none_iff_forall_ne_some.2 fun rest hfound => ?_
    obtain ⟨article, statement, more, harticle, hstates, rfl⟩ :=
      exists_plain_of_stripPlain? hne hfound
    exact hnot ⟨article, statement, _, rfl, harticle, hstates⟩

end

/-! ## Matchers that refuse patterns -/

/-- The text opens with a restatement of the name for which a pattern is accepted. -/
inductive RestatesBy (accepts : Pattern → Bool) (words : List Chars) (s : Chars) : Prop where
  | call (haccepts : accepts (.name words)) (h : OpensWithCall words s)
  | bold (haccepts : accepts (.bold words)) (h : OpensWithBold words s)
  | comma (haccepts : accepts (.boldComma words)) (h : OpensWithComma words s)
  | plain (haccepts : accepts (.plain words)) (h : OpensWithName words s)

variable {accepts : Pattern → Bool}

theorem RestatesBy.ne_nil (h : RestatesBy accepts words s) : words ≠ [] := by
  cases h with
  | call _ h =>
    obtain ⟨_, _, _, _, _, _, hstates, _⟩ := h
    exact hstates.ne_nil
  | bold _ h | comma _ h | plain _ h =>
    obtain ⟨_, _, _, _, _, hstates⟩ := h
    exact hstates.ne_nil

namespace Checked

theorem accepted_eq_none_iff {pattern : Pattern} {found : Option Chars} {p : Prop}
    (h : found = none ↔ ¬p) : accepted accepts pattern found = none ↔ ¬(accepts pattern ∧ p) := by
  unfold accepted
  split
  · next haccepts => simp [h, haccepts]
  · next hrefused => simp [hrefused]

/-- A matcher finds nothing if and only if the text opens with nothing for which it accepts a
    pattern. -/
theorem afterMatch?_eq_none_iff (hwords : ∀ word ∈ words, IsWord word) (hne : words ≠ []) :
    afterMatch? accepts words s = none ↔ ¬RestatesBy accepts words s := by
  rw [afterMatch?_eq_readers hwords hne]
  simp only [Option.orElse_eq_none, accepted_eq_none_iff (stripCall?_eq_none_iff hwords hne),
    accepted_eq_none_iff (stripBold?_eq_none_iff hwords hne),
    accepted_eq_none_iff (head?_rests_boldComma_eq_none_iff hwords hne),
    accepted_eq_none_iff (stripPlain?_eq_none_iff hwords hne)]
  constructor
  · rintro ⟨hcall, hbold, hcomma, hplain⟩ (⟨ha, h⟩ | ⟨ha, h⟩ | ⟨ha, h⟩ | ⟨ha, h⟩)
    · exact hcall ⟨ha, h⟩
    · exact hbold ⟨ha, h⟩
    · exact hcomma ⟨ha, h⟩
    · exact hplain ⟨ha, h⟩
  · intro hnot
    exact ⟨fun h => hnot (.call h.1 h.2), fun h => hnot (.bold h.1 h.2),
      fun h => hnot (.comma h.1 h.2), fun h => hnot (.plain h.1 h.2)⟩

/-- What a matcher leaves of a text. -/
def stripped (accepts : Pattern → Bool) (words : List Chars) (s : Chars) : Chars :=
  if words = [] then s else (afterMatch? accepts words s).getD s

/-- A matcher leaves the same text whether it cuts or reads. -/
theorem strip_eq_stripped (hwords : ∀ word ∈ words, IsWord word) (s : Chars) :
    strip accepts words s = .some (stripped accepts words s) := by
  unfold stripped
  split
  · next hnil => exact if_pos hnil
  · next hne => exact strip_eq hwords hne s

/-- A matcher keeps a text, or drops a statement of the name. -/
theorem stripped_cases (hwords : ∀ word ∈ words, IsWord word) (s : Chars) :
    (¬RestatesBy accepts words s ∧ stripped accepts words s = s) ∨
      (RestatesBy accepts words s ∧ DropsStatement words s (stripped accepts words s)) := by
  unfold stripped
  split
  · next hnil => exact .inl ⟨fun h => h.ne_nil hnil, rfl⟩
  · next hne =>
    cases hfound : afterMatch? accepts words s with
    | none => exact .inl ⟨(afterMatch?_eq_none_iff hwords hne).1 hfound, rfl⟩
    | some rest =>
      refine .inr ⟨?_, afterMatch?_drops hwords hne hfound⟩
      by_contra hnot
      rw [(afterMatch?_eq_none_iff hwords hne).2 hnot] at hfound
      cases hfound

end Checked

/-- The readers leave what a matcher leaves that accepts all patterns. -/
theorem toList_strip_eq_stripped (name description : String) :
    (strip name description).toList =
      Checked.stripped (fun _ => true) (wordsOf name) description.toList := by
  rw [toList_strip, Checked.stripped]
  split
  · rfl
  · next hne => rw [Checked.afterMatch?_eq (fun _ => isWord_of_mem_wordsOf) hne fun _ => rfl]

/-! ## Repeated runs -/

/-- A run keeps what it gets, or makes it shorter by at least so much, which is something. -/
def Shortens {α : Type} (length : α → Nat) (drop : Nat) (run : α → α) : Prop :=
  ∀ a, run a = a ∨ length (run a) + drop ≤ length a ∧ 0 < drop

/-- Runs until nothing changes come to an end, as each of them drops something. -/
theorem Shortens.exists_runs {α : Type} {length : α → Nat} {drop : Nat} {run : α → α}
    (h : Shortens length drop run) (a : α) :
    ∃ runs, runs * drop ≤ length a ∧ ∀ more, run^[runs + more] a = run^[runs] a := by
  induction hlength : length a using Nat.strong_induction_on generalizing a with
  | h n ih =>
    obtain hkept | ⟨hshorter, hpos⟩ := h a
    · refine ⟨0, by simp, fun more => ?_⟩
      rw [Nat.zero_add, Function.iterate_fixed hkept]
      rfl
    · obtain ⟨runs, hruns, hstable⟩ := ih (length (run a)) (by omega) _ rfl
      refine ⟨runs + 1, ?_, fun more => ?_⟩
      · rw [Nat.add_mul, Nat.one_mul]
        omega
      · rw [Nat.add_right_comm, Function.iterate_succ_apply, Function.iterate_succ_apply]
        exact hstable more

theorem strip_shortensBy (name : String) :
    Shortens String.length (wordsOf name).flatten.length (strip name) := by
  intro description
  by_cases h : Restates (wordsOf name) description.toList
  · exact .inr (strip_length_le h)
  · exact .inl ((strip_eq_self_iff name description).2 h)

theorem Checked.stripped_shortensBy (hwords : ∀ word ∈ words, IsWord word) :
    Shortens List.length words.flatten.length (stripped accepts words) := by
  intro s
  obtain ⟨-, hkept⟩ | ⟨h, hdrops⟩ := stripped_cases hwords s
  · exact .inl hkept
  · exact .inr ⟨hdrops.length_le, flatten_length_pos hwords h.ne_nil⟩

/-- Exactly the texts that restate nothing by an accepted pattern are kept. -/
theorem Checked.stripped_eq_self_iff (hwords : ∀ word ∈ words, IsWord word) (s : Chars) :
    stripped accepts words s = s ↔ ¬RestatesBy accepts words s := by
  obtain ⟨hnot, hkept⟩ | ⟨h, hdrops⟩ := stripped_cases hwords s
  · exact iff_of_true hkept hnot
  · refine iff_of_false (fun hkept => ?_) (not_not_intro h)
    have hlength := hdrops.length_le
    have hpos := flatten_length_pos hwords h.ne_nil
    rw [hkept] at hlength
    omega

/-- A second run changes nothing if and only if the first leaves no restatement. Runs until nothing
    changes come to an end, as each of them drops at least the letters of the name. Both are true of
    a matcher that refuses patterns as well, with the restatements for which it accepts one. -/
theorem strip_strip_iff (name description : String) :
    (strip name (strip name description) = strip name description ↔
      ¬Restates (wordsOf name) (strip name description).toList) ∧
    (∃ runs, runs * (wordsOf name).flatten.length ≤ description.length ∧
      ∀ more, (strip name)^[runs + more] description = (strip name)^[runs] description) ∧
    ∀ accepts, ∃ run : Chars → Chars,
      (∀ s, Checked.strip accepts (wordsOf name) s = .some (run s)) ∧
      (∀ s, run (run s) = run s ↔ ¬RestatesBy accepts (wordsOf name) (run s)) ∧
      ∀ s, ∃ runs, runs * (wordsOf name).flatten.length ≤ s.length ∧
        ∀ more, run^[runs + more] s = run^[runs] s := by
  have hwords : ∀ word ∈ wordsOf name, IsWord word := fun _ => isWord_of_mem_wordsOf
  refine ⟨strip_eq_self_iff name _, (strip_shortensBy name).exists_runs description,
    fun accepts => ⟨Checked.stripped accepts (wordsOf name), ?_, ?_, ?_⟩⟩
  · exact Checked.strip_eq_stripped hwords
  · exact fun s => Checked.stripped_eq_self_iff hwords _
  · exact (Checked.stripped_shortensBy hwords).exists_runs

/-- A call with the name in it before the name in bold: one run drops only the call. -/
theorem strip_call_before_bold :
    strip "Ska" "\x7b\x7bAudio|ska.ogg|Ska\x7d\x7d '''Ska''' is a genre." =
      "'''Ska''' is a genre." ∧
    strip "Ska" "'''Ska''' is a genre." = "is a genre." ∧
    strip "Ska" (strip "Ska" "\x7b\x7bAudio|ska.ogg|Ska\x7d\x7d '''Ska''' is a genre.") ≠
      strip "Ska" "\x7b\x7bAudio|ska.ogg|Ska\x7d\x7d '''Ska''' is a genre." := by
  decide +kernel

end Restatement

end GenreProse
