-- SUMMARY: The spellings of a template name, which all have the same canonical form.
import GenreProse.Proofs.Text.Ascii
import GenreProse.Proofs.Text.Trim
import GenreProse.Template.Name
import Mathlib.Data.List.Forall2

/-!
# Spellings of names

`Respelled` says in which ways a template name may be written: with blanks around it, with the
namespace before it, with other capitals, with underscores for its spaces, or with several of these.
The canonical name is the same for all of them. The case of ASCII letters is dealt with by lowering
it everywhere, which none of the steps towards the canonical name takes notice of.
-/

namespace GenreProse

/-! ## The case of ASCII letters -/

theorem isBlank_toLower (c : Char) : isBlank c.toLower = isBlank c :=
  eq_of_toLower (Chars.forall_of_all (by decide)) c

theorem isCased_toLower (c : Char) : isCased c.toLower = isCased c :=
  eq_of_toLower (Chars.forall_of_all (by decide)) c

theorem isCaseIgnorable_of_isAsciiLetter {c : Char} (h : isAsciiLetter c) :
    isCaseIgnorable c = false := by
  have hspans : ∀ span ∈ caseIgnorableSpans,
      span.last < 65 ∨ (90 < span.first ∧ span.last < 97) ∨ 122 < span.first := by decide +kernel
  have hcode := toNat_of_isAsciiLetter h
  rw [isCaseIgnorable, Span.any, List.any_eq_false]
  intro span hspan
  have houtside := hspans span hspan
  simp only [Bool.and_eq_true, decide_eq_true_eq]
  omega

theorem isCaseIgnorable_toLower (c : Char) : isCaseIgnorable c.toLower = isCaseIgnorable c := by
  rcases mem_capitals_or_toLower_eq c with hmem | heq
  · have hletters : ∀ c ∈ capitals, isAsciiLetter c.toLower ∧ isAsciiLetter c :=
      Chars.forall_of_all (by decide)
    obtain ⟨hsmall, hcapital⟩ := hletters c hmem
    rw [isCaseIgnorable_of_isAsciiLetter hsmall, isCaseIgnorable_of_isAsciiLetter hcapital]
  · rw [heq]

/-- A small form is that of the ASCII small form, too. -/
theorem lowerChar_toLower (c : Char) : lowerChar c.toLower = lowerChar c :=
  eq_of_toLower (Chars.forall_of_all (by decide)) c

theorem toLower_toLower (c : Char) : c.toLower.toLower = c.toLower :=
  eq_of_toLower (f := Char.toLower) (Chars.forall_of_all (by decide)) c

theorem toLower_eq_sigma (c : Char) : decide (c.toLower = 'Σ') = decide (c = 'Σ') :=
  eq_of_toLower (f := fun c => decide (c = 'Σ')) (Chars.forall_of_all (by decide)) c

/-- Whether a letter with case follows does not depend on the case of ASCII letters. -/
theorem meetsCased_map_toLower (s : Chars) : meetsCased (s.map Char.toLower) = meetsCased s := by
  have hignorable : isCaseIgnorable ∘ Char.toLower = isCaseIgnorable :=
    funext isCaseIgnorable_toLower
  rw [meetsCased, meetsCased, List.dropWhile_map, hignorable]
  cases s.dropWhile isCaseIgnorable with
  | nil => rfl
  | cons c rest => exact isCased_toLower c

/-- The small form of a text does not depend on the case of its ASCII letters. Whether a sigma is
    final does not either, as a letter has case in both forms. -/
theorem lowerAfter_map_toLower (passed s : Chars) :
    lowerAfter (passed.map Char.toLower) (s.map Char.toLower) = lowerAfter passed s := by
  induction s generalizing passed with
  | nil => rfl
  | cons c s ih =>
    have hsigma : (c.toLower = 'Σ') = (c = 'Σ') := by simpa using toLower_eq_sigma c
    rw [List.map_cons, lowerAfter, lowerAfter, ← List.map_cons, ih, meetsCased_map_toLower,
      meetsCased_map_toLower, lowerChar_toLower]
    simp only [hsigma]

/-! ## Canonical names -/

/-- An underscore for a space. -/
def underscored (c : Char) : Char :=
  if c = ' ' then '_' else c

/-- Underscores may be put in before or after the letters are made small. -/
theorem underscored_toLower (c : Char) : underscored c.toLower = (underscored c).toLower := by
  rcases mem_capitals_or_toLower_eq c with hmem | heq
  · exact Chars.forall_of_all (P := fun c => underscored c.toLower = (underscored c).toLower)
      (by decide) c hmem
  · rw [heq, underscored]
    split
    · decide
    · exact heq.symm

theorem replace_space (s : Chars) : Chars.replace [' '] ['_'] s = s.map underscored :=
  Chars.replace_singleton ' ' '_' s

def canonicalChars (name : Chars) : Chars :=
  lowerAfter [] ((dropNamespace (Chars.trim name)).map underscored)

/-- A canonical name is made character by character. -/
theorem canonicalName_eq (name : String) :
    canonicalName name = String.ofList (canonicalChars name.toList) := by
  have hspace : Chars.replace " ".toList "_".toList = Chars.replace [' '] ['_'] := rfl
  simp only [canonicalName, Text.lower, Text.replace, Text.onChars, String.toList_ofList, hspace,
    replace_space]
  rfl

/-! ## The namespace -/

theorem templateNamespace_map_toLower :
    templateNamespace.map Char.toLower = templateNamespace := by
  decide

theorem sameIgnoringAsciiCase_templateNamespace {s : Chars} :
    sameIgnoringAsciiCase s templateNamespace = true
      ↔ s.map Char.toLower = templateNamespace := by
  rw [sameIgnoringAsciiCase, beq_iff_eq, templateNamespace_map_toLower]

/-- Whether the text opens with the namespace, in any case. -/
def opensNamespace (s : Chars) : Bool :=
  sameIgnoringAsciiCase (s.take templateNamespace.length) templateNamespace

/-- The namespace is dropped with the blanks after it. -/
theorem dropNamespace_of_opens {s : Chars} (h : opensNamespace s) :
    dropNamespace s = Chars.trimStart (s.drop templateNamespace.length) :=
  if_pos h

theorem dropNamespace_of_not_opens {s : Chars} (h : opensNamespace s = false) :
    dropNamespace s = s :=
  if_neg (Bool.eq_false_iff.mp h)

theorem opensNamespace_map_toLower (s : Chars) :
    opensNamespace (s.map Char.toLower) = opensNamespace s := by
  have hlower : Char.toLower ∘ Char.toLower = Char.toLower := funext toLower_toLower
  rw [opensNamespace, opensNamespace, sameIgnoringAsciiCase, sameIgnoringAsciiCase, ← List.map_take,
    List.map_map, hlower]

theorem trimStart_map_toLower (s : Chars) :
    Chars.trimStart (s.map Char.toLower) = (Chars.trimStart s).map Char.toLower := by
  have hblank : isBlank ∘ Char.toLower = isBlank := funext isBlank_toLower
  rw [Chars.trimStart, Chars.trimStart, List.dropWhile_map, hblank]

theorem dropNamespace_map_toLower (s : Chars) :
    dropNamespace (s.map Char.toLower) = (dropNamespace s).map Char.toLower := by
  cases hopens : opensNamespace s with
  | true =>
    rw [dropNamespace_of_opens (by rw [opensNamespace_map_toLower, hopens]),
      dropNamespace_of_opens hopens, ← List.map_drop, trimStart_map_toLower]
  | false =>
    rw [dropNamespace_of_not_opens (by rw [opensNamespace_map_toLower, hopens]),
      dropNamespace_of_not_opens hopens]

/-- The canonical name does not depend on the case of ASCII letters. -/
theorem canonicalChars_map_toLower (name : Chars) :
    canonicalChars (name.map Char.toLower) = canonicalChars name := by
  have hspaces : underscored ∘ Char.toLower = Char.toLower ∘ underscored :=
    funext underscored_toLower
  rw [canonicalChars, canonicalChars, Chars.trim_map isBlank_toLower, dropNamespace_map_toLower,
    List.map_map, hspaces, ← List.map_map]
  exact lowerAfter_map_toLower [] _

/-! ## Underscores for spaces -/

/-- A character, or an underscore for a space. -/
inductive UnderscoreFor : Char → Char → Prop where
  | same (c : Char) : UnderscoreFor c c
  | space : UnderscoreFor ' ' '_'

section

variable {s s' : Chars}

theorem map_underscored_eq (h : List.Forall₂ UnderscoreFor s s') :
    s'.map underscored = s.map underscored := by
  induction h with
  | nil => rfl
  | cons hchar _ ih =>
    cases hchar with
    | same c => rw [List.map_cons, List.map_cons, ih]
    | space =>
      rw [List.map_cons, List.map_cons, ih]
      rfl

/-- Without underscores nothing has been replaced. -/
theorem eq_of_underscore_not_mem (h : List.Forall₂ UnderscoreFor s s') (hmem : '_' ∉ s') :
    s = s' := by
  induction h with
  | nil => rfl
  | cons hchar _ ih =>
    simp only [List.mem_cons, not_or] at hmem
    obtain ⟨hne, hrest⟩ := hmem
    cases hchar with
    | same c => rw [ih hrest]
    | space => exact absurd rfl hne

theorem opensNamespace_of_underscores (h : List.Forall₂ UnderscoreFor s s')
    (hopens : opensNamespace s') : opensNamespace s := by
  have hsame : (s'.take templateNamespace.length).map Char.toLower = templateNamespace :=
    sameIgnoringAsciiCase_templateNamespace.mp hopens
  have hmem : '_' ∉ s'.take templateNamespace.length := by
    intro hmem
    have hlower : Char.toLower '_' ∈ templateNamespace :=
      hsame ▸ List.mem_map_of_mem hmem
    exact absurd hlower (by decide)
  have htake := List.forall₂_take templateNamespace.length h
  rw [opensNamespace, eq_of_underscore_not_mem htake hmem]
  exact hopens

/-- An underscore in place of a space is not dropped, and what was not dropped stays. -/
theorem dropWhile_underscores (h : List.Forall₂ UnderscoreFor s s')
    (hstart : s.dropWhile isBlank = s) : s'.dropWhile isBlank = s' := by
  cases h with
  | nil => rfl
  | cons hchar _ =>
    refine List.dropWhile_cons_of_neg ?_
    cases hchar with
    | same c => exact List.dropWhile_eq_self_iff.mp hstart (Nat.zero_lt_succ _)
    | space => decide

theorem trim_underscores (h : List.Forall₂ UnderscoreFor s s') (htrim : Chars.trim s = s) :
    Chars.trim s' = s' := by
  obtain ⟨hstart, hend⟩ := Chars.ends_of_trim htrim
  have hstart' := dropWhile_underscores h hstart
  have hend' : s'.reverse.dropWhile isBlank = s'.reverse := by
    refine dropWhile_underscores (List.forall₂_reverse_iff.mpr h) ?_
    rw [← List.reverse_inj, List.reverse_reverse]
    exact hend
  rw [Chars.trim_eq_rdropWhile, hstart', List.rdropWhile, hend', List.reverse_reverse]

/-- Underscores may stand for the spaces inside a name without the namespace. -/
theorem canonicalChars_underscores (h : List.Forall₂ UnderscoreFor s s')
    (htrim : Chars.trim s = s) (hopens : opensNamespace s = false) :
    canonicalChars s' = canonicalChars s := by
  have hopens' : opensNamespace s' = false := by
    cases hs' : opensNamespace s' with
    | false => rfl
    | true => rw [← hopens, opensNamespace_of_underscores h hs']
  rw [canonicalChars, canonicalChars, trim_underscores h htrim, htrim,
    dropNamespace_of_not_opens hopens', dropNamespace_of_not_opens hopens, map_underscored_eq h]

end

/-! ## Spellings -/

/-- Whether the name, without the blanks around it, opens with the namespace. -/
def inNamespace (name : Chars) : Bool :=
  opensNamespace (Chars.trim name)

/-- The ways to write a name, one change after the other. What follows the namespace is the name,
    and not a spelling of its own: there, a space is not the same as an underscore, and a second
    namespace belongs to the name. -/
inductive Respelled (name : Chars) : Chars → Prop where
  | self : Respelled name name
  | blanks {before s after : Chars} :
      Respelled name s → (∀ c ∈ before, isBlank c) → (∀ c ∈ after, isBlank c) →
      Respelled name (before ++ s ++ after)
  | letterCase {s s' : Chars} :
      Respelled name s → s'.map Char.toLower = s.map Char.toLower → Respelled name s'
  | underscores {before inner inner' after : Chars} :
      Respelled name (before ++ inner ++ after) → (∀ c ∈ before, isBlank c) →
      (∀ c ∈ after, isBlank c) → Chars.trim inner = inner → inNamespace inner = false →
      List.Forall₂ UnderscoreFor inner inner' → Respelled name (before ++ inner' ++ after)
  | namespaced {opening gap s : Chars} :
      Respelled name s → inNamespace s = false →
      sameIgnoringAsciiCase opening templateNamespace → (∀ c ∈ gap, isBlank c) →
      Respelled name (opening ++ gap ++ s)

section

variable {before s after : Chars}

theorem canonicalChars_blanks (hbefore : ∀ c ∈ before, isBlank c)
    (hafter : ∀ c ∈ after, isBlank c) :
    canonicalChars (before ++ s ++ after) = canonicalChars s := by
  rw [canonicalChars, Chars.trim_append_of_blank hafter, Chars.trim_blank_append hbefore,
    ← canonicalChars]

theorem canonicalChars_of_map_toLower {s s' : Chars}
    (h : s'.map Char.toLower = s.map Char.toLower) : canonicalChars s' = canonicalChars s := by
  rw [← canonicalChars_map_toLower, h, canonicalChars_map_toLower]

/-- The namespace in small letters is dropped with the blanks after it. -/
theorem canonicalChars_templateNamespace (h : inNamespace s = false) :
    canonicalChars (templateNamespace ++ s) = canonicalChars s := by
  have hstart : ∀ rest, (templateNamespace ++ rest).dropWhile isBlank = templateNamespace ++ rest :=
    fun rest => List.dropWhile_cons_of_neg (by decide)
  have hend : templateNamespace.rdropWhile isBlank = templateNamespace := by decide
  have htrim : Chars.trim (templateNamespace ++ s) = templateNamespace ++ s.rdropWhile isBlank := by
    rw [Chars.trim_eq_rdropWhile, hstart, Chars.rdropWhile_append, hend]
    split
    · next hnil => rw [hnil, List.append_nil]
    · rfl
  have hopens : opensNamespace (templateNamespace ++ s.rdropWhile isBlank) := by
    rw [opensNamespace, List.take_left, sameIgnoringAsciiCase, beq_self_eq_true]
  have hdrop : dropNamespace (Chars.trim (templateNamespace ++ s)) = Chars.trim s := by
    rw [htrim, dropNamespace_of_opens hopens, List.drop_left, Chars.trimStart,
      Chars.dropWhile_rdropWhile_comm, Chars.trim_eq_rdropWhile]
  rw [canonicalChars, hdrop, canonicalChars, dropNamespace_of_not_opens h]

theorem inNamespace_map_toLower (s : Chars) : inNamespace (s.map Char.toLower) = inNamespace s := by
  rw [inNamespace, Chars.trim_map isBlank_toLower, opensNamespace_map_toLower, ← inNamespace]

theorem canonicalChars_namespaced {opening gap : Chars} (h : inNamespace s = false)
    (hopening : sameIgnoringAsciiCase opening templateNamespace)
    (hgap : ∀ c ∈ gap, isBlank c) : canonicalChars (opening ++ gap ++ s) = canonicalChars s := by
  have hlower : opening.map Char.toLower = templateNamespace :=
    sameIgnoringAsciiCase_templateNamespace.mp hopening
  have hname : inNamespace (gap ++ s) = false := by
    rwa [inNamespace, Chars.trim_blank_append hgap]
  rw [← canonicalChars_map_toLower, List.append_assoc, List.map_append, hlower,
    canonicalChars_templateNamespace (by rw [inNamespace_map_toLower, hname]),
    canonicalChars_map_toLower, canonicalChars, Chars.trim_blank_append hgap, ← canonicalChars]

end

/-- All spellings of a name have its canonical form. -/
theorem Respelled.canonicalChars_eq {name written : Chars} (h : Respelled name written) :
    canonicalChars written = canonicalChars name := by
  induction h with
  | self => rfl
  | blanks _ hbefore hafter ih => rw [canonicalChars_blanks hbefore hafter, ih]
  | letterCase _ hcase ih => rw [canonicalChars_of_map_toLower hcase, ih]
  | @underscores before inner inner' after _ hbefore hafter htrim hname hunderscores ih =>
    rw [canonicalChars_blanks hbefore hafter] at ih ⊢
    rw [inNamespace, htrim] at hname
    rw [canonicalChars_underscores hunderscores htrim hname, ih]
  | namespaced _ hname hopening hgap ih => rw [canonicalChars_namespaced hname hopening hgap, ih]

theorem Respelled.canonicalName_eq {name written : String}
    (h : Respelled name.toList written.toList) : canonicalName written = canonicalName name := by
  rw [GenreProse.canonicalName_eq, GenreProse.canonicalName_eq, h.canonicalChars_eq]

end GenreProse
