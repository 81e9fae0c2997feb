-- SUMMARY: Link targets with numeric references are cut at the references before these are read.
import GenreProse.Context
import GenreProse.Proofs.Text.References
import GenreProse.Proofs.Title.Addresses
import GenreProse.Proofs.Title.Gaps

/-!
# Link targets with references

The normal form reads references. A link target is cut at its first number sign before that, and a
numeric reference has a number sign: the page name ends with the `&` of the first reference, and the
rest becomes a section. So a target with references never has the title that it has without them.
-/

namespace GenreProse

open Chars

namespace Title

variable {c : Char} {front digits rest : Chars} {s t target : String}

/-! ## Cutting -/

theorem ne_hash_of_not_mem {s : Chars} (h : '#' ∉ s) : ∀ c ∈ s, (c == '#') = false := by
  intro c hc
  rw [beq_eq_false_iff_ne]
  rintro rfl
  exact h hc

/-- Without `#` the whole target is the name. -/
theorem partsOf_plain (h : '#' ∉ target.toList) :
    partsOf target = (target.toList.dropWhile (· == ':'), none) := by
  have hdropped : '#' ∉ target.toList.dropWhile (· == ':') :=
    fun hmem => h (List.dropWhile_subset _ hmem)
  rw [partsOf, cutAt?_eq_none (ne_hash_of_not_mem hdropped)]

/-- The page name ends with the `&` of the first reference, and the section starts with its
    digits. -/
theorem partsOf_reference (htarget : target.toList = front ++ '&' :: '#' :: rest)
    (hfront : '#' ∉ front) :
    partsOf target = (front.dropWhile (· == ':') ++ ['&'], some rest) := by
  -- Colons are dropped from the front only, because the reference does not start with one.
  have hdropped : (front ++ '&' :: '#' :: rest).dropWhile (· == ':') =
      (front.dropWhile (· == ':') ++ ['&']) ++ '#' :: rest := by
    rw [List.dropWhile_append]
    split
    · next hempty => simp [List.isEmpty_iff.1 hempty]
    · simp
  have hpage : '#' ∉ front.dropWhile (· == ':') ++ ['&'] := by
    have hstart : '#' ∉ front.dropWhile (· == ':') := fun h => hfront (List.dropWhile_subset _ h)
    simp [hstart]
  rw [partsOf, htarget, hdropped]
  simp only [cutAt?_first (ne_hash_of_not_mem hpage) (beq_self_eq_true '#')]

/-! ## Sections -/

/-- Without `#` there is no section. -/
theorem fragment_plain (h : '#' ∉ target.toList) : (ofTarget target).fragment = none := by
  rw [ofTarget_eq, sectionPart?, partsOf_plain h]
  rfl

/-- What starts with digits and a semicolon has a normal form that is not empty. -/
theorem normalize_ne_empty (hdigits : ∀ d ∈ digits, Entity.isNameChar d) (rest : Chars) :
    normalize (String.ofList (digits ++ ';' :: rest)) ≠ "" := by
  -- The semicolon is not part of a reference here, composes with nothing and is not trimmed.
  have hdecode : (Entity.decode (String.ofList (digits ++ ';' :: rest))).toList =
      digits ++ ';' :: Entity.decodeFrom 0 rest := by
    have hamp : '&' ∉ digits := fun hmem => absurd (hdigits _ hmem) (by decide)
    rw [Entity.decode, Text.onChars, String.toList_ofList, String.toList_ofList,
      Entity.decodeFrom_append hamp, Entity.decodeFrom, if_neg (by decide)]
  have hmem : ';' ∈ composed (String.ofList (digits ++ ';' :: rest)) := by
    rw [composed, hdecode]
    exact mem_compose (standsApart (by decide)) (by simp)
  obtain ⟨before, after, hsplit⟩ := List.append_of_mem hmem
  obtain ⟨shown, htidy, -⟩ := exists_tidy_append (by decide : isTrimmed ';' = false) before after
  rw [Ne, ← String.toList_inj, toList_normalize, hsplit, htidy]
  simp

/-- The title of a target with a reference: the page name is cut after the `&`, and there is a
    section. -/
theorem ofTarget_reference
    (htarget : target.toList = front ++ '&' :: '#' :: (digits ++ ';' :: rest))
    (hfront : '#' ∉ front) (hdigits : ∀ d ∈ digits, Entity.isNameChar d) :
    ofTarget target =
      { name := Text.capitalize (normalize (String.ofList (front.dropWhile (· == ':') ++ ['&'])))
        fragment := some (normalize (String.ofList (digits ++ ';' :: rest))) } := by
  have hshown := bne_iff_ne.2 (normalize_ne_empty hdigits rest)
  rw [ofTarget_eq, pagePart, sectionPart?, partsOf_reference htarget hfront]
  simp only [Option.map_some, Option.filter_some, hshown, if_true]

/-! ## Titles and links -/

/-- A target with references has a section, and the target that it is written for has none. -/
theorem eq_or_fragment_isSome (h : Entity.Respelled s.toList t.toList) (hhash : '#' ∉ s.toList) :
    t = s ∨ (ofTarget t).fragment.isSome := by
  rcases h.eq_or_exists_reference with heq | ⟨front, digits, rest, htarget, hfront, hdigits⟩
  · exact .inl (String.toList_inj.1 heq)
  · right
    rw [ofTarget_reference htarget (fun hmem => hhash (hfront.subset hmem)) hdigits]
    rfl

/-- References make no difference to a normal text. -/
theorem normalize_respelled (h : Entity.Respelled s.toList t.toList) (hamp : '&' ∉ s.toList)
    (hs : ∀ c ∈ s.toList, Entity.IsReferable c) : normalize t = normalize s := by
  have hdecode : Entity.decode t = Entity.decode s := by
    rw [Entity.decode, Entity.decode, Text.onChars, Text.onChars, h.decodeFrom_eq hamp hs,
      Entity.decodeFrom_eq_self hamp]
  rw [normalize, normalize, hdecode]

/-- The normal form of a text stays the same if some of its characters are written as references,
    but the title of a link target is another, and so is its address. A link stays the same only
    if both titles happen to be those of one genre. -/
theorem ofTarget_respelled_iff (h : Entity.Respelled s.toList t.toList) (hhash : '#' ∉ s.toList)
    (hamp : '&' ∉ s.toList) :
    ((∀ c ∈ s.toList, Entity.IsReferable c) → normalize t = normalize s) ∧
    (ofTarget t = ofTarget s ↔ t = s) ∧
    (∀ base, (ofTarget t).url base = (ofTarget s).url base ↔ t = s) ∧
    ∀ (context : Context) (text : String), text ≠ "" →
      (context.link t text = context.link s text ↔ t = s ∨
        ∃ genre, context.genres (ofTarget t).name = some genre ∧
          context.genres (ofTarget s).name = some genre) := by
  have hnone := fragment_plain hhash
  refine ⟨normalize_respelled h hamp, ⟨fun heq => ?_, congrArg ofTarget⟩,
    fun base => ⟨fun heq => ?_, fun heq => by rw [heq]⟩, fun context text htext => ?_⟩
  · refine (eq_or_fragment_isSome h hhash).resolve_right fun hsection => ?_
    rw [heq, hnone] at hsection
    cases hsection
  · exact (eq_or_fragment_isSome h hhash).resolve_right
      fun hsection => url_ne_of_fragment hsection hnone base heq
  · rcases eq_or_fragment_isSome h hhash with rfl | hsection
    · simp
    · have hurl := url_ne_of_fragment hsection hnone context.articlePath
      have hne : t ≠ s := fun heq => hurl (by rw [heq])
      simp only [Context.link, if_neg htext, hne, false_or]
      cases context.genres (ofTarget t).name with
      | none => cases context.genres (ofTarget s).name <;> simp [hurl]
      | some genre =>
        cases context.genres (ofTarget s).name with
        | none => simp
        | some genre' => simp [eq_comm]

/-- The apostrophe is written in decimal digits and a letter in hexadecimal ones. -/
theorem ofTarget_respelled_roses :
    Entity.Respelled "Guns N' Roses".toList "Guns N&#39; &#x52;oses".toList ∧
    '#' ∉ "Guns N' Roses".toList ∧ '&' ∉ "Guns N' Roses".toList ∧
    (∀ c ∈ "Guns N' Roses".toList, Entity.IsReferable c) ∧
    normalize "Guns N&#39; &#x52;oses" = normalize "Guns N' Roses" ∧
    ofTarget "Guns N&#39; &#x52;oses" ≠ ofTarget "Guns N' Roses" := by
  have hrespelled : Entity.Respelled "Guns N' Roses".toList "Guns N&#39; &#x52;oses".toList :=
    .plain _ <| .plain _ <| .plain _ <| .plain _ <| .plain _ <| .plain _ <|
    .reference (.decimal "39".toList (by decide)) <| .plain _ <|
    .reference (.hexadecimal 'x' "52".toList (.inl rfl) (by decide)) <|
    .plain _ <| .plain _ <| .plain _ <| .plain _ .nil
  have hreferable : ∀ c ∈ "Guns N' Roses".toList, Entity.IsReferable c := forall_of_all (by decide)
  have hboth := ofTarget_respelled_iff hrespelled (by decide) (by decide)
  exact ⟨hrespelled, by decide, by decide, hreferable, hboth.1 hreferable,
    fun heq => absurd (hboth.2.1.1 heq) (by decide)⟩

/-- The apostrophe is written as a reference, and the target is cut at the reference. -/
theorem ofTarget_cuts_reference :
    Entity.Respelled "Guns N' Roses".toList "Guns N&#39; Roses".toList ∧
    ofTarget "Guns N' Roses" = { name := "Guns N' Roses", fragment := none } ∧
    ofTarget "Guns N&#39; Roses" = { name := "Guns N&", fragment := some "39; Roses" } := by
  refine ⟨?_, by decide +kernel, by decide +kernel⟩
  exact .plain _ <| .plain _ <| .plain _ <| .plain _ <| .plain _ <| .plain _ <|
    .reference (.decimal "39".toList (by decide)) <| .plain _ <| .plain _ <| .plain _ <|
    .plain _ <| .plain _ <| .plain _ .nil

end Title

end GenreProse
