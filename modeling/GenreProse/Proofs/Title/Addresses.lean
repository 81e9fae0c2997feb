-- SUMMARY: Different titles have different addresses, and an address has no marks but its own.
import GenreProse.Proofs.Text.Percent
import GenreProse.Proofs.Title.Names

/-!
# Addresses of titles

Spaces become underscores in an address, and nothing is lost by that, because no title has an
underscore. The rest is percent-encoded, so that the only number sign of an address is the one
before the section. The title can thus be read back from its address.
-/

namespace GenreProse

open Chars

namespace Title

variable {c : Char} {s : Chars} {title title' : Title}

/-! ## Underscores -/

/-- A title with no underscore in its name and none in its section. -/
structure HasNoUnderscore (title : Title) : Prop where
  name : '_' ∉ title.name.toList
  fragment : ∀ fragment ∈ title.fragment, '_' ∉ fragment.toList

theorem IsSpaced.eq_space (h : IsSpaced s) (hmem : c ∈ s) (hc : isTrimmed c) : c = ' ' := by
  obtain ⟨before, after, hsplit⟩ := List.append_of_mem hmem
  exact (h.between before c after hsplit hc).1

/-- The only trimmed characters in a normal form are spaces. -/
theorem eq_space_of_mem_tidy (hmem : c ∈ tidy s) (hc : isTrimmed c) : c = ' ' := by
  rcases isSpaced_tidy_or s with ⟨hspaced, -⟩ | ⟨-, rest, htidy, hspaced⟩
  · exact hspaced.eq_space hmem hc
  · rw [htidy] at hmem
    rcases List.mem_cons.1 hmem with rfl | hrest
    · rfl
    · exact hspaced.eq_space hrest hc

/-- No underscore is left in a normal text. -/
theorem underscore_not_mem_normalize (text : String) : '_' ∉ (normalize text).toList := by
  intro hmem
  rw [toList_normalize] at hmem
  exact absurd (eq_space_of_mem_tidy hmem (by decide)) (by decide)

/-- No character has an underscore in its capital form. -/
theorem underscore_not_mem_capitalize {text : String} (h : '_' ∉ text.toList) :
    '_' ∉ (Text.capitalize text).toList := by
  unfold Text.capitalize
  cases htext : text.toList with
  | nil => simp
  | cons c rest =>
    rw [htext] at h
    obtain ⟨hfirst, hrest⟩ := List.ne_and_not_mem_of_not_mem_cons h
    rw [String.toList_ofList, List.mem_append, not_or]
    refine ⟨fun hmem => ?_, hrest⟩
    rcases upperChar_cases trimmedSpans_withoutCapitals c with heq | ⟨-, -, hcapital⟩
    · rw [heq] at hmem
      exact hfirst (List.mem_singleton.1 hmem)
    · exact hcapital '_' hmem (by decide)

/-- No underscore is left in a title. -/
theorem hasNoUnderscore_ofTarget (target : String) : (ofTarget target).HasNoUnderscore := by
  have hname := underscore_not_mem_capitalize (underscore_not_mem_normalize (pagePart target))
  rw [ofTarget_eq]
  refine ⟨by simpa only using hname, fun fragment hfragment => ?_⟩
  obtain ⟨hmap, -⟩ := Option.filter_eq_some_iff.1 hfragment
  obtain ⟨part, -, rfl⟩ := Option.map_eq_some_iff.1 hmap
  exact underscore_not_mem_normalize part

/-! ## Parts of an address -/

/-- The text that a part of an address is written for. -/
def decodePart? (part : String) : Option String :=
  (Percent.decode? part).map fun text => Text.replace text "_" " "

/-- A part of an address is read back, if it has no underscores. -/
theorem decodePart?_encodePart {text : String} (h : '_' ∉ text.toList) :
    decodePart? (encodePart text) = some text := by
  have hback : ∀ c ∈ text.toList, ((fun c => if c = '_' then ' ' else c) ∘
      fun c => if c = ' ' then '_' else c) c = c := by
    intro c hc
    have hunderscore : c ≠ '_' := fun heq => h (heq ▸ hc)
    by_cases hspace : c = ' ' <;> simp [hspace, hunderscore]
  rw [decodePart?, encodePart, Percent.decode?_encode, Option.map_some]
  simp [Text.replace, Text.onChars, replace_singleton, List.map_congr_left hback]

/-! ## Whole addresses -/

/-- The article path of a wiki, which ends with a slash. -/
def pathOf (base : String) : String :=
  if Text.closesWith base "/" then base else base ++ "/"

def page (title : Title) : String :=
  match title.fragment with
  | some fragment => encodePart title.name ++ "#" ++ encodePart fragment
  | none => encodePart title.name

/-- An address is the path with the page after it. -/
theorem url_eq (title : Title) (base : String) : title.url base = pathOf base ++ title.page := by
  unfold url page pathOf
  cases title.fragment <;> split <;> simp only [String.append_assoc]

/-- The title with an address on the wiki with the given article path. -/
def ofAddress? (base address : String) : Option Title :=
  (Text.after? address (pathOf base)).bind fun page =>
    match cutAt? (· == '#') page.toList with
    | some (name, fragment) =>
      (decodePart? (String.ofList name)).bind fun name =>
        (decodePart? (String.ofList fragment)).map fun fragment => ⟨name, some fragment⟩
    | none => (decodePart? page).map fun name => ⟨name, none⟩

/-- The fragment starts at the first `#`. -/
theorem cutAt?_page (title : Title) : cutAt? (· == '#') title.page.toList =
    title.fragment.map fun fragment =>
      ((encodePart title.name).toList, (encodePart fragment).toList) := by
  have hname : ∀ c ∈ (encodePart title.name).toList, (c == '#') = false := by
    intro c hc
    rw [beq_eq_false_iff_ne]
    rintro rfl
    exact Percent.not_mem_encode (by decide) (by decide) _ hc
  unfold page
  cases title.fragment with
  | none => exact cutAt?_eq_none hname
  | some fragment =>
    rw [String.toList_append, String.toList_append, List.append_assoc]
    exact cutAt?_first hname rfl

/-- A title without underscores is read back from its address. -/
theorem ofAddress?_url (h : title.HasNoUnderscore) (base : String) :
    ofAddress? base (title.url base) = some title := by
  have hafter : Text.after? (title.url base) (pathOf base) = some title.page := by
    rw [Text.after?, url_eq, String.toList_append, after?_eq_some_iff.2 rfl, Option.map_some,
      String.ofList_toList]
  have hname := decodePart?_encodePart h.name
  rw [ofAddress?, hafter, Option.bind_some, cutAt?_page]
  obtain ⟨name, fragment?⟩ := title
  cases fragment? with
  | none => simp [page, hname]
  | some fragment =>
    have hfragment := decodePart?_encodePart (h.fragment fragment rfl)
    simp [hname, hfragment]

/-- The number sign before the section is the only one. -/
theorem count_hash_page (title : Title) :
    title.page.toList.count '#' = if title.fragment.isSome then 1 else 0 := by
  have hpart (part : String) : (encodePart part).toList.count '#' = 0 :=
    List.count_eq_zero.2 (Percent.not_mem_encode (by decide) (by decide) _)
  unfold page
  cases title.fragment <;> simp [hpart]

/-- Titles with and without a section have different addresses. -/
theorem url_ne_of_fragment (hsection : title.fragment.isSome) (hnone : title'.fragment = none)
    (base : String) : title.url base ≠ title'.url base := by
  intro heq
  rw [url_eq, url_eq, String.append_right_inj] at heq
  have hcount := count_hash_page title
  rw [heq, count_hash_page, hsection, hnone] at hcount
  cases hcount

/-- A page holds only what encoding leaves. -/
theorem not_mem_page (hplain : Percent.isPlain c = false) (hpercent : c ≠ '%') (hhash : c ≠ '#')
    (title : Title) : c ∉ title.page.toList := by
  have hpart (part : String) : c ∉ (encodePart part).toList :=
    Percent.not_mem_encode hplain hpercent _
  unfold page
  cases title.fragment <;> simp [hpart, hhash]

/-- Different titles have different addresses. What follows the article path has no character that
    would end the address or start a query, and a number sign only before a section. -/
theorem url_ofTarget_inj (base : String) :
    (∀ a b, (ofTarget a).url base = (ofTarget b).url base ↔ ofTarget a = ofTarget b) ∧
    ∀ target, ∃ page, (ofTarget target).url base = pathOf base ++ page ∧
      (∀ c ∈ ['?', '"', '<', '>', '&', ' '], c ∉ page.toList) ∧
      page.toList.count '#' = if (ofTarget target).fragment.isSome then 1 else 0 := by
  refine ⟨fun a b => ⟨fun heq => ?_, fun heq => by rw [heq]⟩, fun target => ?_⟩
  · have hread := congrArg (ofAddress? base) heq
    rwa [ofAddress?_url (hasNoUnderscore_ofTarget a), ofAddress?_url (hasNoUnderscore_ofTarget b),
      Option.some.injEq] at hread
  · have hmarks : ∀ c ∈ ['?', '"', '<', '>', '&', ' '],
        Percent.isPlain c = false ∧ c ≠ '%' ∧ c ≠ '#' := forall_of_all (by decide)
    refine ⟨_, url_eq _ _, fun c hc => ?_, count_hash_page _⟩
    obtain ⟨hplain, hpercent, hhash⟩ := hmarks c hc
    exact not_mem_page hplain hpercent hhash _

end Title

end GenreProse
