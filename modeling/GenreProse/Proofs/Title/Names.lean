-- SUMMARY: The page name and the section of every link target have single spaces between words.
import GenreProse.Proofs.Text.CaseMaps
import GenreProse.Proofs.Title.Spacing

/-!
# Page names and sections

A link target is cut at its first number sign, and both parts get their normal form, the first with
a capital. The capital is no space, so that the spacing of a name is that of its normal form.
-/

namespace GenreProse

open Chars

namespace Title

/-! ## Capitals -/

/-- The code points of the characters that are trimmed. -/
def trimmedSpans : List Span :=
  [⟨0x9, 0xD⟩, ⟨0x20, 0x20⟩, ⟨0x5F, 0x5F⟩, ⟨0x85, 0x85⟩, ⟨0xA0, 0xA0⟩, ⟨0x1680, 0x1680⟩,
    ⟨0x2000, 0x200A⟩, ⟨0x200E, 0x200F⟩, ⟨0x2028, 0x202F⟩, ⟨0x205F, 0x205F⟩, ⟨0x3000, 0x3000⟩]

theorem isDirectionMark_iff (c : Char) : isDirectionMark c ↔
    (0x200E ≤ c.toNat ∧ c.toNat ≤ 0x200F) ∨ (0x202A ≤ c.toNat ∧ c.toNat ≤ 0x202E) := by
  simp [isDirectionMark, Char.le_def, UInt32.le_iff_toNat_le]

theorem isTrimmed_iff (c : Char) : isTrimmed c ↔ Span.any trimmedSpans c.toNat := by
  have hunderscore : c = '_' ↔ c.toNat = 0x5F := Char.toNat_inj.symm
  simp only [isTrimmed, Bool.or_eq_true, isDirectionMark_iff, isSeparator, isBlank, beq_iff_eq,
    hunderscore, Bool.and_eq_true, decide_eq_true_eq, trimmedSpans, Span.any_cons, Span.any_nil,
    Bool.false_eq_true, or_false]
  omega

/-- What is trimmed has no case. -/
theorem trimmedSpans_withoutCapitals : Span.WithoutCapitals trimmedSpans where
  letters := Chars.forall_of_all (by decide)
  shifts := by decide +kernel
  expansions := by decide +kernel

/-- Shown characters may stand for another one at the start of a text. -/
theorem isSpaced_append_iff {c : Char} {front s : Chars} (hc : isTrimmed c = false)
    (hne : front ≠ []) (hfront : ∀ d ∈ front, isTrimmed d = false) :
    IsSpaced (front ++ s) ↔ IsSpaced (c :: s) := by
  induction front with
  | nil => exact absurd rfl hne
  | cons d front ih =>
    obtain ⟨hd, hmore⟩ := List.forall_mem_cons.1 hfront
    cases front with
    | nil => rw [List.singleton_append, isSpaced_cons_iff hd, isSpaced_cons_iff hc]
    | cons e front =>
      rw [← ih (List.cons_ne_nil _ _) hmore, List.cons_append, isSpaced_cons_iff hd]
      constructor
      -- All of these characters are shown, so that none of them is the space.
      · rintro (h | ⟨rest, hspace, -⟩)
        · exact h
        · obtain ⟨rfl, -⟩ := List.cons_eq_cons.1 hspace
          cases hmore ' ' List.mem_cons_self
      · exact .inl

/-- A capital at the start makes no difference to the spacing. -/
theorem isSpaced_capitalize (s : String) :
    IsSpaced (Text.capitalize s).toList ↔ IsSpaced s.toList := by
  unfold Text.capitalize
  cases s.toList with
  | nil => exact Iff.rfl
  | cons c rest =>
    rw [String.toList_ofList]
    rcases upperChar_cases trimmedSpans_withoutCapitals c with heq | ⟨hc, hne, hcapital⟩
    · rw [heq, List.singleton_append]
    · simp only [← isTrimmed_iff, Bool.not_eq_true] at hc hcapital
      exact isSpaced_append_iff hc hne hcapital

/-! ## Parts of a target -/

/-- The text of the page name and of the section in a link target. -/
def partsOf (target : String) : Chars × Option Chars :=
  let target := target.toList.dropWhile (· == ':')
  match cutAt? (· == '#') target with
  | some (page, part) => (page, some part)
  | none => (target, none)

/-- The text of the page name in a link target. -/
def pagePart (target : String) : String :=
  String.ofList (partsOf target).1

/-- The text of the section in a link target, if it has one. -/
def sectionPart? (target : String) : Option String :=
  (partsOf target).2.map String.ofList

/-- The parts of a title are made from the parts of the target. -/
theorem ofTarget_eq (target : String) : ofTarget target =
    { name := Text.capitalize (normalize (pagePart target))
      fragment := ((sectionPart? target).map normalize).filter (· != "") } := by
  unfold ofTarget pagePart sectionPart? partsOf
  dsimp only
  cases cutAt? (· == '#') (target.toList.dropWhile (· == ':')) <;> rfl

/-! ## Spacing -/

/-- A normal text has single spaces inside, unless a space is kept. -/
theorem isSpaced_normalize_iff (text : String) :
    IsSpaced (normalize text).toList ↔ ¬KeepsSpace (composed text) := by
  rw [toList_normalize, isSpaced_tidy_iff]

/-- The section of a title is spaced if its text does not keep a space; one that is left out has
    kept none. -/
theorem isSpaced_fragment_iff (part? : Option String) :
    (∀ fragment ∈ (part?.map normalize).filter (· != ""), IsSpaced fragment.toList) ↔
      ∀ part ∈ part?, ¬KeepsSpace (composed part) := by
  cases part? with
  | none => simp
  | some part =>
    simp only [Option.map_some, Option.mem_def, Option.filter_eq_some_iff, Option.some.injEq,
      forall_eq', bne_iff_ne, and_imp, ← isSpaced_normalize_iff]
    constructor
    · intro h
      by_cases hempty : normalize part = ""
      · rw [hempty]
        exact isSpaced_nil
      · exact h hempty
    · exact fun h _ => h

/-- Whether a normal form is spaced as it should be depends on its first space alone, and the same
    holds for the name and the section of a title. -/
theorem isSpaced_ofTarget_iff (text target : String) :
    (IsSpaced ((normalize text).toList.dropWhile isTrimmed) ∧
      (IsSpaced (normalize text).toList ↔ ¬KeepsSpace (composed text))) ∧
    (IsSpaced (ofTarget target).name.toList ↔ ¬KeepsSpace (composed (pagePart target))) ∧
    ((∀ fragment ∈ (ofTarget target).fragment, IsSpaced fragment.toList) ↔
      ∀ part ∈ sectionPart? target, ¬KeepsSpace (composed part)) := by
  refine ⟨⟨?_, isSpaced_normalize_iff text⟩, ?_, ?_⟩
  · rw [toList_normalize]
    exact isSpaced_dropWhile_tidy _
  · rw [ofTarget_eq, isSpaced_capitalize, isSpaced_normalize_iff]
  · rw [ofTarget_eq]
    exact isSpaced_fragment_iff _

/-- The space at the start stays because the run after the first word is replaced. -/
theorem normalize_keeps_opening_space :
    normalize " A__b" = " A b" ∧ (ofTarget " A__b").name = " A b" ∧
      ¬IsSpaced (normalize " A__b").toList ∧ ¬IsSpaced (ofTarget " A__b").name.toList := by
  have hnormal : normalize " A__b" = " A b" := by decide +kernel
  have hname : (ofTarget " A__b").name = " A b" := by decide +kernel
  have hspaced : ¬IsSpaced " A b".toList := not_isSpaced_cons isTrimmed_space
  rw [hnormal, hname]
  exact ⟨rfl, rfl, hspaced, hspaced⟩

end Title

end GenreProse
