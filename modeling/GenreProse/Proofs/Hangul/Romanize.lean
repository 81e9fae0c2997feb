-- SUMMARY: What has been romanized stays as it is in every system.
import GenreProse.Hangul.Romanize
import GenreProse.Proofs.Text.Bytes
import GenreProse.Proofs.Text.CaseMaps

/-!
# Romanized text

Both systems know the same syllables. Their Latin letters are neither syllables nor control signs,
and a capital form is one of these only if it is the character itself. So nothing in a romanized
text can be romanized again: it has no control signs and no syllables but those that are unknown in
both systems.
-/

namespace GenreProse

namespace Hangul

/-! ## Tables -/

/-- The code points of the control signs and of all syllables of Hangul. -/
def sourceSpans : List Span :=
  [⟨0x2D, 0x2D⟩, ⟨0x5E, 0x5E⟩, ⟨0xAC00, 0xD7A3⟩]

/-- The first bytes of the characters in `sourceSpans`. -/
def sourceBytes : List UInt8 :=
  [0x2D, 0x5E, 0xEA, 0xEB, 0xEC, 0xED]

/-- The characters that a romanisation replaces are the hyphen, the caret and the syllables. -/
theorem sourceSpans_iff (code : Nat) : Span.any sourceSpans code ↔
    code = 0x2D ∨ code = 0x5E ∨ (0xAC00 ≤ code ∧ code ≤ 0xD7A3) := by
  simp only [sourceSpans, Span.any_cons, Span.any_nil, Bool.false_eq_true, or_false]
  omega

/-- A character that is replaced has one of the bytes that the search looks for. -/
theorem exists_sourceByte {c : Char} (h : Span.any sourceSpans c.toNat) :
    ∃ b ∈ String.utf8EncodeChar c, b ∈ sourceBytes := by
  obtain hcode | hcode | ⟨hlow, hhigh⟩ := (sourceSpans_iff _).1 h
  · obtain rfl : c = '-' := Char.toNat_inj.1 hcode
    exact ⟨0x2D, by decide, by decide⟩
  · obtain rfl : c = '^' := Char.toNat_inj.1 hcode
    exact ⟨0x5E, by decide, by decide⟩
  · have hbytes : String.utf8EncodeChar c = [UInt8.ofNat (c.toNat / 4096 % 16 + 224),
        UInt8.ofNat (c.toNat / 64 % 64 + 128), UInt8.ofNat (c.toNat % 64 + 128)] := by
      have hcode : c.val.toNat = c.toNat := rfl
      simp only [String.utf8EncodeChar, hcode]
      rw [if_neg (by omega), if_neg (by omega), if_pos (by omega)]
    have hfirst : ∀ n < 4, UInt8.ofNat (10 + n + 224) ∈ sourceBytes := by decide
    have hn : c.toNat / 4096 % 16 = 10 + (c.toNat / 4096 - 10) := by omega
    refine ⟨_, hbytes ▸ List.mem_cons_self, ?_⟩
    rw [hn]
    exact hfirst _ (by omega)

/-- A row of a table leads from a syllable to characters of other scripts. -/
theorem bytes_of_mem_table (system : System) : ∀ row ∈ system.table,
    Span.any sourceSpans row.1.toNat ∧ row.2.toByteArray.data.toList.all (· ∉ sourceBytes) := by
  cases system <;> decide +kernel

/-- The texts of the tables hold no character that is replaced. -/
theorem outside_of_mem_table {system : System} {row : Char × String} (h : row ∈ system.table)
    {c : Char} (hc : c ∈ row.2.toList) : ¬Span.any sourceSpans c.toNat := by
  intro hinside
  obtain ⟨b, hb, hsource⟩ := exists_sourceByte hinside
  have hbytes := List.all_eq_true.1 (bytes_of_mem_table system row h).2
  refine of_decide_eq_true (hbytes b ?_) hsource
  rw [← String.utf8Encode_toList, List.utf8Encode, List.data_toByteArray]
  exact List.mem_flatMap.2 ⟨c, hc, hb⟩

/-- All systems know the same syllables. -/
theorem syllables_eq (system : System) :
    system.table.map Prod.fst = revisedTable.map Prod.fst := by
  cases system with
  | revised => rfl
  | mcCuneReischauer => decide +kernel

/-- Both systems know the same syllables. -/
theorem lookup_eq_none_iff (system : System) (c : Char) :
    system.table.lookup c = none ↔ c ∉ revisedTable.map Prod.fst := by
  rw [← syllables_eq system, List.lookup_eq_none_iff]
  constructor
  · intro h hmem
    obtain ⟨row, hrow, rfl⟩ := List.mem_map.1 hmem
    exact bne_iff_ne.1 (h row hrow) rfl
  · exact fun h row hrow => bne_iff_ne.2 fun heq => h (heq ▸ List.mem_map_of_mem hrow)

theorem sourceSpans_withoutCapitals : Span.WithoutCapitals sourceSpans where
  letters := Chars.forall_of_all (by decide)
  shifts := by decide +kernel
  expansions := by decide +kernel

/-! ## Characters that stay -/

/-- Whether a character is left as it is in all systems. -/
structure Stays (c : Char) : Prop where
  notControl : isControl c = false
  unknown : ∀ system : System, system.table.lookup c = none

variable {c d : Char} {system : System}

theorem stays_of_outside (h : ¬Span.any sourceSpans c.toNat) : Stays c where
  notControl := by
    rw [isControl, Bool.or_eq_false_iff, beq_eq_false_iff_ne, beq_eq_false_iff_ne]
    constructor <;> rintro rfl <;> exact h (by decide)
  unknown system := by
    cases hlookup : system.table.lookup c with
    | none => rfl
    | some latin =>
      exact absurd (bytes_of_mem_table system _ (mem_of_lookup hlookup)).1 h

/-- What a character is replaced with is not replaced again. -/
theorem stays_of_mem_romanizeChar (hcontrol : isControl c = false)
    (hd : d ∈ romanizeChar system c) : Stays d := by
  unfold romanizeChar at hd
  split at hd
  · next latin hlookup =>
    exact stays_of_outside (outside_of_mem_table (mem_of_lookup hlookup) hd)
  · next hlookup =>
    obtain rfl := List.mem_singleton.1 hd
    refine ⟨hcontrol, fun other => ?_⟩
    rwa [lookup_eq_none_iff, ← lookup_eq_none_iff system]

/-- Nor is its capital. -/
theorem stays_of_mem_upperChar (hc : Stays c) (hd : d ∈ upperChar c) : Stays d := by
  rcases upperChar_cases sourceSpans_withoutCapitals c with heq | ⟨-, -, houtside⟩
  · rw [heq, List.mem_singleton] at hd
    exact hd ▸ hc
  · exact stays_of_outside (houtside d hd)

/-! ## Texts -/

theorem stays_of_mem_capitalize {text : String} (h : ∀ c ∈ text.toList, Stays c)
    (hd : d ∈ (Text.capitalize text).toList) : Stays d := by
  unfold Text.capitalize at hd
  split at hd
  · cases hd
  · next c rest htext =>
    rw [htext] at h
    obtain ⟨hc, hrest⟩ := List.forall_mem_cons.1 h
    rw [String.toList_ofList, List.mem_append] at hd
    exact hd.elim (stays_of_mem_upperChar hc) (hrest d)

theorem stays_of_mem_romanize (text : String) (hd : d ∈ (romanize system text).toList) :
    Stays d := by
  have hlatin : ∀ d ∈ (String.ofList ((text.toList.filter fun c => !isControl c).flatMap
      (romanizeChar system))).toList, Stays d := by
    intro d hd
    rw [String.toList_ofList] at hd
    obtain ⟨c, hc, hd⟩ := List.mem_flatMap.1 hd
    exact stays_of_mem_romanizeChar (by simpa using (List.mem_filter.1 hc).2) hd
  simp only [romanize] at hd
  split at hd
  · exact stays_of_mem_capitalize hlatin hd
  · exact hlatin d hd

/-- A text without characters to be replaced stays as it is. -/
theorem romanize_of_stays {text : String} (h : ∀ c ∈ text.toList, Stays c) :
    romanize system text = text := by
  have hfilter : (text.toList.filter fun c => !isControl c) = text.toList :=
    List.filter_eq_self.2 fun c hc => by simp [(h c hc).notControl]
  have hlatin : text.toList.flatMap (romanizeChar system) = text.toList := by
    have hsame : ∀ c ∈ text.toList, romanizeChar system c = [c] := fun c hc => by
      simp only [romanizeChar, (h c hc).unknown system]
    rw [List.flatMap_def, List.map_congr_left hsame, ← List.flatMap_def, List.flatMap_singleton']
  have hhead : text.toList.head? ≠ some '^' := fun hhead =>
    Bool.false_ne_true (h '^' (List.mem_of_head? hhead)).notControl.symm
  simp only [romanize, hfilter, hlatin, if_neg hhead, String.ofList_toList]

/-- To romanize a romanized text again, in the same system or another, changes nothing: it has no
    control signs in it, and no syllables that are known in any system. -/
theorem romanize_romanize (system system' : System) (text : String) :
    romanize system' (romanize system text) = romanize system text ∧
      ∀ c ∈ (romanize system text).toList, c ≠ '^' ∧ c ≠ '-' ∧
        ∀ known : System, known.table.lookup c = none := by
  refine ⟨romanize_of_stays fun c => stays_of_mem_romanize text, fun c hc => ?_⟩
  obtain ⟨hcontrol, hunknown⟩ := stays_of_mem_romanize text hc
  rw [isControl, Bool.or_eq_false_iff, beq_eq_false_iff_ne, beq_eq_false_iff_ne] at hcontrol
  exact ⟨hcontrol.1, hcontrol.2, hunknown⟩

end Hangul

end GenreProse
