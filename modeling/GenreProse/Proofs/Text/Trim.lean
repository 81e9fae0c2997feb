-- SUMMARY: Laws of trimming: what it leaves, and which changes of a text make no difference to it.
import GenreProse.Text.Basic
import Mathlib.Data.List.DropRight

/-!
# Trimming

To trim text again changes nothing: what is dropped at the end uncovers no blank at the start. So it
makes no difference which end is trimmed first, nor whether there are more blanks around the text.
-/

namespace GenreProse

namespace Chars

variable {test : Char → Bool}

/-- A run of characters that satisfy the test ends where another character follows. -/
theorem takeWhile_run {run rest : Chars} (hrun : ∀ c ∈ run, test c)
    (hrest : ∀ c ∈ rest.head?, test c = false) :
    (run ++ rest).takeWhile test = run ∧ (run ++ rest).dropWhile test = rest := by
  rw [List.takeWhile_append_of_pos hrun, List.dropWhile_append_of_pos hrun]
  cases rest with
  | nil => simp
  | cons c rest => simp [hrest c rfl]

/-- No run starts where the first character fails the test. -/
theorem takeWhile_none {s : Chars} (h : ∀ c ∈ s.head?, test c = false) :
    s.takeWhile test = [] ∧ s.dropWhile test = s := by
  have hrun : ∀ c ∈ ([] : Chars), test c := nofun
  exact takeWhile_run hrun h

theorem dropEndWhile_eq_rdropWhile (s : Chars) : dropEndWhile test s = s.rdropWhile test := by
  induction s with
  | nil => rfl
  | cons c s ih =>
    rw [dropEndWhile, ih, List.rdropWhile, List.rdropWhile, List.reverse_cons,
      List.dropWhile_append]
    cases s.reverse.dropWhile test with
    | nil => cases htest : test c <;> simp [htest]
    | cons last rest =>
      have hkept : (last :: rest).reverse ≠ [] := by simp
      obtain ⟨first, kept, hreverse⟩ := List.exists_cons_of_ne_nil hkept
      simp only [List.isEmpty_cons, Bool.false_eq_true, if_false, List.reverse_append,
        List.reverse_singleton, List.singleton_append, hreverse]

/-- What is dropped at the end uncovers nothing that is dropped at the start. -/
theorem dropWhile_rdropWhile {s : Chars} (h : s.dropWhile test = s) :
    (s.rdropWhile test).dropWhile test = s.rdropWhile test := by
  rw [List.dropWhile_eq_self_iff] at h ⊢
  intro hlength
  have hstart : s.rdropWhile test <+: s := List.rdropWhile_prefix test s
  rw [hstart.getElem hlength]
  exact h (Nat.lt_of_lt_of_le hlength hstart.length_le)

/-- A trimmed text has nothing left to trim. -/
theorem trim_trim (s : Chars) : trim (trim s) = trim s := by
  have hstart := List.dropWhile_idempotent isBlank s
  simp only [trim, trimBy, dropEndWhile_eq_rdropWhile]
  rw [dropWhile_rdropWhile hstart, List.rdropWhile_idempotent]

/-- What is dropped at the end goes on into the front only if the back is dropped. -/
theorem rdropWhile_append (test : Char → Bool) (front back : Chars) :
    (front ++ back).rdropWhile test
      = if back.rdropWhile test = [] then front.rdropWhile test
        else front ++ back.rdropWhile test := by
  simp only [List.rdropWhile, List.reverse_append, List.dropWhile_append, List.isEmpty_iff,
    List.reverse_eq_nil_iff]
  split
  · rfl
  · rw [List.reverse_append, List.reverse_reverse]

/-- It makes no difference which end is trimmed first. -/
theorem dropWhile_rdropWhile_comm (s : Chars) :
    (s.rdropWhile test).dropWhile test = (s.dropWhile test).rdropWhile test := by
  have hstart := dropWhile_rdropWhile (List.dropWhile_idempotent test s)
  have hdropped : ∀ c ∈ s.takeWhile test, test c := fun c => List.mem_takeWhile_imp
  have hsplit := rdropWhile_append test (s.takeWhile test) (s.dropWhile test)
  rw [List.takeWhile_append_dropWhile] at hsplit
  rw [hsplit]
  split
  · next hnil => rw [List.rdropWhile_eq_nil_iff.mpr hdropped, hnil, List.dropWhile_nil]
  · rw [List.dropWhile_append_of_pos hdropped, hstart]

theorem trim_eq_rdropWhile (s : Chars) : trim s = (s.dropWhile isBlank).rdropWhile isBlank := by
  rw [trim, trimBy, dropEndWhile_eq_rdropWhile]

/-- Text that has no blank at either end is trimmed. -/
theorem trim_of_ends {s : Chars} (hfirst : ∀ c ∈ s.head?, isBlank c = false)
    (hlast : ∀ c ∈ s.getLast?, isBlank c = false) : trim s = s := by
  rw [trim_eq_rdropWhile, (takeWhile_none hfirst).2]
  exact List.rdropWhile_eq_self_iff.2 fun hne => by
    simp [hlast _ (List.getLast?_eq_some_getLast hne)]

/-- Text without blanks is trimmed. -/
theorem trim_eq_self {s : Chars} (h : ∀ c ∈ s, isBlank c = false) : trim s = s :=
  trim_of_ends (fun c hc => h c (List.mem_of_head? hc)) fun c hc => h c (List.mem_of_getLast? hc)

/-- Trimming keeps a first character that is no blank. -/
theorem exists_trim_cons {c : Char} (hc : isBlank c = false) (s : Chars) :
    ∃ kept, trim (c :: s) = c :: kept := by
  have hstart : (c :: s).dropWhile isBlank = [c] ++ s := by simp [hc]
  have hfirst : [c].rdropWhile isBlank = [c] := by simp [List.rdropWhile, hc]
  rw [trim_eq_rdropWhile, hstart, rdropWhile_append, hfirst]
  split
  · exact ⟨[], rfl⟩
  · exact ⟨_, rfl⟩

/-- Trimmed text has no blank at either end. -/
theorem ends_of_trim {s : Chars} (h : trim s = s) :
    s.dropWhile isBlank = s ∧ s.rdropWhile isBlank = s := by
  rw [trim_eq_rdropWhile] at h
  have hstart := dropWhile_rdropWhile (List.dropWhile_idempotent isBlank s)
  have hend := List.rdropWhile_idempotent isBlank (s.dropWhile isBlank)
  rw [h] at hstart hend
  exact ⟨hstart, hend⟩

/-- Blanks at the end make no difference. -/
theorem trim_append_of_blank {s after : Chars} (hafter : ∀ c ∈ after, isBlank c) :
    trim (s ++ after) = trim s := by
  rw [trim_eq_rdropWhile, trim_eq_rdropWhile, ← dropWhile_rdropWhile_comm,
    ← dropWhile_rdropWhile_comm, rdropWhile_append,
    if_pos (List.rdropWhile_eq_nil_iff.mpr hafter)]

/-- Blanks at the start make no difference. -/
theorem trim_blank_append {before s : Chars} (hbefore : ∀ c ∈ before, isBlank c) :
    trim (before ++ s) = trim s := by
  rw [trim_eq_rdropWhile, trim_eq_rdropWhile, List.dropWhile_append_of_pos hbefore]

/-- A change of the characters that keeps blanks may be made before or after trimming. -/
theorem trim_map {f : Char → Char} (hf : ∀ c, isBlank (f c) = isBlank c) (s : Chars) :
    trim (s.map f) = (trim s).map f := by
  have hblank : isBlank ∘ f = isBlank := funext hf
  rw [trim_eq_rdropWhile, trim_eq_rdropWhile, List.dropWhile_map, List.rdropWhile,
    ← List.map_reverse, List.dropWhile_map, hblank, List.rdropWhile, List.map_reverse]

end Chars

theorem Text.trim_trim (s : String) : Text.trim (Text.trim s) = Text.trim s := by
  rw [Text.trim, Text.trim, Text.onChars, Text.onChars, String.toList_ofList, Chars.trim_trim]

end GenreProse
