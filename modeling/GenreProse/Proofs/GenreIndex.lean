-- SUMMARY: The index is a map from titles up to case folding: the last insertion of a title counts.
import GenreProse.GenreIndex
import Mathlib.Data.Finset.Card
import Mathlib.Data.List.Dedup

/-!
# The index as a map

An insertion changes what is found for the titles with one case folding and for no others. The keys
of the index are distinct, and they are the foldings of the titles that were inserted. So after any
insertions a title finds the genre that was last inserted for it, and the index has as many entries
as there are titles up to case folding. In which order a file is read does not matter unless it has
titles that differ in case only.
-/

namespace GenreProse

namespace GenreIndex

open Text (fold)

/-! ## One entry -/

section

variable {key genre : String} {entries : List (String × String)}

theorem lookup_cons_eq_ite (other : String) (entry : String × String) :
    (entry :: entries).lookup other = if other = entry.1 then some entry.2
      else entries.lookup other := by
  rw [List.lookup_cons]
  split
  · next hsame => rw [if_pos (eq_of_beq hsame)]
  · next hother => rw [if_neg (ne_of_beq_false hother)]

/-- The entry that is put in is found under its key, and all others as before. -/
theorem lookup_put (other : String) : (put key genre entries).lookup other =
    if other = key then some genre else entries.lookup other := by
  induction entries with
  | nil => rw [put, lookup_cons_eq_ite]
  | cons entry entries ih =>
    rw [put]
    split
    · next hsame =>
      rw [lookup_cons_eq_ite, lookup_cons_eq_ite, hsame]
      split <;> rfl
    · next hkey =>
      rw [lookup_cons_eq_ite, lookup_cons_eq_ite, ih]
      split
      · next hentry => rw [if_neg fun hsame => hkey (hentry.symm.trans hsame)]
      · rfl

/-- An entry is put in the place of the one with its key, or after all others. -/
theorem keys_put : (put key genre entries).map Prod.fst =
    if key ∈ entries.map Prod.fst then entries.map Prod.fst else entries.map Prod.fst ++ [key] := by
  induction entries with
  | nil => rfl
  | cons entry entries ih =>
    rw [put]
    split
    · next hsame => simp [hsame]
    · next hother =>
      rw [List.map_cons, ih]
      split <;> simp [*, Ne.symm hother]

end

/-! ## Insertions -/

def keys (index : GenreIndex) : List String :=
  index.entries.map Prod.fst

/-- Whether an index holds what was inserted, in this order. -/
structure Holds (index : GenreIndex) (titles : List (String × String)) : Prop where
  nodup : index.keys.Nodup
  mem_keys : ∀ key, key ∈ index.keys ↔ key ∈ titles.map fun entry => fold entry.1
  lookup : ∀ title, index.lookup? title =
    ((titles.filter fun entry => fold entry.1 = fold title).getLast?).map Prod.snd

theorem holds_empty : empty.Holds [] where
  nodup := List.nodup_nil
  mem_keys _ := Iff.rfl
  lookup _ := rfl

/-- An insertion replaces what is held for its title, and keeps the rest. -/
theorem Holds.insert {index : GenreIndex} {titles : List (String × String)} (h : index.Holds titles)
    (title genre : String) : (index.insert title genre).Holds (titles ++ [(title, genre)]) where
  nodup := by
    rw [keys, GenreIndex.insert, keys_put]
    split
    · exact h.nodup
    · next hnew => exact List.nodup_append_comm.1 (List.nodup_cons.2 ⟨hnew, h.nodup⟩)
  mem_keys key := by
    rw [keys, GenreIndex.insert, keys_put, List.map_append, List.mem_append, ← h.mem_keys,
      List.map_singleton, List.mem_singleton, ← keys]
    split
    · next hold => exact ⟨.inl, fun hkey => hkey.elim id fun hsame => hsame ▸ hold⟩
    · rw [List.mem_append, List.mem_singleton]
  lookup other := by
    rw [lookup?, GenreIndex.insert, lookup_put, List.filter_append, List.filter_singleton,
      ← lookup?, h.lookup]
    by_cases hsame : fold other = fold title
    · simp [hsame]
    · simp [hsame, Ne.symm hsame]

/-- An index into which titles are inserted holds the last genre of each title. -/
theorem holds_insertAll (titles : List (String × String)) :
    (empty.insertAll titles).Holds titles := by
  induction titles using List.reverseRecOn with
  | nil => exact holds_empty
  | append_singleton titles entry ih =>
    rw [insertAll, List.foldl_concat]
    exact ih.insert entry.1 entry.2

/-- After any insertions the index is a map up to case folding: a title finds the genre of the last
    insertion of the same title, and each title is counted once. -/
theorem insertAll_isMap (titles : List (String × String)) :
    (∀ title, (empty.insertAll titles).lookup? title =
      ((titles.filter fun entry => fold entry.1 = fold title).getLast?).map Prod.snd) ∧
    (empty.insertAll titles).size = (titles.map fun entry => fold entry.1).toFinset.card ∧
    ((empty.insertAll titles).isEmpty ↔ titles = []) ∧
    ∀ title title', fold title = fold title' →
      (empty.insertAll titles).lookup? title = (empty.insertAll titles).lookup? title' := by
  have h := holds_insertAll titles
  have hkeys : (empty.insertAll titles).keys.toFinset =
      (titles.map fun entry => fold entry.1).toFinset := by
    ext key
    rw [List.mem_toFinset, List.mem_toFinset, h.mem_keys]
  have hsize : (empty.insertAll titles).size =
      (titles.map fun entry => fold entry.1).toFinset.card := by
    rw [← hkeys, List.toFinset_card_of_nodup h.nodup, keys, List.length_map, size]
  refine ⟨h.lookup, hsize, ?_, fun title title' hsame => ?_⟩
  · rw [isEmpty, List.isEmpty_iff_length_eq_zero, ← size, hsize, Finset.card_eq_zero,
      List.toFinset_eq_empty_iff, List.map_eq_nil_iff]
  · rw [lookup?, lookup?, hsame]

example : (empty.insertAll [("Straße", "Krautrock"), ("STRASSE", "Schlager")]).lookup?
    "strasse" = some "Schlager" := by decide

/-! ## The order of entries -/

/-- Whether no two titles of the entries are the same up to case. -/
def Distinct (entries : List (String × String)) : Prop :=
  (entries.map fun entry => fold entry.1).Nodup

/-- At most one of distinct entries is found for a title. -/
theorem Distinct.filter {entries : List (String × String)} (h : Distinct entries) (title : String) :
    entries.filter (fun entry => fold entry.1 = fold title) = [] ∨
      ∃ entry, entries.filter (fun entry => fold entry.1 = fold title) = [entry] := by
  have hnodup := h.sublist ((List.filter_sublist (p := fun entry => fold entry.1 = fold title)).map
    fun entry : String × String => fold entry.1)
  have hfound : ∀ entry ∈ entries.filter (fun entry => fold entry.1 = fold title),
      fold entry.1 = fold title := fun entry hentry => by
    simpa using (List.mem_filter.1 hentry).2
  generalize entries.filter (fun entry => fold entry.1 = fold title) = found at hnodup hfound ⊢
  rcases found with _ | ⟨first, _ | ⟨second, rest⟩⟩
  · exact .inl rfl
  · exact .inr ⟨first, rfl⟩
  · refine absurd ?_ (List.nodup_cons.1 hnodup).1
    simp [hfound first (by simp), hfound second (by simp)]

end GenreIndex

end GenreProse
