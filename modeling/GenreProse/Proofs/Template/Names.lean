-- SUMMARY: Each name of a date template leads to the handler of that template.
import GenreProse.Template.Registry

/-!
# Names of templates

A table of templates gives several names to each handler, and a look-up finds the first entry with a
name. Where no name is given twice, it is the only one.
-/

namespace GenreProse

namespace Template

/-- In a table that gives no name twice, a look-up finds the entry that has the name. -/
theorem find?_of_nodup {α : Type} {entries : List (List String × α)} {names : List String}
    {value : α} {name : String} (hnodup : (entries.flatMap Prod.fst).Nodup)
    (hentry : (names, value) ∈ entries) (hname : name ∈ names) :
    entries.find? (fun (names, _) => names.contains name) = some (names, value) := by
  induction entries with
  | nil => cases hentry
  | cons entry entries ih =>
    rw [List.flatMap_cons, List.nodup_append] at hnodup
    obtain ⟨-, hrest, hother⟩ := hnodup
    rcases List.mem_cons.1 hentry with rfl | hentry
    · exact List.find?_cons_of_pos (by simpa using hname)
    · have hlater : name ∈ entries.flatMap Prod.fst := List.mem_flatMap.2 ⟨_, hentry, hname⟩
      have hnot : name ∉ entry.1 := fun hmem => hother name hmem name hlater rfl
      rw [List.find?_cons_of_neg (by simpa using hnot)]
      exact ih hrest hentry

/-- No two date templates share a name. -/
theorem nodup_dateTemplates : (dateTemplates.flatMap Prod.fst).Nodup := by
  decide

/-- Each name of a date template leads to its handler. -/
theorem find?_dateTemplates {names : List String} {handler : Handler} {name : String}
    (hentry : (names, handler) ∈ dateTemplates) (hname : name ∈ names) :
    find? name = some handler := by
  have hfound := find?_of_nodup nodup_dateTemplates hentry hname
  simp only [find?, known, List.append_assoc, List.find?_append, hfound]
  rfl

end Template

end GenreProse
