-- SUMMARY: Laws of the normal form: what it is made of, and that it may be taken in any grouping.
import GenreProse.Prose.Basic

/-!
# Units

The normal form of pieces is made of their units, with each text joined to the texts after it. A
unit is neither empty nor a fragment, and it is its own only unit. Prose that shows nothing has no
units. So a part that is in normal form gives the same units as its pieces do, and pieces may be put
together in any grouping.
-/

namespace GenreProse

namespace Prose

/-! ## Units -/

theorem unitsOfAll_eq_flatMap (pieces : List Prose) : unitsOfAll pieces = pieces.flatMap units := by
  induction pieces with
  | nil => rfl
  | cons piece pieces ih => rw [unitsOfAll, ih, List.flatMap_cons]

theorem unitsOfAll_flatten (parts : List (List Prose)) :
    unitsOfAll parts.flatten = (parts.map unitsOfAll).flatten := by
  induction parts with
  | nil => rfl
  | cons part parts ih =>
    rw [List.flatten_cons, List.map_cons, List.flatten_cons, ← ih]
    simp only [unitsOfAll_eq_flatMap, List.flatMap_append]

/-- Whether the prose is a unit: it shows something of its own. -/
def IsUnit : Prose → Prop
  | .empty => False
  | .text s => s ≠ ""
  | .fragment _ => False
  | _ => True

/-- A unit is the only one of itself. -/
theorem IsUnit.units_eq {prose : Prose} (h : prose.IsUnit) : units prose = [prose] := by
  cases prose with
  | empty | fragment => exact h.elim
  | text s => simp [units, show s ≠ "" from h]
  | _ => simp [units]

mutual

/-- Taking prose apart ends in units. -/
theorem isUnit_of_mem_units (prose : Prose) : ∀ unit ∈ units prose, unit.IsUnit := by
  cases prose with
  | text s => by_cases h : s = "" <;> simp [units, h, IsUnit]
  | fragment pieces =>
    rw [units]
    exact isUnit_of_mem_unitsOfAll pieces
  | _ => simp [units, IsUnit]

theorem isUnit_of_mem_unitsOfAll (pieces : List Prose) :
    ∀ unit ∈ unitsOfAll pieces, unit.IsUnit := by
  cases pieces with
  | nil => simp [unitsOfAll]
  | cons piece pieces =>
    rw [unitsOfAll]
    exact List.forall_mem_append.mpr
      ⟨isUnit_of_mem_units piece, isUnit_of_mem_unitsOfAll pieces⟩

end

/-- Units are not taken apart. -/
theorem unitsOfAll_of_isUnit {pieces : List Prose} (h : ∀ piece ∈ pieces, piece.IsUnit) :
    unitsOfAll pieces = pieces := by
  induction pieces with
  | nil => rfl
  | cons piece pieces ih =>
    obtain ⟨hpiece, hpieces⟩ := List.forall_mem_cons.mp h
    rw [unitsOfAll, hpiece.units_eq, ih hpieces, List.singleton_append]

/-- Prose of units has these units. -/
theorem units_ofUnits {pieces : List Prose} (h : ∀ piece ∈ pieces, piece.IsUnit) :
    units (ofUnits pieces) = pieces := by
  match pieces with
  | [] => simp [ofUnits, units]
  | [piece] => exact (h piece (List.mem_singleton_self piece)).units_eq
  | first :: second :: rest => simpa [ofUnits, units] using unitsOfAll_of_isUnit h

/-! ## Prose that shows nothing -/

mutual

/-- Prose that shows nothing has no units. -/
theorem units_of_isEmpty (prose : Prose) (h : prose.isEmpty) : units prose = [] := by
  cases prose with
  | empty => rfl
  | text s => exact if_pos (by simpa [isEmpty] using h)
  | fragment pieces => exact unitsOfAll_of_areEmpty pieces (by simpa [isEmpty] using h)
  | _ => cases h

theorem unitsOfAll_of_areEmpty (pieces : List Prose) (h : areEmpty pieces) :
    unitsOfAll pieces = [] := by
  cases pieces with
  | nil => rfl
  | cons piece pieces =>
    obtain ⟨hpiece, hpieces⟩ : piece.isEmpty ∧ areEmpty pieces := by simpa [areEmpty] using h
    rw [unitsOfAll, units_of_isEmpty piece hpiece, unitsOfAll_of_areEmpty pieces hpieces]
    rfl

end

/-! ## Joined texts -/

theorem isUnit_of_mem_consUnit {first : Prose} {rest : List Prose} (hfirst : first.IsUnit)
    (hrest : ∀ unit ∈ rest, unit.IsUnit) : ∀ unit ∈ consUnit first rest, unit.IsUnit := by
  unfold consUnit
  split
  · obtain ⟨-, hothers⟩ := List.forall_mem_cons.mp hrest
    refine List.forall_mem_cons.mpr ⟨?_, hothers⟩
    intro hboth
    exact hfirst (String.append_eq_empty_iff.mp hboth).1
  · exact List.forall_mem_cons.mpr ⟨hfirst, hrest⟩

theorem joinTexts_cons (first : Prose) (rest : List Prose) :
    joinTexts (first :: rest) = consUnit first (joinTexts rest) :=
  rfl

/-- Joined texts are units. -/
theorem isUnit_of_mem_joinTexts {pieces : List Prose} (h : ∀ piece ∈ pieces, piece.IsUnit) :
    ∀ unit ∈ joinTexts pieces, unit.IsUnit := by
  induction pieces with
  | nil => simp [joinTexts]
  | cons piece pieces ih =>
    obtain ⟨hpiece, hpieces⟩ := List.forall_mem_cons.mp h
    rw [joinTexts_cons]
    exact isUnit_of_mem_consUnit hpiece (ih hpieces)

/-- The texts of the first part are joined with those of the second one by one. -/
theorem joinTexts_append (front back : List Prose) :
    joinTexts (front ++ back) = front.foldr consUnit (joinTexts back) :=
  List.foldr_append

/-- Text may be joined with the text before it or with the text after it first. -/
theorem consUnit_consUnit_text (a b : String) (rest : List Prose) :
    consUnit (.text a) (consUnit (.text b) rest) = consUnit (.text (a ++ b)) rest := by
  match rest with
  | .text c :: rest => simp [consUnit, String.append_assoc]
  | [] | .empty :: _ | .fragment _ :: _ | .framed .. :: _ | .link .. :: _ | .genreLink .. :: _
  | .error _ :: _ | .maintenance _ :: _ | .newline :: _ | .paragraphBreak :: _ => rfl

theorem foldr_consUnit_consUnit (first : Prose) (front back : List Prose) :
    (consUnit first front).foldr consUnit back = consUnit first (front.foldr consUnit back) := by
  rw [consUnit.eq_def first front]
  split
  · rw [List.foldr_cons, List.foldr_cons, consUnit_consUnit_text]
  · rfl

/-- Texts that are joined may be joined again. -/
theorem foldr_consUnit_joinTexts (front back : List Prose) :
    (joinTexts front).foldr consUnit back = front.foldr consUnit back := by
  induction front with
  | nil => rfl
  | cons first front ih => rw [joinTexts_cons, foldr_consUnit_consUnit, ih, List.foldr_cons]

/-- Texts may be joined in parts first. -/
theorem joinTexts_flatMap_joinTexts (parts : List (List Prose)) :
    joinTexts (parts.flatMap joinTexts) = joinTexts parts.flatten := by
  induction parts with
  | nil => rfl
  | cons part parts ih =>
    rw [List.flatMap_cons, List.flatten_cons, joinTexts_append, joinTexts_append, ih,
      foldr_consUnit_joinTexts]

/-! ## Normal form -/

/-- The units of joined prose are those of its pieces, with their texts joined. -/
theorem units_concat (pieces : List Prose) :
    units (concat pieces) = joinTexts (unitsOfAll pieces) :=
  units_ofUnits (isUnit_of_mem_joinTexts (isUnit_of_mem_unitsOfAll pieces))

theorem concat_singleton_of_isEmpty {piece : Prose} (h : piece.isEmpty) :
    concat [piece] = .empty := by
  rw [concat, unitsOfAll, units_of_isEmpty piece h]
  rfl

/-- Pieces may be put together in any grouping. -/
theorem concat_map_concat (parts : List (List Prose)) :
    concat (parts.map concat) = concat parts.flatten := by
  have hunits : unitsOfAll (parts.map concat) = (parts.map unitsOfAll).flatMap joinTexts := by
    rw [unitsOfAll_eq_flatMap, List.flatMap_map, List.flatMap_map]
    simp only [units_concat]
  rw [concat, hunits, joinTexts_flatMap_joinTexts, ← unitsOfAll_flatten, ← concat]

/-- The normal form of prose by itself. -/
def normalize (prose : Prose) : Prose :=
  concat [prose]

/-- Pieces may be brought into normal form before they are put together. -/
theorem concat_map_normalize (pieces : List Prose) :
    concat (pieces.map normalize) = concat pieces := by
  have hparts : pieces.map normalize = (pieces.map fun piece => [piece]).map concat := by
    rw [List.map_map]
    rfl
  have hflatten : (pieces.map fun piece => [piece]).flatten = pieces := by
    rw [← List.flatMap_def, List.flatMap_singleton']
  rw [hparts, concat_map_concat, hflatten]

/-- Joined prose is in normal form. -/
theorem normalize_concat (pieces : List Prose) : normalize (concat pieces) = concat pieces := by
  have hparts := concat_map_concat [pieces]
  rwa [List.flatten_singleton] at hparts

/-- Prose in normal form stays as it is. -/
theorem normalize_normalize (prose : Prose) : normalize (normalize prose) = normalize prose :=
  normalize_concat [prose]

/-! ## Views -/

/-- Whether a view collects something from the units of prose, and from a text what it collects from
    the parts of the text. The normal form keeps what such a view shows. -/
structure IsView {α : Type} (view : Prose → List α) : Prop where
  empty : view .empty = []
  noText : view (.text "") = []
  text : ∀ a b, view (.text (a ++ b)) = view (.text a) ++ view (.text b)
  fragment : ∀ pieces, view (.fragment pieces) = pieces.flatMap view

namespace IsView

variable {α : Type} {view : Prose → List α}

mutual

/-- A view sees of prose what it sees of its units. -/
theorem flatMap_units (hview : IsView view) (prose : Prose) :
    (units prose).flatMap view = view prose := by
  cases prose with
  | empty => simp [units, hview.empty]
  | text s => by_cases h : s = "" <;> simp [units, h, hview.noText]
  | fragment pieces => rw [units, hview.fragment, flatMap_unitsOfAll hview pieces]
  | _ => simp [units]

theorem flatMap_unitsOfAll (hview : IsView view) (pieces : List Prose) :
    (unitsOfAll pieces).flatMap view = pieces.flatMap view := by
  cases pieces with
  | nil => rfl
  | cons piece pieces =>
    rw [unitsOfAll, List.flatMap_append, flatMap_units hview piece,
      flatMap_unitsOfAll hview pieces, List.flatMap_cons]

end

/-- A view sees nothing of prose that shows nothing. -/
theorem of_isEmpty (hview : IsView view) {prose : Prose} (h : prose.isEmpty) : view prose = [] := by
  rw [← hview.flatMap_units, units_of_isEmpty prose h, List.flatMap_nil]

theorem flatMap_consUnit (hview : IsView view) (first : Prose) (rest : List Prose) :
    (consUnit first rest).flatMap view = view first ++ rest.flatMap view := by
  unfold consUnit
  split
  · simp [hview.text]
  · rw [List.flatMap_cons]

/-- A view sees the same whether texts are joined or not. -/
theorem flatMap_joinTexts (hview : IsView view) (pieces : List Prose) :
    (joinTexts pieces).flatMap view = pieces.flatMap view := by
  induction pieces with
  | nil => rfl
  | cons first rest ih => rw [joinTexts_cons, hview.flatMap_consUnit, ih, List.flatMap_cons]

/-- A view sees of joined units what it sees of each. -/
theorem ofUnits (hview : IsView view) (pieces : List Prose) :
    view (ofUnits pieces) = pieces.flatMap view := by
  match pieces with
  | [] => simp [Prose.ofUnits, hview.empty]
  | [piece] => simp [Prose.ofUnits]
  | _ :: _ :: _ => simp [Prose.ofUnits, hview.fragment]

/-- The normal form of pieces shows what all of them show. -/
theorem concat (hview : IsView view) (pieces : List Prose) :
    view (concat pieces) = pieces.flatMap view := by
  rw [Prose.concat, hview.ofUnits, hview.flatMap_joinTexts, hview.flatMap_unitsOfAll]

/-- A view sees of prose what it sees of its pieces. -/
theorem flatMap_pieces (hview : IsView view) (prose : Prose) :
    prose.pieces.flatMap view = view prose := by
  cases prose <;> simp [pieces, hview.empty, hview.fragment]

end IsView

end Prose

end GenreProse
