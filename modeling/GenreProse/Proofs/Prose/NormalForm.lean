-- SUMMARY: Prose in normal form, and what keeps prose fit for it.
import GenreProse.Proofs.Prose.Units

/-!
# The normal form of prose

In normal form a fragment is the root or nowhere, all lists of pieces are tidy, and a root that is a
fragment is one for a reason. Prose is framed well if the pieces of its frames are tidy; fragments
around the frames do not matter, since putting pieces together removes them. So the normal form of
well framed pieces is in normal form all through, and prose in normal form may be put in a frame.
-/

namespace GenreProse

namespace Prose

/-! ## Lists of pieces -/

/-- Whether pieces may stand next to each other: nothing empty, no fragment, and no text directly
    after text. -/
structure Tidy (pieces : List Prose) : Prop where
  notEmpty : .empty ∉ pieces
  notFragment : ∀ inner, .fragment inner ∉ pieces
  textsJoined : ∀ a b, ¬ [.text a, .text b] <:+: pieces

mutual

/-- The lists of pieces in the prose: its own, and those of all its pieces. -/
def pieceLists : Prose → List (List Prose)
  | .fragment pieces => pieces :: pieceListsOfAll pieces
  | .framed _ pieces => pieces :: pieceListsOfAll pieces
  | _ => []

def pieceListsOfAll : List Prose → List (List Prose)
  | [] => []
  | piece :: pieces => pieceLists piece ++ pieceListsOfAll pieces

end

/-- Whether the prose is in normal form. -/
structure IsNormal (prose : Prose) : Prop where
  tidy : ∀ pieces ∈ prose.pieceLists, Tidy pieces
  /-- A root that is a fragment holds more than one piece. -/
  several : ∀ pieces, prose = .fragment pieces → 2 ≤ pieces.length
  noEmptyText : ∀ pieces, prose = .fragment pieces → .text "" ∉ pieces

theorem tidy_nil : Tidy [] where
  notEmpty := by simp
  notFragment := by simp
  textsJoined a b h := by
    have hlength := h.length_le
    simp at hlength

theorem tidy_singleton {piece : Prose} (hempty : piece ≠ .empty)
    (hfragment : ∀ inner, piece ≠ .fragment inner) : Tidy [piece] where
  notEmpty hmem := hempty (List.mem_singleton.mp hmem).symm
  notFragment inner hmem := hfragment inner (List.mem_singleton.mp hmem).symm
  textsJoined a b hinfix := by
    have hlength := hinfix.length_le
    simp at hlength

/-! ## Joined texts -/

/-- A text that is put before a text joins it. -/
theorem textsJoined_consUnit {first : Prose} {rest : List Prose}
    (h : ∀ a b, ¬ [.text a, .text b] <:+: rest) :
    ∀ a b, ¬ [.text a, .text b] <:+: consUnit first rest := by
  intro a b hinfix
  unfold consUnit at hinfix
  split at hinfix
  · rename_i s t others
    rcases List.infix_cons_iff.mp hinfix with hfirst | hothers
    · obtain ⟨-, hsecond⟩ := List.cons_prefix_cons.mp hfirst
      exact h t b (List.cons_prefix_cons.mpr ⟨rfl, hsecond⟩).isInfix
    · exact h a b (List.infix_cons hothers)
  · rename_i hmeet
    rcases List.infix_cons_iff.mp hinfix with hfirst | hrest
    · obtain ⟨rfl, others, rfl⟩ := List.cons_prefix_cons.mp hfirst
      exact hmeet a b others rfl rfl
    · exact h a b hrest

/-- Of joined texts no two stand next to each other. -/
theorem textsJoined_joinTexts (pieces : List Prose) :
    ∀ a b, ¬ [.text a, .text b] <:+: joinTexts pieces := by
  induction pieces with
  | nil => exact tidy_nil.textsJoined
  | cons first rest ih =>
    rw [joinTexts_cons]
    exact textsJoined_consUnit ih

/-- Units with their texts joined are tidy. -/
theorem tidy_joinTexts {pieces : List Prose} (h : ∀ piece ∈ pieces, piece.IsUnit) :
    Tidy (joinTexts pieces) where
  notEmpty hmem := isUnit_of_mem_joinTexts h _ hmem
  notFragment _ hmem := isUnit_of_mem_joinTexts h _ hmem
  textsJoined := textsJoined_joinTexts pieces

/-! ## Frames -/

mutual

/-- The lists of pieces in frames of the prose. -/
def framePieces : Prose → List (List Prose)
  | .fragment pieces => framePiecesOfAll pieces
  | .framed _ pieces => pieces :: framePiecesOfAll pieces
  | _ => []

def framePiecesOfAll : List Prose → List (List Prose)
  | [] => []
  | piece :: pieces => framePieces piece ++ framePiecesOfAll pieces

end

theorem framePiecesOfAll_eq_flatMap (pieces : List Prose) :
    framePiecesOfAll pieces = pieces.flatMap framePieces := by
  induction pieces with
  | nil => rfl
  | cons piece pieces ih => rw [framePiecesOfAll, ih, List.flatMap_cons]

/-- The contents of frames are collected piece by piece, and texts have none. -/
theorem framePieces_isView : IsView framePieces where
  empty := rfl
  noText := rfl
  text _ _ := rfl
  fragment pieces := by rw [framePieces, framePiecesOfAll_eq_flatMap]

/-- Whether all frames in the prose hold tidy pieces. -/
def WellFramed (prose : Prose) : Prop :=
  ∀ pieces ∈ prose.framePieces, Tidy pieces

theorem forall_wellFramed {pieces : List Prose} : (∀ piece ∈ pieces, piece.WellFramed)
    ↔ ∀ inner ∈ pieces.flatMap framePieces, Tidy inner :=
  List.forall_mem_flatMap.symm

/-- A frame is well framed if its content is tidy and well framed. -/
theorem wellFramed_framed {frame : Frame} {pieces : List Prose} (htidy : Tidy pieces)
    (h : ∀ piece ∈ pieces, piece.WellFramed) : (framed frame pieces).WellFramed := by
  rw [WellFramed, framePieces, framePiecesOfAll_eq_flatMap]
  exact List.forall_mem_cons.mpr ⟨htidy, forall_wellFramed.mp h⟩

@[simp] theorem wellFramed_concat {pieces : List Prose} :
    (concat pieces).WellFramed ↔ ∀ piece ∈ pieces, piece.WellFramed := by
  rw [WellFramed, framePieces_isView.concat, forall_wellFramed]

@[simp] theorem wellFramed_empty : empty.WellFramed := List.forall_mem_nil _
@[simp] theorem wellFramed_text (s : String) : (text s).WellFramed := List.forall_mem_nil _
@[simp] theorem wellFramed_link (title label url : String) : (link title label url).WellFramed :=
  List.forall_mem_nil _
@[simp] theorem wellFramed_genreLink (genre label : String) :
    (genreLink genre label).WellFramed :=
  List.forall_mem_nil _
@[simp] theorem wellFramed_error (message : String) : (error message).WellFramed :=
  List.forall_mem_nil _
@[simp] theorem wellFramed_maintenance (s : String) : (maintenance s).WellFramed :=
  List.forall_mem_nil _
@[simp] theorem wellFramed_newline : newline.WellFramed := List.forall_mem_nil _
@[simp] theorem wellFramed_paragraphBreak : paragraphBreak.WellFramed := List.forall_mem_nil _

/-! ## Normal form -/

mutual

/-- Where frames are tidy, their pieces are all the pieces there are below the root. -/
theorem pieceLists_of_wellFramed (prose : Prose) (h : prose.WellFramed)
    (hfragment : ∀ inner, prose ≠ .fragment inner) : prose.pieceLists = prose.framePieces := by
  cases prose with
  | fragment pieces => exact absurd rfl (hfragment pieces)
  | framed frame pieces =>
    rw [WellFramed, framePieces] at h
    obtain ⟨htidy, hpieces⟩ := List.forall_mem_cons.mp h
    rw [pieceLists, framePieces, pieceListsOfAll_of_wellFramed pieces hpieces htidy.notFragment]
  | _ => simp [pieceLists, framePieces]

theorem pieceListsOfAll_of_wellFramed (pieces : List Prose)
    (h : ∀ inner ∈ framePiecesOfAll pieces, Tidy inner)
    (hfragment : ∀ inner, .fragment inner ∉ pieces) :
    pieceListsOfAll pieces = framePiecesOfAll pieces := by
  cases pieces with
  | nil => rfl
  | cons piece pieces =>
    rw [framePiecesOfAll] at h
    obtain ⟨hpiece, hpieces⟩ := List.forall_mem_append.mp h
    rw [pieceListsOfAll, framePiecesOfAll,
      pieceLists_of_wellFramed piece hpiece fun inner heq => hfragment inner (by simp [heq]),
      pieceListsOfAll_of_wellFramed pieces hpieces fun inner hmem =>
        hfragment inner (List.mem_cons_of_mem _ hmem)]

end

/-- Prose that is well framed is in normal form, if it is no fragment. -/
theorem isNormal_of_wellFramed {prose : Prose} (h : prose.WellFramed)
    (hfragment : ∀ inner, prose ≠ .fragment inner) : prose.IsNormal where
  tidy := by
    rw [pieceLists_of_wellFramed prose h hfragment]
    exact h
  several inner heq := absurd heq (hfragment inner)
  noEmptyText inner heq := absurd heq (hfragment inner)

theorem isNormal_empty : empty.IsNormal :=
  isNormal_of_wellFramed wellFramed_empty nofun

theorem isNormal_error (message : String) : (error message).IsNormal :=
  isNormal_of_wellFramed (wellFramed_error message) nofun

theorem isNormal_text (s : String) : (text s).IsNormal :=
  isNormal_of_wellFramed (wellFramed_text s) nofun

/-- A fragment is in normal form if it is tidy and has more than one piece. -/
theorem isNormal_fragment {pieces : List Prose} (htidy : Tidy pieces)
    (h : ∀ piece ∈ pieces, piece.WellFramed) (hseveral : 2 ≤ pieces.length)
    (htext : .text "" ∉ pieces) : (fragment pieces).IsNormal where
  tidy := by
    have hframes : ∀ inner ∈ framePiecesOfAll pieces, Tidy inner := by
      rw [framePiecesOfAll_eq_flatMap]
      exact forall_wellFramed.mp h
    rw [pieceLists, pieceListsOfAll_of_wellFramed pieces hframes htidy.notFragment]
    exact List.forall_mem_cons.mpr ⟨htidy, hframes⟩
  several inner heq := by
    cases heq
    exact hseveral
  noEmptyText inner heq := by
    cases heq
    exact htext

/-- The normal form of well framed pieces is in normal form all through. -/
theorem isNormal_concat {pieces : List Prose} (h : ∀ piece ∈ pieces, piece.WellFramed) :
    (concat pieces).IsNormal := by
  have hunits := isUnit_of_mem_unitsOfAll pieces
  have hjoined := isUnit_of_mem_joinTexts hunits
  have htidy := tidy_joinTexts hunits
  have hframed : ∀ unit ∈ joinTexts (unitsOfAll pieces), unit.WellFramed := by
    rw [forall_wellFramed] at h ⊢
    rwa [framePieces_isView.flatMap_joinTexts, framePieces_isView.flatMap_unitsOfAll]
  rw [concat]
  generalize joinTexts (unitsOfAll pieces) = units at hjoined htidy hframed ⊢
  rcases units with _ | ⟨unit, _ | ⟨second, rest⟩⟩
  · exact isNormal_empty
  · have hunit := List.mem_singleton_self unit
    refine isNormal_of_wellFramed (hframed unit hunit) ?_
    rintro inner rfl
    exact htidy.notFragment inner hunit
  · refine isNormal_fragment htidy hframed (by simp) ?_
    intro hmem
    exact hjoined _ hmem rfl

mutual

theorem framePieces_subset (prose : Prose) : prose.framePieces ⊆ prose.pieceLists := by
  cases prose with
  | fragment pieces =>
    rw [framePieces, pieceLists]
    exact List.subset_cons_of_subset _ (framePiecesOfAll_subset pieces)
  | framed frame pieces =>
    rw [framePieces, pieceLists]
    exact List.cons_subset_cons _ (framePiecesOfAll_subset pieces)
  | _ => simp [framePieces]

theorem framePiecesOfAll_subset (pieces : List Prose) :
    framePiecesOfAll pieces ⊆ pieceListsOfAll pieces := by
  cases pieces with
  | nil => simp [framePiecesOfAll]
  | cons piece pieces =>
    rw [framePiecesOfAll, pieceListsOfAll]
    exact List.append_subset.mpr
      ⟨List.subset_append_of_subset_left _ (framePieces_subset piece),
        List.subset_append_of_subset_right _ (framePiecesOfAll_subset pieces)⟩

end

namespace IsNormal

variable {prose : Prose}

/-- Prose in normal form is well framed. -/
theorem wellFramed (h : prose.IsNormal) : prose.WellFramed :=
  fun pieces hmem => h.tidy pieces (framePieces_subset prose hmem)

/-- The pieces of prose in normal form are tidy. -/
theorem tidy_pieces (h : prose.IsNormal) : Tidy prose.pieces := by
  cases prose with
  | empty => exact tidy_nil
  | fragment pieces => exact h.tidy pieces (by simp [pieceLists])
  | _ => exact tidy_singleton nofun nofun

/-- Prose in normal form may be put in a frame. -/
theorem wellFramed_framedIn (h : prose.IsNormal) (frame : Frame) :
    (framedIn frame prose).WellFramed := by
  refine wellFramed_framed h.tidy_pieces ?_
  rw [forall_wellFramed, framePieces_isView.flatMap_pieces]
  exact h.wellFramed

end IsNormal

end Prose

end GenreProse
