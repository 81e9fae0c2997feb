-- SUMMARY: Prose without the addresses of its links to the wiki, and which operations look at them.
import GenreProse.Proofs.Prose.Units
import GenreProse.Prose.Plain

/-!
# Link targets

A link to a page of the wiki has the address of the page next to its title and text. Leaving the
addresses out changes neither the visible text nor the links to genres, and it commutes with all
that puts prose together: no operation on prose looks at an address.
-/

namespace GenreProse

namespace Prose

/-! ## Leaving addresses out -/

mutual

/-- The prose without the addresses of its links to the wiki. -/
def untargeted : Prose → Prose
  | .link title shown _ => .link title shown ""
  | .fragment pieces => .fragment (untargetedAll pieces)
  | .framed frame pieces => .framed frame (untargetedAll pieces)
  | piece => piece

def untargetedAll : List Prose → List Prose
  | [] => []
  | piece :: pieces => untargeted piece :: untargetedAll pieces

end

theorem untargetedAll_eq_map (pieces : List Prose) :
    untargetedAll pieces = pieces.map untargeted := by
  induction pieces with
  | nil => rfl
  | cons piece pieces ih => rw [untargetedAll, ih, List.map_cons]

mutual

/-- The units of prose without addresses are those of the prose, without addresses. -/
theorem units_untargeted (prose : Prose) :
    units prose.untargeted = (units prose).map untargeted := by
  cases prose with
  | text s => by_cases h : s = "" <;> simp [untargeted, units, h]
  | fragment pieces =>
    rw [untargeted, units, units]
    exact unitsOfAll_untargetedAll pieces
  | _ => rfl

theorem unitsOfAll_untargetedAll (pieces : List Prose) :
    unitsOfAll (untargetedAll pieces) = (unitsOfAll pieces).map untargeted := by
  cases pieces with
  | nil => rfl
  | cons piece pieces =>
    rw [untargetedAll, unitsOfAll, unitsOfAll, List.map_append, units_untargeted piece,
      unitsOfAll_untargetedAll pieces]

end

/-- A text stays a text and nothing else becomes one, so the same texts are joined. -/
theorem consUnit_untargeted (first : Prose) (rest : List Prose) :
    consUnit first.untargeted (rest.map untargeted) = (consUnit first rest).map untargeted := by
  cases first with
  | text s =>
    cases rest with
    | nil => rfl
    | cons second rest => cases second <;> rfl
  | _ => rfl

/-- Texts are joined the same way without addresses. -/
theorem joinTexts_untargeted (pieces : List Prose) :
    joinTexts (pieces.map untargeted) = (joinTexts pieces).map untargeted := by
  induction pieces with
  | nil => rfl
  | cons piece pieces ih =>
    rw [List.map_cons, joinTexts_cons, joinTexts_cons, ih, consUnit_untargeted]

/-- Units may be put together before or after the addresses are left out. -/
theorem untargeted_ofUnits (pieces : List Prose) :
    (ofUnits pieces).untargeted = ofUnits (pieces.map untargeted) := by
  match pieces with
  | [] => rfl
  | [piece] => rfl
  | first :: second :: rest => exact congrArg fragment (untargetedAll_eq_map _)

@[simp] theorem untargeted_concat (pieces : List Prose) :
    (concat pieces).untargeted = concat (pieces.map untargeted) := by
  rw [concat, untargeted_ofUnits, ← joinTexts_untargeted, ← unitsOfAll_untargetedAll,
    untargetedAll_eq_map, ← concat]

/-- The pieces of prose without addresses are its pieces, without addresses. -/
theorem pieces_untargeted (prose : Prose) :
    prose.untargeted.pieces = prose.pieces.map untargeted := by
  cases prose with
  | fragment pieces => exact untargetedAll_eq_map pieces
  | _ => rfl

@[simp] theorem untargeted_framedIn (frame : Frame) (content : Prose) :
    (framedIn frame content).untargeted = framedIn frame content.untargeted := by
  rw [framedIn, framedIn, untargeted, untargetedAll_eq_map, pieces_untargeted]

/-! ## What does not depend on addresses -/

mutual

theorem isEmpty_untargeted (prose : Prose) : prose.untargeted.isEmpty = prose.isEmpty := by
  cases prose with
  | fragment pieces =>
    rw [untargeted, isEmpty, isEmpty]
    exact areEmpty_untargetedAll pieces
  | _ => rfl

theorem areEmpty_untargetedAll (pieces : List Prose) :
    areEmpty (untargetedAll pieces) = areEmpty pieces := by
  cases pieces with
  | nil => rfl
  | cons piece pieces =>
    rw [untargetedAll, areEmpty, areEmpty, isEmpty_untargeted piece, areEmpty_untargetedAll pieces]

end

mutual

/-- The plain text does not depend on addresses. -/
theorem plainText_untargeted (prose : Prose) : prose.untargeted.plainText = prose.plainText := by
  cases prose with
  | fragment pieces | framed frame pieces =>
    rw [untargeted, plainText, plainText]
    exact plainTextOfAll_untargetedAll pieces
  | _ => rfl

theorem plainTextOfAll_untargetedAll (pieces : List Prose) :
    plainTextOfAll (untargetedAll pieces) = plainTextOfAll pieces := by
  cases pieces with
  | nil => rfl
  | cons piece pieces =>
    rw [untargetedAll, plainTextOfAll, plainTextOfAll, plainText_untargeted piece,
      plainTextOfAll_untargetedAll pieces]

end

mutual

/-- The links to genres in the prose, each with the genre and the text that is shown. -/
def genreLinks : Prose → List (String × String)
  | .genreLink genre shown => [(genre, shown)]
  | .fragment pieces => genreLinksOfAll pieces
  | .framed _ pieces => genreLinksOfAll pieces
  | _ => []

def genreLinksOfAll : List Prose → List (String × String)
  | [] => []
  | piece :: pieces => genreLinks piece ++ genreLinksOfAll pieces

end

mutual

/-- The links to genres do not depend on addresses. -/
theorem genreLinks_untargeted (prose : Prose) :
    prose.untargeted.genreLinks = prose.genreLinks := by
  cases prose with
  | fragment pieces | framed frame pieces =>
    rw [untargeted, genreLinks, genreLinks]
    exact genreLinksOfAll_untargetedAll pieces
  | _ => rfl

theorem genreLinksOfAll_untargetedAll (pieces : List Prose) :
    genreLinksOfAll (untargetedAll pieces) = genreLinksOfAll pieces := by
  cases pieces with
  | nil => rfl
  | cons piece pieces =>
    rw [untargetedAll, genreLinksOfAll, genreLinksOfAll, genreLinks_untargeted piece,
      genreLinksOfAll_untargetedAll pieces]

end

/-! ## Prose with the same links -/

/-- Whether two pieces of prose differ at most in the addresses of their links to the wiki. -/
def Agrees (prose prose' : Prose) : Prop :=
  prose.untargeted = prose'.untargeted

/-- Whether pieces agree one by one. -/
def AllAgree (pieces pieces' : List Prose) : Prop :=
  pieces.map untargeted = pieces'.map untargeted

namespace AllAgree

variable {pieces pieces' more more' : List Prose}

theorem refl (pieces : List Prose) : AllAgree pieces pieces :=
  rfl

theorem cons {piece piece' : Prose} (hpiece : piece.Agrees piece') (h : AllAgree pieces pieces') :
    AllAgree (piece :: pieces) (piece' :: pieces') := by
  rw [AllAgree, List.map_cons, List.map_cons, hpiece, h]

theorem append (h : AllAgree pieces pieces') (hmore : AllAgree more more') :
    AllAgree (pieces ++ more) (pieces' ++ more') := by
  rw [AllAgree, List.map_append, List.map_append, h, hmore]

/-- Separators keep the agreement. -/
theorem intersperse (h : AllAgree pieces pieces') (separator : Prose) :
    AllAgree (pieces.intersperse separator) (pieces'.intersperse separator) := by
  have hmap (pieces : List Prose) : (pieces.intersperse separator).map untargeted =
      (pieces.map untargeted).intersperse separator.untargeted := by
    fun_induction List.intersperse separator pieces with
    | case1 => rfl
    | case2 => rfl
    | case3 first rest hmore ih =>
      obtain ⟨second, rest, rfl⟩ := List.exists_cons_of_ne_nil hmore
      rw [List.map_cons, List.map_cons, ih]
      rfl
  rw [AllAgree, hmap, hmap, h]

end AllAgree

namespace Agrees

variable {prose prose' : Prose}

theorem refl (prose : Prose) : prose.Agrees prose :=
  rfl

theorem isEmpty_eq (h : prose.Agrees prose') : prose.isEmpty = prose'.isEmpty := by
  rw [← isEmpty_untargeted prose, h, isEmpty_untargeted]

theorem plainText_eq (h : prose.Agrees prose') : prose.plainText = prose'.plainText := by
  rw [← plainText_untargeted prose, h, plainText_untargeted]

theorem genreLinks_eq (h : prose.Agrees prose') : prose.genreLinks = prose'.genreLinks := by
  rw [← genreLinks_untargeted prose, h, genreLinks_untargeted]

/-- A frame around prose keeps the agreement. -/
theorem framedIn (h : prose.Agrees prose') (frame : Frame) :
    (Prose.framedIn frame prose).Agrees (Prose.framedIn frame prose') := by
  rw [Agrees, untargeted_framedIn, untargeted_framedIn, h]

theorem styledIf (h : prose.Agrees prose') (isStyled : Bool) (style : Style) :
    (if isStyled then styled style prose else prose).Agrees
      (if isStyled then styled style prose' else prose') := by
  cases isStyled with
  | false => exact h
  | true => exact h.framedIn _

/-- Joining prose keeps the agreement. -/
theorem concat {pieces pieces' : List Prose} (h : AllAgree pieces pieces') :
    (Prose.concat pieces).Agrees (Prose.concat pieces') := by
  rw [Agrees, untargeted_concat, untargeted_concat, h]

end Agrees

end Prose

end GenreProse
