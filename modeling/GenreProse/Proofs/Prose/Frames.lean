-- SUMMARY: The frames anywhere in prose, with the addresses and the classes that they give it.
import GenreProse.Proofs.Prose.Units

/-!
# Frames

Putting pieces next to each other keeps all frames in them. So what is known of the frames in all
pieces is known of the frames in what they are put together to. One kind of frame leads away from
the wiki, and one kind may have a class. Handlers write a single class.
-/

namespace GenreProse

/-- The address that a frame leads to on another site. -/
def Frame.site? : Frame → Option String
  | .extLink url => some url
  | _ => none

/-- The class that a frame has besides its kind. -/
def Frame.cssClass? : Frame → Option String
  | .tooltip _ cssClass => cssClass
  | _ => none

/-- Whether a frame leads to an allowed address, if to any, and has no class but that of the keys
    to a transcription. -/
@[simp] def Frame.KeepsTo (allowed : String → Prop) : Frame → Prop
  | .extLink url => allowed url
  | .tooltip _ cssClass => ∀ name ∈ cssClass, name = "IPA-key"
  | _ => True

namespace Prose

mutual

/-- The frames anywhere in the prose, from outside in. -/
def frames : Prose → List Frame
  | .fragment pieces => framesOfAll pieces
  | .framed frame pieces => frame :: framesOfAll pieces
  | _ => []

def framesOfAll : List Prose → List Frame
  | [] => []
  | piece :: pieces => frames piece ++ framesOfAll pieces

end

theorem framesOfAll_eq_flatMap (pieces : List Prose) :
    framesOfAll pieces = pieces.flatMap frames := by
  induction pieces with
  | nil => rfl
  | cons piece pieces ih => rw [framesOfAll, ih, List.flatMap_cons]

/-- Frames are collected piece by piece, and texts have none. -/
theorem frames_isView : IsView frames where
  empty := rfl
  noText := rfl
  text _ _ := rfl
  fragment pieces := by rw [frames, framesOfAll_eq_flatMap]

theorem frames_framedIn (frame : Frame) (content : Prose) :
    frames (framedIn frame content) = frame :: frames content := by
  rw [framedIn, frames, framesOfAll_eq_flatMap, frames_isView.flatMap_pieces]

/-! ## Addresses and classes -/

mutual

/-- The addresses of the links to other sites anywhere in the prose, in order. -/
def sites : Prose → List String
  | .fragment pieces => sitesOfAll pieces
  | .framed frame pieces => frame.site?.toList ++ sitesOfAll pieces
  | _ => []

def sitesOfAll : List Prose → List String
  | [] => []
  | piece :: pieces => sites piece ++ sitesOfAll pieces

end

mutual

/-- An address is that of one of the frames. -/
theorem exists_of_mem_sites (prose : Prose) {url : String} (h : url ∈ prose.sites) :
    ∃ frame ∈ prose.frames, frame.site? = some url := by
  cases prose with
  | fragment pieces => exact exists_of_mem_sitesOfAll pieces h
  | framed frame pieces =>
    rcases List.mem_append.mp h with hframe | hpieces
    · exact ⟨frame, List.mem_cons_self, Option.mem_toList.mp hframe⟩
    · obtain ⟨inner, hinner, hurl⟩ := exists_of_mem_sitesOfAll pieces hpieces
      exact ⟨inner, List.mem_cons_of_mem _ hinner, hurl⟩
  | _ => cases h

theorem exists_of_mem_sitesOfAll (pieces : List Prose) {url : String}
    (h : url ∈ sitesOfAll pieces) : ∃ frame ∈ framesOfAll pieces, frame.site? = some url := by
  cases pieces with
  | nil => cases h
  | cons piece pieces =>
    rcases List.mem_append.mp h with hpiece | hpieces
    · obtain ⟨frame, hframe, hurl⟩ := exists_of_mem_sites piece hpiece
      exact ⟨frame, List.mem_append_left _ hframe, hurl⟩
    · obtain ⟨frame, hframe, hurl⟩ := exists_of_mem_sitesOfAll pieces hpieces
      exact ⟨frame, List.mem_append_right _ hframe, hurl⟩

end

/-- The classes of the frames anywhere in the prose. -/
def classes (prose : Prose) : List String :=
  prose.frames.filterMap Frame.cssClass?

/-! ## What frames keep to -/

/-- Whether all links of the prose to other sites go to allowed addresses, and no frame has a class
    but that of keys. -/
def KeepsTo (allowed : String → Prop) (prose : Prose) : Prop :=
  ∀ frame ∈ prose.frames, frame.KeepsTo allowed

variable {allowed : String → Prop}

/-- Links that keep to allowed addresses lead there. -/
theorem KeepsTo.site {prose : Prose} (h : prose.KeepsTo allowed) :
    ∀ url ∈ prose.sites, allowed url := by
  intro url hurl
  obtain ⟨frame, hframe, hsite⟩ := exists_of_mem_sites prose hurl
  have hkeeps := h frame hframe
  cases frame with
  | extLink address =>
    cases hsite
    exact hkeeps
  | _ => cases hsite

/-- Only keys of pronunciations have a class. -/
theorem KeepsTo.cssClass {prose : Prose} (h : prose.KeepsTo allowed) :
    ∀ name ∈ prose.classes, name = "IPA-key" := by
  intro name hname
  obtain ⟨frame, hframe, hclass⟩ := List.mem_filterMap.mp hname
  have hkeeps := h frame hframe
  cases frame with
  | tooltip title cssClass => exact hkeeps name hclass
  | _ => cases hclass

@[simp] theorem keepsTo_empty : KeepsTo allowed .empty :=
  List.forall_mem_nil _

@[simp] theorem keepsTo_text (s : String) : KeepsTo allowed (.text s) :=
  List.forall_mem_nil _

@[simp] theorem keepsTo_link (title text url : String) : KeepsTo allowed (.link title text url) :=
  List.forall_mem_nil _

@[simp] theorem keepsTo_genreLink (genre text : String) :
    KeepsTo allowed (.genreLink genre text) :=
  List.forall_mem_nil _

@[simp] theorem keepsTo_error (message : String) : KeepsTo allowed (.error message) :=
  List.forall_mem_nil _

@[simp] theorem keepsTo_maintenance (text : String) : KeepsTo allowed (.maintenance text) :=
  List.forall_mem_nil _

@[simp] theorem keepsTo_newline : KeepsTo allowed .newline :=
  List.forall_mem_nil _

@[simp] theorem keepsTo_concat {pieces : List Prose} :
    KeepsTo allowed (.concat pieces) ↔ ∀ piece ∈ pieces, KeepsTo allowed piece := by
  simp only [KeepsTo, frames_isView.concat, List.forall_mem_flatMap]

@[simp] theorem keepsTo_framedIn {frame : Frame} {content : Prose} :
    KeepsTo allowed (.framedIn frame content) ↔ frame.KeepsTo allowed ∧ KeepsTo allowed content := by
  simp only [KeepsTo, frames_framedIn, List.forall_mem_cons]

@[simp] theorem keepsTo_framed_text {frame : Frame} {s : String} :
    KeepsTo allowed (.framed frame [.text s]) ↔ frame.KeepsTo allowed := by
  simp [KeepsTo, frames, framesOfAll]

@[simp] theorem keepsTo_styled {style : Style} {content : Prose} :
    KeepsTo allowed (.styled style content) ↔ KeepsTo allowed content := by
  simp [styled]

@[simp] theorem keepsTo_tooltip {title : String} {content : Prose} :
    KeepsTo allowed (.tooltip title content) ↔ KeepsTo allowed content := by
  simp [tooltip]

end Prose

end GenreProse
