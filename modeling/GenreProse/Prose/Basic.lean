-- SUMMARY: Rendered descriptions, and the normal form of their pieces.
import GenreProse.Text.Basic

/-!
# Prose

Prose is a tree. Leaves are text, links inside the wiki, messages and breaks; a frame holds other
prose and gives it a style, a language, a hover text, a target, a time or a file. `concat` puts
pieces next to each other in normal form: nothing empty, no fragment inside, and no text directly
after text.
-/

namespace GenreProse

inductive Style where
  | bold
  | italic
  | small
  | superscript
  | subscript
  | blockquote
  | preformatted
  /-- Text that is not broken across lines. -/
  | nowrap
  /-- A phonetic transcription. -/
  | ipa
  deriving DecidableEq, Repr

/-- What a passage of prose is set in. -/
inductive Frame where
  | style (style : Style)
  /-- A passage in the language with the given code. -/
  | lang (code : String)
  /-- A passage with a hover text, and with a class for how it looks if it has one. -/
  | tooltip (title : String) (cssClass : Option String)
  /-- A link to another site. -/
  | extLink (url : String)
  /-- A date or time, with its value in the form of ISO 8601. -/
  | time (iso : String)
  /-- A sound file of the wiki. -/
  | audio (file : String)
  deriving DecidableEq, Repr

/-- A rendered description, or a piece of one. -/
inductive Prose where
  | empty
  | text (text : String)
  | fragment (pieces : List Prose)
  | framed (frame : Frame) (pieces : List Prose)
  /-- A link to a page that is not about a genre. -/
  | link (title text url : String)
  /-- A link to a genre. -/
  | genreLink (genre text : String)
  /-- A problem with a template call. -/
  | error (message : String)
  /-- A note of an editor, without its brackets. -/
  | maintenance (text : String)
  | newline
  | paragraphBreak
  deriving Repr, Inhabited

namespace Prose

/-! ## Normal form -/

mutual

/-- The pieces of prose that is not a fragment and not empty, in order. -/
def units : Prose → List Prose
  | .empty => []
  | .text s => if s = "" then [] else [.text s]
  | .fragment pieces => unitsOfAll pieces
  | piece => [piece]

/-- The units of several pieces. -/
def unitsOfAll : List Prose → List Prose
  | [] => []
  | piece :: pieces => units piece ++ unitsOfAll pieces

end

/-- Puts a unit before others; text joins text that follows it. -/
def consUnit : Prose → List Prose → List Prose
  | .text a, .text b :: units => .text (a ++ b) :: units
  | unit, units => unit :: units

/-- Joins each text with the texts directly after it. -/
def joinTexts (units : List Prose) : List Prose :=
  units.foldr consUnit []

/-- Prose of so many units: none are empty prose, and one is itself. -/
def ofUnits : List Prose → Prose
  | [] => .empty
  | [unit] => unit
  | units => .fragment units

/-- The pieces next to each other, in normal form. -/
def concat (pieces : List Prose) : Prose :=
  ofUnits (joinTexts (unitsOfAll pieces))

/-- The pieces that prose has when it is put into a frame. -/
def pieces : Prose → List Prose
  | .empty => []
  | .fragment pieces => pieces
  | piece => [piece]

/-- The prose in a frame. -/
def framedIn (frame : Frame) (content : Prose) : Prose :=
  .framed frame content.pieces

def styled (style : Style) (content : Prose) : Prose :=
  framedIn (.style style) content

def tooltip (title : String) (content : Prose) : Prose :=
  framedIn (.tooltip title none) content

mutual

/-- Whether the prose shows nothing. A frame always counts as something. -/
def isEmpty : Prose → Bool
  | .empty => true
  | .text s => s = ""
  | .fragment pieces => areEmpty pieces
  | _ => false

/-- Whether all of the pieces show nothing. -/
def areEmpty : List Prose → Bool
  | [] => true
  | piece :: pieces => isEmpty piece && areEmpty pieces

end

end Prose

end GenreProse
