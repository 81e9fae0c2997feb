-- SUMMARY: Prose as JSON.
import GenreProse.Json.Basic
import GenreProse.Prose.Basic

/-!
# The JSON form of prose

Every piece is an object whose first member `type` names its kind. A frame has its own members
before its `children`.
-/

namespace GenreProse

def Style.label : Style → String
  | bold => "bold"
  | italic => "italic"
  | small => "small"
  | superscript => "superscript"
  | subscript => "subscript"
  | blockquote => "blockquote"
  | preformatted => "preformatted"
  | nowrap => "nowrap"
  | ipa => "ipa"

/-- The kind of a frame. -/
def Frame.label : Frame → String
  | style _ => "styled"
  | lang _ => "lang"
  | tooltip _ _ => "tooltip"
  | extLink _ => "ext_link"
  | time _ => "time"
  | audio _ => "audio"

/-- The members that a frame has of its own. -/
def Frame.members : Frame → List (String × Json)
  | style s => [("style", .string s.label)]
  | lang code => [("code", .string code)]
  | tooltip title cssClass =>
    ("title", .string title) :: cssClass.toList.map fun name => ("class", .string name)
  | extLink url => [("url", .string url)]
  | time iso => [("iso", .string iso)]
  | audio file => [("file", .string file)]

namespace Prose

/-- An object of the given kind. -/
def tagged (kind : String) (members : List (String × Json)) : Json :=
  .object (("type", .string kind) :: members)

mutual

def toJson : Prose → Json
  | .empty => tagged "empty" []
  | .text s => tagged "text" [("text", .string s)]
  | .fragment pieces => tagged "fragment" [("children", .array (listToJson pieces))]
  | .framed frame pieces =>
    tagged frame.label (frame.members ++ [("children", .array (listToJson pieces))])
  | .link title s url =>
    tagged "link" [("title", .string title), ("text", .string s), ("url", .string url)]
  | .genreLink genre s => tagged "genre_link" [("genre", .string genre), ("text", .string s)]
  | .error message => tagged "error" [("message", .string message)]
  | .maintenance s => tagged "maintenance" [("text", .string s)]
  | .newline => tagged "newline" []
  | .paragraphBreak => tagged "paragraph_break" []

def listToJson : List Prose → List Json
  | [] => []
  | piece :: pieces => toJson piece :: listToJson pieces

end

end Prose

end GenreProse
