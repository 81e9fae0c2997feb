-- SUMMARY: Prose as HTML.
import GenreProse.Prose.Basic
import GenreProse.Text.Entity

/-!
# HTML

Each frame is one element around its pieces, and each leaf is text or one element. All text is
escaped, and so are the attribute values that come from strings. A class is written as it is.
-/

namespace GenreProse

inductive Attribute where
  /-- A value that is written as it is. -/
  | verbatim (key value : String)
  /-- A string, which is escaped. -/
  | escaped (key value : String)
  deriving DecidableEq, Repr

namespace Attribute

def key : Attribute → String
  | verbatim key _ => key
  | escaped key _ => key

/-- The value between its quotation marks. -/
def written : Attribute → String
  | verbatim _ value => value
  | escaped _ value => Entity.escapeAttribute value

def html (entry : Attribute) : String :=
  " " ++ entry.key ++ "=\"" ++ entry.written ++ "\""

end Attribute

/-- An HTML element: its name and its attributes. -/
structure Element where
  name : String
  attributes : List Attribute
  deriving DecidableEq, Repr

namespace Element

def opening (element : Element) : String :=
  "<" ++ element.name ++ String.join (element.attributes.map Attribute.html) ++ ">"

def closing (element : Element) : String :=
  "</" ++ element.name ++ ">"

def around (element : Element) (content : String) : String :=
  element.opening ++ content ++ element.closing

end Element

def Style.element : Style → Element
  | bold => ⟨"b", []⟩
  | italic => ⟨"i", []⟩
  | small => ⟨"small", []⟩
  | superscript => ⟨"sup", []⟩
  | subscript => ⟨"sub", []⟩
  | blockquote => ⟨"blockquote", []⟩
  | preformatted => ⟨"pre", []⟩
  | nowrap => ⟨"span", [.verbatim "class" "nowrap"]⟩
  | ipa => ⟨"span", [.verbatim "class" "IPA"]⟩

def Frame.element : Frame → Element
  | style s => s.element
  | lang code => ⟨"span", [.escaped "lang" code]⟩
  | tooltip title cssClass =>
    ⟨"abbr", .escaped "title" title :: cssClass.toList.map (.verbatim "class")⟩
  | extLink url =>
    ⟨"a", [.verbatim "class" "external", .verbatim "rel" "nofollow", .escaped "href" url]⟩
  | time iso => ⟨"time", [.escaped "datetime" iso]⟩
  | audio file => ⟨"span", [.verbatim "class" "audio", .escaped "data-file" file]⟩

namespace Prose

def linkElement (title url : String) : Element :=
  ⟨"a", [.verbatim "class" "wiki", .escaped "href" url, .escaped "title" title]⟩

def genreElement (genre : String) : Element :=
  ⟨"a", [.verbatim "class" "genre", .escaped "data-genre" genre]⟩

def errorElement : Element :=
  ⟨"span", [.verbatim "class" "error"]⟩

/-- The element of an editor's note, around its brackets. -/
def maintenanceElement : Element :=
  ⟨"sup", [.verbatim "class" "maintenance"]⟩

mutual

def html : Prose → String
  | .empty => ""
  | .text s => Entity.escape s
  | .fragment pieces => htmlOfAll pieces
  | .framed frame pieces => frame.element.around (htmlOfAll pieces)
  | .link title s url => (linkElement title url).around (Entity.escape s)
  | .genreLink genre s => (genreElement genre).around (Entity.escape s)
  | .error message => errorElement.around (Entity.escape message)
  | .maintenance s =>
    maintenanceElement.around ("[" ++ Style.italic.element.around (Entity.escape s) ++ "]")
  | .newline => "<br>"
  | .paragraphBreak => "<br><br>"

def htmlOfAll : List Prose → String
  | [] => ""
  | piece :: pieces => html piece ++ htmlOfAll pieces

end

end Prose

end GenreProse
