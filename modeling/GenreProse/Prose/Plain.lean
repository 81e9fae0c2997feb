-- SUMMARY: The visible text of prose.
import GenreProse.Prose.Basic

/-!
# Plain text

The text of all pieces in order. Editors' notes stand in brackets, and a paragraph break is two
line breaks.
-/

namespace GenreProse

namespace Prose

mutual

def plainText : Prose → String
  | .empty => ""
  | .text s => s
  | .fragment pieces => plainTextOfAll pieces
  | .framed _ pieces => plainTextOfAll pieces
  | .link _ s _ => s
  | .genreLink _ s => s
  | .error message => message
  | .maintenance s => "[" ++ s ++ "]"
  | .newline => "\n"
  | .paragraphBreak => "\n\n"

def plainTextOfAll : List Prose → String
  | [] => ""
  | piece :: pieces => plainText piece ++ plainTextOfAll pieces

end

end Prose

end GenreProse
