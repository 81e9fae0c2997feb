-- SUMMARY: Templates for lists on one line or on several.
import GenreProse.Template.Eval

/-!
# Lists

The items of a list are evaluated in order, with a separator between each two. They are arguments,
or the bulleted lines of one argument.
-/

namespace GenreProse

namespace Template

/-- The items evaluated, with a separator between each two. -/
def separated (separator : Prose) (items : List String) : Eval Prose := do
  let pieces ← Eval.markups items
  return .concat (pieces.intersperse separator)

def listItems (list : String) : List String :=
  ((Text.splitOn list '\n').map fun line =>
    Text.onChars (fun s => Chars.trim (s.dropWhile fun c => c == '*' || c == '#')) line).filter
      (· != "")

/-- What stands between items on one line. -/
def middleDot : Prose :=
  .text " · "

def argumentList (separator : Prose) : Handler :=
  .evaluating fun call => separated separator call.items

/-- A list of the bulleted lines of the first argument. -/
def bulletedList (separator : Prose) : Handler :=
  .evaluating fun call => separated separator (listItems (call.getD "1"))

end Template

end GenreProse
