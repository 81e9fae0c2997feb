-- SUMMARY: Romanization of Hangul, syllable by syllable.
import GenreProse.Hangul.Table
import GenreProse.Text.CaseMap

/-!
# Romanization

Every syllable is looked up by itself: letters are not taken apart, and sounds do not change
across syllables, so that `신라` becomes `sinra`. Characters outside of the table stay. Two signs
control the result and never appear in it: `^` at the start asks for a capital, and `-` separates
syllables.
-/

namespace GenreProse

namespace Hangul

inductive System where
  | revised
  | mcCuneReischauer
  deriving DecidableEq, Repr

def System.table : System → List (Char × String)
  | revised => revisedTable
  | mcCuneReischauer => mcCuneReischauerTable

/-- Whether the character only controls the result. -/
def isControl (c : Char) : Bool :=
  c == '^' || c == '-'

/-- The Latin letters of a syllable; any other character stays. -/
def romanizeChar (system : System) (c : Char) : Chars :=
  match system.table.lookup c with
  | some latin => latin.toList
  | none => [c]

/-- The text with its syllables romanized. -/
def romanize (system : System) (text : String) : String :=
  let cs := text.toList
  let latin := String.ofList
    ((cs.filter fun c => !isControl c).flatMap (romanizeChar system))
  if cs.head? = some '^' then Text.capitalize latin else latin

end Hangul

end GenreProse
