-- SUMMARY: Templates for styles, punctuation and short forms.
import GenreProse.Template.Eval

/-!
# Styles and punctuation

Styles wrap the evaluation of their argument, and punctuation is fixed text.
-/

namespace GenreProse

namespace Template

/-! ## Styles and punctuation -/

/-- The first argument in a style. -/
def inStyle (style : Style) : Handler :=
  .evaluating fun call => do
    return .styled style (← Eval.markup? (call.get? "1"))

def fixedText (text : String) : Handler :=
  .plain fun _ => .text text

/-- So many spaces that do not break, one by default and at most twenty. -/
def nonBreakingSpaces (call : Call) : Prose :=
  let count := ((call.integerAt? .unsigned64 1).getD 1).toNat
  .text (String.ofList (List.replicate (max 1 (min count 20)) '\u00a0'))

/-! ## Short forms -/

/-- An abbreviation with its meaning as hover text. -/
def abbreviation (call : Call) : Eval Prose := do
  let short ← Eval.markup? (call.get? "1")
  match call.at? 2 with
  | some long => return .tooltip long short
  | none => return short

/-- Letters after a name, small unless they are to have full size. -/
def postNominals (call : Call) : Outcome :=
  let separator := match call.raw? "sep" with
    | none => " "
    | some "" => " "
    | some separator => separator
  match call.items with
  | [] => .prose .empty
  | items =>
    let letters := Text.join separator items
    if call.get? "size" = some "100%" then .markup letters
    else .markup ("<small>" ++ letters ++ "</small>")

/-- The arguments next to each other. -/
def asWritten (call : Call) : Eval Prose :=
  Eval.markup (String.join call.items)

end Template

end GenreProse
