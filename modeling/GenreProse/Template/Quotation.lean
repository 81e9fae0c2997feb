-- SUMMARY: Templates for quotations and for errors in quoted text.
import GenreProse.Template.Eval

/-!
# Quotations

A quotation may name its author and source. Text that is quoted with an error in it gets a mark.
-/

namespace GenreProse

namespace Template

/-- Where a quotation is from: the author, the source, or both. -/
def citation? (author source : Option String) : Option String :=
  match author, source with
  | some author, some source => some (author ++ ", " ++ source)
  | some author, none => some author
  | none, source => source

/-- A block quotation, with its author and source on a line of their own. -/
def quote (call : Call) : Eval Prose := do
  let text ← Eval.markup? (call.firstOf? ["text", "quote", "1"])
  let author := call.firstOf? ["author", "sign", "2"]
  let source := call.firstOf? ["source", "title", "3"]
  match citation? author source with
  | none => return .styled .blockquote (.concat [text])
  | some cite =>
    let cite ← Eval.markup cite
    return .styled .blockquote (.concat [text, .newline, .text "— ", cite])

def sicMark : Prose :=
  .concat [.text "[", .styled .italic (.text "sic"), .text "]"]

/-- Text with the mark for an error, unless the mark is hidden. -/
def sic (call : Call) : Eval Prose := do
  let text ← Eval.markup (call.getD "1" ++ call.getD "2")
  if call.flag "hide" then return text
  else if text.isEmpty then return sicMark
  else return .concat [text, .text " ", sicMark]

end Template

end GenreProse
