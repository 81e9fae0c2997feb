-- SUMMARY: The tokens of markup, and what each does to the nodes under way.
import GenreProse.Markup.Builder

/-!
# Tokens

A parse reads markup as tokens and applies them to a builder one after another. What a token is
does not depend on the styles that are open; what an apostrophe or a line break does, does.
-/

namespace GenreProse

namespace Markup

/-- A token of markup. -/
inductive Token where
  /-- Plain text, not decoded yet. -/
  | text (text : Chars)
  /-- A template call, a link, a forced line break, or text that is no markup. -/
  | leaf (node : Node)
  /-- A run of apostrophes. -/
  | quotes (count : Nat)
  /-- A run of line breaks. -/
  | lines (count : Nat)
  /-- A tag that opens a container. -/
  | opening (kind : Container)
  /-- A tag that closes a container. -/
  | closing (kind : Container)
  /-- What shows nothing: a comment, a reference, a link to a file, a tag without a meaning. -/
  | hidden
  deriving Repr

/-! ## Apostrophes -/

/-- What a run of apostrophes means. -/
structure Quotes where
  /-- How many stand for themselves. -/
  literal : Nat
  bold : Bool
  italic : Bool
  deriving DecidableEq, Repr

/-- Two apostrophes set italics, three set bold, five set both. One too many stands for itself,
    and so do all above five. -/
def Quotes.ofLength : Nat → Quotes
  | 0 => ⟨0, false, false⟩
  | 1 => ⟨1, false, false⟩
  | 2 => ⟨0, false, true⟩
  | 3 => ⟨0, true, false⟩
  | 4 => ⟨1, true, false⟩
  | n + 5 => ⟨n, true, true⟩

/-- Applies a run of apostrophes. Where both styles change, an innermost italic is closed before
    the bold, and else the bold comes first. -/
def applyQuotes (builder : Builder) (count : Nat) : Builder :=
  let quotes := Quotes.ofLength count
  let builder := builder.write (List.replicate quotes.literal '\'')
  match quotes.bold, quotes.italic with
  | true, true =>
    if builder.frames.head?.any (fun frame => frame.1 = .italic) then
      (builder.toggle .italic).toggle .bold
    else (builder.toggle .bold).toggle .italic
  | true, false => builder.toggle .bold
  | false, true => builder.toggle .italic
  | false, false => builder

/-! ## All tokens -/

def Token.apply (builder : Builder) : Token → Builder
  | text s => builder.write s
  | leaf node => builder.push node
  | quotes count => applyQuotes builder count
  | lines count =>
    if 1 < count then builder.endLine.push .paragraphBreak else builder.endLine.write ['\n']
  | opening kind => builder.enter kind
  | closing kind => builder.close kind
  | hidden => builder

end Markup

end GenreProse
