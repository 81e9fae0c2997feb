-- SUMMARY: Balanced brackets in markup, and what lies outside of all of them.
import GenreProse.Text.Basic

/-!
# Nesting

Template calls stand between doubled braces and links between doubled brackets. `balanced?` finds
the end of one that has just been opened. `splitTopLevel` cuts a text at the separators that lie
in no call, no link and no tag; joining the parts gives the text back.
-/

namespace GenreProse

namespace Markup

/-! ## Balanced brackets -/

/-- The text up to the doubled character `closing` that closes `depth` open brackets, and the text
    after it. Brackets opened on the way by the doubled character `opening` have to be closed
    first. -/
def balanced? (opening closing : Char) : Nat → Chars → Option (Chars × Chars)
  | depth, a :: b :: s =>
    if a = opening && b = opening then
      (balanced? opening closing (depth + 1) s).map fun (inner, rest) => (a :: b :: inner, rest)
    else if a = closing && b = closing then
      if depth ≤ 1 then some ([], s)
      else (balanced? opening closing (depth - 1) s).map fun (inner, rest) =>
        (a :: b :: inner, rest)
    else
      (balanced? opening closing depth (b :: s)).map fun (inner, rest) => (a :: inner, rest)
  | _, _ => none

/-! ## Top level -/

/-- Whether a tag may start with `<` before the character. -/
def opensTag (c : Char) : Bool :=
  isAsciiLetter c || c == '/'

/-- Whether the character is the `<` of a tag, which may be without an end. -/
def startsTag (c : Char) (rest : Chars) : Bool :=
  c = '<' && rest.head?.any opensTag

/-- How many template calls and links are open. -/
structure Nesting where
  calls : Nat
  links : Nat
  deriving DecidableEq, Repr

namespace Nesting

def top : Nesting :=
  ⟨0, 0⟩

def isTop (nesting : Nesting) : Bool :=
  nesting.calls == 0 && nesting.links == 0

/-- The token that starts with `c` and goes on with `rest`, if there is one: what is open after
    it, and how many characters it has after `c`. A tag counts only outside of calls and links,
    and only if it is closed. -/
def token? (nesting : Nesting) (c : Char) (rest : Chars) : Option (Nesting × Nat) :=
  let next := rest.head?
  if c = '{' && next = some '{' then some ({ nesting with calls := nesting.calls + 1 }, 1)
  else if c = '}' && next = some '}' && 0 < nesting.calls then
    some ({ nesting with calls := nesting.calls - 1 }, 1)
  else if c = '[' && next = some '[' then some ({ nesting with links := nesting.links + 1 }, 1)
  else if c = ']' && next = some ']' && 0 < nesting.links then
    some ({ nesting with links := nesting.links - 1 }, 1)
  else if nesting.isTop && startsTag c rest then
    (Chars.cutAt? (· == '>') rest).map fun (inner, _) => (nesting, inner.length + 1)
  else none

/-- Whether the text is cut at the character. The `<` of a tag without an end is no token, but no
    separator either. -/
def cutsAt (nesting : Nesting) (separator c : Char) (rest : Chars) : Bool :=
  c = separator && nesting.isTop && !startsTag c rest

end Nesting

/-- Adds a character to the first part. -/
def consFirst (c : Char) : List Chars → List Chars
  | [] => [[c]]
  | part :: parts => (c :: part) :: parts

/-- Cuts the text at the top-level occurrences of the separator. The second number counts the
    characters of the current token still to come. -/
def splitFrom (separator : Char) : Nesting → Nat → Chars → List Chars
  | _, _, [] => [[]]
  | nesting, k + 1, c :: s => consFirst c (splitFrom separator nesting k s)
  | nesting, 0, c :: s =>
    match nesting.token? c s with
    | some (nesting, k) => consFirst c (splitFrom separator nesting k s)
    | none =>
      if nesting.cutsAt separator c s then [] :: splitFrom separator nesting 0 s
      else consFirst c (splitFrom separator nesting 0 s)

/-- The parts of a text between the separators that lie in no call, no link and no tag. -/
def splitTopLevel (separator : Char) (s : Chars) : List Chars :=
  splitFrom separator .top 0 s

/-- The texts before and after the first top-level separator. -/
def cutTopLevel? (separator : Char) (s : Chars) : Option (Chars × Chars) :=
  match splitTopLevel separator s with
  | first :: next :: parts => some (first, [separator].intercalate (next :: parts))
  | _ => none

end Markup

end GenreProse
