-- SUMMARY: Removal of the genre name that opens a description.
import GenreProse.Markup.Nesting
import GenreProse.Text.CaseFold

/-!
# Restatements

Under a heading with the name of a genre, a description that opens by stating the name again is
noise. The name may stand in a template call, in bold, or plainly, and `The` may precede it. Its
words are compared without regard to case, and blanks and hyphens between them are all the same.
-/

namespace GenreProse

namespace Restatement

/-! ## Occurrences of a name -/

/-- Whether the character separates the words of a name. -/
def isSeparator (c : Char) : Bool :=
  isBlank c || c == '-'

/-- The words of a name. -/
def wordsOf (name : String) : List Chars :=
  Chars.wordsAt isSeparator name.toList

/-- What follows a word that the text opens with, when case is ignored. -/
def afterWord? : Chars → Chars → Option Chars
  | [], s => some s
  | _ :: _, [] => none
  | w :: word, c :: s => if sameFolded w c then afterWord? word s else none

/-- What follows the words that the text opens with, with separators between each two. -/
def afterWords? : List Chars → Chars → Option Chars
  | [], s => some s
  | [word], s => afterWord? word s
  | word :: words, s =>
    match afterWord? word s with
    | none => none
    | some rest =>
      match rest.takeWhile isSeparator with
      | [] => none
      | _ :: _ => afterWords? words (rest.dropWhile isSeparator)

/-- Whether the words occur somewhere in the text. -/
def occurIn (words : List Chars) : Chars → Bool
  | [] => (afterWords? words []).isSome
  | c :: s => (afterWords? words (c :: s)).isSome || occurIn words s

/-! ## Restatements at the start of a description -/

/-- What follows the article `The` and the blanks after it. -/
def afterArticle? (s : Chars) : Option Chars :=
  match afterWord? "The".toList s with
  | none => none
  | some rest =>
    match rest.takeWhile isBlank with
    | [] => none
    | _ :: _ => some (Chars.trimStart rest)

/-- What follows a phrase that may come after an article. -/
def afterPhrase? (phrase : Chars → Option Chars) (s : Chars) : Option Chars :=
  ((afterArticle? s).bind phrase) <|> phrase s

/-- The marks around bold text. -/
def boldMark : Chars :=
  ['\'', '\'', '\'']

/-- What follows the name in bold. -/
def afterBold? (words : List Chars) (s : Chars) : Option Chars :=
  ((Chars.after? boldMark s).bind (afterWords? words)).bind (Chars.after? boldMark)

/-- The text without a template call that it opens with and that has the name in it. Blanks after
    the call go with it. -/
def stripCall? (words : List Chars) (s : Chars) : Option Chars :=
  match Chars.after? ['{', '{'] s with
  | none => none
  | some opened =>
    match Markup.balanced? '{' '}' 1 opened with
    | none => none
    | some (_, rest) =>
      if occurIn words (s.take (s.length - rest.length)) then some (Chars.trimStart rest) else none

/-- The text without the name in bold that it opens with. Blanks after the name go with it, and so
    does one comma with one space. -/
def stripBold? (words : List Chars) (s : Chars) : Option Chars :=
  (afterPhrase? (afterBold? words) s).map fun rest =>
    let rest := Chars.trimStart rest
    (Chars.after? [',', ' '] rest).getD rest

/-- The text without the plain name that it opens with, and without the blanks after it. -/
def stripPlain? (words : List Chars) (s : Chars) : Option Chars :=
  (afterPhrase? (afterWords? words) s).map Chars.trimStart

/-- The description without the restatement of the name that it opens with, if it opens with one.
    A template call is tried first, then the name in bold, then the plain name. -/
def strip (name description : String) : String :=
  let words := wordsOf name
  if words.isEmpty then description
  else
    let s := description.toList
    match stripCall? words s <|> stripBold? words s <|> stripPlain? words s with
    | some rest => String.ofList rest
    | none => description

end Restatement

end GenreProse
