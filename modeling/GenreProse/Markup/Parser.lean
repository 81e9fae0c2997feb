-- SUMMARY: Reading the tokens of the markup of descriptions.
import GenreProse.Markup.Token
import GenreProse.Markup.Nesting

/-!
# Reading tokens

A token is a template call, a link, a run of apostrophes, a run of line breaks, a comment, a tag,
or plain text up to the next character that may start one of these. Every token takes at least one
character, and whatever cannot be understood is text.
-/

namespace GenreProse

namespace Markup

/-! ## Template calls and links -/

/-- A parameter of a template call, as it stands between two bars. -/
def parseParameter (s : Chars) : Parameter :=
  match cutTopLevel? '=' s with
  | some (name, value) => ⟨some (String.ofList (Chars.trim name)), String.ofList value⟩
  | none => ⟨none, String.ofList s⟩

def parseTemplate (inner : Chars) : Node :=
  match splitTopLevel '|' inner with
  | [] => .template "" []
  | name :: parameters =>
    .template (String.ofList (Chars.trim name)) (parameters.map parseParameter)

/-- The namespaces whose links show nothing. -/
def hiddenNamespaces : List String :=
  ["file", "image", "category", "media"]

/-- The part of a title before its first colon, in small letters. -/
def namespace? (title : Chars) : Option String :=
  (Chars.cutAt? (· == ':') title).map fun (space, _) =>
    String.ofList ((Chars.trim space).map Char.toLower)

/-- Drops quote marks that would set a style. -/
def dropQuotes (s : Chars) : Chars :=
  Chars.replace ['\'', '\''] [] (Chars.replace ['\'', '\'', '\''] [] s)

/-- The link to a title with a text, and the letters directly after it, which belong to its text.
    Links to files and categories are dropped. -/
def linkTo? (title text trail : Chars) : Option Node :=
  let title := Chars.trim title
  if (namespace? title).any hiddenNamespaces.contains then none
  else
    let title := title.dropWhile (· == ':')
    let text := if (Chars.trim text).isEmpty then title else Chars.trim text
    some (.link
      (Entity.decode (String.ofList (dropQuotes text)) ++ String.ofList trail)
      (Entity.decode (String.ofList title)))

/-- The link with the given inside, and the letters directly after it. -/
def parseLink? (inner trail : Chars) : Option Node :=
  let (title, text) := (cutTopLevel? '|' inner).getD (inner, [])
  linkTo? title text trail

/-- Whether the text opens like the address of another site. -/
def isUrlStart (s : Chars) : Bool :=
  ["http://", "https://", "//"].any fun scheme => Chars.opensWith scheme.toList s

/-- The link to another site with the given inside: an address, and a text after a space. -/
def parseExtLink (inner : Chars) : Node :=
  let inner := Chars.trim inner
  let (url, text) := (Chars.cutAt? (· == ' ') inner).getD (inner, inner)
  .extLink (String.ofList (Chars.trim text)) (String.ofList url)

/-! ## Tags -/

structure Tag where
  /-- The name, in small letters. -/
  name : String
  isClosing : Bool
  isSelfClosing : Bool

/-- Whether the inside of a tag starts with a slash, and the text after it. -/
def Tag.cutSlash : Chars → Bool × Chars
  | '/' :: body => (true, body)
  | body => (false, body)

/-- Reads the inside of a tag. Its name starts with a letter. -/
def Tag.ofInner? (inner : Chars) : Option Tag :=
  let (isClosing, body) := cutSlash inner
  match body.takeWhile isAsciiAlphanumeric with
  | [] => none
  | c :: name =>
    if isAsciiLetter c then
      some ⟨String.ofList ((c :: name).map Char.toLower), isClosing,
        body.getLast? = some '/'⟩
    else none

/-- The container that a tag opens or closes. -/
def Container.ofTag? : String → Option Container
  | "b" => some .bold
  | "strong" => some .bold
  | "i" => some .italic
  | "em" => some .italic
  | "blockquote" => some .blockquote
  | "sup" => some .superscript
  | "sub" => some .subscript
  | "small" => some .small
  | _ => none

/-- The texts before and after the first occurrence of `closing`, when the case of ASCII letters
    is ignored. Without one all of the text is before it. -/
def cutClosing (closing : Chars) : Chars → Chars × Chars
  | [] => ([], [])
  | c :: s =>
    if sameIgnoringAsciiCase ((c :: s).take closing.length) closing then
      ([], (c :: s).drop closing.length)
    else
      let (inner, rest) := cutClosing closing s
      (c :: inner, rest)

/-- Reads what a tag stands for, given the text after it, and answers with the text that is left. A
    reference is dropped with what it holds, and what `nowiki` holds is text. -/
def Tag.read (tag : Tag) (rest : Chars) : Token × Chars :=
  let opens := !tag.isClosing && !tag.isSelfClosing
  let closing := ("</" ++ tag.name ++ ">").toList
  if tag.name = "br" then (.leaf .newline, rest)
  else if tag.name = "ref" && opens then (.hidden, (cutClosing closing rest).2)
  else if tag.name = "nowiki" && opens then
    let (inner, rest) := cutClosing closing rest
    (.leaf (.text (Entity.decode (String.ofList inner))), rest)
  else
    match Container.ofTag? tag.name with
    | none => (.hidden, rest)
    | some kind =>
      if tag.isClosing then (.closing kind, rest)
      else if tag.isSelfClosing then (.hidden, rest)
      else (.opening kind, rest)

/-! ## Tokens -/

/-- Whether a token other than plain text may start with the character. -/
def startsToken (c : Char) : Bool :=
  c == '{' || c == '[' || c == '\'' || c == '\n' || c == '<'

/-- Reads plain text: one character, and all up to the next that may start a token. -/
def readText (c : Char) (s : Chars) : Token × Chars :=
  (.text (c :: s.takeWhile (!startsToken ·)), s.dropWhile (!startsToken ·))

def readTemplate (s : Chars) : Token × Chars :=
  match balanced? '{' '}' 1 s with
  | some (inner, rest) => (.leaf (parseTemplate inner), rest)
  | none => (.text ['{', '{'], s)

def readLink (s : Chars) : Token × Chars :=
  match balanced? '[' ']' 1 s with
  | some (inner, rest) =>
    match parseLink? inner (rest.takeWhile Char.isLower) with
    | some node => (.leaf node, rest.dropWhile Char.isLower)
    | none => (.hidden, rest)
  | none => (.text ['[', '['], s)

/-- Reads a link to another site that has just been opened. -/
def readExtLink (s : Chars) : Token × Chars :=
  match Chars.cutAt? (· == ']') s with
  | some (inner, rest) => (.leaf (parseExtLink inner), rest)
  | none => (.text ['['], s)

/-- Reads a tag, given the text after its first bracket; what is not shaped like a tag is text. -/
def readTag (s : Chars) : Token × Chars :=
  match Chars.cutAt? (· == '>') s with
  | some (inner, rest) =>
    match Tag.ofInner? inner with
    | some tag => tag.read rest
    | none => readText '<' s
  | none => readText '<' s

/-- Reads the token that starts with `c` and goes on with `s`, and answers with the text that is
    left. A comment without an end takes all of it. -/
def readToken (c : Char) (s : Chars) : Token × Chars :=
  match c, s with
  | '{', '{' :: rest => readTemplate rest
  | '[', '[' :: rest => readLink rest
  | '[', rest => if isUrlStart rest then readExtLink rest else readText '[' rest
  | '\'', rest => (.quotes ((rest.takeWhile (· == '\'')).length + 1), rest.dropWhile (· == '\''))
  | '\n', rest => (.lines ((rest.takeWhile (· == '\n')).length + 1), rest.dropWhile (· == '\n'))
  | '<', rest =>
    if Chars.opensWith ['!', '-', '-'] rest then
      (.hidden, (Chars.cut? ['-', '-', '>'] rest).elim [] Prod.snd)
    else readTag rest
  | c, rest => readText c rest

end Markup

end GenreProse
