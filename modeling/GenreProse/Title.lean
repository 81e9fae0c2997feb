-- SUMMARY: Page titles and their normal form.
import GenreProse.Text.CaseMap
import GenreProse.Text.Compose
import GenreProse.Text.Entity
import GenreProse.Text.Percent

/-!
# Titles

A link names a page, and after `#` a section of it. Both parts are normalised: references are
decoded, characters composed, and runs of blanks, underscores and direction marks become one
space or vanish. The page name starts with a capital.
-/

namespace GenreProse

/-- A page name and a section of the page. -/
structure Title where
  name : String
  fragment : Option String
  deriving DecidableEq, Repr

namespace Title

/-- The article path used when none is configured. -/
def defaultBaseUrl : String :=
  "https://en.wikipedia.org/wiki/"

/-! ## Normal form -/

/-- Whether the character only controls the direction of text. -/
def isDirectionMark (c : Char) : Bool :=
  ('\u200e' ≤ c && c ≤ '\u200f') || ('\u202a' ≤ c && c ≤ '\u202e')

/-- Whether the character separates words of a title. -/
def isSeparator (c : Char) : Bool :=
  c == '_' || isBlank c

/-- Whether the character is dropped at either end of a title. -/
def isTrimmed (c : Char) : Bool :=
  isDirectionMark c || isSeparator c

/-- A run of trimmed characters that is being passed over. -/
structure Run where
  /-- The character that the run starts with. -/
  first : Char
  /-- Whether the run is the start of the text. -/
  opening : Bool

/-- What a run between two other characters is replaced by. -/
def Run.replacement (run : Run) : Chars :=
  if !run.opening && isSeparator run.first then [' '] else []

/-- Whether a run that has to be replaced starts here: any run but a single space. -/
def startsRun (c : Char) (rest : Chars) : Bool :=
  isTrimmed c && (c != ' ' || (rest.head?.map isTrimmed).getD false)

/-- Replaces the runs of a text, and says whether there was one. A run at the very end is
    dropped and does not count. -/
def collapseRuns : Option Run → Bool → Chars → Bool × Chars
  | _, _, [] => (false, [])
  | some run, _, c :: s =>
    if isTrimmed c then collapseRuns (some run) false s
    else (true, run.replacement ++ c :: (collapseRuns none false s).2)
  | none, opening, c :: s =>
    if startsRun c s then collapseRuns (some ⟨c, opening⟩) false s
    else
      let (replaced, rest) := collapseRuns none false s
      (replaced, c :: rest)

/-- Trims a text and replaces its runs. A single space at the start is kept when some run is
    replaced. -/
def tidy (s : Chars) : Chars :=
  let (replaced, rest) := collapseRuns none true s
  if replaced then Chars.dropEndWhile isTrimmed rest else Chars.trimBy isTrimmed s

/-- The normal form of a part of a title. -/
def normalize (s : String) : String :=
  Text.onChars (fun cs => tidy (compose cs)) (Entity.decode s)

/-! ## Titles of link targets -/

/-- The title that a link target names. Colons at the start are dropped. -/
def ofTarget (target : String) : Title :=
  let target := target.toList.dropWhile (· == ':')
  let (name, fragment) := match Chars.cutAt? (· == '#') target with
    | some (name, fragment) => (name, some fragment)
    | none => (target, none)
  { name := Text.capitalize (normalize (String.ofList name))
    fragment := (fragment.map fun f => normalize (String.ofList f)).filter (· != "") }

def fullText (title : Title) : String :=
  match title.fragment with
  | some fragment => title.name ++ "#" ++ fragment
  | none => title.name

/-- A part of an address: spaces become underscores, and the rest is percent-encoded. -/
def encodePart (s : String) : String :=
  Percent.encode (Text.replace s " " "_")

/-- The address of the page on the wiki with the given article path. -/
def url (title : Title) (base : String) : String :=
  let base := if Text.closesWith base "/" then base else base ++ "/"
  let page := base ++ encodePart title.name
  match title.fragment with
  | some fragment => page ++ "#" ++ encodePart fragment
  | none => page

end Title

end GenreProse
