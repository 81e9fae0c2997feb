-- SUMMARY: Templates for links to other sites.
import GenreProse.Template.Eval

/-!
# Links to other sites

Links to other sites get a scheme if they have none.
-/

namespace GenreProse

namespace Template

def externalLink (url text : String) : Prose :=
  .framed (.extLink url) [.text text]

/-- The article path of the dictionary. -/
def wiktionaryBaseUrl : String :=
  "https://en.wiktionary.org/wiki/"

/-- A link to a word of the dictionary. -/
def wiktionaryLink (call : Call) : Prose :=
  match call.at? 1 with
  | none => .empty
  | some target =>
    let (word, fragment) := (Text.cut? target "#").getD (target, "")
    let page := wiktionaryBaseUrl ++ Percent.encode (Text.replace word " " "_")
    let url := if fragment = "" then page else page ++ "#" ++ Percent.encode fragment
    externalLink url ((call.at? 2).getD word)

/-- The address with a scheme. -/
def withScheme (address : String) : String :=
  if Text.opensWith address "//" then "https:" ++ address
  else if Text.contains address "://" || Text.opensWith address "mailto:" then address
  else "https://" ++ address

/-- The address as it is shown: without its scheme, and without a slash at the end if it has no
    other. -/
def shownAddress (address : String) : String :=
  let bare := ((Text.cut? address "://").map Prod.snd).getD address
  let bare := (Text.after? bare "//").getD bare
  match Text.before? bare "/" with
  | some host => if Text.contains host "/" then bare else host
  | none => bare

/-- A link to an address, with a text of its own if there is one. -/
def addressLink (call : Call) : Prose :=
  match call.at? 1 with
  | none => .empty
  | some address => externalLink (withScheme address) ((call.at? 2).getD (shownAddress address))

def officialWebsite (call : Call) : Prose :=
  match call.firstOf? ["1", "url", "URL"] with
  | none => .empty
  | some address =>
    externalLink (withScheme address) ((call.nonblank? "name").getD "Official website")

end Template

end GenreProse
