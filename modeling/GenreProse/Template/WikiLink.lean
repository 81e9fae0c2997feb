-- SUMMARY: Templates for links to pages and sections of the wiki.
import GenreProse.Template.WebLink

/-!
# Links to the wiki

A link to a page of the wiki goes to the genre if the page is about one.
-/

namespace GenreProse

namespace Template

/-- The mark after a link that leads to the same page in another language. -/
def foreignMark (language title : String) : Prose :=
  let url := (Title.ofTarget title).url ("https://" ++ language ++ ".wikipedia.org/wiki/")
  .styled .superscript (.concat [.text "[", externalLink url language, .text "]"])

/-- A link to a page that may exist only in another language. A page about a genre always exists. -/
def interlanguageLink (context : Context) (call : Call) : Prose :=
  match call.at? 1 with
  | none => callError "Interlanguage link" "no title"
  | some title =>
    let link := context.link title ((call.nonblank? "lt").getD title)
    match link, call.at? 2 with
    | .link .., some language =>
      .concat [link, foreignMark language ((call.at? 3).getD title)]
    | _, _ => link

/-- A link to a section of a page, with further sections named after it. -/
def sectionLink (context : Context) (call : Call) : Prose :=
  let page := call.getD "1"
  let sections := (call.positional.drop 1).filter (· != "")
  match sections with
  | [] => callError "Section link" "no section"
  | first :: _ =>
    let text := Text.join ", " (sections.map fun name => "§\u00a0" ++ name)
    if page = "" then .text text
    else context.link (page ++ "#" ++ first) (page ++ " " ++ text)

end Template

end GenreProse
