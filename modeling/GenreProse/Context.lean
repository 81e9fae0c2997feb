-- SUMMARY: What a render knows about the world, and the links that depend on it.
import GenreProse.Calendar.Moment
import GenreProse.Prose.Basic
import GenreProse.Title

/-!
# Context

A render knows the wiki that links point to, the current time, and which pages are about a genre. All
templates of a render see the same context. How genres are found is not its concern: any look-up
may stand for them.
-/

namespace GenreProse

structure Context where
  /-- The article path of the wiki, if one is configured. -/
  baseUrl : Option String
  now : Moment
  /-- The genre of a page, by its title. -/
  genres : String → Option String

namespace Context

def articlePath (context : Context) : String :=
  context.baseUrl.getD Title.defaultBaseUrl

/-- The link to a page: to the genre, if the page is about one, and else to the wiki. Without a
    text the title is shown. -/
def link (context : Context) (target text : String) : Prose :=
  let title := Title.ofTarget target
  let text := if text = "" then target else text
  match context.genres title.name with
  | some genre => .genreLink genre text
  | none => .link title.fullText text (title.url context.articlePath)

end Context

end GenreProse
