-- SUMMARY: Templates of editors: inline notes, and furniture of pages that is not shown.
import GenreProse.Template.Eval

/-!
# Editors' notes

Inline notes of editors are shown in brackets. Banners, boxes and references belong to the page and
not to a description, and show nothing.
-/

namespace GenreProse

namespace Template

/-- Inline notes by the canonical names of their templates. -/
def notes : List (String × String) :=
  [
    ("citation_needed", "citation needed"), ("cn", "citation needed"),
    ("fact", "citation needed"), ("cite_needed", "citation needed"),
    ("full_citation_needed", "full citation needed"),
    ("better_source_needed", "better source needed"), ("better_source", "better source needed"),
    ("non-primary_source_needed", "non-primary source needed"),
    ("third-party_inline", "third-party source needed"),
    ("self-published_inline", "self-published source?"),
    ("unreliable_source?", "unreliable source?"),
    ("failed_verification", "failed verification"),
    ("verification_failed", "failed verification"), ("page_needed", "page needed"),
    ("year_needed", "year needed"), ("dead_link", "dead link"),
    ("irrelevant_citation", "irrelevant citation"), ("clarify", "clarification needed"),
    ("clarification_needed", "clarification needed"), ("vague", "vague"),
    ("specify", "specify"), ("examples_needed", "examples needed"),
    ("example_needed", "example needed"), ("when", "when?"), ("who", "who?"),
    ("which", "which?"), ("where", "where?"), ("why", "why?"), ("by_whom", "by whom?"),
    ("according_to_whom", "according to whom?"), ("dubious", "dubious – discuss"),
    ("disputed_inline", "disputed – discuss"),
    ("original_research_inline", "original research?"), ("or?", "original research?"),
    ("weasel_inline", "weasel words"), ("peacock_inline", "peacock prose"),
    ("pov_statement", "neutrality is disputed"), ("synthesis_inline", "improper synthesis?")
  ]

def note (call : Call) : Prose :=
  .maintenance ((notes.lookup call.template).getD "citation needed")

/-- A stretch of text with a note after it. -/
def notedSpan (call : Call) : Eval Prose := do
  let note :=
    if Text.opensWith call.template "clarify" then "clarification needed" else "citation needed"
  let text ← Eval.markup? (call.firstOf? ["text", "1"])
  return .concat [text, .maintenance note]

def hidden : Handler :=
  .plain fun _ => .empty

/-- The canonical names of templates that are not shown. -/
def hiddenNames : List String :=
  [
    "short_description", "use_dmy_dates", "use_mdy_dates", "use_british_english",
    "use_american_english", "engvarb", "italic_title", "displaytitle", "good_article",
    "featured_article", "pp-semi-indef", "pp-protected", "toc_limit", "toc_right", "clear", "-",
    "anchor", "multiple_issues", "more_citations_needed", "refimprove", "unreferenced",
    "original_research", "cleanup", "copy_edit", "update", "expand_section", "infobox",
    "infobox_music_genre", "infobox_musical_artist", "reflist", "refn", "efn", "sfn", "sfnp",
    "harvnb", "notelist", "cite_web", "cite_book", "cite_news", "cite_journal", "cite_magazine",
    "cite_av_media", "main", "main_article", "see_also", "further", "about", "redirect",
    "distinguish", "other_uses", "for", "authority_control", "portal", "portal_bar",
    "commons_category", "stub", "music-genre-stub", "rock-music-genre-stub",
    "hiphop-genre-stub", "electronic-music-genre-stub", "pop-music-genre-stub",
    "jazz-genre-stub", "metal-genre-stub", "folk-music-stub", "dance-music-stub", "music-stub"
  ]

end Template

end GenreProse
