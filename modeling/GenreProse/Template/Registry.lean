-- SUMMARY: The templates that are known, by all their names.
import GenreProse.Template.Age
import GenreProse.Template.Conversion
import GenreProse.Template.EastAsian
import GenreProse.Template.EditorNote
import GenreProse.Template.ItemList
import GenreProse.Template.Name
import GenreProse.Template.Numeral
import GenreProse.Template.Period
import GenreProse.Template.Pronunciation
import GenreProse.Template.Quotation
import GenreProse.Template.Sound
import GenreProse.Template.Style
import GenreProse.Template.WikiLink

/-!
# Known templates

Only templates that occur in descriptions of genres are known. All names here are canonical, and no
name stands for two templates.
-/

namespace GenreProse

namespace Template

/-! ## Families -/

def dateTemplates : List (List String × Handler) :=
  [
    (["age", "age_in_years"], .dated age),
    (["birth_date", "dob", "death_date", "start_date", "end_date", "release_date"],
      .plain singleDate),
    (["birth_date_and_age", "bda", "birth-date_and_age"], .dated birthDateAndAge),
    (["death_date_and_age", "dda"], .plain deathDateAndAge),
    (["birth_year_and_age", "bya"], .dated birthYearAndAge),
    (["death_year_and_age"], .plain deathYearAndAge),
    (["start_date_and_age", "start_date_and_years_ago"], .dated startDateAndAge),
    (["birth_based_on_age_as_of_date", "bbad"], .dated birthFromAge),
    (["time_ago", "timeago"], .dated timeAgo),
    (["as_of", "asof"], .plain asOf),
    (["circa", "c."], .plain circa),
    (["floruit", "fl."], .plain floruit),
    (["decade"], .plain decade),
    (["current_year", "currentyear"], .dated currentYear)
  ]

/-- Templates for languages, apart from those that have a language in their name. -/
def languageTemplates : List (List String × Handler) :=
  [
    (["nihongo"], .expanding nihongo),
    (["nihongo2"], .expanding nihongoText),
    (["nihongo3"], .expanding nihongoRomanized),
    (["nihongo_foot"], .expanding nihongoFootnote),
    (["lang"], .evaluating inLanguage),
    (["langx"], .expanding languageText),
    (["langnf"], .expanding languageOrigin),
    (["zh"], .expanding chinese),
    (["korean"], .expanding (korean false)),
    (["korean/auto"], .expanding (korean true)),
    (["etymology", "ety"], .expanding etymology),
    (["post-nominals", "postnominals"], .expanding postNominals),
    (["transl", "transliteration", "translit"], .expanding transliteration),
    (["lit", "literally", "lit."], .expanding literally),
    (["gloss"], .expanding gloss),
    (["ipa"], .plain transcription),
    (["ipac-en", "ipac"], .plain englishPronunciation)
  ]

/-- The templates that have a language in their name. -/
def namedLanguageTemplates : List (List String × Handler) :=
  languages.flatMap fun (code, _) =>
    [(["lang-" ++ code], .expanding languageText), (["ipa-" ++ code], .plain transcription)]

def linkTemplates : List (List String × Handler) :=
  [
    (["ill", "interlanguage_link", "interlanguage_link_multi"], .linked interlanguageLink),
    (["section_link", "slink"], .linked sectionLink),
    (["wikt", "wiktionary"], .plain wiktionaryLink),
    (["url"], .plain addressLink),
    (["official_website", "official"], .plain officialWebsite)
  ]

def numberTemplates : List (List String × Handler) :=
  [
    (["convert", "cvt"], .plain conversion),
    (["ordinal"], .plain ordinalNumber),
    (["frac", "fraction"], .plain fraction),
    (["val"], .evaluating measuredValue),
    (["us$", "usd"], .linked dollars),
    (["number_to_word", "spellnum"], .plain numberInWords)
  ]

def mediaTemplates : List (List String × Handler) :=
  [
    (["audio"], audio),
    (["listen"], listen),
    (["music", "flat", "sharp", "natural"], .plain musicSymbol)
  ]

def maintenanceTemplates : List (List String × Handler) :=
  [
    (notes.map Prod.fst, .plain note),
    (["citation_needed_span", "cns", "clarify_span"], .evaluating notedSpan),
    (hiddenNames, hidden)
  ]

/-- Templates for styles, punctuation, lists and quotations. -/
def typographyTemplates : List (List String × Handler) :=
  [
    (["nowrap", "nobr"], inStyle .nowrap),
    (["small"], inStyle .small),
    (["strong"], inStyle .bold),
    (["em"], inStyle .italic),
    (["nbsp"], .plain nonBreakingSpaces),
    (["ndash", "en_dash"], fixedText "–"),
    (["mdash", "em_dash"], fixedText "—"),
    (["snd", "spaced_ndash", "spnd", "dash"], fixedText "\u00a0– "),
    (["middot", "·", "dot"], fixedText "\u00a0· "),
    (["bull", "bullet", "•"], fixedText "\u00a0• "),
    (["!"], fixedText "|"),
    (["="], fixedText "="),
    (["'"], fixedText "'"),
    (["hlist"], argumentList middleDot),
    (["flatlist"], bulletedList middleDot),
    (["plainlist"], bulletedList .newline),
    (["unbulleted_list", "ubl"], argumentList .newline),
    (["quote", "blockquote", "quotation"], .evaluating quote),
    (["abbr", "tooltip", "abbreviation"], .evaluating abbreviation),
    (["sic"], .evaluating sic),
    (["not_a_typo", "proper_name"], .evaluating asWritten)
  ]

/-! ## Look-up -/

def known : List (List String × Handler) :=
  dateTemplates ++ languageTemplates ++ linkTemplates ++ numberTemplates ++ mediaTemplates
    ++ maintenanceTemplates ++ typographyTemplates ++ namedLanguageTemplates

/-- The handler of the template with a canonical name. -/
def find? (name : String) : Option Handler :=
  (known.find? fun (names, _) => names.contains name).map Prod.snd

def isKnown (name : String) : Bool :=
  (find? (canonicalName name)).isSome

end Template

end GenreProse
