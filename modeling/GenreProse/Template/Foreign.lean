-- SUMMARY: Templates for text in other languages, with transliterations and meanings.
import GenreProse.Template.Eval
import GenreProse.Text.Letter

/-!
# Foreign text

Most of these templates only arrange their arguments in a sentence, so they write new markup with
calls of simpler templates in it. Text in a language is set in a frame with the code of the
language, and in italics if its script is Latin.
-/

namespace GenreProse

namespace Template

/-! ## Languages -/

/-- English names of languages by their codes. -/
def languages : List (String × String) :=
  [
    ("af", "Afrikaans"), ("am", "Amharic"), ("ar", "Arabic"), ("az", "Azerbaijani"),
    ("be", "Belarusian"), ("bg", "Bulgarian"), ("bn", "Bengali"), ("bs", "Bosnian"),
    ("ca", "Catalan"), ("cs", "Czech"), ("cy", "Welsh"), ("da", "Danish"), ("de", "German"),
    ("el", "Greek"), ("en", "English"), ("eo", "Esperanto"), ("es", "Spanish"),
    ("et", "Estonian"), ("eu", "Basque"), ("fa", "Persian"), ("fi", "Finnish"),
    ("fil", "Filipino"), ("fr", "French"), ("ga", "Irish"), ("gd", "Scottish Gaelic"),
    ("gl", "Galician"), ("grc", "Ancient Greek"), ("gu", "Gujarati"), ("he", "Hebrew"),
    ("hi", "Hindi"), ("hr", "Croatian"), ("ht", "Haitian Creole"), ("hu", "Hungarian"),
    ("hy", "Armenian"), ("id", "Indonesian"), ("ig", "Igbo"), ("is", "Icelandic"),
    ("it", "Italian"), ("ja", "Japanese"), ("jam", "Jamaican Patois"), ("jv", "Javanese"),
    ("ka", "Georgian"), ("kk", "Kazakh"), ("km", "Khmer"), ("ko", "Korean"), ("ku", "Kurdish"),
    ("la", "Latin"), ("lb", "Luxembourgish"), ("ln", "Lingala"), ("lt", "Lithuanian"),
    ("lv", "Latvian"), ("mk", "Macedonian"), ("ml", "Malayalam"), ("mn", "Mongolian"),
    ("mr", "Marathi"), ("ms", "Malay"), ("mt", "Maltese"), ("my", "Burmese"), ("ne", "Nepali"),
    ("nl", "Dutch"), ("no", "Norwegian"), ("pa", "Punjabi"), ("pl", "Polish"),
    ("pt", "Portuguese"), ("qu", "Quechua"), ("ro", "Romanian"), ("ru", "Russian"),
    ("sa", "Sanskrit"), ("sk", "Slovak"), ("sl", "Slovene"), ("so", "Somali"),
    ("sq", "Albanian"), ("sr", "Serbian"), ("sv", "Swedish"), ("sw", "Swahili"),
    ("ta", "Tamil"), ("te", "Telugu"), ("th", "Thai"), ("tl", "Tagalog"), ("tr", "Turkish"),
    ("uk", "Ukrainian"), ("ur", "Urdu"), ("uz", "Uzbek"), ("vi", "Vietnamese"), ("wo", "Wolof"),
    ("xh", "Xhosa"), ("yi", "Yiddish"), ("yo", "Yoruba"), ("yue", "Cantonese"),
    ("zh", "Chinese"), ("zu", "Zulu")
  ]

/-- The part of a code before its first hyphen. -/
def primaryCode (code : String) : String :=
  Text.onChars (·.takeWhile (· != '-')) code

/-- The English name of the language with a code. -/
def languageName? (code : String) : Option String :=
  languages.lookup (Text.asciiLower (primaryCode code))

/-- The markup for a link to the page about a language, or its code if it has no name. -/
def languageLink (code : String) : String :=
  match languageName? code with
  | some name => "[[" ++ name ++ " language|" ++ name ++ "]]"
  | none => code

/-! ## Markup -/

/-- The arguments of a call after `count` others. A value with an equals sign is given its number,
    so that it is not taken for a named argument. -/
def argumentsMarkup : Nat → List String → String
  | _, [] => ""
  | count, value :: values =>
    let number := if Text.contains value "=" then toString (count + 1) ++ "=" else ""
    "|" ++ number ++ value ++ argumentsMarkup (count + 1) values

/-- The markup for a call of a template with positional arguments. -/
def callMarkup (name : String) (values : List String) : String :=
  inBraces (name ++ argumentsMarkup 0 values)

/-- The markup for text in a language. -/
def langMarkup (code text : String) : String :=
  callMarkup "lang" [code, text]

/-- The markup for italic text. -/
def italicMarkup (text : String) : String :=
  "''" ++ text ++ "''"

/-- The markup for text in single quotation marks. They are written as references, so that they are
    not taken for a style. -/
def quotedMarkup (text : String) : String :=
  "&#39;" ++ text ++ "&#39;"

/-! ## Text in a language -/

/-- Whether a letter is from the Latin script. -/
def isLatinLetter (c : Char) : Bool :=
  c < '\u0250' || ('\u1e00' ≤ c && c ≤ '\u1eff')

/-- Whether all letters of the text are from the Latin script. -/
def isLatin (text : String) : Bool :=
  Text.allChars text fun c => !isLetter c || isLatinLetter c

/-- Whether text in a language is set in italics unless something else is said: text with letters,
    in Latin script, and not English. -/
def isItalicByDefault (code text : String) : Bool :=
  !Text.sameIgnoringAsciiCase code "en"
    && (Text.closesWith code "-Latn" || (!Text.contains code "-" && isLatin text))
    && Text.anyChar text isLetter

def inLanguage (call : Call) : Eval Prose := do
  match call.at? 1 with
  | none => return callError "Lang" "no language code"
  | some code =>
    let text := call.getD "2"
    let isItalic := match call.get? "italic" with
      | some value => isYes value
      | none => isItalicByDefault code text
    let content ← Eval.markup text
    return .framedIn (.lang code) (if isItalic then .styled .italic content else content)

/-! ## Any language -/

/-- The name of a language before its text, as the arguments ask for it. -/
def languageLabel (call : Call) (code : String) : String :=
  match call.get? "label" with
  | some "none" => ""
  | label =>
    match label.filter (· != "") with
    | some label => label ++ ": "
    | none =>
      if call.denies "link" then (languageName? code).getD code ++ ": "
      else languageLink code ++ ": "

/-- Text in a language with its transliteration and meaning, in the arguments from a number on. -/
def languageSentence (call : Call) (code : String) (first : Nat) : Outcome :=
  let text := langMarkup code (call.getD (toString first))
  let romanized := match call.firstOf? ["translit", "tr", toString (first + 1)] with
    | some latin => ", [[Romanization|romanized]]: " ++ italicMarkup latin
    | none => ""
  let explained := match call.firstOf? ["lit", "translation", toString (first + 2)] with
    | some meaning => ", " ++ callMarkup "lit" [meaning]
    | none => ""
  .markup (languageLabel call code ++ text ++ romanized ++ explained)

/-- Text in a language that is part of the name of the template, or the first argument. -/
def languageText (call : Call) : Outcome :=
  match Text.after? call.template "lang-" with
  | some code => languageSentence call code 1
  | none =>
    match call.at? 1 with
    | some code => languageSentence call code 2
    | none => .prose (callError "Langx" "no language code")

/-- The language that a word is from, with its native form and its meaning. -/
def languageOrigin (call : Call) : Outcome :=
  match call.at? 1 with
  | none => .prose (callError "Langnf" "no language code")
  | some code =>
    let meaning := match call.at? 3 with
      | some text => " for " ++ quotedMarkup text
      | none => ""
    let origin := languageLink code ++ meaning
    match call.at? 2 with
    | some native => .markup (langMarkup code native ++ " (" ++ origin ++ ")")
    | none => .markup origin

/-- The origins of the parts of a word: triples of a language, a word and its meaning, up to the
    first without a language or word. -/
def etymologyParts : List String → List String
  | code :: word :: rest =>
    if code = "" then []
    else
      let meaning := if rest.headD "" = "" then "" else ", " ++ quotedMarkup (rest.headD "")
      let part := languageLink code ++ " " ++ langMarkup code word ++ meaning
      match rest with
      | [] => [part]
      | _ :: next => part :: etymologyParts next
  | _ => []

def etymology (call : Call) : Outcome :=
  match etymologyParts call.positional with
  | [] => .prose .empty
  | parts => .markup ("from " ++ Text.join " + " parts)

/-- Latin text that transliterates a language. -/
def transliteration (call : Call) : Outcome :=
  match call.at? 1 with
  | none => .prose (callError "Transl" "no language code")
  | some code =>
    .markup (langMarkup (primaryCode code ++ "-Latn") ((call.firstOf? ["3", "2"]).getD ""))

def literally (call : Call) : Outcome :=
  .markup (callMarkup "abbr" ["lit.", "literally"] ++ " "
    ++ Text.join " or " (call.items.map quotedMarkup))

def gloss (call : Call) : Outcome :=
  .markup (quotedMarkup (call.getD "1"))

end Template

end GenreProse
