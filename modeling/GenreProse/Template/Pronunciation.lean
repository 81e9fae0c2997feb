-- SUMMARY: Templates for phonetic transcriptions.
import GenreProse.Template.Foreign

/-!
# Pronunciation

A transcription is shown as it is, with a label for its language. English pronunciation can also be
written sound by sound; then each sound explains itself by a hover text.
-/

namespace GenreProse

namespace Template

/-! ## Transcriptions -/

/-- The label of a transcription, with what separates it. A few words stand for labels, and a
    language without a name has none of its own. -/
def transcriptionLabel (language : Option String) (label : String) : String :=
  match label with
  | "-" => ""
  | "pron" => "pronounced "
  | "lang" => (language.map (· ++ ": ")).getD ""
  | "" => (language.map (· ++ " pronunciation: ")).getD ""
  | _ => label ++ " "

/-- A transcription, with the language and the label that are given for it. -/
def labelledTranscription (code transcription label : Option String) : Prose :=
  match transcription.filter (· != "") with
  | none => callError "IPA" "no transcription"
  | some text =>
    .concat
      [ .text (transcriptionLabel (code.bind languageName?) (label.getD "")),
        .styled .ipa (.text text) ]

def transcription (call : Call) : Prose :=
  match Text.after? call.template "ipa-" with
  | some code => labelledTranscription (some code) (call.get? "1") (call.get? "2")
  | none =>
    if (call.at? 2).isSome then
      labelledTranscription (call.get? "1") (call.get? "2") (call.get? "3")
    else labelledTranscription none (call.get? "1") none

/-! ## English sounds -/

def soundLabels : List (String × String) :=
  [
    ("lang", "English: "), ("pron", "pronounced "), ("also", "also "), ("local", "locally "),
    ("often", "often "), ("sometimes", "sometimes "), ("uk", "UK: "), ("us", "US: "),
    ("au", "Australian: "), ("ca", "Canadian: "), ("nz", "NZ: "), ("ie", "Irish: ")
  ]

/-- The sounds of English: how each is written, how it is shown, and an example. -/
def englishSounds : List (String × String × String) :=
  [
    ("b", "b", "‘b’ in ‘buy’"), ("d", "d", "‘d’ in ‘dye’"), ("dʒ", "dʒ", "‘j’ in ‘jam’"),
    ("ð", "ð", "‘th’ in ‘thy’"), ("f", "f", "‘f’ in ‘find’"), ("ɡ", "ɡ", "‘g’ in ‘guy’"),
    ("g", "ɡ", "‘g’ in ‘guy’"), ("h", "h", "‘h’ in ‘hi’"), ("hw", "hw", "‘wh’ in ‘why’"),
    ("j", "j", "‘y’ in ‘yes’"), ("k", "k", "‘k’ in ‘kind’"), ("l", "l", "‘l’ in ‘lie’"),
    ("m", "m", "‘m’ in ‘my’"), ("n", "n", "‘n’ in ‘nigh’"), ("ŋ", "ŋ", "‘ng’ in ‘sing’"),
    ("θ", "θ", "‘th’ in ‘thigh’"), ("p", "p", "‘p’ in ‘pie’"), ("r", "r", "‘r’ in ‘rye’"),
    ("s", "s", "‘s’ in ‘sigh’"), ("ʃ", "ʃ", "‘sh’ in ‘shy’"), ("t", "t", "‘t’ in ‘tie’"),
    ("tʃ", "tʃ", "‘ch’ in ‘China’"), ("v", "v", "‘v’ in ‘vie’"), ("w", "w", "‘w’ in ‘wind’"),
    ("z", "z", "‘z’ in ‘zoom’"), ("ʒ", "ʒ", "‘s’ in ‘pleasure’"), ("x", "x", "‘ch’ in ‘loch’"),
    ("æ", "æ", "‘a’ in ‘bad’"), ("ɑː", "ɑː", "‘a’ in ‘father’"), ("ɒ", "ɒ", "‘o’ in ‘body’"),
    ("ɔː", "ɔː", "‘au’ in ‘fraud’"), ("aɪ", "aɪ", "‘i’ in ‘tide’"),
    ("aʊ", "aʊ", "‘ou’ in ‘mouth’"), ("ɛ", "ɛ", "‘e’ in ‘dress’"),
    ("eɪ", "eɪ", "‘a’ in ‘face’"), ("ɪ", "ɪ", "‘i’ in ‘kit’"), ("iː", "iː", "‘ee’ in ‘fleece’"),
    ("ɔɪ", "ɔɪ", "‘oi’ in ‘choice’"), ("oʊ", "oʊ", "‘o’ in ‘code’"),
    ("ʊ", "ʊ", "‘u’ in ‘push’"), ("uː", "uː", "‘oo’ in ‘goose’"),
    ("juː", "juː", "‘u’ in ‘cute’"), ("ʌ", "ʌ", "‘u’ in ‘cut’"),
    ("ɜːr", "ɜːr", "‘ur’ in ‘fur’"), ("ər", "ər", "‘er’ in ‘letter’"),
    ("ə", "ə", "‘a’ in ‘about’"), ("i", "i", "‘y’ in ‘happy’"),
    ("u", "u", "‘u’ in ‘influence’"), ("ɑːr", "ɑːr", "‘ar’ in ‘far’"),
    ("ɔːr", "ɔːr", "‘or’ in ‘north’"), ("ɪər", "ɪər", "‘eer’ in ‘beer’"),
    ("ɛər", "ɛər", "‘air’ in ‘fair’"), ("ʊər", "ʊər", "‘oor’ in ‘moor’"),
    ("ˈ", "ˈ", "primary stress follows"), ("'", "ˈ", "primary stress follows"),
    ("ˌ", "ˌ", "secondary stress follows"), (",", "ˌ", "secondary stress follows"),
    (".", ".", "syllable break")
  ]

/-- The labels at the start, and the arguments after them. -/
def splitLabels : List String → String × List String
  | [] => ("", [])
  | token :: tokens =>
    match soundLabels.lookup (Text.asciiLower token) with
    | some label =>
      let (labels, rest) := splitLabels tokens
      (label ++ labels, rest)
    | none => ("", token :: tokens)

/-- A single sound, or a sign between sounds. -/
def sound (token : String) : Prose :=
  match token with
  | "" => .empty
  | "_" => .text " "
  | "-" => .text "-"
  | ";" => .text ", "
  | _ =>
    match englishSounds.lookup token with
    | some (symbol, example_) =>
      .framed (.tooltip ("/" ++ symbol ++ "/: " ++ example_) (some "IPA-key")) [.text symbol]
    | none => .text token

/-- English pronunciation, sound by sound, with a sound file if one is given. -/
def englishPronunciation (call : Call) : Prose :=
  let (labels, tokens) := splitLabels call.positional
  let sounds := .text "/" :: tokens.map sound ++ [.text "/"]
  let file : Prose := match call.nonblank? "audio" with
    | some file => .framed (.audio file) [.text "ⓘ"]
    | none => .empty
  .concat [.text labels, .styled .ipa (.concat sounds), file]

end Template

end GenreProse
