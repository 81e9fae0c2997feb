-- SUMMARY: Templates for Japanese, Chinese and Korean terms.
import GenreProse.Hangul.Romanize
import GenreProse.Template.Foreign

/-!
# East Asian terms

Terms of these languages come in several scripts and romanizations. A template arranges those it is
given, each with a label.
-/

namespace GenreProse

namespace Template

/-! ## Japanese -/

/-- Parts in brackets after a text, or the first part in place of the text if there is none. -/
def withParts (text : Option String) (parts : List String) : String :=
  let bracketed (parts : List String) :=
    if parts.isEmpty then "" else " (" ++ Text.join ", " parts ++ ")"
  match text, parts with
  | some text, parts => text ++ bracketed parts
  | none, [] => ""
  | none, first :: parts => first ++ bracketed parts

/-- An English term with its Japanese form, its romanization and a remark. In the lead of a page the
    languages are named. -/
def nihongo (call : Call) : Outcome :=
  let named (label text : String) := if call.flag "lead" then label ++ text else text
  let kanji := (call.at? 2).map fun text =>
    named "[[Japanese language|Japanese]]: " (langMarkup "ja" text)
  let romaji := (call.at? 3).map fun text =>
    named "[[Hepburn romanization|Hepburn]]: " (italicMarkup text)
  let parts := kanji.toList ++ romaji.toList ++ (call.at? 4).toList
  let after := match call.at? 5 with
    | some text => " " ++ text
    | none => ""
  .markup (withParts (call.at? 1) parts ++ after)

def nihongoText (call : Call) : Outcome :=
  .markup (langMarkup "ja" (call.getD "1"))

/-- A romanization with its Japanese form and its meaning. -/
def nihongoRomanized (call : Call) : Outcome :=
  let kanji := (call.at? 2).map (langMarkup "ja")
  let parts := kanji.toList ++ (call.at? 1).toList
  match call.at? 3 with
  | some romaji => .markup (withParts (some (italicMarkup romaji)) parts)
  | none => .markup (Text.join ", " parts)

/-- An English term whose Japanese form stands in a footnote, which is not shown. -/
def nihongoFootnote (call : Call) : Outcome :=
  .markup ((call.firstOf? ["1", "2"]).getD "")

/-! ## Chinese and Korean -/

structure Spelling where
  label : String
  text : String

/-- The spelling with a label, if there is one. -/
def spelling (label : String) (text : Option String) : List Spelling :=
  match text with
  | some text => [⟨label, text⟩]
  | none => []

/-- The spellings, with their labels unless the arguments deny them. -/
def spellingsMarkup (call : Call) (spellings : List Spelling) : Outcome :=
  let shown := spellings.map fun spelling =>
    if call.denies "labels" then spelling.text else spelling.label ++ ": " ++ spelling.text
  .markup (Text.join "; " shown)

/-- Chinese text in several scripts and romanizations. -/
def chinese (call : Call) : Outcome :=
  let text key code := (call.nonblank? key).map (langMarkup code)
  spellingsMarkup call <|
    spelling "Chinese" (text "c" "zh")
      ++ spelling "traditional Chinese" (text "t" "zh-Hant")
      ++ spelling "simplified Chinese" (text "s" "zh-Hans")
      ++ spelling "[[Pinyin|pinyin]]" ((call.nonblank? "p").map italicMarkup)
      ++ spelling "[[Jyutping]]" (call.nonblank? "j")
      ++ spelling "lit." ((call.nonblank? "l").map quotedMarkup)

def dropControls (hangul : String) : String :=
  Text.onChars (·.filter fun c => !Hangul.isControl c) hangul

/-- Korean text in several scripts and romanizations. The revised romanization may be made from the
    Hangul if it is not given. -/
def korean (romanizes : Bool) (call : Call) : Outcome :=
  let hangul := call.firstOf? ["hangul", "1"]
  let made := if romanizes then hangul.map (Hangul.romanize .revised) else none
  spellingsMarkup call <|
    spelling "[[Korean language|Korean]]"
        (hangul.map fun text => langMarkup "ko" (dropControls text))
      ++ spelling "[[Hanja]]" ((call.firstOf? ["hanja", "2"]).map (langMarkup "ko-Hani"))
      ++ spelling "[[Revised Romanization of Korean|RR]]"
        ((call.firstOf? ["rr", "3"] <|> made).map italicMarkup)
      ++ spelling "[[McCune–Reischauer|MR]]" ((call.firstOf? ["mr", "4"]).map italicMarkup)
      ++ spelling "lit." ((call.nonblank? "lit").map quotedMarkup)

end Template

end GenreProse
