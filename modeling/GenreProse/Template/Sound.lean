-- SUMMARY: Templates for sound files and musical symbols.
import GenreProse.Template.Eval

/-!
# Sound and music

A sound file is shown by its title, and musical symbols by their character.
-/

namespace GenreProse

namespace Template

def musicSymbols : List (String × String) :=
  [ ("flat", "♭"), ("b", "♭"), ("sharp", "♯"), ("#", "♯"), ("natural", "♮"), ("n", "♮"),
    ("doubleflat", "𝄫"), ("bb", "𝄫"), ("doublesharp", "𝄪"), ("x", "𝄪"), ("treble", "𝄞"),
    ("trebleclef", "𝄞"), ("bass", "𝄢"), ("bassclef", "𝄢"), ("time", "𝄴"), ("common", "𝄴"),
    ("quarter", "♩"), ("crotchet", "♩"), ("eighth", "♪"), ("quaver", "♪"), ("beamed", "♫"),
    ("beamedeighth", "♫") ]

/-- A musical symbol, named by the first argument or by the template itself. -/
def musicSymbol (call : Call) : Prose :=
  let symbol := if call.template = "music" then Text.asciiLower (call.getD "1") else call.template
  match musicSymbols.lookup symbol with
  | some sign => .text sign
  | none => callError "Music" ("unknown symbol '" ++ symbol ++ "'")

def soundFile (template : String) (fileKeys titleKeys : List String) : Handler :=
  .evaluating fun call => do
    match call.firstOf? fileKeys with
    | none => return callError template "no file"
    | some file =>
      let title ← Eval.markup ((call.firstOf? titleKeys).getD file)
      return .framedIn (.audio file) title

def audio : Handler :=
  soundFile "Audio" ["filename", "1"] ["2"]

/-- A box with sound files, of which the first is shown. -/
def listen : Handler :=
  soundFile "Listen" ["filename", "filename1"] ["title", "title1"]

end Template

end GenreProse
