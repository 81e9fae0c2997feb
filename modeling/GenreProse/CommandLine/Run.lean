-- SUMMARY: What a run of the program does.
import GenreProse.CommandLine.Script
import GenreProse.Calendar.Rfc3339
import GenreProse.CommandLine.Settings
import GenreProse.GenreIndex
import GenreProse.Json.Writer
import GenreProse.Markup.Parse
import GenreProse.Prose.Format
import GenreProse.Prose.Html
import GenreProse.Prose.Plain
import GenreProse.Renderer

/-!
# Runs

A run reads its options, the configuration and the genre index, renders the description and writes
it in one of three formats. An option wins over a variable of the environment, and the variable over
the configuration. A run that fails writes nothing but its message, and the usage if the arguments
are wrong.
-/

namespace GenreProse

namespace CommandLine

/-- What a run knows besides its arguments and files. -/
structure Surroundings where
  /-- The article path from the environment. -/
  baseUrl : Option String
  /-- The file with the genre index from the environment. -/
  genres : Option String
  /-- The time that is shown unless the options give another one. -/
  now : Moment
  /-- The order in which this run goes through the titles of its genre index. -/
  order : EntryOrder := .asRead

/-! ## Settings -/

def readSettings : Option String → Script Settings
  | none => .done (.ok .default)
  | some path => do
    let text ← Script.text (.file path) fun error => .unreadableConfig path error.reason
    Script.need .invalidConfig (Settings.read? text)

/-- The configuration as options and environment change it. -/
def settle (options : Options) (surroundings : Surroundings) (settings : Settings) : Settings :=
  { settings with
    baseUrl := options.baseUrl <|> surroundings.baseUrl <|> settings.baseUrl
    genres := options.genres <|> surroundings.genres <|> settings.genres }

/-- Reads the genre index, which is empty without a file. -/
def readGenres (surroundings : Surroundings) : Option String → Script GenreIndex
  | none => .done (.ok .empty)
  | some path => do
    let text ← Script.text (.file path) fun _ => .unreadableGenres path
    Script.need (.invalidGenres path) (GenreIndex.read? surroundings.order text)

/-- Reads the time that is shown. -/
def readNow (surroundings : Surroundings) : Option String → Script Moment
  | none => .done (.ok surroundings.now)
  | some text => Script.need (.invalidTime text) (Rfc3339.read? text)

def readDescription : Option String → Script String
  | none => Script.text .standardInput fun error => .unreadableInput error.reason
  | some path =>
    Script.text (.file path) fun error =>
      match error with
      | .cannotOpen _ => .unopenedInput path
      | .cannotRead reason => .unreadableInput reason

/-! ## Output -/

def renderWith (renderer : Renderer) (options : Options) (description : String) :
    Except Failure Prose :=
  if options.strict then
    let description := match options.genre with
      | some genre => Restatement.strip genre description
      | none => description
    (renderer.renderText description).mapError .unknownTemplate
  else .ok (renderer.renderDescription options.genre description)

/-- Writes prose in the format that is asked for. -/
def write (options : Options) (prose : Prose) : String :=
  if options.json then prose.toJson.indented
  else if options.text then prose.plainText
  else prose.html

/-- The output of a run with the given options. -/
def script (surroundings : Surroundings) (options : Options) : Script String := do
  let configured ← readSettings options.config
  let settings := settle options surroundings configured
  let genres ← readGenres surroundings settings.genres
  let now ← readNow surroundings options.now
  let description ← readDescription options.input
  let context : Context := ⟨settings.baseUrl, now, genres.lookup?⟩
  let renderer : Renderer := ⟨Markup.parse, context, settings.maxDepth⟩
  let prose ← .done (renderWith renderer options (Text.trim description))
  return write options prose ++ "\n"

/-! ## Runs -/

/-- What a run leaves behind. -/
structure Report where
  code : Nat
  output : String
  errors : String
  deriving DecidableEq, Repr

def Report.ofResult : Except Failure String → Report
  | .ok output => ⟨0, output, ""⟩
  | .error failure =>
    ⟨1, if failure.showsUsage then usage else "", "Error: " ++ failure.message ++ "\n"⟩

/-- The result of a run with the given arguments. -/
def scriptFor (surroundings : Surroundings) (arguments : List String) : Script String :=
  if Options.asksForHelp arguments then .done (.ok usage)
  else do
    let options ← .done (Options.read arguments)
    script surroundings options

/-- Runs the program where `content` reads the sources. -/
def run {m : Type → Type} [Monad m] (content : Source → m (Except FileError String))
    (surroundings : Surroundings) (arguments : List String) : m Report := do
  let result ← (scriptFor surroundings arguments).run content
  return .ofResult result

end CommandLine

end GenreProse
