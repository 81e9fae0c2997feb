-- SUMMARY: The options of the command line, and the text that explains them.
import GenreProse.Template.Eval

/-!
# Options

An option with a value is written as two arguments, and only its first occurrence is taken. What
remains after all options is the input file; anything after it is an error. Options are taken in a
fixed order, so the value of one may look like another.
-/

namespace GenreProse

namespace CommandLine

/-! ## Failures -/

/-- Why a file could not be read, in the words of the system. -/
inductive FileError where
  | cannotOpen (reason : String)
  | cannotRead (reason : String)
  deriving DecidableEq, Repr

def FileError.reason : FileError → String
  | cannotOpen reason => reason
  | cannotRead reason => reason

/-- Why a run fails. -/
inductive Failure where
  | missingValue (option : String)
  | extraArguments
  | twoFormats
  | unreadableConfig (path reason : String)
  | invalidConfig
  | unreadableGenres (path : String)
  | invalidGenres (path : String)
  | invalidTime (text : String)
  | unopenedInput (path : String)
  | unreadableInput (reason : String)
  | unknownTemplate (unknown : UnknownTemplate)
  deriving DecidableEq, Repr

namespace Failure

def message : Failure → String
  | missingValue option => "the '" ++ option ++ "' option doesn't have an associated value"
  | extraArguments => "Unknown extra arguments passed"
  | twoFormats => "--json and --text cannot be used together"
  | unreadableConfig path reason => "could not read '" ++ path ++ "': " ++ reason
  | invalidConfig => "invalid configuration"
  | unreadableGenres path => "could not read genre index '" ++ path ++ "'"
  | invalidGenres path => "invalid genre index '" ++ path ++ "'"
  | invalidTime text => "invalid --now time '" ++ text ++ "'"
  | unopenedInput path => "could not open '" ++ path ++ "'"
  | unreadableInput reason => reason
  | unknownTemplate unknown => unknown.message

/-- Whether the usage is shown as well. -/
def showsUsage : Failure → Bool
  | extraArguments => true
  | twoFormats => true
  | _ => false

end Failure

/-! ## Usage -/

def programName : String :=
  "genre-wiki"

def version : String :=
  "2026.10.1-pre"

def usageLines : List String :=
  [
    programName ++ " " ++ version,
    "Usage: " ++ programName ++ " [options] [description.txt]",
    "",
    "Reads Wikitext from the file, or from stdin if no file is given.",
    "",
    "Options:",
    "    --genre <name>:     Remove the genre name from the start of the description",
    "    --genres <file>:    JSON object mapping page titles to genre IDs",
    "    --base-url <url>:   Article path for wiki links",
    "    --now <time>:       RFC 3339 time used as the current time",
    "    --config <file>:    JSON configuration file",
    "    --json:             Print the render tree as JSON instead of HTML",
    "    --text:             Print plain text instead of HTML",
    "    --strict:           Fail on unknown templates instead of truncating",
    "",
    "Environment variables:",
    "    GENRE_WIKI_BASE_URL: Same as --base-url",
    "    GENRE_WIKI_GENRES:   Same as --genres"
  ]

/-- The text that explains the options. -/
def usage : String :=
  String.join (usageLines.map (· ++ "\n"))

/-! ## Options -/

/-- What the arguments ask for. -/
structure Options where
  config : Option String
  genre : Option String
  genres : Option String
  baseUrl : Option String
  now : Option String
  json : Bool
  text : Bool
  strict : Bool
  input : Option String
  deriving DecidableEq, Repr

abbrev Take (α : Type) :=
  StateT (List String) (Except Failure) α

/-- Takes an option with its value. -/
def takeValue (name : String) : Take (Option String) := do
  let arguments ← get
  match arguments.span (· != name) with
  | (before, _ :: value :: after) =>
    set (before ++ after)
    return some value
  | (_, [_]) => throw (.missingValue name)
  | (_, []) => return none

def takeFlag (name : String) : Take Bool := do
  let arguments ← get
  set (arguments.erase name)
  return arguments.contains name

def takeFirst : Take (Option String) := do
  let arguments ← get
  set arguments.tail
  return arguments.head?

/-- Takes all options and the input file. -/
def takeOptions : Take Options := do
  let config ← takeValue "--config"
  let genre ← takeValue "--genre"
  let genres ← takeValue "--genres"
  let baseUrl ← takeValue "--base-url"
  let now ← takeValue "--now"
  let json ← takeFlag "--json"
  let text ← takeFlag "--text"
  let strict ← takeFlag "--strict"
  let _ ← takeFlag "--"
  let input ← takeFirst
  return { config, genre, genres, baseUrl, now, json, text, strict, input }

namespace Options

/-- Whether the arguments ask for help, which comes before everything else. -/
def asksForHelp (arguments : List String) : Bool :=
  arguments.contains "-h" || arguments.contains "--help"

/-- Reads the arguments. All of them must be taken, and at most one format may be asked for. -/
def read (arguments : List String) : Except Failure Options := do
  let (options, rest) ← takeOptions.run arguments
  if !rest.isEmpty then throw .extraArguments
  else if options.json && options.text then throw .twoFormats
  else return options

end Options

end CommandLine

end GenreProse
