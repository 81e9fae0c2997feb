-- SUMMARY: Computations that read files and may fail.
import GenreProse.CommandLine.Options

/-!
# Scripts

A run reads files one after the other, and which ones depends on what it has read. A script is the
tree of these reads. It can be run in any monad that has files: the program reads those of the
system, and a theorem can take any function for them.
-/

namespace GenreProse

namespace CommandLine

/-- What can be read. -/
inductive Source where
  | file (path : String)
  | standardInput
  deriving DecidableEq, Repr

/-- A computation that may read and may fail. -/
inductive Script (α : Type) where
  | done (result : Except Failure α)
  | read (source : Source) (next : Except FileError String → Script α)

namespace Script

/-- Goes on with the result of a script. A failure ends it. -/
def bind {α β : Type} : Script α → (α → Script β) → Script β
  | .done (.ok result), f => f result
  | .done (.error failure), _ => .done (.error failure)
  | .read source next, f => .read source fun content => (next content).bind f

instance : Monad Script where
  pure result := .done (.ok result)
  bind := bind

def fail {α : Type} (failure : Failure) : Script α :=
  .done (.error failure)

/-- The value, or a failure if there is none. -/
def need {α : Type} (failure : Failure) : Option α → Script α
  | some value => .done (.ok value)
  | none => fail failure

/-- Reads a text. The failure may depend on what went wrong. -/
def text (source : Source) (failure : FileError → Failure) : Script String :=
  .read source fun content => .done (content.mapError failure)

def run {m : Type → Type} [Monad m] {α : Type} (content : Source → m (Except FileError String)) :
    Script α → m (Except Failure α)
  | .done result => pure result
  | .read source next => do
    let answer ← content source
    (next answer).run content

end Script

end CommandLine

end GenreProse
