-- SUMMARY: Template calls and the look-up of their arguments.
import GenreProse.Markup.Node
import GenreProse.Number.Integer
import GenreProse.Template.Name

/-!
# Template calls

Unnamed arguments are numbered from one. An argument may be given its number as a name, which does
not change the numbering of the others. Of several arguments with the same key the last one counts.
-/

namespace GenreProse

/-- Whether the value of an argument means “yes”. -/
def isYes (value : String) : Bool :=
  ["y", "yes", "on", "true", "1"].contains (Text.asciiLower (Text.trim value))

structure Call where
  /-- The name of the template, as written. -/
  name : String
  parameters : List Parameter

structure Argument where
  key : String
  isNamed : Bool
  value : String
  deriving DecidableEq, Repr

namespace Call

/-- The canonical name of the template. A handler that asks for it is not to be unfolded down to the
    characters of the name. -/
@[irreducible] def template (call : Call) : String :=
  canonicalName call.name

/-! ## Arguments -/

/-- The arguments, with numbers after `count` for the unnamed ones. -/
def argumentsAfter (count : Nat) : List Parameter → List Argument
  | [] => []
  | parameter :: parameters =>
    match parameter.name with
    | some name => ⟨Text.trim name, true, parameter.value⟩ :: argumentsAfter count parameters
    | none =>
      ⟨toString (count + 1), false, parameter.value⟩ :: argumentsAfter (count + 1) parameters

/-- The arguments with their keys, in the order of the call. -/
def arguments (call : Call) : List Argument :=
  argumentsAfter 0 call.parameters

/-- How many arguments have no name. -/
def unnamedCount (call : Call) : Nat :=
  call.parameters.countP fun parameter => parameter.name.isNone

/-! ## Look-up -/

/-- The value with a key. A named argument loses the blanks around it, an unnamed one keeps
    them. -/
def raw? (call : Call) (key : String) : Option String :=
  (call.arguments.reverse.find? fun argument => argument.key = key).map fun argument =>
    if argument.isNamed then Text.trim argument.value else argument.value

/-- The value with a key, without the blanks around it. -/
def get? (call : Call) (key : String) : Option String :=
  (call.raw? key).map Text.trim

/-- The value with a key, or nothing written. -/
def getD (call : Call) (key : String) : String :=
  (call.get? key).getD ""

/-- The value with a key, if it is not blank. -/
def nonblank? (call : Call) (key : String) : Option String :=
  (call.get? key).filter (· != "")

/-- The first value that is not blank among several keys. -/
def firstOf? (call : Call) (keys : List String) : Option String :=
  keys.findSome? call.nonblank?

/-- The value with a number, if it is not blank. -/
def at? (call : Call) (index : Nat) : Option String :=
  call.nonblank? (toString index)

/-- Whether the value with a key means “yes”. -/
def flag (call : Call) (key : String) : Bool :=
  (call.get? key).any isYes

/-- Whether the value with a key is there and does not mean “yes”. -/
def denies (call : Call) (key : String) : Bool :=
  (call.get? key).any fun value => !isYes value

/-- The value with a key as an integer of the range. -/
def integer? (call : Call) (range : IntegerRange) (key : String) : Option Int :=
  (call.nonblank? key).bind range.read?

/-- The value with a number as an integer of the range. -/
def integerAt? (call : Call) (range : IntegerRange) (index : Nat) : Option Int :=
  call.integer? range (toString index)

/-- The values with the numbers after `index`, up to the first that is missing. The first argument
    bounds how many. -/
def positionalAfter (call : Call) : Nat → Nat → List String
  | 0, _ => []
  | n + 1, index =>
    match call.get? (toString (index + 1)) with
    | some value => value :: positionalAfter call n (index + 1)
    | none => []

/-- The values with the numbers one, two and so on, up to the first that is missing. -/
def positional (call : Call) : List String :=
  call.positionalAfter call.parameters.length 0

/-- The values of `positional` that are not blank. -/
def items (call : Call) : List String :=
  call.positional.filter (· != "")

end Call

end GenreProse
