-- SUMMARY: Settings read from a configuration file.
import GenreProse.Json.Reader

/-!
# Settings

A configuration is an object in which every member may be missing, or an array of the same fields
in their order, of which the last ones may be missing. A member that is repeated or unknown is an
error.
-/

namespace GenreProse

namespace CommandLine

structure Settings where
  /-- The article path that links point to. -/
  baseUrl : Option String
  /-- The file with the genre index. -/
  genres : Option String
  /-- How often the output of templates may be expanded again. -/
  maxDepth : Nat
  deriving DecidableEq, Repr

namespace Settings

/-- How often the output of templates is expanded again when nothing else is configured. -/
def defaultMaxDepth : Nat :=
  20

/-- The settings of an empty configuration. -/
def default : Settings :=
  ⟨none, none, defaultMaxDepth⟩

/-- The largest limit that can be configured. -/
def largestDepth : Nat :=
  18446744073709551615

/-- Whether every key is allowed and none comes twice. -/
def keysAreFrom (allowed : List String) : List (String × Json) → Bool
  | [] => true
  | (key, _) :: members => allowed.contains key && keysAreFrom (allowed.erase key) members

/-- Pairs the fields of an array with their keys. A longer array is refused. -/
def fieldsOf? (keys : List String) (items : List Json) : Option (List (String × Json)) :=
  if items.length ≤ keys.length then some (keys.zip items) else none

/-- The members of an object with none but the given keys, or of an array in their place. -/
def membersOf? (keys : List String) : Json → Option (List (String × Json))
  | .object members => if keysAreFrom keys members then some members else none
  | .array items => fieldsOf? keys items
  | _ => none

def limitsOf? (value : Json) : Option Nat := do
  let members ← membersOf? ["max_expansion_depth"] value
  match members.lookup "max_expansion_depth" with
  | none => some defaultMaxDepth
  | some depth => depth.natUpTo? largestDepth

/-- Reads a configuration. -/
def ofJson? (value : Json) : Option Settings := do
  let members ← membersOf? ["wiki_base_url", "genres", "limits"] value
  let baseUrl ← ((members.lookup "wiki_base_url").getD .null).optionalString?
  let genres ← ((members.lookup "genres").getD .null).optionalString?
  let maxDepth ← match members.lookup "limits" with
    | none => some defaultMaxDepth
    | some limits => limitsOf? limits
  return ⟨baseUrl, genres, maxDepth⟩

def read? (text : String) : Option Settings :=
  (Json.read? text).bind ofJson?

end Settings

end CommandLine

end GenreProse
