-- SUMMARY: The JSON form of parsed descriptions.
import GenreProse.Json.Basic
import GenreProse.Markup.Node

/-!
# The JSON form of nodes

A node is an object whose `type` names its kind, or an array of the kind and the fields in their
order. Members that a kind does not have are ignored; a missing field, one that comes twice, or one
of the wrong type makes the whole text unreadable.
-/

namespace GenreProse

/-! ## Writing -/

def Container.label : Container → String
  | fragment => "fragment"
  | bold => "bold"
  | italic => "italic"
  | blockquote => "blockquote"
  | superscript => "superscript"
  | subscript => "subscript"
  | small => "small"
  | preformatted => "preformatted"

/-- The kind of container with the given name. -/
def Container.ofLabel? : String → Option Container
  | "fragment" => some fragment
  | "bold" => some bold
  | "italic" => some italic
  | "blockquote" => some blockquote
  | "superscript" => some superscript
  | "subscript" => some subscript
  | "small" => some small
  | "preformatted" => some preformatted
  | _ => none

/-- A parameter; a positional one has no `name`. -/
def Parameter.toJson (parameter : Parameter) : Json :=
  match parameter.name with
  | some name => .object [("name", .string name), ("value", .string parameter.value)]
  | none => .object [("value", .string parameter.value)]

namespace Node

mutual

def toJson : Node → Json
  | .container kind children =>
    .object [("type", .string kind.label), ("children", .array (listToJson children))]
  | .template name parameters =>
    .object [("type", .string "template"), ("name", .string name),
      ("parameters", .array (parameters.map Parameter.toJson))]
  | .link shown title =>
    .object [("type", .string "link"), ("text", .string shown), ("title", .string title)]
  | .extLink shown url =>
    .object [("type", .string "ext-link"), ("text", .string shown), ("link", .string url)]
  | .text shown => .object [("type", .string "text"), ("text", .string shown)]
  | .paragraphBreak => .object [("type", .string "paragraph_break")]
  | .newline => .object [("type", .string "newline")]

def listToJson : List Node → List Json
  | [] => []
  | node :: nodes => toJson node :: listToJson nodes

end

end Node

/-! ## Fields -/

/-- The values of the members under any of the names of a field. -/
def Json.valuesOf (names : List String) (members : List (String × Json)) : List Json :=
  (members.filter fun member => names.contains member.1).map Prod.snd

/-- A field that may be missing, but may not come twice. -/
def Json.optionalField? (names : List String) (members : List (String × Json)) :
    Option (Option Json) :=
  match valuesOf names members with
  | [] => some none
  | [value] => some (some value)
  | _ => none

/-- A field that comes exactly once. -/
def Json.field? (names : List String) (members : List (String × Json)) : Option Json :=
  (optionalField? names members).join

/-! ## Reading -/

/-- Reads a parameter. A `name` that is missing or `null` makes it positional. -/
def Parameter.ofJson? : Json → Option Parameter
  | .object members => do
    let name ← ((← Json.optionalField? ["name"] members).getD .null).optionalString?
    let value ← (Json.field? ["value"] members).bind Json.string?
    return ⟨name, value⟩
  | .array [name, value] => do
    return ⟨← name.optionalString?, ← value.string?⟩
  | _ => none

def Parameter.listOfJson? (value : Json) : Option (List Parameter) :=
  value.array?.bind fun items => items.mapM Parameter.ofJson?

namespace Node

/-- The parameters among the members of a template call. They are called `parameters` or
    `children`, not both. -/
def parametersIn? (members : List (String × Json)) : Option (List Parameter) :=
  (Json.field? ["parameters", "children"] members).bind Parameter.listOfJson?

/-- Reads a node that is no container from its kind and its members. -/
def leafOf? (kind : String) (members : List (String × Json)) : Option Node :=
  let field name := (Json.field? [name] members).bind Json.string?
  match kind with
  | "template" => do return template (← field "name") (← parametersIn? members)
  | "link" => do return link (← field "text") (← field "title")
  | "ext-link" => do return extLink (← field "text") (← field "link")
  | "text" => do return text (← field "text")
  | "paragraph_break" => some paragraphBreak
  | "newline" => some newline
  | _ => none

/-- The fields of a node that is no container, in order. -/
def leafFields : String → List String
  | "template" => ["name", "parameters"]
  | "link" => ["text", "title"]
  | "ext-link" => ["text", "link"]
  | "text" => ["text"]
  | _ => []

/-- Reads a node that is no container from the list of its fields. -/
def leafOfFields? (kind : String) (values : List Json) : Option Node :=
  let fields := leafFields kind
  if fields.length = values.length then leafOf? kind (fields.zip values) else none

mutual

def ofJson? : Json → Option Node
  | .object members =>
    match (Json.field? ["type"] members).bind Json.string? with
    | none => none
    | some label =>
      match Container.ofLabel? label with
      | some kind => (childrenIn? members).map (container kind)
      | none => leafOf? label members
  | .array [.string label, value] =>
    match Container.ofLabel? label with
    | some kind => (listOfJson? value).map (container kind)
    | none => leafOfFields? label [value]
  | .array (.string label :: values) => leafOfFields? label values
  | _ => none

/-- Reads the `children` among the members of a container. -/
def childrenIn? : List (String × Json) → Option (List Node)
  | [] => none
  | (key, value) :: members =>
    if key = "children" then
      if (Json.valuesOf ["children"] members).isEmpty then listOfJson? value else none
    else childrenIn? members

def listOfJson? : Json → Option (List Node)
  | .array items => itemsOfJson? items
  | _ => none

def itemsOfJson? : List Json → Option (List Node)
  | [] => some []
  | item :: items =>
    match ofJson? item with
    | none => none
    | some node => (itemsOfJson? items).map (node :: ·)

end

end Node

end GenreProse
