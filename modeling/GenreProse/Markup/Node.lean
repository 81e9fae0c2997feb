-- SUMMARY: Parsed descriptions: text, links, template calls and styled passages.

/-!
# Nodes

A description is a list of nodes. Styles and a few tags become containers, links and template
calls are leaves, and the values of template parameters stay unparsed, so that a template can
decide whether and when its values are markup.
-/

namespace GenreProse

/-- A parameter of a template call. Without a name it is positional. -/
structure Parameter where
  name : Option String
  value : String
  deriving DecidableEq, Repr, Inhabited

/-- The kinds of passages that hold other nodes. -/
inductive Container where
  | fragment
  | bold
  | italic
  | blockquote
  | superscript
  | subscript
  | small
  | preformatted
  deriving DecidableEq, Repr

/-- A piece of a parsed description. -/
inductive Node where
  /-- A passage with a style, or a mere list of nodes. -/
  | container (kind : Container) (children : List Node)
  /-- A call of a template, with its name as written. -/
  | template (name : String) (parameters : List Parameter)
  /-- A link to a page of the wiki. -/
  | link (text title : String)
  /-- A link to another site. -/
  | extLink (text url : String)
  /-- Text, with character references decoded. -/
  | text (text : String)
  /-- A blank line. -/
  | paragraphBreak
  /-- A forced line break. -/
  | newline
  deriving Repr, Inhabited

namespace Node

/-- The nodes inside a container. A template call holds no nodes. -/
def children? : Node → Option (List Node)
  | container _ children => some children
  | _ => none

/-- Changes the nodes inside a container; other nodes stay. -/
def mapChildren (f : List Node → List Node) : Node → Node
  | container kind children => container kind (f children)
  | node => node

end Node

end GenreProse
