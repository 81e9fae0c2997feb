-- SUMMARY: Rendering of markup, with the expansion of templates.
import GenreProse.Markup.Node
import GenreProse.Restatement
import GenreProse.Template.Registry

/-!
# Rendering

Nodes are rendered one after the other, and a template call by its handler. Markup from a handler is
parsed and rendered one level deeper. The depth is limited: below the last level a message stands in
place of the markup. A strict render fails at a template that is not known, and a lossy one ends
before the first node with such a template in it.
-/

namespace GenreProse

/-- What renders template calls. -/
abbrev Expander :=
  String → List Parameter → Result Prose

/-! ## Nodes -/

/-- The content of a container, as the container shows it. -/
def Container.wrap (kind : Container) (content : Prose) : Prose :=
  match kind with
  | .fragment => content
  | .bold => .styled .bold content
  | .italic => .styled .italic content
  | .blockquote => .styled .blockquote content
  | .superscript => .styled .superscript content
  | .subscript => .styled .subscript content
  | .small => .styled .small content
  | .preformatted => .styled .preformatted content

namespace Node

mutual

/-- Renders a node, with the expander for its template calls. -/
def render (context : Context) (expand : Expander) : Node → Result Prose
  | .container kind children => do
    let pieces ← renderEach context expand children
    return kind.wrap (.concat pieces)
  | .template name parameters => expand name parameters
  | .link label title => .ok (context.link title label)
  | .extLink label url =>
    .ok (.framed (.extLink url) [.text (if label = "" then url else label)])
  | .text content => .ok (.text content)
  | .paragraphBreak => .ok .paragraphBreak
  | .newline => .ok .newline

/-- Renders nodes one by one. -/
def renderEach (context : Context) (expand : Expander) : List Node → Result (List Prose)
  | [] => .ok []
  | node :: nodes => do
    let piece ← render context expand node
    let pieces ← renderEach context expand nodes
    return piece :: pieces

end

def renderAll (context : Context) (expand : Expander) (nodes : List Node) : Result Prose :=
  (renderEach context expand nodes).map .concat

/-- Renders the nodes before the first that fails. -/
def renderPrefix (context : Context) (expand : Expander) : List Node → List Prose
  | [] => []
  | node :: nodes =>
    match render context expand node with
    | .ok piece => piece :: renderPrefix context expand nodes
    | .error _ => []

end Node

/-! ## Template calls -/

/-- What a render depends on besides the markup. -/
structure Renderer where
  parse : String → List Node
  context : Context
  /-- How many levels deep markup of templates is rendered. -/
  maxDepth : Nat

/-- The message in place of what lies too deep. -/
def depthExceeded (subject : String) : Prose :=
  .error ("Template expansion depth exceeded while rendering '" ++ Text.trim subject ++ "'")

namespace Renderer

/-- Answers the request for an argument, with the expander of the next level if there is one. -/
def evaluate (renderer : Renderer) (deeper : Option Expander) (text : String) : Result Prose :=
  if text = "" then .ok .empty
  else
    match deeper with
    | none => .ok (depthExceeded text)
    | some expand => Node.renderAll renderer.context expand (renderer.parse text)

/-- Renders the markup that a template call turned into. A single call takes the place of the first
    one. -/
def resume (renderer : Renderer) (deeper : Option Expander) (name text : String) :
    Result Prose :=
  match deeper with
  | none => .ok (depthExceeded name)
  | some expand =>
    match renderer.parse text with
    | [.template name parameters] => expand name parameters
    | nodes => Node.renderAll renderer.context expand nodes

/-- Expands a template call, with the expander of the next level if there is one. -/
def expandWith (renderer : Renderer) (deeper : Option Expander) : Expander :=
  fun name parameters =>
    match Template.find? (canonicalName name) with
    | none => .error ⟨Text.trim name, renderer.context.baseUrl⟩
    | some handler => do
      let call : Call := ⟨name, parameters⟩
      match ← (handler.run renderer.context call).run (renderer.evaluate deeper) with
      | .prose prose => return prose
      | .markup text => renderer.resume deeper name text

/-- Expands a template call that has so many levels below it. -/
def expand (renderer : Renderer) : Nat → Expander
  | 0, name, parameters => renderer.expandWith none name parameters
  | levels + 1, name, parameters =>
    renderer.expandWith (some (renderer.expand levels)) name parameters

/-! ## Renders -/

/-- Renders nodes. A template that is not known is an error. -/
def render (renderer : Renderer) (nodes : List Node) : Result Prose :=
  Node.renderAll renderer.context (renderer.expand renderer.maxDepth) nodes

/-- Renders markup. A template that is not known is an error. -/
def renderText (renderer : Renderer) (text : String) : Result Prose :=
  renderer.render (renderer.parse text)

/-- Renders the nodes before the first with a template that is not known. -/
def renderLossy (renderer : Renderer) (nodes : List Node) : Prose :=
  .concat (Node.renderPrefix renderer.context (renderer.expand renderer.maxDepth) nodes)

/-- Renders the description of a genre, up to the first template that is not known. With the name of
    the genre, its restatement at the start is dropped. -/
def renderDescription (renderer : Renderer) (genre : Option String) (description : String) :
    Prose :=
  let description := match genre with
    | some genre => Restatement.strip genre description
    | none => description
  renderer.renderLossy (renderer.parse description)

end Renderer

end GenreProse
