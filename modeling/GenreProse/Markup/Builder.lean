-- SUMMARY: The stack of open containers that a parse builds its nodes on.
import GenreProse.Markup.Node
import GenreProse.Text.Entity

/-!
# Builders

While a text is parsed, the containers that are open form a stack. Leaves go into the innermost
one. Closing a container that is not the innermost closes the ones inside it too, and opens the
text styles among those again, so that crossed styles come out nested. Text collects undecoded
until something else follows, so that a reference may be interrupted by a comment.
-/

namespace GenreProse

/-- The nodes of a parse that is under way. -/
structure Builder where
  /-- The finished nodes outside of all containers. -/
  root : List Node
  /-- The open containers with their nodes so far, the innermost first. -/
  frames : List (Container × List Node)
  /-- Text that is not decoded yet. -/
  pending : Chars

/-- Whether the container is a style that ends with the line. -/
def Container.isTextStyle : Container → Bool
  | bold => true
  | italic => true
  | _ => false

/-- Adds text to the end of a list of nodes, joining it to text that is there. -/
def Node.appendText : List Node → String → List Node
  | [], added => [.text added]
  | [.text last], added => [.text (last ++ added)]
  | node :: nodes, added => node :: appendText nodes added

namespace Builder

def empty : Builder :=
  ⟨[], [], []⟩

/-- Changes the list of nodes that is being added to. -/
def modifyInner (builder : Builder) (f : List Node → List Node) : Builder :=
  match builder.frames with
  | [] => { builder with root := f builder.root }
  | (kind, children) :: frames => { builder with frames := (kind, f children) :: frames }

/-- Adds undecoded text. -/
def write (builder : Builder) (text : Chars) : Builder :=
  { builder with pending := builder.pending ++ text }

/-- Decodes the pending text and adds it to the innermost container. -/
def flush (builder : Builder) : Builder :=
  if builder.pending.isEmpty then builder
  else
    let text := Entity.decode (String.ofList builder.pending)
    { builder.modifyInner (Node.appendText · text) with pending := [] }

def push (builder : Builder) (node : Node) : Builder :=
  builder.flush.modifyInner (· ++ [node])

def enter (builder : Builder) (kind : Container) : Builder :=
  let builder := builder.flush
  { builder with frames := (kind, []) :: builder.frames }

def leave (builder : Builder) : Builder :=
  let builder := builder.flush
  match builder.frames with
  | [] => builder
  | (kind, children) :: frames =>
    let outer := { builder with frames := frames }
    if children.isEmpty then outer else outer.modifyInner (· ++ [.container kind children])

/-- Closes so many containers, from the innermost on. -/
def leaveMany (builder : Builder) : Nat → Builder
  | 0 => builder
  | n + 1 => builder.leave.leaveMany n

/-- Closes the innermost container of a kind, with all that are inside it, and opens the text
    styles among those again. Nothing if no such container is open. -/
def close? (builder : Builder) (kind : Container) : Option Builder :=
  match builder.frames.findIdx? fun frame => frame.1 = kind with
  | none => none
  | some inside =>
    let reopened := ((builder.frames.take inside).reverse.map Prod.fst).filter
      Container.isTextStyle
    some (reopened.foldl enter (builder.leaveMany (inside + 1)))

/-- Closes the innermost container of a kind if there is one. -/
def close (builder : Builder) (kind : Container) : Builder :=
  (builder.close? kind).getD builder

/-- Closes a text style, or opens it if it is not open. -/
def toggle (builder : Builder) (kind : Container) : Builder :=
  (builder.close? kind).getD (builder.enter kind)

/-- Closes text styles at the end of a line, with all that is inside them. -/
def endLine (builder : Builder) : Builder :=
  let styled := builder.frames.reverse.dropWhile fun frame => !frame.1.isTextStyle
  builder.leaveMany styled.length

/-- Closes all that is open and answers with the nodes. -/
def finish (builder : Builder) : List Node :=
  (builder.leaveMany builder.frames.length).flush.root

end Builder

end GenreProse
