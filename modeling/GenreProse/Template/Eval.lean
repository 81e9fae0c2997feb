-- SUMMARY: What template handlers compute: prose, new markup, or requests to evaluate arguments.
import GenreProse.Context
import GenreProse.Template.Call

/-!
# Evaluations

A handler may ask for the evaluation of markup from its arguments, and goes on with the prose that
is the answer. An evaluation is the tree of these requests, so a handler cannot do anything else: it
neither fails nor sees how deep it lies. `Eval.run` answers the requests.
-/

namespace GenreProse

/-- A template that is not known. -/
structure UnknownTemplate where
  /-- The name as written, without the blanks around it. -/
  name : String
  /-- The configured article path, which tells where to look the template up. -/
  baseUrl : Option String
  deriving DecidableEq, Repr

/-- What is said about a template that is not known. -/
def UnknownTemplate.message (unknown : UnknownTemplate) : String :=
  "unknown template '" ++ unknown.name ++ "'"

/-- What a render results in. -/
abbrev Result (α : Type) :=
  Except UnknownTemplate α

/-- A computation that may ask for the evaluation of markup. -/
inductive Eval (α : Type) where
  | done (result : α)
  | ask (markup : String) (next : Prose → Eval α)

namespace Eval

/-- Goes on with the result of an evaluation. -/
def bind {α β : Type} : Eval α → (α → Eval β) → Eval β
  | .done result, f => f result
  | .ask markup next, f => .ask markup fun answer => (next answer).bind f

instance : Monad Eval where
  pure := .done
  bind := bind

/-- Evaluates markup. -/
def markup (text : String) : Eval Prose :=
  .ask text .done

/-- Evaluates markup if there is some. -/
def markup? : Option String → Eval Prose
  | some text => markup text
  | none => .done .empty

def markups : List String → Eval (List Prose)
  | [] => .done []
  | text :: texts => do
    let first ← markup text
    let rest ← markups texts
    return first :: rest

/-- Answers all requests. The first answer that fails ends the evaluation. -/
def run {α : Type} (answer : String → Result Prose) : Eval α → Result α
  | .done result => .ok result
  | .ask markup next =>
    match answer markup with
    | .error unknown => .error unknown
    | .ok prose => (next prose).run answer

end Eval

inductive Outcome where
  /-- Finished prose. -/
  | prose (prose : Prose)
  /-- Markup that is parsed and rendered again. -/
  | markup (text : String)

/-- What computes the outcome of a template call, by what it depends on besides the call. -/
inductive Handler where
  /-- Prose from the arguments alone. -/
  | plain (prose : Call → Prose)
  /-- Prose that shows the current time. -/
  | dated (prose : Moment → Call → Prose)
  /-- Prose with links to the wiki. -/
  | linked (prose : Context → Call → Prose)
  /-- Prose around the evaluation of arguments. -/
  | evaluating (prose : Call → Eval Prose)
  /-- New markup, or prose. -/
  | expanding (outcome : Call → Outcome)

def Handler.run (handler : Handler) (context : Context) (call : Call) : Eval Outcome :=
  match handler with
  | plain prose => .done (.prose (prose call))
  | dated prose => .done (.prose (prose context.now call))
  | linked prose => .done (.prose (prose context call))
  | evaluating prose => (prose call).bind fun prose => .done (.prose prose)
  | expanding outcome => .done (outcome call)

def inBraces (name : String) : String :=
  "\x7b\x7b" ++ name ++ "\x7d\x7d"

/-- The message for a problem with a call of the named template. -/
def callError (template problem : String) : Prose :=
  .error ("Error: " ++ inBraces template ++ ": " ++ problem)

end GenreProse
