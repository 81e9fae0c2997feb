-- SUMMARY: Rules of rendering, with the depth of expansion and the calls of the parser.
import GenreProse.Proofs.Rendering.Expansion

/-!
# Runs

The rules say step by step what a render does: at which depth it is, where the limit stops it, in
which order nodes are rendered and arguments evaluated, and which texts it gives to the parser. The
depth counts up from zero, and the rules hold no bound on how long a run takes: a derivation is a
finished run, and a render terminates if there is one.
-/

namespace GenreProse

/-! ## Rules -/

/-- What a render has to do. -/
inductive Task where
  | node (node : Node)
  /-- Nodes one by one. -/
  | nodes (nodes : List Node)
  /-- The nodes before the first that fails. -/
  | lossy (nodes : List Node)
  /-- A template call. -/
  | call (name : String) (parameters : List Parameter)
  /-- What is left of a handler. -/
  | handler (eval : Eval Outcome)
  /-- The request of a handler for an argument. -/
  | request (text : String)

/-- What a task results in. -/
abbrev Task.Output : Task → Type
  | node _ => Prose
  | nodes _ => List Prose
  | lossy _ => List Prose
  | call _ _ => Prose
  | handler _ => Outcome
  | request _ => Prose

/-- A text that is given to the parser, and how many expansions deep. -/
structure ParserCall where
  depth : Nat
  text : String
  deriving DecidableEq, Repr

/-- The handler of a template call, started with the call. -/
def startHandler (renderer : Renderer) (handler : Handler) (name : String)
    (parameters : List Parameter) : Eval Outcome :=
  handler.run renderer.context (Renderer.callOf name parameters)

/-- The finished run of a task at a depth, with its result and the calls of the parser. -/
inductive Run (renderer : Renderer) :
    Nat → (task : Task) → Result task.Output → List ParserCall → Prop where
  -- A container renders its children, and all other nodes but template calls are leaves.
  | container {depth kind children} {result : Result (List Prose)} {calls} :
      Run renderer depth (.nodes children) result calls →
      Run renderer depth (.node (.container kind children))
        (result.map fun pieces => kind.wrap (.concat pieces)) calls
  | template {depth name parameters} {result : Result Prose} {calls} :
      Run renderer depth (.call name parameters) result calls →
      Run renderer depth (.node (.template name parameters)) result calls
  | link {depth label title} :
      Run renderer depth (.node (.link label title)) (.ok (renderer.context.link title label)) []
  | extLink {depth label url} :
      Run renderer depth (.node (.extLink label url))
        (.ok (.framed (.extLink url) [.text (if label = "" then url else label)])) []
  | text {depth content} : Run renderer depth (.node (.text content)) (.ok (.text content)) []
  | paragraphBreak {depth} : Run renderer depth (.node .paragraphBreak) (.ok .paragraphBreak) []
  | newline {depth} : Run renderer depth (.node .newline) (.ok .newline) []
  -- Nodes are rendered up to the first that fails.
  | noNodes {depth} : Run renderer depth (.nodes []) (.ok []) []
  | nextNode {depth node nodes} {piece : Prose} {result : Result (List Prose)} {calls calls'} :
      Run renderer depth (.node node) (.ok piece) calls →
      Run renderer depth (.nodes nodes) result calls' →
      Run renderer depth (.nodes (node :: nodes)) (result.map (piece :: ·)) (calls ++ calls')
  | failedNode {depth node nodes unknown calls} :
      Run renderer depth (.node node) (.error unknown) calls →
      Run renderer depth (.nodes (node :: nodes)) (.error unknown) calls
  -- A lossy render drops that node and all after it.
  | lossyEnd {depth} : Run renderer depth (.lossy []) (.ok []) []
  | lossyNext {depth node nodes} {piece : Prose} {result : Result (List Prose)} {calls calls'} :
      Run renderer depth (.node node) (.ok piece) calls →
      Run renderer depth (.lossy nodes) result calls' →
      Run renderer depth (.lossy (node :: nodes)) (result.map (piece :: ·)) (calls ++ calls')
  | lossyStop {depth node nodes unknown calls} :
      Run renderer depth (.node node) (.error unknown) calls →
      Run renderer depth (.lossy (node :: nodes)) (.ok []) calls
  -- A call runs its handler. Markup from it is parsed one level deeper, where a single call takes
  -- the place of the first one.
  | unknownCall {depth name parameters} :
      Template.find? (canonicalName name) = none →
      Run renderer depth (.call name parameters)
        (.error ⟨Text.trim name, renderer.context.baseUrl⟩) []
  | failedCall {depth name parameters handler unknown calls} :
      Template.find? (canonicalName name) = some handler →
      Run renderer depth (.handler (startHandler renderer handler name parameters))
        (.error unknown) calls →
      Run renderer depth (.call name parameters) (.error unknown) calls
  | shownCall {depth name parameters handler} {prose : Prose} {calls} :
      Template.find? (canonicalName name) = some handler →
      Run renderer depth (.handler (startHandler renderer handler name parameters))
        (.ok (.prose prose)) calls →
      Run renderer depth (.call name parameters) (.ok prose) calls
  | deepCall {depth name parameters handler text calls} :
      Template.find? (canonicalName name) = some handler →
      Run renderer depth (.handler (startHandler renderer handler name parameters))
        (.ok (.markup text)) calls →
      renderer.maxDepth < depth + 1 →
      Run renderer depth (.call name parameters) (.ok (depthExceeded name)) calls
  | nextCall {depth name parameters handler text calls next nextParameters}
      {result : Result Prose} {calls'} :
      Template.find? (canonicalName name) = some handler →
      Run renderer depth (.handler (startHandler renderer handler name parameters))
        (.ok (.markup text)) calls →
      depth + 1 ≤ renderer.maxDepth →
      renderer.parse text = [.template next nextParameters] →
      Run renderer (depth + 1) (.call next nextParameters) result calls' →
      Run renderer depth (.call name parameters) result (calls ++ ⟨depth + 1, text⟩ :: calls')
  | parsedCall {depth name parameters handler text calls} {result : Result (List Prose)} {calls'} :
      Template.find? (canonicalName name) = some handler →
      Run renderer depth (.handler (startHandler renderer handler name parameters))
        (.ok (.markup text)) calls →
      depth + 1 ≤ renderer.maxDepth →
      (∀ next nextParameters, renderer.parse text ≠ [.template next nextParameters]) →
      Run renderer (depth + 1) (.nodes (renderer.parse text)) result calls' →
      Run renderer depth (.call name parameters) (result.map .concat)
        (calls ++ ⟨depth + 1, text⟩ :: calls')
  -- A handler goes on with the answers to its requests.
  | finished {depth outcome} : Run renderer depth (.handler (.done outcome)) (.ok outcome) []
  | answered {depth text next} {prose : Prose} {result : Result Outcome} {calls calls'} :
      Run renderer depth (.request text) (.ok prose) calls →
      Run renderer depth (.handler (next prose)) result calls' →
      Run renderer depth (.handler (.ask text next)) result (calls ++ calls')
  | refused {depth text next unknown calls} :
      Run renderer depth (.request text) (.error unknown) calls →
      Run renderer depth (.handler (.ask text next)) (.error unknown) calls
  -- A request is parsed one level deeper.
  | emptyRequest {depth} : Run renderer depth (.request "") (.ok .empty) []
  | deepRequest {depth text} :
      text ≠ "" →
      renderer.maxDepth < depth + 1 →
      Run renderer depth (.request text) (.ok (depthExceeded text)) []
  | parsedRequest {depth text} {result : Result (List Prose)} {calls} :
      text ≠ "" →
      depth + 1 ≤ renderer.maxDepth →
      Run renderer (depth + 1) (.nodes (renderer.parse text)) result calls →
      Run renderer depth (.request text) (result.map .concat) (⟨depth + 1, text⟩ :: calls)

variable {renderer : Renderer}

/-! ## Depths -/

/-- Whether a parser call lies below a depth and within the limit. -/
def ParserCall.Within (renderer : Renderer) (depth : Nat) (call : ParserCall) : Prop :=
  depth < call.depth ∧ call.depth ≤ renderer.maxDepth

/-- What is parsed one level deeper is within the limit of a request. -/
theorem ParserCall.Within.of_deeper {depth : Nat} {calls : List ParserCall} {text : String}
    (hdepth : depth + 1 ≤ renderer.maxDepth)
    (h : ∀ call ∈ calls, call.Within renderer (depth + 1)) :
    ∀ call ∈ ParserCall.mk (depth + 1) text :: calls, call.Within renderer depth := by
  intro call hcall
  rcases List.mem_cons.mp hcall with rfl | hcall
  · exact ⟨Nat.lt_succ_self depth, hdepth⟩
  · obtain ⟨hlower, hupper⟩ := h call hcall
    exact ⟨Nat.lt_of_succ_lt hlower, hupper⟩

/-- Every parser call of a run lies below the depth of the run and within the limit. -/
theorem Run.within {depth : Nat} {task : Task} {result : Result task.Output}
    {calls : List ParserCall} (h : Run renderer depth task result calls) :
    ∀ call ∈ calls, call.Within renderer depth := by
  induction h with
  | container _ ih | template _ ih | failedNode _ ih | lossyStop _ ih | failedCall _ _ ih
  | shownCall _ _ ih | deepCall _ _ _ ih | refused _ ih => exact ih
  | nextNode _ _ ihnode ihnodes | lossyNext _ _ ihnode ihnodes =>
    exact List.forall_mem_append.mpr ⟨ihnode, ihnodes⟩
  | answered _ _ ihrequest ihrest => exact List.forall_mem_append.mpr ⟨ihrequest, ihrest⟩
  | nextCall _ _ hdepth _ _ ihhandler ihcall =>
    exact List.forall_mem_append.mpr ⟨ihhandler, .of_deeper hdepth ihcall⟩
  | parsedCall _ _ hdepth _ _ ihhandler ihnodes =>
    exact List.forall_mem_append.mpr ⟨ihhandler, .of_deeper hdepth ihnodes⟩
  | parsedRequest _ hdepth _ ih => exact .of_deeper hdepth ih
  | _ => simp

/-! ## Results -/

namespace Renderer

/-- What the renderer makes of a task with so many levels below it. -/
def perform (renderer : Renderer) (levels : Nat) : (task : Task) → Result task.Output
  | .node node => node.render renderer.context (renderer.expand levels)
  | .nodes nodes => Node.renderEach renderer.context (renderer.expand levels) nodes
  | .lossy nodes => .ok (Node.renderPrefix renderer.context (renderer.expand levels) nodes)
  | .call name parameters => renderer.expand levels name parameters
  | .handler eval => eval.run (renderer.evaluate (renderer.below levels))
  | .request text => renderer.evaluate (renderer.below levels) text

section

variable {levels : Nat} {name text : String} {parameters : List Parameter} {handler : Handler}

theorem perform_nodes_cons {node : Node} {nodes : List Node} :
    renderer.perform levels (.nodes (node :: nodes))
      = (renderer.perform levels (.node node)).bind fun piece =>
          (renderer.perform levels (.nodes nodes)).map (piece :: ·) :=
  rfl

/-- A lossy render ends at the first node that fails. -/
theorem perform_lossy_cons {node : Node} {nodes : List Node} :
    renderer.perform levels (.lossy (node :: nodes))
      = match renderer.perform levels (.node node) with
        | .ok piece => (renderer.perform levels (.lossy nodes)).map (piece :: ·)
        | .error _ => .ok [] := by
  simp only [perform, Node.renderPrefix]
  cases node.render renderer.context (renderer.expand levels) <;> rfl

/-- Without a level left, a text is not parsed. -/
theorem perform_request_deep (h : text ≠ "") :
    renderer.perform 0 (.request text) = .ok (depthExceeded text) := by
  simp only [perform, evaluate, below, if_neg h]

/-- With a level left, a text is parsed and rendered. -/
theorem perform_request_parsed (h : text ≠ "") :
    renderer.perform (levels + 1) (.request text)
      = (renderer.perform levels (.nodes (renderer.parse text))).map .concat := by
  simp only [perform, evaluate, below, if_neg h, Node.renderAll]

/-- A handler goes on with what it asked for. -/
theorem perform_handler_ask {next : Prose → Eval Outcome} :
    renderer.perform levels (.handler (.ask text next))
      = (renderer.perform levels (.request text)).bind fun prose =>
          renderer.perform levels (.handler (next prose)) := by
  rw [perform, Eval.run, perform]
  cases renderer.evaluate (renderer.below levels) text <;> rfl

/-- A call of an unknown template fails. -/
theorem perform_call_unknown (h : Template.find? (canonicalName name) = none) :
    renderer.perform levels (.call name parameters)
      = .error ⟨Text.trim name, renderer.context.baseUrl⟩ := by
  rw [perform, expand_eq, expandWith_unknown _ _ _ _ h]

/-- A call of a known template runs its handler, and finishes what comes out. -/
theorem perform_call_known (h : Template.find? (canonicalName name) = some handler) :
    renderer.perform levels (.call name parameters)
      = (renderer.perform levels (.handler (startHandler renderer handler name parameters))).bind
          (renderer.finish (renderer.below levels) name) := by
  rw [perform, expand_eq, expandWith_known _ _ _ _ h]
  rfl

/-- Markup below the last level is not parsed. -/
theorem finish_deep : renderer.finish (renderer.below 0) name (.markup text)
    = .ok (depthExceeded name) :=
  rfl

/-- Markup that is only a call goes on with this call. -/
theorem finish_single {next : String} {nextParameters : List Parameter}
    (h : renderer.parse text = [.template next nextParameters]) :
    renderer.finish (renderer.below (levels + 1)) name (.markup text)
      = renderer.perform levels (.call next nextParameters) := by
  simp only [finish, resume, below, h, perform]

/-- Other markup is rendered as nodes. -/
theorem finish_parsed
    (h : ∀ next nextParameters, renderer.parse text ≠ [.template next nextParameters]) :
    renderer.finish (renderer.below (levels + 1)) name (.markup text)
      = (renderer.perform levels (.nodes (renderer.parse text))).map .concat := by
  simp only [finish, resume, below]
  rfl

end

end Renderer

open Renderer

/-- A finished run has the result of the renderer. -/
theorem Run.eq_perform {depth : Nat} {task : Task} {result : Result task.Output}
    {calls : List ParserCall} (h : Run renderer depth task result calls) :
    ∀ levels, depth + levels = renderer.maxDepth → result = renderer.perform levels task := by
  induction h with
  | container _ ih =>
    intro levels hlevels
    rw [ih levels hlevels]
    rfl
  | template _ ih => exact ih
  | link | extLink | text | paragraphBreak | newline | noNodes | lossyEnd
  | finished =>
    intro levels _
    rfl
  | nextNode _ _ ihnode ihnodes =>
    intro levels hlevels
    rw [perform_nodes_cons, ← ihnode levels hlevels, ← ihnodes levels hlevels]
    rfl
  | failedNode _ ih =>
    intro levels hlevels
    rw [perform_nodes_cons, ← ih levels hlevels]
    rfl
  | lossyNext _ _ ihnode ihnodes =>
    intro levels hlevels
    rw [perform_lossy_cons, ← ihnode levels hlevels, ← ihnodes levels hlevels]
  | lossyStop _ ih =>
    intro levels hlevels
    rw [perform_lossy_cons, ← ih levels hlevels]
  | unknownCall hfind =>
    intro levels _
    rw [perform_call_unknown hfind]
  | failedCall hfind _ ih | shownCall hfind _ ih =>
    intro levels hlevels
    rw [perform_call_known hfind, ← ih levels hlevels]
    rfl
  | deepCall hfind _ hdepth ih =>
    intro levels hlevels
    obtain rfl : levels = 0 := by omega
    rw [perform_call_known hfind, ← ih 0 hlevels, Except.bind, finish_deep]
  | nextCall hfind _ hdepth hparse _ ihhandler ihcall =>
    intro levels hlevels
    obtain ⟨levels, rfl⟩ : ∃ n, levels = n + 1 := ⟨levels - 1, by omega⟩
    rw [perform_call_known hfind, ← ihhandler _ hlevels, Except.bind, finish_single hparse]
    exact ihcall levels (by omega)
  | parsedCall hfind _ hdepth hparse _ ihhandler ihnodes =>
    intro levels hlevels
    obtain ⟨levels, rfl⟩ : ∃ n, levels = n + 1 := ⟨levels - 1, by omega⟩
    rw [perform_call_known hfind, ← ihhandler _ hlevels, Except.bind, finish_parsed hparse,
      ihnodes levels (by omega)]
  | answered _ _ ihrequest ihrest =>
    intro levels hlevels
    rw [perform_handler_ask, ← ihrequest levels hlevels, ihrest levels hlevels]
    rfl
  | refused _ ih =>
    intro levels hlevels
    rw [perform_handler_ask, ← ih levels hlevels]
    rfl
  | emptyRequest =>
    intro levels _
    rfl
  | deepRequest htext hdepth =>
    intro levels hlevels
    obtain rfl : levels = 0 := by omega
    rw [perform_request_deep htext]
  | parsedRequest htext hdepth _ ih =>
    intro levels hlevels
    obtain ⟨levels, rfl⟩ : ∃ n, levels = n + 1 := ⟨levels - 1, by omega⟩
    rw [perform_request_parsed htext, ih levels (by omega)]

end GenreProse
