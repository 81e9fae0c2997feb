-- SUMMARY: Every render terminates, and parses between the first level and the limit only.
import GenreProse.Proofs.Rendering.Run

/-!
# Termination

Whatever the parser gives, every task has a finished run: each parser call is one level deeper, and
on one level the handlers and the nodes get smaller. A run depends on the parser only at the texts
that were parsed, so a render without levels does not depend on it.
-/

namespace GenreProse

variable {renderer : Renderer}

open Renderer

/-! ## Finished runs -/

/-- Whether the task has a finished run at the depth, with the result of the renderer. -/
def Finishes (renderer : Renderer) (depth levels : Nat) (task : Task) : Prop :=
  ∃ calls, Run renderer depth task (renderer.perform levels task) calls

/-- Whether all tasks one level deeper finish, if there is such a level. -/
def FinishesBelow (renderer : Renderer) (depth : Nat) : Nat → Prop
  | 0 => True
  | levels + 1 => ∀ task, Finishes renderer (depth + 1) levels task

section

variable {depth levels : Nat}

/-! ## Handlers and calls -/

/-- A request finishes, if everything one level deeper does. -/
theorem finishes_request (hlevels : depth + levels = renderer.maxDepth)
    (hbelow : FinishesBelow renderer depth levels) (text : String) :
    Finishes renderer depth levels (.request text) := by
  by_cases htext : text = ""
  · subst htext
    exact ⟨[], .emptyRequest⟩
  cases levels with
  | zero =>
    refine ⟨[], ?_⟩
    rw [perform_request_deep htext]
    exact .deepRequest htext (by omega)
  | succ levels =>
    obtain ⟨calls, hrun⟩ := hbelow (.nodes (renderer.parse text))
    refine ⟨⟨depth + 1, text⟩ :: calls, ?_⟩
    rw [perform_request_parsed htext]
    exact .parsedRequest htext (by omega) hrun

/-- A handler finishes, as it asks for finitely many texts. -/
theorem finishes_handler (hlevels : depth + levels = renderer.maxDepth)
    (hbelow : FinishesBelow renderer depth levels) (eval : Eval Outcome) :
    Finishes renderer depth levels (.handler eval) := by
  induction eval with
  | done outcome => exact ⟨[], .finished⟩
  | ask text next ih =>
    obtain ⟨calls, hrun⟩ := finishes_request hlevels hbelow text
    rw [Finishes, perform_handler_ask]
    cases hanswer : renderer.perform levels (.request text) with
    | error unknown =>
      rw [hanswer] at hrun
      exact ⟨calls, .refused hrun⟩
    | ok prose =>
      rw [hanswer] at hrun
      obtain ⟨calls', hrun'⟩ := ih prose
      exact ⟨calls ++ calls', .answered hrun hrun'⟩

/-- A call finishes: either its handler makes prose, or what it makes is one level deeper. -/
theorem finishes_call (hlevels : depth + levels = renderer.maxDepth)
    (hbelow : FinishesBelow renderer depth levels) (name : String) (parameters : List Parameter) :
    Finishes renderer depth levels (.call name parameters) := by
  rw [Finishes]
  cases hfind : Template.find? (canonicalName name) with
  | none =>
    rw [perform_call_unknown hfind]
    exact ⟨[], .unknownCall hfind⟩
  | some handler =>
    obtain ⟨calls, hrun⟩ :=
      finishes_handler hlevels hbelow (startHandler renderer handler name parameters)
    rw [perform_call_known hfind]
    generalize renderer.perform levels (.handler (startHandler renderer handler name parameters))
      = result at hrun ⊢
    match result, levels with
    | .error unknown, _ => exact ⟨calls, .failedCall hfind hrun⟩
    | .ok (.prose prose), _ => exact ⟨calls, .shownCall hfind hrun⟩
    | .ok (.markup text), 0 => exact ⟨calls, .deepCall hfind hrun (by omega)⟩
    | .ok (.markup text), levels + 1 =>
      by_cases hsingle : ∃ next nextParameters,
          renderer.parse text = [.template next nextParameters]
      · obtain ⟨next, nextParameters, hparse⟩ := hsingle
        obtain ⟨calls', hrun'⟩ := hbelow (.call next nextParameters)
        rw [Except.bind, finish_single hparse]
        exact ⟨_, .nextCall hfind hrun (by omega) hparse hrun'⟩
      · have hparse : ∀ next nextParameters,
            renderer.parse text ≠ [.template next nextParameters] :=
          fun next nextParameters h => hsingle ⟨next, nextParameters, h⟩
        obtain ⟨calls', hrun'⟩ := hbelow (.nodes (renderer.parse text))
        rw [Except.bind, finish_parsed hparse]
        exact ⟨_, .parsedCall hfind hrun (by omega) hparse hrun'⟩

/-! ## Nodes -/

mutual

/-- A node finishes, if calls do. -/
theorem finishes_node
    (hcall : ∀ name parameters, Finishes renderer depth levels (.call name parameters))
    (node : Node) : Finishes renderer depth levels (.node node) := by
  cases node with
  | container kind children =>
    obtain ⟨calls, hrun⟩ := finishes_nodes hcall children
    exact ⟨calls, .container hrun⟩
  | template name parameters =>
    obtain ⟨calls, hrun⟩ := hcall name parameters
    exact ⟨calls, .template hrun⟩
  | link => exact ⟨[], .link⟩
  | extLink => exact ⟨[], .extLink⟩
  | text => exact ⟨[], .text⟩
  | paragraphBreak => exact ⟨[], .paragraphBreak⟩
  | newline => exact ⟨[], .newline⟩

/-- Nodes finish, if calls do. -/
theorem finishes_nodes
    (hcall : ∀ name parameters, Finishes renderer depth levels (.call name parameters))
    (nodes : List Node) : Finishes renderer depth levels (.nodes nodes) := by
  cases nodes with
  | nil => exact ⟨[], .noNodes⟩
  | cons node nodes =>
    obtain ⟨calls, hrun⟩ := finishes_node hcall node
    rw [Finishes, perform_nodes_cons]
    cases hnode : renderer.perform levels (.node node) with
    | error unknown =>
      rw [hnode] at hrun
      exact ⟨calls, .failedNode hrun⟩
    | ok piece =>
      rw [hnode] at hrun
      obtain ⟨calls', hrun'⟩ := finishes_nodes hcall nodes
      exact ⟨calls ++ calls', .nextNode hrun hrun'⟩

end

/-- Nodes finish up to the first that fails. -/
theorem finishes_lossy
    (hcall : ∀ name parameters, Finishes renderer depth levels (.call name parameters))
    (nodes : List Node) : Finishes renderer depth levels (.lossy nodes) := by
  induction nodes with
  | nil => exact ⟨[], .lossyEnd⟩
  | cons node nodes ih =>
    obtain ⟨calls, hrun⟩ := finishes_node hcall node
    rw [Finishes, perform_lossy_cons]
    cases hnode : renderer.perform levels (.node node) with
    | error unknown =>
      rw [hnode] at hrun
      exact ⟨calls, .lossyStop hrun⟩
    | ok piece =>
      rw [hnode] at hrun
      obtain ⟨calls', hrun'⟩ := ih
      exact ⟨calls ++ calls', .lossyNext hrun hrun'⟩

/-! ## Levels -/

/-- On one level every task finishes, if all tasks below do. -/
theorem finishes_level (hlevels : depth + levels = renderer.maxDepth)
    (hbelow : FinishesBelow renderer depth levels) (task : Task) :
    Finishes renderer depth levels task := by
  have hcall := finishes_call hlevels hbelow
  cases task with
  | node node => exact finishes_node hcall node
  | nodes nodes => exact finishes_nodes hcall nodes
  | lossy nodes => exact finishes_lossy hcall nodes
  | call name parameters => exact hcall name parameters
  | handler eval => exact finishes_handler hlevels hbelow eval
  | request text => exact finishes_request hlevels hbelow text

end

/-- Every task has a finished run. The induction is on the levels that are left below the depth. -/
theorem finishes {depth levels : Nat} (hlevels : depth + levels = renderer.maxDepth) (task : Task) :
    Finishes renderer depth levels task := by
  induction levels generalizing depth task with
  | zero => exact finishes_level hlevels trivial task
  | succ levels ih => exact finishes_level hlevels (fun task => ih (by omega) task) task

/-! ## Use of the parser -/

/-- A parser that gives the same for the parsed texts has the same run. -/
theorem Run.congr_parse {parse : String → List Node} {depth : Nat} {task : Task}
    {result : Result task.Output} {calls : List ParserCall}
    (h : Run renderer depth task result calls)
    (hparse : ∀ call ∈ calls, renderer.parse call.text = parse call.text) :
    Run { renderer with parse := parse } depth task result calls := by
  induction h with
  | container _ ih => exact .container (ih hparse)
  | template _ ih => exact .template (ih hparse)
  | link => exact .link
  | extLink => exact .extLink
  | text => exact .text
  | paragraphBreak => exact .paragraphBreak
  | newline => exact .newline
  | noNodes => exact .noNodes
  | nextNode _ _ ihnode ihnodes =>
    obtain ⟨hnode, hnodes⟩ := List.forall_mem_append.mp hparse
    exact .nextNode (ihnode hnode) (ihnodes hnodes)
  | failedNode _ ih => exact .failedNode (ih hparse)
  | lossyEnd => exact .lossyEnd
  | lossyNext _ _ ihnode ihnodes =>
    obtain ⟨hnode, hnodes⟩ := List.forall_mem_append.mp hparse
    exact .lossyNext (ihnode hnode) (ihnodes hnodes)
  | lossyStop _ ih => exact .lossyStop (ih hparse)
  | unknownCall hfind => exact .unknownCall hfind
  | failedCall hfind _ ih => exact .failedCall hfind (ih hparse)
  | shownCall hfind _ ih => exact .shownCall hfind (ih hparse)
  | deepCall hfind _ hdepth ih => exact .deepCall hfind (ih hparse) hdepth
  | nextCall hfind _ hdepth hnext _ ihhandler ihcall =>
    obtain ⟨hhandler, hrest⟩ := List.forall_mem_append.mp hparse
    obtain ⟨htext, hcall⟩ := List.forall_mem_cons.mp hrest
    exact .nextCall hfind (ihhandler hhandler) hdepth (htext.symm.trans hnext) (ihcall hcall)
  | parsedCall hfind _ hdepth hmany _ ihhandler ihnodes =>
    obtain ⟨hhandler, hrest⟩ := List.forall_mem_append.mp hparse
    obtain ⟨htext, hnodes⟩ := List.forall_mem_cons.mp hrest
    rw [htext] at hmany ihnodes
    exact .parsedCall hfind (ihhandler hhandler) hdepth hmany (ihnodes hnodes)
  | finished => exact .finished
  | answered _ _ ihrequest ihrest =>
    obtain ⟨hrequest, hrest⟩ := List.forall_mem_append.mp hparse
    exact .answered (ihrequest hrequest) (ihrest hrest)
  | refused _ ih => exact .refused (ih hparse)
  | emptyRequest => exact .emptyRequest
  | deepRequest htext hdepth => exact .deepRequest htext hdepth
  | parsedRequest htext hdepth _ ih =>
    obtain ⟨hrequest, hrest⟩ := List.forall_mem_cons.mp hparse
    rw [hrequest] at ih
    exact .parsedRequest htext hdepth (ih hrest)

/-- A run tells all that its result depends on: the parser matters at the parsed texts only. -/
theorem Run.perform_congr_parse {parse : String → List Node} {depth levels : Nat} {task : Task}
    {result : Result task.Output} {calls : List ParserCall}
    (h : Run renderer depth task result calls) (hlevels : depth + levels = renderer.maxDepth)
    (hparse : ∀ call ∈ calls, renderer.parse call.text = parse call.text) :
    renderer.perform levels task = { renderer with parse := parse }.perform levels task := by
  have hsame := (h.congr_parse hparse).eq_perform levels hlevels
  rw [← h.eq_perform levels hlevels]
  exact hsame

/-- Without levels no text is parsed. -/
theorem Run.calls_eq_nil {task : Task} {result : Result task.Output} {calls : List ParserCall}
    (h : Run renderer 0 task result calls) (hlimit : renderer.maxDepth = 0) : calls = [] := by
  refine List.eq_nil_iff_forall_not_mem.mpr ?_
  intro call hcall
  obtain ⟨hlower, hupper⟩ := h.within call hcall
  omega

/-- Without levels the parser makes no difference. -/
theorem perform_zero_congr_parse (hlimit : renderer.maxDepth = 0) (parse : String → List Node)
    (task : Task) :
    renderer.perform 0 task = { renderer with parse := parse }.perform 0 task := by
  have hlevels : 0 + 0 = renderer.maxDepth := hlimit.symm
  obtain ⟨calls, hrun⟩ := finishes hlevels task
  have hcalls := hrun.calls_eq_nil hlimit
  subst hcalls
  exact hrun.perform_congr_parse hlevels (by simp)

/-! ## Renders -/

/-- A strict run has the result of the render. -/
theorem Run.eq_render {nodes : List Node} {result : Result (List Prose)} {calls : List ParserCall}
    (h : Run renderer 0 (.nodes nodes) result calls) :
    result.map .concat = renderer.render nodes := by
  rw [h.eq_perform renderer.maxDepth (Nat.zero_add _)]
  rfl

/-- A lossy run has the result of the render. -/
theorem Run.eq_renderLossy {nodes : List Node} {result : Result (List Prose)}
    {calls : List ParserCall} (h : Run renderer 0 (.lossy nodes) result calls) :
    result.map .concat = .ok (renderer.renderLossy nodes) := by
  rw [h.eq_perform renderer.maxDepth (Nat.zero_add _)]
  rfl

/-- A render finishes, strict and lossy. All finished runs have its result and parse between the
    first level and the limit only, and without levels the parser makes no difference. -/
theorem Renderer.render_terminates (renderer : Renderer) (nodes : List Node) :
    (∃ result calls, Run renderer 0 (.nodes nodes) result calls) ∧
    (∃ result calls, Run renderer 0 (.lossy nodes) result calls) ∧
    (∀ result calls, Run renderer 0 (.nodes nodes) result calls →
      result.map .concat = renderer.render nodes ∧
      ∀ call ∈ calls, 1 ≤ call.depth ∧ call.depth ≤ renderer.maxDepth) ∧
    (∀ result calls, Run renderer 0 (.lossy nodes) result calls →
      result.map .concat = .ok (renderer.renderLossy nodes) ∧
      ∀ call ∈ calls, 1 ≤ call.depth ∧ call.depth ≤ renderer.maxDepth) ∧
    ∀ parse parse' : String → List Node,
      { renderer with maxDepth := 0, parse := parse }.render nodes
        = { renderer with maxDepth := 0, parse := parse' }.render nodes ∧
      { renderer with maxDepth := 0, parse := parse }.renderLossy nodes
        = { renderer with maxDepth := 0, parse := parse' }.renderLossy nodes := by
  have hlevels : 0 + renderer.maxDepth = renderer.maxDepth := Nat.zero_add _
  refine ⟨⟨_, finishes hlevels _⟩, ⟨_, finishes hlevels _⟩, ?_, ?_, ?_⟩
  · intro result calls hrun
    exact ⟨hrun.eq_render, hrun.within⟩
  · intro result calls hrun
    exact ⟨hrun.eq_renderLossy, hrun.within⟩
  · intro parse parse'
    have hsame (task : Task) : { renderer with maxDepth := 0, parse := parse }.perform 0 task
        = { renderer with maxDepth := 0, parse := parse' }.perform 0 task :=
      perform_zero_congr_parse rfl parse' task
    have hstrict := congrArg (Except.map Prose.concat) (hsame (.nodes nodes))
    have hlossy := congrArg Prose.concat (Except.ok.inj (hsame (.lossy nodes)))
    exact ⟨hstrict, hlossy⟩

/-- A renderer for which every text is a call that has its argument parsed again. -/
def Renderer.endless : Renderer where
  parse _ := [.template "nowrap" [⟨none, "again"⟩]]
  context := ⟨none, .utc ⟨1970, 1, 1, isCalendarDay_epoch⟩ .midnight, fun _ => none⟩
  maxDepth := 20

theorem Renderer.render_terminates_endless :
    ∃ result calls, Run endless 0 (.nodes (endless.parse "again")) result calls ∧
      result.map .concat = endless.render (endless.parse "again") ∧
      ∀ call ∈ calls, 1 ≤ call.depth ∧ call.depth ≤ 20 := by
  obtain ⟨⟨result, calls, hrun⟩, -, hstrict, -⟩ :=
    render_terminates endless (endless.parse "again")
  obtain ⟨hresult, hdepths⟩ := hstrict result calls hrun
  exact ⟨result, calls, hrun, hresult, hdepths⟩

end GenreProse
