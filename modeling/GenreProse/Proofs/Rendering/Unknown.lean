-- SUMMARY: A strict render fails at templates that are not known, and at nothing else.
import GenreProse.Proofs.Rendering.Nodes
import GenreProse.Proofs.Rendering.Termination
import GenreProse.Proofs.Text.Trim

/-!
# Unknown templates

No container hides a template that is not known: a list with one in it fails. In the other
direction, every error of a render blames such a template. The blamed call stands in the nodes or in
the output of a parser call of the render, because the only rule that starts an error is the one for
a call of an unknown template, and all other rules pass the errors of their parts on.
-/

namespace GenreProse

/-! ## Names -/

/-- Blanks around a name make no difference. -/
theorem canonicalName_trim (name : String) :
    canonicalName (Text.trim name) = canonicalName name := by
  unfold canonicalName
  rw [Text.trim, Text.onChars, Text.onChars, Text.onChars, String.toList_ofList, Chars.trim_trim]

/-- A name and its trimmed form mean the same template. -/
theorem Template.isKnown_trim (name : String) :
    Template.isKnown (Text.trim name) = Template.isKnown name := by
  rw [Template.isKnown, canonicalName_trim, ← Template.isKnown]

/-! ## Template calls of nodes -/

namespace Node

mutual

/-- The names of the templates that the node calls, as written, also inside containers. -/
def templateNames : Node → List String
  | .container _ children => templateNamesOfAll children
  | .template name _ => [name]
  | _ => []

def templateNamesOfAll : List Node → List String
  | [] => []
  | node :: nodes => templateNames node ++ templateNamesOfAll nodes

end

end Node

open Node

/-! ## Unknown templates fail -/

section

variable {renderer : Renderer} {deeper : Option Expander} {name : String}

/-- There is no handler for a name that is not known. -/
theorem find?_of_not_isKnown (h : Template.isKnown name = false) :
    Template.find? (canonicalName name) = none := by
  cases hfind : Template.find? (canonicalName name) with
  | none => rfl
  | some handler =>
    rw [Template.isKnown, hfind] at h
    cases h

theorem isKnown_of_find? (h : Template.find? (canonicalName name) = none) :
    Template.isKnown name = false := by
  rw [Template.isKnown, h]
  rfl

/-- Whether the expander fails at calls of templates that are not known. -/
def Expander.Refuses (expand : Expander) : Prop :=
  ∀ name parameters, Template.isKnown name = false →
    ∃ unknown, expand name parameters = .error unknown

/-- An unknown template is refused at every level. -/
theorem Renderer.expand_refuses (renderer : Renderer) (levels : Nat) :
    (renderer.expand levels).Refuses := by
  intro name parameters hunknown
  rw [expand_eq, expandWith_unknown _ _ _ _ (find?_of_not_isKnown hunknown)]
  exact ⟨_, rfl⟩

end

namespace Node

variable {context : Context} {expand : Expander} {name : String}

mutual

/-- A node with an unknown template in it fails. -/
theorem render_unknown (hexpand : expand.Refuses) (hunknown : Template.isKnown name = false)
    (node : Node) (hname : name ∈ templateNames node) :
    ∃ unknown, render context expand node = .error unknown := by
  cases node with
  | container kind children =>
    rw [templateNames] at hname
    obtain ⟨unknown, hfails⟩ := renderEach_unknown hexpand hunknown children hname
    rw [render_container, renderAll, hfails]
    exact ⟨unknown, rfl⟩
  | template called parameters =>
    obtain rfl : name = called := by simpa [templateNames] using hname
    exact hexpand name parameters hunknown
  | _ => simp [templateNames] at hname

/-- Nodes with an unknown template in them fail. -/
theorem renderEach_unknown (hexpand : expand.Refuses) (hunknown : Template.isKnown name = false)
    (nodes : List Node) (hname : name ∈ templateNamesOfAll nodes) :
    ∃ unknown, renderEach context expand nodes = .error unknown := by
  cases nodes with
  | nil => cases hname
  | cons node nodes =>
    cases hnode : render context expand node with
    | error unknown => exact ⟨unknown, renderEach_cons_of_error hnode⟩
    | ok piece =>
      -- The first node is rendered, so the name is called further back.
      rw [templateNamesOfAll, List.mem_append] at hname
      rcases hname with hname | hname
      · obtain ⟨unknown, hfails⟩ := render_unknown hexpand hunknown node hname
        rw [hnode] at hfails
        cases hfails
      · obtain ⟨unknown, hfails⟩ := renderEach_unknown hexpand hunknown nodes hname
        rw [renderEach_cons_of_ok hnode, hfails]
        exact ⟨unknown, rfl⟩

end

end Node

/-! ## Only unknown templates fail -/

/-- The names of the templates that a task calls itself. -/
def Task.templateNames : Task → List String
  | .node single => single.templateNames
  | .nodes several => templateNamesOfAll several
  | .lossy several => templateNamesOfAll several
  | .call name _ => [name]
  | .handler _ => []
  | .request _ => []

/-- The names of the templates in what a parser call gives. -/
def ParserCall.templateNames (renderer : Renderer) (call : ParserCall) : List String :=
  templateNamesOfAll (renderer.parse call.text)

/-- The names of all templates that a run can call: those of its task, and those in what it
    parses. -/
def calledNames (renderer : Renderer) (task : Task) (calls : List ParserCall) : List String :=
  task.templateNames ++ calls.flatMap (·.templateNames renderer)

/-- A part of a run calls no other templates than the run. -/
theorem calledNames_subset {renderer : Renderer} {task task' : Task}
    {calls calls' : List ParserCall}
    (htask : task.templateNames ⊆ calledNames renderer task' calls') (hcalls : calls ⊆ calls') :
    calledNames renderer task calls ⊆ calledNames renderer task' calls' := by
  refine List.append_subset.mpr ⟨htask, ?_⟩
  intro name hname
  obtain ⟨call, hcall, hname⟩ := List.mem_flatMap.mp hname
  exact List.mem_append_right _ (List.mem_flatMap.mpr ⟨call, hcalls hcall, hname⟩)

/-- A run can call the templates in what it parses. -/
theorem templateNames_subset_calledNames {renderer : Renderer} {task : Task}
    {calls : List ParserCall} (call : ParserCall) (h : call ∈ calls) :
    call.templateNames renderer ⊆ calledNames renderer task calls := by
  intro name hname
  exact List.mem_append_right _ (List.mem_flatMap.mpr ⟨call, h, hname⟩)

/-- Whether an error blames a call of a template that is not known, by one of the names. -/
structure UnknownTemplate.Blames (unknown : UnknownTemplate) (renderer : Renderer)
    (names : List String) : Prop where
  baseUrl : unknown.baseUrl = renderer.context.baseUrl
  called : ∃ name ∈ names, Template.isKnown name = false ∧ unknown.name = Text.trim name

/-- What is blamed on few names is blamed on more. -/
theorem UnknownTemplate.Blames.mono {unknown : UnknownTemplate} {renderer : Renderer}
    {names names' : List String} (h : unknown.Blames renderer names) (hsub : names ⊆ names') :
    unknown.Blames renderer names' := by
  obtain ⟨name, hmem, hname⟩ := h.called
  exact ⟨h.baseUrl, name, hsub hmem, hname⟩

variable {renderer : Renderer}

/-- Every error of a run blames a template that the run can call. -/
theorem Run.blames {depth : Nat} {task : Task} {result : Result task.Output}
    {calls : List ParserCall} (h : Run renderer depth task result calls) :
    ∀ unknown, result = .error unknown →
      unknown.Blames renderer (calledNames renderer task calls) := by
  induction h with
  -- The one rule that starts an error.
  | @unknownCall _ name _ hfind =>
    intro unknown hresult
    cases hresult
    exact ⟨rfl, name, by simp [calledNames, Task.templateNames], isKnown_of_find? hfind, rfl⟩
  -- These rules have a result.
  | link | extLink | text | paragraphBreak | newline | noNodes | lossyEnd | lossyStop | shownCall
  | deepCall | finished | emptyRequest | deepRequest =>
    intro unknown hresult
    cases hresult
  -- The others pass on the error of a part.
  | container _ ih =>
    intro unknown hresult
    exact ih unknown (map_eq_error.mp hresult)
  | template _ ih => exact ih
  | nextNode _ _ _ ih | lossyNext _ _ _ ih =>
    intro unknown hresult
    refine (ih unknown (map_eq_error.mp hresult)).mono (calledNames_subset ?_ ?_)
    · simp [calledNames, Task.templateNames, templateNamesOfAll]
    · simp
  | failedNode _ ih =>
    intro unknown hresult
    cases hresult
    refine (ih _ rfl).mono (calledNames_subset ?_ ?_)
    · simp [calledNames, Task.templateNames, templateNamesOfAll]
    · simp
  | failedCall _ _ ih | refused _ ih =>
    intro unknown hresult
    cases hresult
    refine (ih _ rfl).mono (calledNames_subset ?_ ?_)
    · simp [Task.templateNames]
    · simp
  | answered _ _ _ ih =>
    intro unknown hresult
    refine (ih unknown hresult).mono (calledNames_subset ?_ ?_)
    · simp [Task.templateNames]
    · simp
  -- The parts of these are what the parser gave, which is called too.
  | @nextCall depth _ _ _ text _ next _ _ _ _ _ _ hparse _ _ ih =>
    intro unknown hresult
    have hnext : [next] ⊆ ParserCall.templateNames renderer ⟨depth + 1, text⟩ := by
      simp [ParserCall.templateNames, hparse, templateNamesOfAll, templateNames]
    refine (ih unknown hresult).mono (calledNames_subset ?_ ?_)
    · exact List.Subset.trans hnext (templateNames_subset_calledNames _ (by simp))
    · simp
  | @parsedCall depth _ _ _ text _ _ _ _ _ _ _ _ _ ih | @parsedRequest depth text _ _ _ _ _ ih =>
    intro unknown hresult
    refine (ih unknown (map_eq_error.mp hresult)).mono (calledNames_subset ?_ ?_)
    · exact templateNames_subset_calledNames ⟨depth + 1, text⟩ (by simp)
    · simp

/-! ## Renders -/

namespace Renderer

/-- A strict render fails if the nodes call an unknown template at any depth of containers. Every
    error has the trimmed name of an unknown template and the configured article path, and the call
    that it blames stands in the nodes or in what the render parsed. -/
theorem render_unknownTemplate (renderer : Renderer) (nodes : List Node) :
    (∀ name ∈ templateNamesOfAll nodes, Template.isKnown name = false →
      ∃ unknown, renderer.render nodes = .error unknown) ∧
    ∀ unknown, renderer.render nodes = .error unknown →
      Text.trim unknown.name = unknown.name ∧
      Template.isKnown unknown.name = false ∧
      unknown.baseUrl = renderer.context.baseUrl ∧
      ∃ calls, Run renderer 0 (.nodes nodes) (.error unknown) calls ∧
        ∃ name, unknown.name = Text.trim name ∧
          (name ∈ templateNamesOfAll nodes ∨
            ∃ call ∈ calls, name ∈ templateNamesOfAll (renderer.parse call.text)) := by
  constructor
  · intro name hname hunknown
    have hexpand := renderer.expand_refuses renderer.maxDepth
    obtain ⟨unknown, hfails⟩ := renderEach_unknown hexpand hunknown nodes hname
    exact ⟨unknown, map_eq_error.mpr hfails⟩
  · intro unknown hrender
    obtain ⟨calls, hrun⟩ := finishes (Nat.zero_add renderer.maxDepth) (.nodes nodes)
    have hresult : renderer.perform renderer.maxDepth (.nodes nodes) = .error unknown :=
      map_eq_error.mp hrender
    rw [hresult] at hrun
    obtain ⟨hbaseUrl, name, hcalled, hunknown, hname⟩ := hrun.blames unknown rfl
    refine ⟨?_, ?_, hbaseUrl, calls, hrun, name, hname, ?_⟩
    · rw [hname, Text.trim_trim]
    · rw [hname, Template.isKnown_trim, hunknown]
    · rcases List.mem_append.mp hcalled with hcalled | hcalled
      · exact .inl hcalled
      · exact .inr (List.mem_flatMap.mp hcalled)

/-- A renderer for which every text is the name of a template to call. -/
def calling : Renderer where
  parse text := [.template text []]
  context := ⟨some "https://wiki.example/wiki/",
    .utc ⟨1970, 1, 1, isCalendarDay_epoch⟩ .midnight, fun _ => none⟩
  maxDepth := 20

/-- A call of an unknown template in a container, and one in an argument that is evaluated. -/
theorem render_unknownTemplate_calling :
    (Template.isKnown "Frobnicate" = false ∧
      ∃ unknown, calling.render [.container .bold [.template "Frobnicate" []]] = .error unknown) ∧
    calling.render [.template "nowrap" [⟨none, " Frobnicate "⟩]]
      = .error ⟨"Frobnicate", some "https://wiki.example/wiki/"⟩ ∧
    ∃ calls, Run calling 0 (.nodes [.template "nowrap" [⟨none, " Frobnicate "⟩]])
        (.error ⟨"Frobnicate", some "https://wiki.example/wiki/"⟩) calls ∧
      ∃ name, "Frobnicate" = Text.trim name ∧
        (name ∈ templateNamesOfAll [.template "nowrap" [⟨none, " Frobnicate "⟩]] ∨
          ∃ call ∈ calls, name ∈ templateNamesOfAll (calling.parse call.text)) := by
  have hunknown : Template.isKnown "Frobnicate" = false := by decide +kernel
  have hfails : calling.render [.template "nowrap" [⟨none, " Frobnicate "⟩]]
      = .error ⟨"Frobnicate", some "https://wiki.example/wiki/"⟩ := rfl
  obtain ⟨-, -, -, hblamed⟩ := (render_unknownTemplate calling _).2 _ hfails
  refine ⟨⟨hunknown, ?_⟩, hfails, hblamed⟩
  exact (render_unknownTemplate calling _).1 "Frobnicate" (by decide) hunknown

end Renderer

end GenreProse
