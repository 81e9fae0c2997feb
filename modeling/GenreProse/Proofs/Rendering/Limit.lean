-- SUMMARY: A render that the limit on expansions did not cut short does not depend on the limit.
import GenreProse.Proofs.Rendering.Expansion
import GenreProse.Proofs.Template.Steady

/-!
# The limit on expansions

Where markup lies too deep, a message stands in its place, and it reaches the prose of the whole
render because all handlers are steady. So a render without such a message met the limit nowhere,
and it stays the same when the limit is raised. The induction is on the lower limit: one level of
expansion keeps `Raised` if the levels below it do.
-/

namespace GenreProse

/-- The message for too many levels marks prose as cut. -/
theorem depthExceeded_isCut (subject : String) : (depthExceeded subject).IsCut := by
  refine ⟨_, by rw [depthExceeded, Prose.messages_error]; exact List.mem_singleton_self _, ?_⟩
  simp [Text.opensWith, Prose.depthMessage, Chars.opensWith, Chars.after?]

/-! ## Nodes -/

/-- Whether one expander does what the other does where that was not cut short. -/
def Expander.Raised (low high : Expander) : Prop :=
  ∀ name parameters, GenreProse.Raised Prose.IsCut (low name parameters) (high name parameters)

/-- A container hides no cut. -/
theorem Container.wrap_isCut (kind : Container) {content : Prose} (h : content.IsCut) :
    (kind.wrap content).IsCut := by
  cases kind with
  | fragment => exact h
  | _ => exact h.framedIn _

theorem concat_isCut {pieces : List Prose} (h : ∃ piece ∈ pieces, piece.IsCut) :
    (Prose.concat pieces).IsCut := by
  obtain ⟨piece, hmem, hcut⟩ := h
  exact hcut.concat hmem

namespace Node

variable {context : Context} {low high : Expander}

mutual

/-- A node whose calls may go deeper renders as before, or was cut. -/
theorem render_raised (h : low.Raised high) (node : Node) :
    Raised Prose.IsCut (render context low node) (render context high node) := by
  cases node with
  | container kind children =>
    have hchildren := renderEach_raised h children
    exact hchildren.map (fun pieces => kind.wrap (.concat pieces)) fun pieces hcut =>
      kind.wrap_isCut (concat_isCut hcut)
  | template name parameters => exact h name parameters
  | _ => exact .refl _

/-- So do nodes one by one. -/
theorem renderEach_raised (h : low.Raised high) (nodes : List Node) :
    Raised (fun pieces => ∃ piece ∈ pieces, piece.IsCut)
      (renderEach context low nodes) (renderEach context high nodes) := by
  cases nodes with
  | nil => exact .refl _
  | cons node nodes =>
    refine (render_raised h node).map₂ (renderEach_raised h nodes) List.cons
      fun piece pieces hcut => ?_
    rcases hcut with hcut | ⟨other, hmem, hcut⟩
    · exact ⟨piece, List.mem_cons_self, hcut⟩
    · exact ⟨other, List.mem_cons_of_mem _ hmem, hcut⟩

end

/-- So do nodes together. -/
theorem renderAll_raised (h : low.Raised high) (nodes : List Node) :
    Raised Prose.IsCut (renderAll context low nodes) (renderAll context high nodes) :=
  (renderEach_raised h nodes).map _ fun _ => concat_isCut

end Node

/-! ## Levels of expansion -/

namespace Renderer

variable {renderer : Renderer} {low high : Option Expander}

/-- Whether the levels that one renderer has below it do what those of the other do where that was
    not cut short. Without a level everything is cut short. -/
def LevelsRaised (low high : Option Expander) : Prop :=
  ∀ expand ∈ low, ∃ expand' ∈ high, expand.Raised expand'

/-- A text that may be expanded deeper is evaluated as before, or was cut. -/
theorem evaluate_raised (h : LevelsRaised low high) (text : String) :
    Raised Prose.IsCut (renderer.evaluate low text) (renderer.evaluate high text) := by
  unfold evaluate
  by_cases htext : text = ""
  · simp only [htext, if_true]
    exact .refl _
  · simp only [htext, if_false]
    cases low with
    | none => exact .cut (depthExceeded_isCut text)
    | some expand =>
      obtain ⟨expand', rfl, hexpand⟩ := h expand rfl
      exact Node.renderAll_raised hexpand _

/-- Markup that may be expanded deeper renders as before, or was cut. -/
theorem resume_raised (h : LevelsRaised low high) (name text : String) :
    Raised Prose.IsCut (renderer.resume low name text) (renderer.resume high name text) := by
  unfold resume
  cases low with
  | none => exact .cut (depthExceeded_isCut name)
  | some expand =>
    obtain ⟨expand', rfl, hexpand⟩ := h expand rfl
    simp only
    split
    · exact hexpand _ _
    · exact Node.renderAll_raised hexpand _

/-- One level of expansion passes on what the levels below it change. -/
theorem expandWith_raised (h : LevelsRaised low high) :
    (renderer.expandWith low).Raised (renderer.expandWith high) := by
  intro name parameters
  cases hfind : Template.find? (canonicalName name) with
  | none =>
    rw [expandWith_unknown _ _ _ _ hfind, expandWith_unknown _ _ _ _ hfind]
    exact .refl _
  | some handler =>
    cases handler with
    | plain | dated | linked =>
      rw [expandWith_known _ _ _ _ hfind, expandWith_known _ _ _ _ hfind]
      exact .refl _
    | evaluating prose =>
      rw [expandWith_evaluating _ _ _ _ hfind, expandWith_evaluating _ _ _ _ hfind]
      exact Template.find?_steady hfind _ _ _ (evaluate_raised h)
    | expanding outcome =>
      rw [expandWith_expanding _ _ _ _ hfind, expandWith_expanding _ _ _ _ hfind]
      cases outcome (callOf name parameters) with
      | prose prose => exact .refl _
      | markup text => exact resume_raised h name text

/-- More levels expand a call as before, or it was cut. -/
theorem expand_raised {low high : Nat} (h : low ≤ high) :
    (renderer.expand low).Raised (renderer.expand high) := by
  induction low generalizing high with
  | zero =>
    rw [expand_eq, expand_eq]
    refine expandWith_raised fun expand hexpand => ?_
    cases hexpand
  | succ low ih =>
    cases high with
    | zero => exact absurd h (Nat.not_succ_le_zero low)
    | succ high =>
      rw [expand_eq, expand_eq]
      refine expandWith_raised fun expand hexpand => ?_
      cases hexpand
      exact ⟨_, rfl, ih (Nat.le_of_succ_le_succ h)⟩

/-! ## Renders -/

/-- A higher limit renders as before, or the render was cut. -/
theorem render_raised (renderer : Renderer) (nodes : List Node) {limit limit' : Nat}
    (h : limit ≤ limit') :
    Raised Prose.IsCut ({ renderer with maxDepth := limit }.render nodes)
      ({ renderer with maxDepth := limit' }.render nodes) := by
  rw [render_limit, render_limit]
  exact Node.renderAll_raised (expand_raised h) nodes

/-- Raising the limit changes no render that the limit did not cut short: a result without a depth
    message stays, and a failure stays a failure. -/
theorem render_of_limit_le (renderer : Renderer) (nodes : List Node) {limit limit' : Nat}
    (h : limit ≤ limit') :
    (∀ prose, { renderer with maxDepth := limit }.render nodes = .ok prose →
      (∀ message ∈ prose.messages,
        Text.opensWith message "Template expansion depth exceeded" = false) →
      { renderer with maxDepth := limit' }.render nodes = .ok prose) ∧
    (∀ unknown, { renderer with maxDepth := limit }.render nodes = .error unknown →
      ∃ unknown', { renderer with maxDepth := limit' }.render nodes = .error unknown') := by
  have hraised := render_raised renderer nodes h
  constructor
  · intro prose hlow huncut
    rw [hlow] at hraised
    generalize { renderer with maxDepth := limit' }.render nodes = high at hraised ⊢
    cases hraised with
    | kept => rfl
    | cut hcut =>
      obtain ⟨message, hmem, hopens⟩ := hcut
      have hnot := huncut message hmem
      rw [← Prose.depthMessage, hopens] at hnot
      cases hnot
  · intro unknown hlow
    rw [hlow] at hraised
    generalize { renderer with maxDepth := limit' }.render nodes = high at hraised ⊢
    cases hraised with
    | failed => exact ⟨_, rfl⟩

theorem exists_ok_of_any {α : Type} {result : Result α} {test : α → Bool}
    (h : result.toOption.any test = true) : ∃ value, result = .ok value ∧ test value = true := by
  cases result with
  | ok value => exact ⟨value, rfl, h⟩
  | error unknown => cases h

/-- A renderer for which the text `nested` is a call with text in it. -/
def nestedEmphasis : Renderer where
  parse text := if text = "nested" then [.template "em" [⟨none, "house"⟩]] else [.text text]
  context := ⟨none, .utc ⟨1970, 1, 1, isCalendarDay_epoch⟩ .midnight, fun _ => none⟩
  maxDepth := 2

theorem render_of_limit_le_nestedEmphasis :
    2 ≤ 20 ∧ ∃ prose,
      { nestedEmphasis with maxDepth := 2 }.render [.template "nowrap" [⟨none, "nested"⟩]]
        = .ok prose ∧
      prose.messages = [] ∧ prose.isEmpty = false ∧
      { nestedEmphasis with maxDepth := 20 }.render [.template "nowrap" [⟨none, "nested"⟩]]
        = .ok prose := by
  have hrun : ({ nestedEmphasis with maxDepth := 2 }.render
      [.template "nowrap" [⟨none, "nested"⟩]]).toOption.any
        (fun prose : Prose => prose.messages.isEmpty && !prose.isEmpty) = true := by decide +kernel
  obtain ⟨prose, hlow, hshown⟩ := exists_ok_of_any hrun
  obtain ⟨hmessages, hshows⟩ : prose.messages = [] ∧ prose.isEmpty = false := by
    simpa using hshown
  refine ⟨by decide, prose, hlow, hmessages, hshows, ?_⟩
  exact (render_of_limit_le nestedEmphasis _ (by decide)).1 prose hlow (by simp [hmessages])

end Renderer

end GenreProse
