-- SUMMARY: Laws of running evaluations.
import GenreProse.Template.Eval

/-!
# Running evaluations

To run an evaluation that goes on with a result is to run one evaluation after the other. What an
evaluation ensures about its result is said without running it: by what it does with answers of
which nothing but an assumption is known.
-/

namespace GenreProse

namespace Eval

variable {α β : Type}

/-- An evaluation that goes on with another one asks the same questions. -/
theorem run_bind (eval : Eval α) (f : α → Eval β) (answer : String → Result Prose) :
    (eval.bind f).run answer = (eval.run answer).bind fun a => (f a).run answer := by
  induction eval with
  | done result => rfl
  | ask markup next ih =>
    simp only [bind, run]
    cases answer markup with
    | error unknown => rfl
    | ok prose => exact ih prose

theorem run_bind_done (eval : Eval α) (f : α → β) (answer : String → Result Prose) :
    (eval.bind fun a => .done (f a)).run answer = (eval.run answer).map f := by
  rw [run_bind]
  cases eval.run answer <;> rfl

theorem run_markup (text : String) (answer : String → Result Prose) :
    (markup text).run answer = answer text := by
  simp only [markup, run]
  cases answer text <;> rfl

/-- Texts are evaluated one after the other. -/
theorem run_markups (texts : List String) (answer : String → Result Prose) :
    (markups texts).run answer = texts.mapM answer := by
  induction texts with
  | nil => rfl
  | cons text texts ih =>
    have hfirst : (markups (text :: texts)).run answer = (answer text).bind fun first =>
        ((markups texts).bind fun rest => .done (first :: rest)).run answer := by
      rw [← run_markup text answer, ← run_bind]
      rfl
    rw [hfirst, List.mapM_cons]
    simp only [run_bind_done, ih]
    cases answer text with
    | error unknown => rfl
    | ok first => cases texts.mapM answer <;> rfl

/-! ## Assumptions on answers -/

variable {assumed : Prose → Prop} {goal : α → Prop} {goal' : β → Prop}

/-- Whether the result reaches a goal, if all that is known of the answers is an assumption. -/
def Ensures (assumed : Prose → Prop) (goal : α → Prop) : Eval α → Prop
  | .done result => goal result
  | .ask _ next => ∀ answer, assumed answer → (next answer).Ensures assumed goal

/-- What an evaluation ensures is true of its result, if the answers are as assumed. -/
theorem Ensures.of_run {eval : Eval α} {answer : String → Result Prose} {a : α}
    (h : eval.Ensures assumed goal)
    (hanswer : ∀ text prose, answer text = .ok prose → assumed prose)
    (hrun : eval.run answer = .ok a) : goal a := by
  induction eval with
  | done result =>
    cases hrun
    exact h
  | ask markup next ih =>
    rw [run] at hrun
    cases hmarkup : answer markup with
    | error unknown =>
      rw [hmarkup] at hrun
      cases hrun
    | ok prose =>
      rw [hmarkup] at hrun
      exact ih prose (h prose (hanswer markup prose hmarkup)) hrun

/-- An evaluation may go on with what is ensured. -/
theorem Ensures.bind {eval : Eval α} {f : α → Eval β} (h : eval.Ensures assumed goal)
    (hf : ∀ a, goal a → (f a).Ensures assumed goal') : (eval.bind f).Ensures assumed goal' := by
  induction eval with
  | done result => exact hf result h
  | ask markup next ih =>
    intro answer hanswer
    exact ih answer (h answer hanswer)

theorem ensures_markup (text : String) : (markup text).Ensures assumed assumed := by
  intro answer hanswer
  exact hanswer

theorem ensures_markup? (text : Option String) (hempty : assumed .empty) :
    (markup? text).Ensures assumed assumed := by
  cases text with
  | none => exact hempty
  | some text => exact ensures_markup text

theorem ensures_markups (texts : List String) :
    (markups texts).Ensures assumed fun pieces => ∀ piece ∈ pieces, assumed piece := by
  induction texts with
  | nil => exact List.forall_mem_nil _
  | cons text texts ih =>
    refine (ensures_markup text).bind fun first hfirst => ?_
    refine ih.bind fun rest hrest => ?_
    exact List.forall_mem_cons.mpr ⟨hfirst, hrest⟩

/-! ## Separated results -/

/-- Separators add nothing but themselves, and only where there is something to separate. -/
theorem mem_intersperse {a separator : α} {items : List α} :
    a ∈ items.intersperse separator ↔ a ∈ items ∨ (a = separator ∧ 2 ≤ items.length) := by
  fun_induction List.intersperse separator items with
  | case1 => simp
  | case2 => simp
  | case3 first rest hmore ih =>
    have hseveral : 2 ≤ (first :: rest).length :=
      Nat.succ_le_succ (List.length_pos_iff.mpr hmore)
    rw [List.mem_cons, List.mem_cons, ih, List.mem_cons]
    constructor
    · rintro (hfirst | hseparator | hrest | ⟨hseparator, -⟩)
      · exact .inl (.inl hfirst)
      · exact .inr ⟨hseparator, hseveral⟩
      · exact .inl (.inr hrest)
      · exact .inr ⟨hseparator, hseveral⟩
    · rintro ((hfirst | hrest) | ⟨hseparator, -⟩)
      · exact .inl hfirst
      · exact .inr (.inr (.inl hrest))
      · exact .inr (.inl hseparator)

end Eval

end GenreProse
