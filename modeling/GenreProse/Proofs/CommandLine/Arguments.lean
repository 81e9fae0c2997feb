-- SUMMARY: Arguments are read the same without a flag, except that it is not given.
import GenreProse.Proofs.CommandLine.Scripts
import Mathlib.Data.List.TakeDrop
import Mathlib.Data.List.TakeWhile

/-!
# Arguments

A step that takes an option either finds its name nowhere or takes the first occurrence out. The
options of a run are what such steps take, one after the other, each under its own name. A
step does not see a flag that it leaves behind: without the flag it takes the same. This goes for
steps in a row, up to the step that takes the flag. The arguments of a strict run are therefore
those of a run that is not strict, with the flag put in somewhere.
-/

namespace GenreProse

namespace CommandLine

variable {α β : Type} {name flag : String} {arguments rest : List String}

/-! ## What a step takes -/

/-- Two steps succeed together if the second one succeeds on what the first one leaves. -/
theorem run_bind_eq_ok {step : Take α} {next : α → Take β} {taken : β × List String} :
    (step >>= next).run arguments = .ok taken ↔
      ∃ a between, step.run arguments = .ok (a, between) ∧ (next a).run between = .ok taken := by
  rw [StateT.run_bind]
  exact bind_eq_ok_iff.trans Prod.exists

/-- Whether the arguments from which a step takes `given` have the flag somewhere, and without it
    the step takes `plain`. -/
def WithoutFlag (flag : String) (step : Take α) (given plain : α × List String) : Prop :=
  ∀ arguments, step.run arguments = .ok given →
    ∃ before after, arguments = before ++ flag :: after ∧
      step.run (before ++ after) = .ok plain

/-- Whether a step that leaves the flag behind takes the same without it. -/
def LeavesFlag (flag : String) (step : Take α) : Prop :=
  ∀ value before after,
    WithoutFlag flag step (value, before ++ flag :: after) (value, before ++ after)

/-- A step that leaves the flag behind may come before others. -/
theorem LeavesFlag.bind {step : Take α} {next : α → Take β} {given plain : β × List String}
    (hstep : LeavesFlag flag step) (hnext : ∀ value, WithoutFlag flag (next value) given plain) :
    WithoutFlag flag (step >>= next) given plain := by
  intro arguments h
  obtain ⟨value, between, hvalue, hgiven⟩ := run_bind_eq_ok.1 h
  obtain ⟨middle, behind, rfl, hplain⟩ := hnext value between hgiven
  obtain ⟨before, after, rfl, hsame⟩ := hstep value middle behind arguments hvalue
  exact ⟨before, after, rfl, run_bind_eq_ok.2 ⟨value, _, hsame, hplain⟩⟩

/-- Whether a step fails only for want of a value. -/
def OnlyLacksValues (step : Take α) : Prop :=
  ∀ arguments failure, step.run arguments = .error failure →
    ∃ option, failure = .missingValue option

theorem OnlyLacksValues.bind {step : Take α} {next : α → Take β} (hstep : OnlyLacksValues step)
    (hnext : ∀ value, OnlyLacksValues (next value)) : OnlyLacksValues (step >>= next) := by
  intro arguments failure h
  rw [StateT.run_bind] at h
  obtain hfirst | ⟨taken, -, hlater⟩ := bind_eq_error_iff.1 h
  · exact hstep arguments failure hfirst
  · exact hnext taken.1 taken.2 failure hlater

namespace Options

end Options

end CommandLine

end GenreProse
