-- SUMMARY: The result of a script for given contents of what it reads.
import GenreProse.CommandLine.Run

/-!
# Results of scripts

Where it is given what can be read, a script has a result, without any effect. A script that goes on
with another one succeeds if both do, and fails with the failure of either.
-/

namespace GenreProse

namespace CommandLine

/-! ## Results -/

section

variable {ε α β : Type}

theorem bind_eq_ok_iff {result : Except ε α} {f : α → Except ε β} {b : β} :
    result.bind f = .ok b ↔ ∃ a, result = .ok a ∧ f a = .ok b := by
  cases result with
  | error error =>
    constructor
    · intro h
      cases h
    · rintro ⟨a, h, -⟩
      cases h
  | ok a =>
    constructor
    · exact fun h => ⟨a, rfl, h⟩
    · rintro ⟨_, h, hb⟩
      cases h
      exact hb

theorem bind_eq_error_iff {result : Except ε α} {f : α → Except ε β} {error : ε} :
    result.bind f = .error error ↔
      result = .error error ∨ ∃ a, result = .ok a ∧ f a = .error error := by
  cases result with
  | error other =>
    constructor
    · intro h
      cases h
      exact .inl rfl
    · rintro (h | ⟨a, h, -⟩)
      · cases h
        rfl
      · cases h
  | ok a =>
    constructor
    · exact fun h => .inr ⟨a, rfl, h⟩
    · rintro (h | ⟨_, h, hb⟩)
      · cases h
      · cases h
        exact hb

end

/-! ## Scripts -/

namespace Script

variable {content : Source → Except FileError String} {α β : Type}

def result (content : Source → Except FileError String) (script : Script α) : Except Failure α :=
  Id.run (script.run (m := Id) content)

/-- A script that goes on with another one reads from the same files. -/
theorem result_bind (script : Script α) (f : α → Script β) :
    (script >>= f).result content
      = (script.result content).bind fun value => (f value).result content := by
  induction script with
  | done outcome =>
    cases outcome with
    | error failure => rfl
    | ok value => rfl
  | read source next ih => exact ih (content source)

/-- Whether each failure of a script is one of the given ones. -/
def FailsWith (p : Failure → Prop) (script : Script α) : Prop :=
  ∀ content failure, script.result content = .error failure → p failure

variable {p : Failure → Prop}

/-- A script that goes on fails as its parts do. -/
theorem FailsWith.bind {script : Script α} {f : α → Script β} (hscript : FailsWith p script)
    (hnext : ∀ value, FailsWith p (f value)) : FailsWith p (script >>= f) := by
  intro content failure h
  rw [result_bind] at h
  obtain hfirst | ⟨value, -, hlater⟩ := bind_eq_error_iff.1 h
  · exact hscript content failure hfirst
  · exact hnext value content failure hlater

end Script

end CommandLine

end GenreProse
