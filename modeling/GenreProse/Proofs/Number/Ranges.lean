-- SUMMARY: Integers of a range, and operations that refuse results outside of it.
import GenreProse.Number.Integer
import Mathlib.Data.Part

/-!
# Ranges of integers

A check answers with nothing where an integer is not in the range. An operation that does not check
its result has none there: the computation stops.
-/

namespace GenreProse

namespace IntegerRange

variable {range : IntegerRange} {m n : Int}

/-- Whether the integer is in the range. -/
def Has (range : IntegerRange) (n : Int) : Prop :=
  range.least ≤ n ∧ n ≤ range.greatest

instance (range : IntegerRange) (n : Int) : Decidable (range.Has n) :=
  inferInstanceAs (Decidable (_ ∧ _))

theorem check_of_has (h : range.Has n) : range.check n = some n :=
  if_pos h

theorem check_of_not_has (h : ¬range.Has n) : range.check n = none :=
  if_neg h

/-- Only numbers in the range pass the check. -/
theorem check_eq_some_iff : range.check n = some m ↔ range.Has n ∧ m = n := by
  unfold check
  split
  · next h => simp [Has, h, eq_comm]
  · next h => simp [Has, h]

/-- The integer, if it lies in the range. Otherwise there is no result, as where an operation on
    integers of the range overflows. -/
def exact (range : IntegerRange) (n : Int) : Part Int :=
  Part.assert (range.Has n) fun _ => .some n

/-- An operation whose result is in the range has this result. -/
theorem exact_of_has (h : range.Has n) : range.exact n = .some n :=
  Part.assert_pos h

theorem exact_bind {α : Type} (h : range.Has n) (f : Int → Part α) :
    range.exact n >>= f = f n := by
  rw [exact_of_has h, Part.bind_eq_bind, Part.bind_some]

/-- Where an integer is read in some range, a range without negative integers has it too, unless it
    is written with a minus sign or too large. -/
theorem read?_of_read? {range' : IntegerRange} {s : String} (hleast : 0 ≤ range.least)
    (h : range'.read? s = some n) :
    range.read? s = if s.toList.head? = some '-' then none else range.check n := by
  have hcheck {k : Option Nat} (h : (k.bind fun n => range'.check n) = some n) :
      (k.bind fun n => range.check n) = range.check n := by
    obtain ⟨m, rfl, hm⟩ := Option.bind_eq_some_iff.1 h
    obtain ⟨-, rfl⟩ := check_eq_some_iff.1 hm
    rfl
  unfold read? at *
  split at h
  · next digits hs => simpa [hs] using hcheck h
  · next digits hs => simp [hs, Int.not_lt.2 hleast]
  · next digits hplus hminus =>
    have hhead : s.toList.head? ≠ some '-' := by
      intro hhead
      obtain ⟨rest, hs⟩ := List.head?_eq_some_iff.1 hhead
      exact hminus rest hs
    rw [if_neg hhead]
    exact hcheck h

end IntegerRange

end GenreProse
