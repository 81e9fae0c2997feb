-- SUMMARY: A length of time is told in whole units, with less than one unit left over.
import GenreProse.Proofs.Calendar.Overflow
import Mathlib.Order.Bounds.Basic

/-!
# Elapsed time

The units are in order of their lengths, and the list of all of them has the longest first. So the
first that fits is the coarsest that does, and whatever unit is chosen, what is left over is shorter
than it.
-/

namespace GenreProse

open IntegerRange

/-- In a list in descending order, the first that passes a test is the greatest that does. -/
theorem isGreatest_of_find? {α : Type} [Preorder α] {elements : List α} {test : α → Bool}
    {a : α} (hsorted : elements.Pairwise (· > ·)) (h : elements.find? test = some a) :
    IsGreatest {a | a ∈ elements ∧ test a} a := by
  obtain ⟨htest, before, after, rfl, hbefore⟩ := List.find?_eq_some_iff_append.1 h
  refine ⟨⟨by simp, htest⟩, ?_⟩
  rintro other ⟨hmem, hother⟩
  rcases List.mem_append.1 hmem with hearly | hlate
  · have hfails := hbefore other hearly
    rw [hother] at hfails
    cases hfails
  · rcases List.mem_cons.1 hlate with rfl | hafter
    · exact le_rfl
    · have hrest := (List.pairwise_append.1 hsorted).2.1
      exact le_of_lt (List.rel_of_pairwise_cons hrest hafter)

namespace TimeUnit

/-! ## The order of units -/

theorem ctorIdx_injective : Function.Injective TimeUnit.ctorIdx := by
  intro a b h
  cases a <;> cases b <;> first | rfl | cases h

/-- Units in the order in which they are declared, the finest first. -/
instance : LinearOrder TimeUnit :=
  LinearOrder.lift' TimeUnit.ctorIdx ctorIdx_injective

/-- A unit is coarser if and only if it is longer. -/
theorem lt_iff_seconds_lt {a b : TimeUnit} : a < b ↔ a.seconds < b.seconds := by
  cases a <;> cases b <;> decide

/-- The coarser one of two units is the greater one in the order of units. -/
theorem coarser_eq_max (a b : TimeUnit) : a.coarser b = max a b := by
  rw [coarser, max_def_lt]
  simp only [lt_iff_seconds_lt]

theorem mem_all (unit : TimeUnit) : unit ∈ all := by
  cases unit <;> decide

/-- The units are listed from the coarsest to the finest. -/
theorem pairwise_all : all.Pairwise (· > ·) := by
  decide

theorem seconds_pos (unit : TimeUnit) : 0 < unit.seconds := by
  cases unit <;> decide

/-! ## The unit for a length of time -/

/-- Whether the unit is the coarsest that is not longer than so many seconds. No time at all counts
    as seconds. -/
def IsCoarsest (elapsed : Nat) (unit : TimeUnit) : Prop :=
  if elapsed = 0 then unit = second else IsGreatest {unit : TimeUnit | unit.seconds ≤ elapsed} unit

/-- The unit that is picked is the coarsest one of which the time has at least one. -/
theorem fitting_isCoarsest (elapsed : Nat) : IsCoarsest elapsed (fitting elapsed) := by
  unfold IsCoarsest
  split
  · next hzero =>
    subst hzero
    rfl
  · next hsome =>
    have hsecond : (all.find? fun unit => unit.seconds ≤ elapsed).isSome := by
      rw [List.find?_isSome]
      refine ⟨second, mem_all _, decide_eq_true ?_⟩
      exact Nat.one_le_iff_ne_zero.2 hsome
    obtain ⟨unit, hfound⟩ := Option.isSome_iff_exists.1 hsecond
    have hgreatest := isGreatest_of_find? pairwise_all hfound
    simpa [fitting, hfound, mem_all] using hgreatest

/-- Whether a length of time is told in the unit: the given one if there is one, else the coarsest
    that fits or the finest that is allowed, whichever is coarser. -/
def Tells (elapsed : Nat) (given finest : Option TimeUnit) (unit : TimeUnit) : Prop :=
  match given with
  | some given => unit = given
  | none => ∃ coarsest, IsCoarsest elapsed coarsest ∧ unit = finest.elim coarsest (max coarsest)

theorem telling_tells (elapsed : Nat) (given finest : Option TimeUnit) :
    Tells elapsed given finest (telling elapsed given finest) := by
  cases given with
  | some given => rfl
  | none =>
    refine ⟨fitting elapsed, fitting_isCoarsest elapsed, ?_⟩
    cases finest with
    | none => rfl
    | some finest => exact coarser_eq_max _ _

/-- A unit that may be as fine as need be is not longer than the time, if there is any. -/
theorem Tells.seconds_le {elapsed : Nat} {unit : TimeUnit} (h : Tells elapsed none none unit)
    (hsome : elapsed ≠ 0) : unit.seconds ≤ elapsed := by
  obtain ⟨coarsest, hcoarsest, rfl⟩ := h
  rw [IsCoarsest, if_neg hsome] at hcoarsest
  exact hcoarsest.1

end TimeUnit

/-! ## Whole units -/

/-- Whether so many whole units are in the length of time, and less than one is left over. -/
def IsWhole (elapsed : Nat) (count : Nat) (unit : TimeUnit) : Prop :=
  count * unit.seconds ≤ elapsed ∧ elapsed < (count + 1) * unit.seconds

/-- The whole units in a length of time are what division counts, and only these. -/
theorem isWhole_iff {elapsed count : Nat} {unit : TimeUnit} :
    IsWhole elapsed count unit ↔ elapsed / unit.seconds = count := by
  constructor
  · rintro ⟨hleast, hmost⟩
    exact Nat.div_eq_of_lt_le hleast hmost
  · rintro rfl
    refine ⟨Nat.div_mul_le_self _ _, ?_⟩
    exact Nat.lt_mul_of_div_lt (Nat.lt_succ_self _) unit.seconds_pos

/-- A time before now is told like one after now. -/
theorem splitElapsed_neg (elapsed : Int) (given finest : Option TimeUnit) :
    splitElapsed (-elapsed) given finest = splitElapsed elapsed given finest := by
  simp only [splitElapsed, Int.natAbs_neg]

/-- A length of time below the largest count is not cut down. -/
theorem splitElapsed_eq {elapsed : Int} (h : elapsed.natAbs ≤ largestCount)
    (given finest : Option TimeUnit) :
    splitElapsed elapsed given finest =
      (elapsed.natAbs / (TimeUnit.telling elapsed.natAbs given finest).seconds,
        TimeUnit.telling elapsed.natAbs given finest) := by
  rw [splitElapsed, Nat.min_eq_left ((Nat.div_le_self _ _).trans h)]

/-- Any length of time in integers of 64 bits but the least is split exactly, whatever its sign: into
    whole units, with less than one left over. The unit is the given one, or the coarsest that fits
    and is allowed, and without any demands some time has at least one unit. The integers of 64 bits
    are enough for all of this. -/
theorem splitElapsed_exact {elapsed : Int} (hfits : signed64.Has elapsed)
    (hleast : elapsed ≠ signed64.least) (given finest : Option TimeUnit) :
    ∃ count unit,
      (∀ signed ∈ [elapsed, -elapsed],
        splitElapsed signed given finest = (count, unit) ∧
        Checked.splitElapsed signed given finest = .some (count, unit)) ∧
      IsWhole elapsed.natAbs count unit ∧ TimeUnit.Tells elapsed.natAbs given finest unit ∧
      (given = none → finest = none → elapsed ≠ 0 → 1 ≤ count) := by
  have hrange : elapsed.natAbs ≤ largestCount ∧ signed64.Has (-elapsed) := by
    simp only [Has, signed64, largestCount] at *
    omega
  obtain ⟨hmost, hneg⟩ := hrange
  have hsplit := splitElapsed_eq hmost given finest
  refine ⟨_, _, ?_, isWhole_iff.2 rfl, TimeUnit.telling_tells _ given finest, ?_⟩
  · intro signed hsigned
    have hsame : signed64.Has signed ∧
        splitElapsed signed given finest = splitElapsed elapsed given finest := by
      rcases List.mem_pair.1 hsigned with rfl | rfl
      · exact ⟨hfits, rfl⟩
      · exact ⟨hneg, splitElapsed_neg elapsed given finest⟩
    obtain ⟨hhas, hsame⟩ := hsame
    rw [Checked.splitElapsed_eq hhas, hsame, hsplit]
    exact ⟨rfl, rfl⟩
  · rintro rfl rfl hsome
    have htells := TimeUnit.telling_tells elapsed.natAbs none none
    have hfits := htells.seconds_le (Int.natAbs_ne_zero.2 hsome)
    exact Nat.div_pos hfits (TimeUnit.seconds_pos _)

/-- One second less than a month is four weeks, also as a negative number; and 59 seconds have no
    whole minute. -/
theorem splitElapsed_exact_fourWeeks :
    signed64.Has (-2629745) ∧ (-2629745 : Int) ≠ signed64.least ∧
    splitElapsed (-2629745) none none = (4, .week) ∧ splitElapsed 2629745 none none = (4, .week) ∧
    IsWhole 2629745 4 .week ∧ TimeUnit.Tells 2629745 none none .week ∧
    splitElapsed 59 none (some .minute) = (0, .minute) ∧
    IsWhole 59 0 .minute ∧ TimeUnit.Tells 59 none (some .minute) .minute := by
  have hfits : signed64.Has (-2629745) := by decide
  have hleast : (-2629745 : Int) ≠ signed64.least := by decide
  have hweeks : splitElapsed (-2629745) none none = (4, .week) := by decide
  have hminutes : splitElapsed 59 none (some .minute) = (0, .minute) := by decide
  obtain ⟨count, unit, hsplits, hwhole, htells, hsome⟩ := splitElapsed_exact hfits hleast none none
  obtain ⟨rfl, rfl⟩ : count = 4 ∧ unit = .week := by
    simpa [hweeks, eq_comm] using (hsplits _ List.mem_cons_self).1
  obtain ⟨count', unit', hsplits', hwhole', htells', -⟩ :=
    splitElapsed_exact (show signed64.Has 59 by decide) (by decide) none (some .minute)
  obtain ⟨rfl, rfl⟩ : count' = 0 ∧ unit' = .minute := by
    simpa [hminutes, eq_comm] using (hsplits' _ List.mem_cons_self).1
  exact ⟨hfits, hleast, hweeks, (hsplits 2629745 (by decide)).1, hwhole, htells, hminutes, hwhole',
    htells'⟩

end GenreProse
