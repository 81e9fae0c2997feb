-- SUMMARY: The last argument with a key counts, and numbers count up to the first that is missing.
import GenreProse.Proofs.Template.WrittenCalls
import Mathlib.Data.List.Nodup

/-!
# Look-up of arguments

A parameter has one key. It depends on the parameters before only through how many of them have no
name. What is found under a key belongs to the last parameter with the key. Parameters without a
name take the numbers from one on, so counting finds these at least. Each number that is found has a
parameter of its own, so counting ends after as many numbers as there are parameters.
-/

namespace GenreProse

/-- How many of the parameters have no name. -/
def countUnnamed (parameters : List Parameter) : Nat :=
  parameters.countP fun parameter => parameter.name.isNone

theorem countUnnamed_named (name value : String) (parameters : List Parameter) :
    countUnnamed (⟨some name, value⟩ :: parameters) = countUnnamed parameters :=
  List.countP_cons_of_neg (by simp)

theorem countUnnamed_unnamed (value : String) (parameters : List Parameter) :
    countUnnamed (⟨none, value⟩ :: parameters) = countUnnamed parameters + 1 :=
  List.countP_cons_of_pos (by simp)

namespace Parameter

/-- The key of a parameter that comes after so many without a name. -/
def keyAfter (unnamed : Nat) (parameter : Parameter) : String :=
  match parameter.name with
  | some name => Text.trim name
  | none => toString (unnamed + 1)

/-- What is found under the key of a parameter: only with a name the value loses the blanks around
    it. -/
def found (parameter : Parameter) : String :=
  if parameter.name.isSome then Text.trim parameter.value else parameter.value

/-- The argument that a parameter is after so many without a name. -/
def argumentAfter (unnamed : Nat) (parameter : Parameter) : Argument :=
  ⟨parameter.keyAfter unnamed, parameter.name.isSome, parameter.value⟩

end Parameter

namespace Call

/-! ## Keys -/

/-- The key of the parameter at a place. -/
def keyAt? (call : Call) (place : Nat) : Option String :=
  call.parameters[place]?.map (Parameter.keyAfter (countUnnamed (call.parameters.take place)))

/-- Each parameter becomes an argument, with the number of unnamed ones before it. -/
theorem getElem?_argumentsAfter (count place : Nat) (parameters : List Parameter) :
    (argumentsAfter count parameters)[place]? = parameters[place]?.map
      (Parameter.argumentAfter (count + countUnnamed (parameters.take place))) := by
  induction parameters generalizing count place with
  | nil => rfl
  | cons parameter parameters ih =>
    obtain ⟨name, value⟩ := parameter
    cases place with
    | zero => cases name <;> rfl
    | succ place =>
      rw [List.getElem?_cons_succ, List.take_succ_cons]
      cases name with
      | some name => rw [countUnnamed_named, argumentsAfter, List.getElem?_cons_succ, ih]
      | none =>
        rw [countUnnamed_unnamed, argumentsAfter, List.getElem?_cons_succ, ih, Nat.add_assoc,
          Nat.add_comm 1]

theorem length_argumentsAfter (count : Nat) (parameters : List Parameter) :
    (argumentsAfter count parameters).length = parameters.length := by
  induction parameters generalizing count with
  | nil => rfl
  | cons parameter parameters ih =>
    obtain ⟨_ | name, value⟩ := parameter <;>
      rw [argumentsAfter, List.length_cons, List.length_cons, ih]

/-- The arguments without a name have the numbers after `count` as their keys, in order. -/
theorem keys_unnamedAfter (count : Nat) (parameters : List Parameter) :
    ((argumentsAfter count parameters).filter fun argument => !argument.isNamed).map Argument.key =
      (List.range' (count + 1) (countUnnamed parameters)).map toString := by
  induction parameters generalizing count with
  | nil => rfl
  | cons parameter parameters ih =>
    obtain ⟨name, value⟩ := parameter
    cases name with
    | some name =>
      rw [argumentsAfter, List.filter_cons_of_neg (by simp), ih, countUnnamed_named]
    | none =>
      rw [argumentsAfter, List.filter_cons_of_pos (by simp), List.map_cons, ih,
        countUnnamed_unnamed, List.range'_succ, List.map_cons]

section

variable {call : Call} {key value : String}

/-- An argument is its parameter with the number that it takes. -/
theorem getElem?_arguments (place : Nat) :
    call.arguments[place]? = call.parameters[place]?.map
      (Parameter.argumentAfter (countUnnamed (call.parameters.take place))) := by
  rw [arguments, getElem?_argumentsAfter, Nat.zero_add]

/-- The key at a place is that of the argument there. -/
theorem keyAt?_eq (place : Nat) : call.keyAt? place = call.arguments[place]?.map Argument.key := by
  rw [getElem?_arguments, Option.map_map]
  rfl

/-! ## Last parameters -/

/-- Whether the parameter at a place is the last one with a key. -/
structure IsLastWith (call : Call) (key : String) (place : Nat) : Prop where
  hasKey : call.keyAt? place = some key
  last : ∀ later, place < later → call.keyAt? later ≠ some key

/-- The last element with a property is the first one from the end. -/
theorem find?_reverse_eq_some_iff {α : Type} {p : α → Bool} {xs : List α} {x : α} :
    xs.reverse.find? p = some x ↔
      ∃ i : Nat, xs[i]? = some x ∧ p x ∧ ∀ j, i < j → ∀ y, xs[j]? = some y → ¬p y := by
  rw [List.find?_eq_some_iff_append]
  constructor
  · rintro ⟨hx, after, before, hxs, hafter⟩
    obtain rfl : xs = before.reverse ++ x :: after.reverse := by
      rw [← List.reverse_reverse xs, hxs]
      simp
    refine ⟨before.reverse.length, by simp, hx, fun j hj y hy => ?_⟩
    rw [List.getElem?_append_right (by omega)] at hy
    obtain ⟨k, hk⟩ := Nat.exists_eq_add_of_lt hj
    rw [show j - before.reverse.length = k + 1 by omega, List.getElem?_cons_succ] at hy
    have hmem := List.mem_of_getElem? hy
    simpa using hafter y (List.mem_reverse.1 hmem)
  · rintro ⟨i, hi, hx, hlast⟩
    obtain ⟨hlt, rfl⟩ := List.getElem?_eq_some_iff.1 hi
    refine ⟨hx, (xs.drop (i + 1)).reverse, (xs.take i).reverse, ?_, fun y hy => ?_⟩
    · conv_lhs => rw [← List.take_append_drop i xs, ← List.getElem_cons_drop hlt]
      simp
    · obtain ⟨k, hk⟩ := List.mem_iff_getElem?.1 (List.mem_reverse.1 hy)
      rw [List.getElem?_drop] at hk
      simpa using hlast _ (by omega) y hk

/-- What is found is the value of the last parameter with the key. -/
theorem raw?_eq_some_iff : call.raw? key = some value ↔
    ∃ place parameter, call.parameters[place]? = some parameter ∧ call.IsLastWith key place ∧
      value = parameter.found := by
  rw [raw?, Option.map_eq_some_iff]
  constructor
  · rintro ⟨argument, hfind, rfl⟩
    obtain ⟨place, hplace, hkey, hlast⟩ := find?_reverse_eq_some_iff.1 hfind
    have hkeyAt := call.keyAt?_eq place
    rw [hplace, Option.map_some, of_decide_eq_true hkey] at hkeyAt
    rw [getElem?_arguments] at hplace
    obtain ⟨parameter, hparameter, rfl⟩ := Option.map_eq_some_iff.1 hplace
    refine ⟨place, parameter, hparameter, ⟨hkeyAt, fun later hlater hsame => ?_⟩, rfl⟩
    rw [keyAt?_eq] at hsame
    obtain ⟨other, hother, hsame⟩ := Option.map_eq_some_iff.1 hsame
    exact hlast later hlater other hother (decide_eq_true hsame)
  · rintro ⟨place, parameter, hparameter, ⟨hkey, hlast⟩, rfl⟩
    have hplace := call.getElem?_arguments place
    rw [hparameter, Option.map_some] at hplace
    rw [keyAt?_eq, hplace, Option.map_some, Option.some_inj] at hkey
    refine ⟨_, find?_reverse_eq_some_iff.2 ⟨place, hplace, decide_eq_true hkey, ?_⟩, rfl⟩
    intro later hlater other hother hsame
    refine hlast later hlater ?_
    rw [keyAt?_eq, hother, Option.map_some, of_decide_eq_true hsame]

/-- Nothing is found if no parameter has the key. -/
theorem raw?_eq_none_iff : call.raw? key = none ↔ ∀ place, call.keyAt? place ≠ some key := by
  simp only [raw?, Option.map_eq_none_iff, List.find?_eq_none, List.mem_reverse, decide_eq_true_eq,
    keyAt?_eq, Ne, Option.map_eq_some_iff, not_exists, not_and]
  constructor
  · intro h place argument hplace
    exact h argument (List.mem_of_getElem? hplace)
  · intro h argument hmem
    obtain ⟨place, hplace⟩ := List.mem_iff_getElem?.1 hmem
    exact h place argument hplace

/-! ## An index of the arguments -/

/-- The index with more arguments put into it, each in the place of an earlier one with its key. -/
def indexed (index : Std.HashMap String Argument) (arguments : List Argument) :
    Std.HashMap String Argument :=
  arguments.foldl (fun index argument => index.insert argument.key argument) index

/-- An index holds the last argument with each key. -/
theorem getElem?_indexed (index : Std.HashMap String Argument) (arguments : List Argument)
    (key : String) : (indexed index arguments)[key]? =
      (arguments.reverse.find? fun argument => argument.key = key).or index[key]? := by
  induction arguments generalizing index with
  | nil => rfl
  | cons argument arguments ih =>
    rw [indexed, List.foldl_cons, ← indexed, ih, Std.HashMap.getElem?_insert, List.reverse_cons,
      List.find?_append, Option.or_assoc]
    by_cases hkey : argument.key = key <;> simp [hkey]

/-- To look for the last argument with a key is to look it up in an index that is filled in the
    order of the call. -/
theorem raw?_eq_getElem?_indexed : call.raw? key =
    (indexed ∅ call.arguments)[key]?.map fun argument =>
      if argument.isNamed then Text.trim argument.value else argument.value := by
  rw [getElem?_indexed, Std.HashMap.getElem?_empty, Option.or_none, raw?]

/-! ## Counting -/

section

variable {bound index n : Nat}

/-- Counting ends at the first number that is missing. -/
theorem positionalAfter_of_missing (h : call.get? (toString (index + 1)) = none) :
    call.positionalAfter bound index = [] := by
  cases bound with
  | zero => rfl
  | succ bound => simp only [positionalAfter, h]

/-- A number that is there is counted. -/
theorem positionalAfter_of_found (h : call.get? (toString (index + 1)) = some value) :
    call.positionalAfter (bound + 1) index = value :: call.positionalAfter bound (index + 1) := by
  simp only [positionalAfter, h]

theorem length_positionalAfter_le : (call.positionalAfter bound index).length ≤ bound := by
  fun_induction positionalAfter call bound index with
  | case1 => exact Nat.zero_le _
  | case2 bound index value hget ih => exact Nat.succ_le_succ ih
  | case3 => exact Nat.zero_le _

/-- Each counted value is the one of its number. -/
theorem getElem_positionalAfter (h : n < (call.positionalAfter bound index).length) :
    call.get? (toString (index + n + 1)) = some (call.positionalAfter bound index)[n] := by
  induction bound generalizing index n with
  | zero => exact absurd h (Nat.not_lt_zero n)
  | succ bound ih =>
    cases hget : call.get? (toString (index + 1)) with
    | none =>
      rw [positionalAfter_of_missing hget] at h
      exact absurd h (Nat.not_lt_zero n)
    | some value =>
      simp only [positionalAfter_of_found hget, List.length_cons] at h ⊢
      cases n with
      | zero => exact hget
      | succ n =>
        rw [List.getElem_cons_succ, ← ih (Nat.lt_of_succ_lt_succ h),
          show index + (n + 1) + 1 = index + 1 + n + 1 by omega]

/-- Counting that does not use up its bound ends at a number that is missing. -/
theorem get?_after_positionalAfter (h : (call.positionalAfter bound index).length < bound) :
    call.get? (toString (index + (call.positionalAfter bound index).length + 1)) = none := by
  induction bound generalizing index with
  | zero => exact absurd h (Nat.not_lt_zero _)
  | succ bound ih =>
    cases hget : call.get? (toString (index + 1)) with
    | none => rwa [positionalAfter_of_missing hget]
    | some value =>
      rw [positionalAfter_of_found hget, List.length_cons] at h ⊢
      rw [← ih (Nat.lt_of_succ_lt_succ h), Nat.add_right_comm index 1, ← Nat.add_assoc index]

/-- Where counting ends at a number that is missing, a larger bound changes nothing. -/
theorem positionalAfter_add (more : Nat)
    (h : call.get? (toString (index + (call.positionalAfter bound index).length + 1)) = none) :
    call.positionalAfter (bound + more) index = call.positionalAfter bound index := by
  induction bound generalizing index with
  | zero => exact positionalAfter_of_missing h
  | succ bound ih =>
    rw [Nat.add_right_comm]
    cases hget : call.get? (toString (index + 1)) with
    | none => rw [positionalAfter_of_missing hget, positionalAfter_of_missing hget]
    | some value =>
      rw [positionalAfter_of_found hget, List.length_cons, ← Nat.add_assoc,
        Nat.add_right_comm index _ 1] at h
      rw [positionalAfter_of_found hget, positionalAfter_of_found hget, ih h]

end

/-- Nothing is found under a key that no argument has. -/
theorem get?_eq_none_iff :
    call.get? key = none ↔ key ∉ call.arguments.map Argument.key := by
  rw [List.mem_map, not_exists]
  constructor
  · rintro hnone argument ⟨hmem, rfl⟩
    obtain ⟨value, hvalue⟩ := Template.exists_get?_of_mem hmem
    rw [hnone] at hvalue
    cases hvalue
  · intro hkeys
    rw [Option.eq_none_iff_forall_ne_some]
    intro value hvalue
    obtain ⟨argument, hmem, hkey, -⟩ := Template.exists_of_get? hvalue
    exact hkeys argument ⟨hmem, hkey⟩

variable (call)

/-- Different numbers are found in different arguments, so counting comes to a number that is
    missing. -/
theorem get?_after_positional :
    call.get? (toString (call.positional.length + 1)) = none := by
  by_contra hfound
  have hall : ¬call.positional.length < call.parameters.length := fun hlt =>
    hfound (Nat.zero_add call.positional.length ▸ get?_after_positionalAfter hlt)
  have hkeys : (List.range' 1 (call.positional.length + 1)).map toString ⊆
      call.arguments.map Argument.key := by
    intro key hkey
    obtain ⟨n, hn, rfl⟩ := List.mem_map.1 hkey
    obtain ⟨hlow, hhigh⟩ := List.mem_range'_1.1 hn
    obtain ⟨n, rfl⟩ := Nat.exists_eq_add_of_le' hlow
    by_contra hnot
    have hmissing := get?_eq_none_iff.2 hnot
    obtain rfl | hlt := Nat.eq_or_lt_of_le (show n ≤ call.positional.length by omega)
    · exact hfound hmissing
    · have hget := getElem_positionalAfter hlt
      rw [Nat.zero_add, hmissing] at hget
      cases hget
  have hnodup : ((List.range' 1 (call.positional.length + 1)).map toString).Nodup :=
    List.Nodup.map (fun _ _ heq => by_contra fun hne => Template.toString_ne hne heq)
      (List.nodup_range' 1)
  have hlength := hnodup.length_le_of_subset hkeys
  rw [List.length_map, List.length_range', List.length_map, arguments, length_argumentsAfter]
    at hlength
  omega

/-- There is a positional value for each unnamed parameter. -/
theorem unnamedCount_le_length_positional : call.unnamedCount ≤ call.positional.length := by
  by_contra hlt
  refine get?_eq_none_iff.1 call.get?_after_positional ?_
  have hmem : toString (call.positional.length + 1) ∈
      (List.range' 1 call.unnamedCount).map toString :=
    List.mem_map_of_mem (List.mem_range'_1.2 ⟨by omega, by omega⟩)
  have hkeys := keys_unnamedAfter 0 call.parameters
  rw [Nat.zero_add] at hkeys
  rw [unnamedCount, ← countUnnamed, ← hkeys] at hmem
  exact List.map_subset _ (List.filter_subset_self _) hmem

/-- What is found under a key is the value of the last parameter that has it. Counting ends, and
    finds the values with the numbers up to the first that is missing: at least as many as there are
    parameters without a name, and at most as many as there are parameters. -/
theorem found_last_and_counted (call : Call) :
    (∀ key value, call.raw? key = some value ↔
      ∃ place parameter, call.parameters[place]? = some parameter ∧ call.IsLastWith key place ∧
        value = parameter.found) ∧
    (∀ key, call.raw? key = none ↔ ∀ place, call.keyAt? place ≠ some key) ∧
    (∀ bound, call.parameters.length ≤ bound →
      call.positionalAfter bound 0 = call.positional) ∧
    (∀ n (h : n < call.positional.length),
      call.get? (toString (n + 1)) = some call.positional[n]) ∧
    call.get? (toString (call.positional.length + 1)) = none ∧
    call.unnamedCount ≤ call.positional.length ∧
    call.positional.length ≤ call.parameters.length ∧
    call.unnamedCount = (call.parameters.filter fun parameter => parameter.name.isNone).length ∧
    (call.arguments.filter fun argument => !argument.isNamed).map Argument.key =
      (List.range' 1 call.unnamedCount).map toString := by
  have hmissing := call.get?_after_positional
  refine ⟨fun _ _ => raw?_eq_some_iff, fun _ => raw?_eq_none_iff, fun bound hbound => ?_,
    fun n h => ?_, hmissing, call.unnamedCount_le_length_positional, length_positionalAfter_le,
    List.countP_eq_length_filter, ?_⟩
  · obtain ⟨more, rfl⟩ := Nat.exists_eq_add_of_le hbound
    exact positionalAfter_add more (by rwa [Nat.zero_add])
  · have hget := getElem_positionalAfter h
    rwa [Nat.zero_add] at hget
  · exact keys_unnamedAfter 0 call.parameters

example : (Call.mk "t" [⟨none, " one "⟩, ⟨some "lit", " literal "⟩, ⟨some " 3 ", "three"⟩,
    ⟨none, "two"⟩]).positional = ["one", "two", "three"] := by decide

end

end Call

end GenreProse
