-- SUMMARY: How the calls that handlers write are read back, and in which order their values keep their numbers.
import GenreProse.Proofs.Markup.Calls
import GenreProse.Proofs.Number.Digits
import GenreProse.Template.Foreign

/-!
# Calls that are written and read

A handler that writes a call gives a number to each value with an equals sign. Reading the call back
finds every value as it was written, but a value with a number of its own does not count for the
numbers of those without. So each value is found under its number if those with equals signs come
last, and only then.
-/

namespace GenreProse

namespace Template

/-! ## Numbers as text -/

theorem toString_ne {m n : Nat} (h : m ≠ n) : toString m ≠ toString n := by
  intro heq
  have hdigits := congrArg (Nat.ofDigitChars 10 · 0) (congrArg String.toList heq)
  exact h (by simpa [Nat.toString_eq_ofList_toDigits] using hdigits)

theorem chars_trim_toString (n : Nat) : Chars.trim (toString n).toList = (toString n).toList :=
  Chars.trim_eq_self fun _ hc => isBlank_of_isDigit (isDigit_of_mem_toString hc)

/-- A number has no blanks around it. -/
theorem trim_toString (n : Nat) : Text.trim (toString n) = toString n := by
  rw [Text.trim, Text.onChars, chars_trim_toString, String.ofList_toList]

/-! ## Marks -/

/-- The characters that are markup among the arguments of a call, but for the equals sign. -/
def marks : List Char :=
  '|' :: '<' :: Markup.brackets

/-- Digits are no marks. -/
theorem not_mem_marks_of_isDigit {c : Char} (h : c.isDigit) : c ∉ marks := by
  have hmarks : ∀ mark ∈ marks, ¬mark.isDigit := Chars.forall_of_all (by decide)
  exact fun hmem => hmarks c hmem h

/-- Text without marks is cut at every separator. -/
theorem splitTopLevel_eq_splitOn {s : Chars} (h : ∀ c ∈ s, c ∉ marks) (separator : Char) :
    Markup.splitTopLevel separator s = s.splitOn separator :=
  Markup.splitTopLevel_eq_splitOn fun c hc hmem => h c hc (List.mem_cons_of_mem _ hmem)

theorem chars_contains_singleton (c : Char) (s : Chars) : Chars.contains [c] s ↔ c ∈ s := by
  induction s with
  | nil => simp [Chars.contains]
  | cons d s ih =>
    rw [Chars.contains, Bool.or_eq_true, ih, List.mem_cons, Chars.opensWith, Chars.after?]
    split <;> simp [Chars.after?, *]

theorem contains_equals (value : String) : Text.contains value "=" ↔ '=' ∈ value.toList :=
  chars_contains_singleton '=' value.toList

/-! ## Writing -/

/-- The arguments of a call after `count` others, as they are written. -/
def writtenArguments (count : Nat) : List String → List Chars
  | [] => []
  | value :: values =>
    let number := if Text.contains value "=" then (toString (count + 1)).toList ++ ['='] else []
    (number ++ value.toList) :: writtenArguments (count + 1) values

/-- Each argument is written after a bar. -/
theorem toList_argumentsMarkup (count : Nat) (values : List String) :
    (argumentsMarkup count values).toList =
      (writtenArguments count values).flatMap ('|' :: ·) := by
  induction values generalizing count with
  | nil => rfl
  | cons value values ih =>
    simp only [argumentsMarkup, String.toList_append, ih, writtenArguments, List.flatMap_cons]
    split <;> simp

/-- The parameters that values after `count` others are read back as. -/
def readBack (count : Nat) : List String → List Parameter
  | [] => []
  | value :: values =>
    ⟨if Text.contains value "=" then some (toString (count + 1)) else none, value⟩ ::
      readBack (count + 1) values

/-- A name and an equals sign before a value are read as the name of the argument. -/
theorem parseParameter_named {name value : Chars} (hname : ∀ c ∈ name, c ∉ marks)
    (hequals : '=' ∉ name) (hvalue : ∀ c ∈ value, c ∉ marks) :
    Markup.parseParameter (name ++ '=' :: value) =
      ⟨some (String.ofList (Chars.trim name)), String.ofList value⟩ := by
  have hmarks : ∀ c ∈ name ++ '=' :: value, c ∉ marks :=
    List.forall_mem_append.2 ⟨hname, List.forall_mem_cons.2 ⟨by decide, hvalue⟩⟩
  obtain ⟨next, parts, hparts⟩ := List.exists_cons_of_ne_nil (List.splitOn_ne_nil '=' value)
  obtain ⟨rest, hcut, hrest⟩ := Markup.cutTopLevel?_of_splitTopLevel
    ((splitTopLevel_eq_splitOn hmarks '=').trans (hparts ▸
      List.splitOn_append_cons_self_of_not_mem hequals value))
  obtain rfl := (List.cons.inj (List.append_cancel_left hrest)).2
  rw [Markup.parseParameter, hcut]

/-- A number is read as the name of the argument too. -/
theorem parseParameter_numbered (n : Nat) {value : Chars} (h : ∀ c ∈ value, c ∉ marks) :
    Markup.parseParameter ((toString n).toList ++ '=' :: value) =
      ⟨some (toString n), String.ofList value⟩ := by
  have hname : ∀ c ∈ (toString n).toList, c ∉ marks := fun _ hc =>
    not_mem_marks_of_isDigit (isDigit_of_mem_toString hc)
  have hequals : '=' ∉ (toString n).toList := fun hmem =>
    absurd (isDigit_of_mem_toString hmem) (by decide)
  rw [parseParameter_named hname hequals h, chars_trim_toString, String.ofList_toList]

/-- A value without an equals sign is read as an argument without a name. -/
theorem parseParameter_plain {value : Chars} (h : ∀ c ∈ value, c ∉ marks) (hequals : '=' ∉ value) :
    Markup.parseParameter value = ⟨none, String.ofList value⟩ := by
  rw [Markup.parseParameter, Markup.cutTopLevel?, splitTopLevel_eq_splitOn h,
    List.splitOn_eq_singleton hequals]

/-- Arguments without marks are read back. -/
theorem map_parseParameter_writtenArguments (count : Nat) {values : List String}
    (h : ∀ value ∈ values, ∀ c ∈ value.toList, c ∉ marks) :
    (writtenArguments count values).map Markup.parseParameter = readBack count values := by
  induction values generalizing count with
  | nil => rfl
  | cons value values ih =>
    obtain ⟨hvalue, hvalues⟩ := List.forall_mem_cons.1 h
    rw [writtenArguments, List.map_cons, ih _ hvalues, readBack]
    congr 1
    split
    · rw [List.append_assoc]
      exact (parseParameter_numbered _ hvalue).trans (by rw [String.ofList_toList])
    · next hequals =>
      rw [contains_equals] at hequals
      exact (parseParameter_plain hvalue hequals).trans (by rw [String.ofList_toList])

/-- Numbers and equals signs are written only where a value needs them. -/
theorem not_mem_marks_of_written (count : Nat) {values : List String}
    (h : ∀ value ∈ values, ∀ c ∈ value.toList, c ∉ marks) :
    ∀ part ∈ writtenArguments count values, ∀ c ∈ part, c ∉ marks := by
  induction values generalizing count with
  | nil => exact nofun
  | cons value values ih =>
    obtain ⟨hvalue, hvalues⟩ := List.forall_mem_cons.1 h
    refine List.forall_mem_cons.2 ⟨fun c hc => ?_, ih _ hvalues⟩
    obtain hnumber | hc := List.mem_append.1 hc
    · split at hnumber
      · obtain hdigit | hequals := List.mem_append.1 hnumber
        · exact not_mem_marks_of_isDigit (isDigit_of_mem_toString hdigit)
        · obtain rfl := List.mem_singleton.1 hequals
          decide
      · exact absurd hnumber List.not_mem_nil
    · exact hvalue c hc

theorem intercalate_cons (separator : Char) (first : Chars) (parts : List Chars) :
    [separator].intercalate (first :: parts) = first ++ parts.flatMap (separator :: ·) := by
  induction parts generalizing first with
  | nil => simp
  | cons part parts ih => simp [List.intercalate_cons_cons, ih]

/-- A name and arguments without marks, with bars between them and in doubled braces, are read as
    one call. -/
theorem parse_call {name : Chars} {parts : List Chars} (hname : ∀ c ∈ name, c ∉ marks)
    (hparts : ∀ part ∈ parts, ∀ c ∈ part, c ∉ marks) :
    Markup.parse (String.ofList ('{' :: '{' ::
        (['|'].intercalate (name :: parts) ++ ['}', '}']))) =
      [.template (String.ofList (Chars.trim name)) (parts.map Markup.parseParameter)] := by
  let inner := ['|'].intercalate (name :: parts)
  have hinner : ∀ c ∈ inner, c ∉ '<' :: Markup.brackets := by
    intro c hc
    rw [show inner = _ from intercalate_cons _ _ _, List.mem_append, List.mem_flatMap] at hc
    obtain hc | ⟨part, hpart, hc⟩ := hc
    · exact fun hmem => hname c hc (List.mem_cons_of_mem _ hmem)
    · obtain rfl | hc := List.mem_cons.1 hc
      · decide
      · exact fun hmem => hparts part hpart c hc (List.mem_cons_of_mem _ hmem)
  have hcall : Markup.balanced? '{' '}' 1 (inner ++ ['}', '}']) = some (inner, []) := by
    rw [Markup.balanced?_append (by decide) (by decide)
      fun c hc hmem => hinner c hc (List.mem_cons_of_mem _ hmem)]
    simp [Markup.balanced?]
  have hsplit : Markup.splitTopLevel '|' inner = name :: parts := by
    rw [Markup.splitTopLevel_eq_splitOn hinner]
    refine List.splitOn_intercalate '|' ?_ (List.cons_ne_nil _ _)
    exact List.forall_mem_cons.2 ⟨fun hmem => hname '|' hmem List.mem_cons_self,
      fun part hpart hmem => hparts part hpart '|' hmem List.mem_cons_self⟩
  rw [Markup.parse_whole_call hcall, Markup.parseTemplate, hsplit]

/-- A written call is its name and its arguments with bars between them, in doubled braces. -/
theorem callMarkup_eq (name : String) (values : List String) :
    callMarkup name values = String.ofList ('{' :: '{' ::
      (['|'].intercalate (name.toList :: writtenArguments 0 values) ++ ['}', '}'])) := by
  rw [← String.toList_inj, String.toList_ofList]
  simp [callMarkup, inBraces, toList_argumentsMarkup, intercalate_cons]

/-- A call that is written with values without marks is read back as one call that has these
    values, whether with their numbers or without. -/
theorem parse_callMarkup_eq {name : String} {values : List String}
    (hname : ∀ c ∈ name.toList, c ∉ marks)
    (hvalues : ∀ value ∈ values, ∀ c ∈ value.toList, c ∉ marks) :
    Markup.parse (callMarkup name values) =
      [.template (Text.trim name) (readBack 0 values)] := by
  rw [callMarkup_eq, parse_call hname (not_mem_marks_of_written 0 hvalues),
    map_parseParameter_writtenArguments 0 hvalues]
  rfl

/-! ## Numbers of values -/

/-- Whether no value without an equals sign comes after one with an equals sign. -/
def EqualsLast (values : List String) : Prop :=
  values.Pairwise fun value later => Text.contains value "=" → Text.contains later "="

/-- A value with an equals sign has its number as its key, and one without has the next number after
    those of the others without. -/
theorem argumentsAfter_readBack_cons (unnamed count : Nat) (value : String)
    (values : List String) :
    Call.argumentsAfter unnamed (readBack count (value :: values)) =
      if Text.contains value "=" then
        ⟨toString (count + 1), true, value⟩ ::
          Call.argumentsAfter unnamed (readBack (count + 1) values)
      else
        ⟨toString (unnamed + 1), false, value⟩ ::
          Call.argumentsAfter (unnamed + 1) (readBack (count + 1) values) := by
  cases hequals : Text.contains value "=" with
  | false => simp only [readBack, Call.argumentsAfter, hequals, Bool.false_eq_true, if_false]
  | true => simp only [readBack, Call.argumentsAfter, hequals, if_true, trim_toString]

/-- With equals signs last, each value has its own number as its key. -/
theorem keys_of_equalsLast (unnamed count : Nat) {values : List String} (h : EqualsLast values)
    (hcount : unnamed = count ∨ ∀ value ∈ values, Text.contains value "=") :
    (Call.argumentsAfter unnamed (readBack count values)).map
        (fun argument => (argument.value, argument.key)) =
      (values.zipIdx (count + 1)).map fun (value, n) => (value, toString n) := by
  induction values generalizing unnamed count with
  | nil => rfl
  | cons value values ih =>
    obtain ⟨hvalue, hvalues⟩ := List.pairwise_cons.1 h
    rw [argumentsAfter_readBack_cons, List.zipIdx_cons]
    split
    · next hequals =>
      have hrest := ih unnamed (count + 1) hvalues
        (.inr fun later hlater => hvalue later hlater hequals)
      rw [List.map_cons, List.map_cons, hrest]
    · next hplain =>
      obtain rfl : unnamed = count :=
        hcount.resolve_right fun hall => hplain (hall value List.mem_cons_self)
      rw [List.map_cons, List.map_cons, ih _ _ hvalues (.inl rfl)]

/-- A key of an argument that is read back is the number of a value. -/
theorem exists_number_of_mem {unnamed count : Nat} {values : List String} (h : EqualsLast values)
    (hcount : unnamed = count ∨ ∀ value ∈ values, Text.contains value "=") {argument : Argument}
    (hmem : argument ∈ Call.argumentsAfter unnamed (readBack count values)) :
    ∃ n, (argument.value, n) ∈ values.zipIdx (count + 1) ∧ argument.key = toString n := by
  have hpair := List.mem_map_of_mem (f := fun argument => (argument.value, argument.key)) hmem
  rw [keys_of_equalsLast _ _ h hcount] at hpair
  obtain ⟨⟨value, n⟩, hn, heq⟩ := List.mem_map.1 hpair
  obtain ⟨rfl, hkey⟩ := Prod.mk.inj heq
  exact ⟨n, hn, hkey.symm⟩

/-- Whether one of so many numbers after `count` is the key of no argument. -/
def HasGap (count length : Nat) (arguments : List Argument) : Prop :=
  ∃ n, count < n ∧ n ≤ count + length ∧ ∀ argument ∈ arguments, argument.key ≠ toString n

/-- A key that comes before a gap does not fill it. -/
theorem HasGap.cons {count length m : Nat} {arguments : List Argument} {argument : Argument}
    (h : HasGap (count + 1) length arguments) (hkey : argument.key = toString m)
    (hm : m ≤ count + 1) : HasGap count (length + 1) (argument :: arguments) := by
  obtain ⟨n, hlow, hhigh, hkeys⟩ := h
  refine ⟨n, by omega, by omega, List.forall_mem_cons.2 ⟨?_, hkeys⟩⟩
  rw [hkey]
  exact toString_ne (by omega)

/-- Where the numbers have fallen behind, the last value without an equals sign leaves a gap at its
    own number. -/
theorem hasGap_of_lt (unnamed count : Nat) {values : List String} (hlt : unnamed < count)
    (h : ∃ value ∈ values, ¬Text.contains value "=") :
    HasGap count values.length (Call.argumentsAfter unnamed (readBack count values)) := by
  induction values generalizing unnamed count with
  | nil => exact absurd h nofun
  | cons value values ih =>
    rw [argumentsAfter_readBack_cons, List.length_cons]
    by_cases hrest : ∃ later ∈ values, ¬Text.contains later "="
    · split
      · exact (ih unnamed (count + 1) (by omega) hrest).cons rfl (by omega)
      · exact (ih (unnamed + 1) (count + 1) (by omega) hrest).cons rfl (by omega)
    · push Not at hrest
      have hplain : ¬Text.contains value "=" := by
        obtain ⟨plain, hmem, hplain⟩ := h
        obtain rfl | hmem := List.mem_cons.1 hmem
        · exact hplain
        · exact absurd (hrest plain hmem) hplain
      have hlast : EqualsLast values :=
        List.pairwise_of_forall_mem_list fun _ _ later hlater _ => hrest later hlater
      rw [if_neg hplain]
      refine ⟨count + 1, by omega, by omega,
        List.forall_mem_cons.2 ⟨toString_ne (by omega), fun argument hmem => ?_⟩⟩
      obtain ⟨n, hn, hkey⟩ := exists_number_of_mem hlast (.inr hrest) hmem
      have hlow := List.le_snd_of_mem_zipIdx hn
      rw [hkey]
      exact toString_ne (by omega)

/-- Where a value without an equals sign comes after one with it, the number of some value is the
    key of no argument. -/
theorem hasGap_of_not_equalsLast (count : Nat) {values : List String} (h : ¬EqualsLast values) :
    HasGap count values.length (Call.argumentsAfter count (readBack count values)) := by
  induction values generalizing count with
  | nil => exact absurd List.Pairwise.nil h
  | cons value values ih =>
    rw [argumentsAfter_readBack_cons, List.length_cons]
    split
    · next hequals =>
      have hrest : ∃ later ∈ values, ¬Text.contains later "=" := by
        by_contra hall
        push Not at hall
        refine h (List.pairwise_of_forall_mem_list fun _ _ later hlater _ => ?_)
        obtain rfl | hlater := List.mem_cons.1 hlater
        · exact hequals
        · exact hall later hlater
      exact (hasGap_of_lt count (count + 1) (Nat.lt_succ_self count) hrest).cons rfl (Nat.le_refl _)
    · next hplain =>
      have hrest : ¬EqualsLast values := fun hvalues =>
        h (List.pairwise_cons.2 ⟨fun later _ hequals => absurd hequals hplain, hvalues⟩)
      exact (ih (count + 1) hrest).cons rfl (Nat.le_refl _)

/-! ## Look-up -/

/-- The last argument with a key is found, without the blanks around its value. -/
theorem get?_eq (call : Call) (key : String) :
    call.get? key =
      (call.arguments.reverse.find? fun argument => argument.key = key).map fun argument =>
        Text.trim argument.value := by
  rw [Call.get?, Call.raw?, Option.map_map]
  congr 1
  funext argument
  simp only [Function.comp_apply]
  split
  · exact Text.trim_trim _
  · rfl

/-- What is found under a key is the value of an argument with the key. -/
theorem exists_of_get? {call : Call} {key value : String} (h : call.get? key = some value) :
    ∃ argument ∈ call.arguments, argument.key = key ∧ value = Text.trim argument.value := by
  rw [get?_eq] at h
  obtain ⟨argument, hfind, rfl⟩ := Option.map_eq_some_iff.1 h
  have hkey := List.find?_some hfind
  exact ⟨argument, List.mem_reverse.1 (List.mem_of_find?_eq_some hfind), of_decide_eq_true hkey, rfl⟩

/-- Under the key of an argument something is found. -/
theorem exists_get?_of_mem {call : Call} {argument : Argument} (h : argument ∈ call.arguments) :
    ∃ value, call.get? argument.key = some value := by
  rw [get?_eq]
  cases hfind : call.arguments.reverse.find? fun other => other.key = argument.key with
  | none =>
    have hnot := List.find?_eq_none.1 hfind argument (List.mem_reverse.2 h)
    exact absurd (decide_eq_true rfl) hnot
  | some found => exact ⟨_, rfl⟩

/-- With equals signs last, each value is found under its number. -/
theorem get?_of_equalsLast (name : String) {values : List String} (h : EqualsLast values) {i : Nat}
    (hi : i < values.length) :
    (Call.mk name (readBack 0 values)).get? (toString (i + 1)) =
      some (Text.trim values[i]) := by
  have hpair : (values[i], toString (i + 1)) ∈
      (values.zipIdx 1).map fun (value, n) => (value, toString n) := by
    refine List.mem_map.2 ⟨(values[i], i + 1), ?_, rfl⟩
    simp [List.mk_mem_zipIdx_iff_le_and_getElem?_sub]
  rw [← keys_of_equalsLast 0 0 h (.inl rfl)] at hpair
  obtain ⟨argument, hmem, heq⟩ := List.mem_map.1 hpair
  obtain ⟨-, hkey⟩ := Prod.mk.inj heq
  have hmem' : argument ∈ (Call.mk name (readBack 0 values)).arguments := hmem
  obtain ⟨found, hfound⟩ := exists_get?_of_mem hmem'
  rw [← hkey, hfound]
  -- Other arguments have other keys, so what is found is the value of this one.
  obtain ⟨other, hother, hsame, rfl⟩ := exists_of_get? hfound
  obtain ⟨n, hn, hnumber⟩ := exists_number_of_mem h (.inl rfl) hother
  obtain rfl : n = i + 1 := by
    by_contra hne
    exact toString_ne hne (hnumber.symm.trans (hsame.trans hkey))
  have hvalue : values[i] = other.value := by
    simpa [List.mk_mem_zipIdx_iff_le_and_getElem?_sub, List.getElem?_eq_getElem hi] using hn
  rw [hvalue]

/-- What handlers write is read back: a call with a name and values without marks becomes one call
    of the name with as many arguments. Each value is found under its number if and only if no value
    without an equals sign comes after one that has one. -/
theorem parse_callMarkup {name : String} {values : List String}
    (hname : ∀ c ∈ name.toList, c ∉ marks)
    (hvalues : ∀ value ∈ values, ∀ c ∈ value.toList, c ∉ marks) :
    Markup.parse (callMarkup name values) = [.template (Text.trim name) (readBack 0 values)] ∧
      ((∀ i (h : i < values.length),
          (Call.mk (Text.trim name) (readBack 0 values)).get? (toString (i + 1)) =
            some (Text.trim values[i])) ↔
        EqualsLast values) := by
  refine ⟨parse_callMarkup_eq hname hvalues, fun hall => ?_, fun h i hi =>
    get?_of_equalsLast _ h hi⟩
  by_contra h
  obtain ⟨n, hlow, hhigh, hkeys⟩ := hasGap_of_not_equalsLast 0 h
  obtain ⟨i, rfl⟩ := Nat.exists_eq_succ_of_ne_zero hlow.ne'
  obtain ⟨argument, hmem, hkey, -⟩ := exists_of_get? (hall i (by omega))
  exact hkeys argument hmem hkey

/-- A value with an equals sign after one without. -/
theorem parse_callMarkup_equals_last :
    (∀ c ∈ "lang".toList, c ∉ marks) ∧
      (∀ value ∈ ["fr", "a=b"], ∀ c ∈ value.toList, c ∉ marks) ∧
      EqualsLast ["fr", "a=b"] ∧
      Markup.parse (callMarkup "lang" ["fr", "a=b"]) =
        [.template "lang" [⟨none, "fr"⟩, ⟨some "2", "a=b"⟩]] ∧
      ∀ i (h : i < ["fr", "a=b"].length),
        (Call.mk "lang" [⟨none, "fr"⟩, ⟨some "2", "a=b"⟩]).get? (toString (i + 1)) =
          some (Text.trim ["fr", "a=b"][i]) := by
  have hname : ∀ c ∈ "lang".toList, c ∉ marks := Chars.forall_of_all (by decide)
  have hvalues : ∀ value ∈ ["fr", "a=b"], ∀ c ∈ value.toList, c ∉ marks := by
    simp only [List.forall_mem_cons]
    exact ⟨Chars.forall_of_all (by decide), Chars.forall_of_all (by decide), nofun⟩
  have hlast : EqualsLast ["fr", "a=b"] := by simp [EqualsLast, contains_equals]
  obtain ⟨hparse, hget⟩ := parse_callMarkup hname hvalues
  exact ⟨hname, hvalues, hlast, hparse.trans (by rfl), hget.2 hlast⟩

/-- The number of the first value is taken by the second, which has none itself. -/
theorem get?_callMarkup_equals_first :
    ∃ parameters, Markup.parse (callMarkup "lang" ["a=b", "c"]) = [.template "lang" parameters] ∧
      (Call.mk "lang" parameters).get? "1" = some "c" ∧
      (Call.mk "lang" parameters).get? "2" = none := by
  have hname : ∀ c ∈ "lang".toList, c ∉ marks := Chars.forall_of_all (by decide)
  have hvalues : ∀ value ∈ ["a=b", "c"], ∀ c ∈ value.toList, c ∉ marks := by
    simp only [List.forall_mem_cons]
    exact ⟨Chars.forall_of_all (by decide), Chars.forall_of_all (by decide), nofun⟩
  refine ⟨readBack 0 ["a=b", "c"], ?_, by decide, by decide⟩
  exact (parse_callMarkup_eq hname hvalues).trans (by rfl)

end Template

end GenreProse
