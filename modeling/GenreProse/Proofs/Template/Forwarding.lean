-- SUMMARY: Which values of a call survive when a handler puts them into a call of its own.
import GenreProse.Proofs.Markup.Origins
import GenreProse.Proofs.Markup.Parts
import GenreProse.Proofs.Template.WrittenCalls

/-!
# Forwarded values

A handler may put a value of its call into a new call, which is read again. The value is one part of
the new call, whatever calls, links and tags are in it, because it was one part of the first call.
But the new braces can only be told from those of the value if the value closes all its braces
itself and has no single brace at its end.
-/

namespace GenreProse

/-! ## Braces -/

namespace Markup

/-- Whether the text closes so many calls, and all that it opens, and has no single closing brace
    left at its end. -/
def closesBraces : Nat → Chars → Bool
  | depth, '{' :: '{' :: s => closesBraces (depth + 1) s
  | depth, '}' :: '}' :: s => 0 < depth && closesBraces (depth - 1) s
  | _, ['}'] => false
  | depth, _ :: s => closesBraces depth s
  | depth, [] => depth == 0

/-- The end of a call is found right after a text if the text closes its own braces. -/
theorem balanced?_closing (depth : Nat) (s : Chars) :
    balanced? '{' '}' (depth + 1) (s ++ ['}', '}']) = some (s, []) ↔ closesBraces depth s := by
  fun_induction closesBraces depth s with
  | case1 depth s ih =>
    rw [← ih]
    simp [balanced?]
  | case2 depth s ih =>
    cases depth with
    | zero => simp [balanced?]
    | succ depth => simpa [balanced?] using ih
  | case3 depth => cases depth <;> simp [balanced?]
  | case4 depth c s hopening hclosing hend ih =>
    have hpair : balanced? '{' '}' (depth + 1) (c :: (s ++ ['}', '}'])) =
        (balanced? '{' '}' (depth + 1) (s ++ ['}', '}'])).map fun found =>
          (c :: found.1, found.2) := by
      cases s with
      | nil => simp [balanced?, show c ≠ '}' from fun h => hend h rfl]
      | cons d s =>
        have hopens : ¬(c = '{' ∧ d = '{') := fun hpair => hopening s hpair.1 (hpair.2 ▸ rfl)
        have hcloses : ¬(c = '}' ∧ d = '}') := fun hpair => hclosing s hpair.1 (hpair.2 ▸ rfl)
        simp [balanced?, hopens, hcloses]
    rw [List.cons_append, hpair, ← ih]
    simp
  | case5 depth => cases depth <;> simp [balanced?]

end Markup

namespace Template

/-! ## The written call -/

/-- The number that the second value of a call has before it, if it has an equals sign. -/
def secondNumber (value : String) : Chars :=
  if Text.contains value "=" then ['2', '='] else []

/-- What stands before a value in a call for Japanese text. -/
def japaneseOpening (value : String) : Chars :=
  ['l', 'a', 'n', 'g', '|', 'j', 'a', '|'] ++ secondNumber value

/-- How a call for Japanese text is written. -/
theorem callMarkup_japanese (value : String) :
    callMarkup "lang" ["ja", value] =
      String.ofList ('{' :: '{' :: (japaneseOpening value ++ (value.toList ++ ['}', '}']))) := by
  have hwritten : writtenArguments 0 ["ja", value] =
      [['j', 'a'], secondNumber value ++ value.toList] := by
    have hnone : Text.contains "ja" "=" = false := by decide
    simp only [writtenArguments, hnone, secondNumber]
    congr
  have hname : "lang".toList = ['l', 'a', 'n', 'g'] := by decide
  rw [callMarkup_eq, hwritten, hname, intercalate_cons, japaneseOpening]
  simp

/-- The value gets a number only if it has an equals sign. -/
theorem secondNumber_cases (value : String) :
    (Text.contains value "=" = true ∧ secondNumber value = ['2', '=']) ∨
      (Text.contains value "=" = false ∧ secondNumber value = []) := by
  unfold secondNumber
  cases Text.contains value "=" <;> simp

/-- The second argument of the written call has the first part after the opening as its value. -/
theorem parseTemplate_japanese {value : String} {s first : Chars} {parts : List Chars}
    (hequals : '=' ∈ s → Text.contains value "=")
    (hs : Markup.splitTopLevel '|' s = first :: parts) :
    Markup.parseTemplate (japaneseOpening value ++ s) =
      .template "lang" (⟨none, "ja"⟩ ::
        ⟨if Text.contains value "=" then some "2" else none, String.ofList first⟩ ::
          parts.map Markup.parseParameter) := by
  have hsplit : Markup.splitTopLevel '|' (japaneseOpening value ++ s) =
      ['l', 'a', 'n', 'g'] :: ['j', 'a'] :: (secondNumber value ++ first) :: parts := by
    have hparts : Markup.splitFrom '|' .top 0 s = first :: parts := hs
    unfold japaneseOpening
    obtain ⟨-, hnumber⟩ | ⟨-, hnumber⟩ := secondNumber_cases value
    · rw [hnumber, Markup.splitTopLevel_append _ (.of_plain (Chars.forall_of_all (by decide)) s)]
      exact congrArg _ hparts
    · rw [hnumber, Markup.splitTopLevel_append _ (.of_plain (Chars.forall_of_all (by decide)) s)]
      exact congrArg _ hparts
  have hsecond : Markup.parseParameter (secondNumber value ++ first) =
      ⟨if Text.contains value "=" then some "2" else none, String.ofList first⟩ := by
    obtain ⟨hcontains, hnumber⟩ | ⟨hcontains, hnumber⟩ := secondNumber_cases value
    · have hcut := Markup.cutTopLevel?_append (.of_plain (Chars.forall_of_all (by decide)) first)
        (show Markup.cutTopLevel? '=' ['2', '='] = some (['2'], []) by decide)
      rw [hnumber, hcontains, Markup.parseParameter, hcut]
      rfl
    · have hfirst : '=' ∉ first := fun hmem => Bool.false_ne_true
        (hcontains.symm.trans (hequals ((Markup.prefix_of_splitFrom hs).subset hmem)))
      rw [hnumber, hcontains, List.nil_append, Markup.parseParameter_of_not_mem hfirst]
      rfl
  have hja : Markup.parseParameter ['j', 'a'] = ⟨none, "ja"⟩ := by decide
  rw [Markup.parseTemplate, hsplit]
  simp only [List.map_cons, hsecond, hja]
  rfl

/-! ## Values -/

/-- Each argument has the value of a parameter. -/
theorem exists_parameter_of_mem {unnamed : Nat} {parameters : List Parameter} {argument : Argument}
    (h : argument ∈ Call.argumentsAfter unnamed parameters) :
    ∃ parameter ∈ parameters, parameter.value = argument.value := by
  induction parameters generalizing unnamed with
  | nil => cases h
  | cons parameter parameters ih =>
    rw [Call.argumentsAfter] at h
    split at h
    all_goals
      obtain rfl | h := List.mem_cons.1 h
      · exact ⟨parameter, List.mem_cons_self, rfl⟩
      · obtain ⟨found, hmem, hvalue⟩ := ih h
        exact ⟨found, List.mem_cons_of_mem _ hmem, hvalue⟩

/-- What a call of a text has under a key is a part of the call, or what follows the name in one,
    without the blanks around it. -/
theorem exists_part_of_get? {inner : Chars} {name key value : String} {parameters : List Parameter}
    (h : Markup.parseTemplate inner = .template name parameters)
    (hget : (Call.mk name parameters).get? key = some value) :
    ∃ part ∈ Markup.splitTopLevel '|' inner,
      value = Text.trim (Markup.parseParameter part).value := by
  obtain ⟨argument, hargument, -, rfl⟩ := exists_of_get? hget
  obtain ⟨parameter, hparameter, hvalue⟩ := exists_parameter_of_mem hargument
  obtain ⟨part, hpart, rfl⟩ := Markup.exists_part_of_parseTemplate h hparameter
  exact ⟨part, hpart, by rw [hvalue]⟩

theorem length_trim (value : String) : (Text.trim value).toList.length ≤ value.toList.length := by
  rw [Text.trim, Text.onChars, String.toList_ofList, Chars.trim_eq_rdropWhile]
  exact (List.rdropWhile_prefix _ _).length_le.trans (List.dropWhile_suffix _).length_le

/-- A value is no longer than the call that it is in. -/
theorem length_of_get? {inner : Chars} {name key value : String} {parameters : List Parameter}
    (h : Markup.parseTemplate inner = .template name parameters)
    (hget : (Call.mk name parameters).get? key = some value) :
    value.toList.length ≤ inner.length := by
  obtain ⟨part, hpart, rfl⟩ := exists_part_of_get? h hget
  exact (length_trim _).trans ((Markup.length_parseParameter part).trans
    (Markup.length_of_mem_splitTopLevel hpart))

/-- A value that a call in the nodes of a text has is one part. -/
theorem unsplit_of_get? {text name key value : String} {parameters : List Parameter}
    (h : .template name parameters ∈ Node.withinAll (Markup.parse text))
    (hget : (Call.mk name parameters).get? key = some value) :
    Markup.Unsplit '|' .top 0 value.toList ∧ Text.trim value = value := by
  obtain ⟨rest, inner, left, -, -, hcall⟩ := Markup.exists_call_of_mem_parse h
  obtain ⟨part, hpart, rfl⟩ := exists_part_of_get? hcall hget
  have hvalue := (Markup.unsplit_of_mem hpart).parseParameter.trim
  refine ⟨?_, Text.trim_trim _⟩
  rwa [Text.trim, Text.onChars, String.toList_ofList]

/-- Under its number the written call has nothing longer than what stands there. -/
theorem length_of_japanese {value found : String} {s : Chars} {parameters : List Parameter}
    {name : String} (hequals : '=' ∈ s → Text.contains value "=")
    (h : Markup.parseTemplate (japaneseOpening value ++ s) = .template name parameters)
    (hget : (Call.mk name parameters).get? "2" = some found) :
    found.toList.length ≤ s.length := by
  obtain ⟨first, parts, hs⟩ :=
    List.exists_cons_of_ne_nil (Markup.splitFrom_ne_nil '|' .top 0 s)
  rw [parseTemplate_japanese hequals hs] at h
  cases h
  obtain ⟨argument, hargument, hkey, rfl⟩ := exists_of_get? hget
  refine (length_trim _).trans ?_
  -- The first argument has another number, so the value is from a part of the text.
  obtain rfl | hargument := List.mem_cons.1 (show argument ∈ ⟨toString 1, false, "ja"⟩ :: _ from
    hargument)
  · exact absurd hkey (by decide)
  · have hpart {part : Chars} (hmem : part ∈ first :: parts) : part.length ≤ s.length :=
      Markup.length_of_mem_splitTopLevel (hs ▸ hmem)
    obtain ⟨parameter, hparameter, hvalue⟩ := exists_parameter_of_mem hargument
    rw [← hvalue]
    obtain rfl | hparameter := List.mem_cons.1 hparameter
    · rw [String.toList_ofList]
      exact hpart List.mem_cons_self
    · obtain ⟨part, hmem, rfl⟩ := List.mem_map.1 hparameter
      exact (Markup.length_parseParameter part).trans (hpart (List.mem_cons_of_mem _ hmem))

section

variable {value : String}

/-- What is written before the value opens and closes nothing. -/
theorem not_mem_japaneseOpening (value : String) :
    ∀ c ∈ japaneseOpening value, c ∉ Markup.brackets := by
  unfold japaneseOpening
  obtain ⟨-, hnumber⟩ | ⟨-, hnumber⟩ := secondNumber_cases value <;> rw [hnumber] <;>
    exact Chars.forall_of_all (by decide)

/-- So the end of the call depends on the value only. -/
theorem balanced?_japanese (value : String) (s : Chars) :
    Markup.balanced? '{' '}' 1 (japaneseOpening value ++ s) =
      (Markup.balanced? '{' '}' 1 s).map fun found => (japaneseOpening value ++ found.1, found.2) :=
  Markup.balanced?_append (by decide) (by decide) (not_mem_japaneseOpening value) 1 s

/-- What starts with a character that is not in the first of two texts starts in the second. -/
theorem suffix_of_suffix_append {c : Char} {s front back : Chars} (h : c :: s <:+ front ++ back)
    (hc : c ∉ front) : c :: s <:+ back := by
  induction front with
  | nil => exact h
  | cons d front ih =>
    obtain heq | h := List.suffix_cons_iff.1 h
    · obtain ⟨rfl, -⟩ := List.cons.inj heq
      exact absurd List.mem_cons_self hc
    · exact ih h (List.not_mem_of_not_mem_cons hc)

/-- Where the end of the written call is not found, all calls in it are shorter than the value. -/
theorem length_of_call_inside
    (hnone : Markup.balanced? '{' '}' 1 (value.toList ++ ['}', '}']) = none)
    {name : String} {parameters : List Parameter}
    (h : .template name parameters ∈ Node.withinAll
      (Markup.parse (callMarkup "lang" ["ja", value]))) :
    ∃ inner, Markup.parseTemplate inner = .template name parameters ∧
      inner.length < value.toList.length := by
  obtain ⟨rest, inner, left, hsuffix, hbalanced, hcall⟩ := Markup.exists_call_of_mem_parse h
  refine ⟨inner, hcall, ?_⟩
  rw [callMarkup_japanese, String.toList_ofList, List.suffix_cons_iff, List.suffix_cons_iff]
    at hsuffix
  obtain hwhole | hsecond | hsuffix := hsuffix
  · obtain rfl := (List.cons.inj (List.cons.inj hwhole).2).2
    rw [balanced?_japanese, hnone] at hbalanced
    cases hbalanced
  · exact absurd (List.cons.inj hsecond).2 (by simp [japaneseOpening])
  · have hbrace : '{' ∉ japaneseOpening value := fun hmem =>
      not_mem_japaneseOpening value '{' hmem (by decide)
    have hlength := (suffix_of_suffix_append hsuffix hbrace).length_le
    rw [Markup.eq_append_of_balanced? hbalanced] at hlength
    simp only [List.length_cons, List.length_append, List.length_nil] at hlength
    omega

/-- A value with closed braces is the second value of the written call again. -/
theorem parse_japanese (hpart : Markup.Unsplit '|' .top 0 value.toList)
    (hcloses : Markup.closesBraces 0 value.toList) :
    Markup.parse (callMarkup "lang" ["ja", value]) =
      [.template "lang" (readBack 0 ["ja", value])] := by
  have hbalanced := balanced?_japanese value (value.toList ++ ['}', '}'])
  rw [(Markup.balanced?_closing 0 value.toList).2 hcloses, Option.map_some] at hbalanced
  have hequals : '=' ∈ value.toList → Text.contains value "=" := (contains_equals value).2
  rw [callMarkup_japanese, Markup.parse_whole_call hbalanced, parseTemplate_japanese hequals hpart]
  have hnone : Text.contains "ja" "=" = false := by decide
  simp only [readBack, hnone, String.ofList_toList]
  rfl

end

/-- A value that a call anywhere in the nodes of a text has under some key, put into a call for
    Japanese text, is read back from it if and only if the value closes its braces, whatever else is
    in it. -/
theorem forwards_iff_closesBraces (text name key value : String) (parameters : List Parameter)
    (hcall : .template name parameters ∈ Node.withinAll (Markup.parse text))
    (hvalue : (Call.mk name parameters).get? key = some value) :
    (∃ forwarded, Markup.parse (callMarkup "lang" ["ja", value]) = [.template "lang" forwarded] ∧
      (Call.mk "lang" forwarded).get? "1" = some "ja" ∧
      (Call.mk "lang" forwarded).get? "2" = some value) ↔
    Markup.closesBraces 0 value.toList := by
  obtain ⟨hpart, htrim⟩ := unsplit_of_get? hcall hvalue
  constructor
  · rintro ⟨forwarded, hparse, -, hsecond⟩
    cases hfound : Markup.balanced? '{' '}' 1 (value.toList ++ ['}', '}']) with
    | none =>
      have hmem : .template "lang" forwarded ∈ Node.withinAll
          (Markup.parse (callMarkup "lang" ["ja", value])) := by
        rw [hparse]
        exact List.mem_singleton_self _
      obtain ⟨inner, hinner, hshorter⟩ := length_of_call_inside hfound hmem
      exact absurd (length_of_get? hinner hsecond) (Nat.not_le.2 hshorter)
    | some found =>
      obtain ⟨s, left⟩ := found
      have hbalanced := balanced?_japanese value (value.toList ++ ['}', '}'])
      rw [hfound, Option.map_some] at hbalanced
      rw [callMarkup_japanese, Markup.parse_call hbalanced] at hparse
      have hsame := Markup.eq_append_of_balanced? hfound
      have hlength := congrArg List.length hsame
      simp only [List.length_append, List.length_cons, List.length_nil] at hlength
      have hfront : s <+: value.toList := List.prefix_of_prefix_length_le
        (hsame ▸ List.prefix_append s _) (List.prefix_append _ _) (by omega)
      have hequals (hmem : '=' ∈ s) : Text.contains value "=" :=
        (contains_equals value).2 (hfront.subset hmem)
      have hlong := length_of_japanese hequals (List.cons.inj hparse).1 hsecond
      obtain rfl := hfront.eq_of_length_le hlong
      obtain rfl : left = [] := List.eq_nil_of_length_eq_zero (by omega)
      exact (Markup.balanced?_closing 0 _).1 hfound
  · intro hcloses
    have hlast : EqualsLast ["ja", value] := by
      simp [EqualsLast, contains_equals]
    have hget (i : Nat) (hi : i < ["ja", value].length) := get?_of_equalsLast "lang" hlast hi
    have hja : Text.trim "ja" = "ja" := by decide
    have hfirst := hget 0 Nat.two_pos
    have hsecond := hget 1 Nat.one_lt_two
    rw [List.getElem_cons_zero, hja] at hfirst
    rw [List.getElem_cons_succ, List.getElem_cons_zero, htrim] at hsecond
    exact ⟨_, parse_japanese hpart hcloses, hfirst, hsecond⟩

/-- A value with a link, a call and single brackets. -/
theorem forwards_iff_closesBraces_nested :
    let text := "\x7b\x7ba|n= b] [[c|d]] \x7b\x7be|f=g\x7d\x7d \x7d\x7d"
    let value := "b] [[c|d]] \x7b\x7be|f=g\x7d\x7d"
    let parameters := [⟨some "n", " b] [[c|d]] \x7b\x7be|f=g\x7d\x7d "⟩]
    .template "a" parameters ∈ Node.withinAll (Markup.parse text) ∧
      (Call.mk "a" parameters).get? "n" = some value ∧
      ∃ forwarded, Markup.parse (callMarkup "lang" ["ja", value]) = [.template "lang" forwarded] ∧
        (Call.mk "lang" forwarded).get? "1" = some "ja" ∧
        (Call.mk "lang" forwarded).get? "2" = some value := by
  intro text value parameters
  have hparse : Markup.parse text = [.template "a" parameters] := by
    have hcall : Markup.balanced? '{' '}' 1
        "a|n= b] [[c|d]] \x7b\x7be|f=g\x7d\x7d \x7d\x7d".toList =
          some ("a|n= b] [[c|d]] \x7b\x7be|f=g\x7d\x7d ".toList, []) := by decide
    exact (Markup.parse_whole_call hcall).trans rfl
  have hmem : .template "a" parameters ∈ Node.withinAll (Markup.parse text) := by
    rw [hparse]
    exact List.mem_singleton_self _
  have hget : (Call.mk "a" parameters).get? "n" = some value := by decide
  exact ⟨hmem, hget, (forwards_iff_closesBraces text "a" "n" value parameters hmem hget).2
    (by decide)⟩

/-- A brace at the end of a value is taken for one of the call that the value is put into. -/
theorem parse_callMarkup_brace :
    let parameters := [⟨none, "\x7ba\x7d "⟩]
    .template "nihongo2" parameters ∈
        Node.withinAll (Markup.parse "\x7b\x7bnihongo2|\x7ba\x7d \x7d\x7d") ∧
      (Call.mk "nihongo2" parameters).get? "1" = some "\x7ba\x7d" ∧
      Markup.parse (callMarkup "lang" ["ja", "\x7ba\x7d"]) =
        [.template "lang" [⟨none, "ja"⟩, ⟨none, "\x7ba"⟩], .text "\x7d"] := by
  intro parameters
  have hparse : Markup.parse "\x7b\x7bnihongo2|\x7ba\x7d \x7d\x7d" =
      [.template "nihongo2" parameters] := by
    have hcall : Markup.balanced? '{' '}' 1 "nihongo2|\x7ba\x7d \x7d\x7d".toList =
        some ("nihongo2|\x7ba\x7d ".toList, []) := by decide
    exact (Markup.parse_whole_call hcall).trans rfl
  have hbrace : Markup.parse (String.ofList ['}']) = [.text "\x7d"] := by
    rw [Markup.parse, String.toList_ofList, Markup.tokens, show
      (Markup.readToken '}' []).2 = [] from rfl, Markup.tokens]
    rfl
  have hcall : Markup.balanced? '{' '}' 1 "lang|ja|\x7ba\x7d\x7d\x7d".toList =
      some ("lang|ja|\x7ba".toList, ['}']) := by decide
  refine ⟨?_, by decide, (Markup.parse_call hcall).trans (congrArg _ hbrace)⟩
  rw [hparse]
  exact List.mem_singleton_self _

end Template

end GenreProse
