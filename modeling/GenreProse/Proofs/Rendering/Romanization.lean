-- SUMMARY: A romanization is shown in italics if and only if no apostrophe is at either end of it.
import GenreProse.CommandLine.Settings
import GenreProse.Proofs.Markup.QuotedText
import GenreProse.Proofs.Rendering.Expansion
import GenreProse.Proofs.Rendering.Nodes
import GenreProse.Proofs.Rendering.Sites
import GenreProse.Proofs.Template.WrittenCalls

/-!
# Romanizations

A template for a foreign term writes the romanization between marks for italics, and what it writes
is parsed again. A single apostrophe inside the romanization stands for itself, but one at an end
becomes part of the mark next to it.
-/

namespace GenreProse

namespace Template

/-! ## The call -/

/-- The characters that are markup in a term. -/
def termMarks : List Char :=
  '=' :: '>' :: '&' :: '\n' :: marks

/-- Whether a text is a term: there is something in it, without blanks around it and without
    markup, but for apostrophes. -/
structure IsTerm (text : String) : Prop where
  trimmed : Text.trim text = text
  ne_empty : text ≠ ""
  noMarks : ∀ c ∈ text.toList, c ∉ termMarks

instance (text : String) : Decidable (IsTerm text) :=
  decidable_of_iff (Text.trim text = text ∧ text ≠ "" ∧ text.toList.all (· ∉ termMarks))
    ⟨fun ⟨htrim, hne, hmarks⟩ => ⟨htrim, hne, Chars.forall_of_all hmarks⟩,
      fun h => ⟨h.trimmed, h.ne_empty, by simpa using h.noMarks⟩⟩

theorem IsTerm.contains_eq {text : String} (h : IsTerm text) : Text.contains text "=" = false := by
  rw [Bool.eq_false_iff, Ne, contains_equals]
  exact fun hmem => h.noMarks '=' hmem List.mem_cons_self

/-- Of a term only an apostrophe may start a token. -/
theorem IsTerm.quote_of_startsToken {text : String} (h : IsTerm text) {c : Char}
    (hc : c ∈ text.toList) (hstarts : Markup.startsToken c) : c = '\'' := by
  have hmarks : ∀ c ∈ ['{', '[', '\'', '\n', '<'], c = '\'' ∨ c ∈ termMarks :=
    Chars.forall_of_all (by decide)
  have hmem : c ∈ ['{', '[', '\'', '\n', '<'] := by
    simpa [Markup.startsToken, or_assoc] using hstarts
  exact (hmarks c hmem).resolve_right (h.noMarks c hc)

theorem IsTerm.noReference {text : String} (h : IsTerm text) : '&' ∉ text.toList :=
  fun hmem => h.noMarks '&' hmem (by decide)

/-- The call with an English term and its romanization. -/
def romanizedCall (english romaji : String) : String :=
  "\x7b\x7bNihongo|" ++ english ++ "||" ++ romaji ++ "\x7d\x7d"

def romanizedMarkup (english romaji : String) : String :=
  english ++ " (''" ++ romaji ++ "'')"

/-- How the markup of a romanised term is written. -/
theorem toList_romanizedMarkup (english romaji : String) :
    (romanizedMarkup english romaji).toList = (english.toList ++ [' ', '(']) ++
      (['\'', '\''] ++ (romaji.toList ++ (['\'', '\''] ++ [')']))) := by
  simp [romanizedMarkup]

theorem isPlain_opening {english : String} (h : IsTerm english) (hquote : '\'' ∉ english.toList) :
    Markup.IsPlain (english.toList ++ [' ', '(']) where
  ne_nil := by simp
  noMarks := by
    refine List.forall_mem_append.2 ⟨fun c hc => ?_, Chars.forall_of_all (by decide)⟩
    rw [Bool.eq_false_iff]
    exact fun hstarts => hquote (h.quote_of_startsToken hc hstarts ▸ hc)
  noReference := by simpa using h.noReference

theorem ofList_opening (english : String) :
    String.ofList (english.toList ++ [' ', '(']) = english ++ " (" := by
  rw [String.ofList_append, String.ofList_toList]

theorem isPlain_closing : Markup.IsPlain [')'] :=
  ⟨by decide, Chars.forall_of_all (by decide), by decide⟩

section

variable {english romaji : String} (henglish : IsTerm english) (hromaji : IsTerm romaji)
include henglish hromaji

/-- The call is parsed with its three arguments. -/
theorem parse_romanizedCall : Markup.parse (romanizedCall english romaji) =
    [.template "Nihongo" [⟨none, english⟩, ⟨none, ""⟩, ⟨none, romaji⟩]] := by
  have hmarks {text : String} (h : IsTerm text) : ∀ c ∈ text.toList, c ∉ marks :=
    fun c hc hmem => h.noMarks c hc (by simp [termMarks, hmem])
  have hempty : Text.contains "" "=" = false := by decide
  have hcall : romanizedCall english romaji = callMarkup "Nihongo" [english, "", romaji] := by
    rw [← String.toList_inj]
    simp [romanizedCall, callMarkup, inBraces, argumentsMarkup, henglish.contains_eq,
      hromaji.contains_eq, hempty]
  have hname : ∀ c ∈ "Nihongo".toList, c ∉ marks := Chars.forall_of_all (by decide)
  have hvalues : ∀ value ∈ [english, "", romaji], ∀ c ∈ value.toList, c ∉ marks := by
    simp only [List.forall_mem_cons]
    exact ⟨hmarks henglish, List.forall_mem_nil _, hmarks hromaji, List.forall_mem_nil _⟩
  have htrim : Text.trim "Nihongo" = "Nihongo" := by decide
  rw [hcall, parse_callMarkup_eq hname hvalues, htrim]
  simp only [readBack, henglish.contains_eq, hromaji.contains_eq, hempty, Bool.false_eq_true,
    if_false]

/-- The handler writes the romanisation in italics. -/
theorem nihongo_romanized :
    nihongo ⟨"Nihongo", [⟨none, english⟩, ⟨none, ""⟩, ⟨none, romaji⟩]⟩ =
      .markup (romanizedMarkup english romaji) := by
  let call : Call := ⟨"Nihongo", [⟨none, english⟩, ⟨none, ""⟩, ⟨none, romaji⟩]⟩
  have hkeys : call.arguments =
      [⟨"1", false, english⟩, ⟨"2", false, ""⟩, ⟨"3", false, romaji⟩] := rfl
  have hempty : Text.trim "" = "" := by decide
  have hget (key : String) : call.get? key = if "3" = key then some romaji else
      if "2" = key then some "" else if "1" = key then some english else none := by
    rw [get?_eq, hkeys]
    simp only [List.reverse_cons, List.reverse_nil, List.nil_append, List.cons_append,
      List.find?_cons, List.find?_nil]
    split_ifs <;> simp [*, henglish.trimmed, hromaji.trimmed]
  have hlead : call.flag "lead" = false := by simp [Call.flag, hget]
  have hnumber (m n : Nat) : toString m = toString n ↔ m = n :=
    ⟨fun h => by_contra fun hne => toString_ne hne h, congrArg toString⟩
  have hat (n : Nat) : call.at? n =
      if 3 = n then some romaji else if 1 = n then some english else none := by
    rw [Call.at?, Call.nonblank?, hget, show "3" = toString 3 from rfl,
      show "2" = toString 2 from rfl, show "1" = toString 1 from rfl]
    simp only [hnumber]
    obtain rfl | htwo := eq_or_ne 2 n
    · simp
    · rw [if_neg htwo]
      split_ifs <;> simp [henglish.ne_empty, hromaji.ne_empty]
  rw [nihongo, hlead, hat, hat, hat, hat, hat, Outcome.markup.injEq, ← String.toList_inj]
  simp [withParts, italicMarkup, romanizedMarkup, Text.join]

/-- Without apostrophes at the ends, the romanization stands between two runs of two. Each
    apostrophe at an end makes the run next to it longer. -/
theorem parse_romanizedMarkup (hquote : '\'' ∉ english.toList) {opens closes : Bool}
    {middle : Chars} (hmiddle : romaji.toList = List.replicate opens.toNat '\'' ++
      (middle ++ List.replicate closes.toNat '\''))
    (hsingle : Markup.SingleQuotes ('\'' :: (middle ++ ['\'']))) :
    Markup.parse (romanizedMarkup english romaji) =
      Markup.betweenRuns (.text (english ++ " (")) (.text (String.ofList middle)) (.text ")")
        opens closes := by
  have hsub : middle ⊆ romaji.toList := by
    rw [hmiddle]
    exact List.subset_append_of_subset_right _ (List.subset_append_left _ _)
  have hmarks : ∀ c ∈ middle, Markup.startsToken c → c = '\'' :=
    fun c hc => hromaji.quote_of_startsToken (hsub hc)
  have hmarkup : romanizedMarkup english romaji = String.ofList ((english.toList ++ [' ', '(']) ++
      (List.replicate (opens.toNat + 2) '\'' ++ (middle ++
        (List.replicate (closes.toNat + 2) '\'' ++ [')'])))) := by
    rw [← String.toList_inj, String.toList_ofList, toList_romanizedMarkup, hmiddle]
    cases opens <;> cases closes <;> simp [List.replicate]
  rw [hmarkup, Markup.parse_betweenRuns (isPlain_opening henglish hquote) isPlain_closing hmarks
    (fun hmem => hromaji.noReference (hsub hmem)) hsingle, ofList_opening]

omit hromaji in
/-- A romanization that is one apostrophe is lost in the marks. -/
theorem parse_romanizedMarkup_quote (hquote : '\'' ∉ english.toList) :
    Markup.parse (romanizedMarkup english "'") =
      [.text (english ++ " ("), .container .bold [.container .italic [.text ")"]]] := by
  have hmarkup : romanizedMarkup english "'" =
      String.ofList ((english.toList ++ [' ', '(']) ++ (List.replicate 5 '\'' ++ [')'])) := by
    rw [← String.toList_inj, String.toList_ofList, toList_romanizedMarkup]
    simp [List.replicate]
  rw [hmarkup, Markup.parse_fiveQuotes (isPlain_opening henglish hquote) isPlain_closing,
    ofList_opening]

end

end Template

/-! ## What is shown -/

/-- Nodes render in normal form. -/
theorem Node.map_normalize_renderAll {context : Context} {expand : Expander} {nodes : List Node} :
    (renderAll context expand nodes).map Prose.normalize = renderAll context expand nodes := by
  rw [renderAll]
  cases renderEach context expand nodes with
  | error unknown => rfl
  | ok pieces => exact congrArg Except.ok (Prose.normalize_concat pieces)

/-- Two runs set a text between them in italics if and only if both are of two apostrophes. -/
theorem Node.renderAll_betweenRuns {context : Context} {expand : Expander}
    {before middle after : String} (hbefore : before ≠ "") (hmiddle : middle ≠ "")
    (hafter : after ≠ "") (opens closes : Bool) :
    ∃ prose, renderAll context expand
        (Markup.betweenRuns (.text before) (.text middle) (.text after) opens closes) = .ok prose ∧
      ∀ shown, prose = .fragment [.text before, .styled .italic (.text shown), .text after] ↔
        shown = middle ∧ opens = false ∧ closes = false := by
  cases opens <;> cases closes <;> refine ⟨_, rfl, fun shown => ?_⟩ <;>
    simp [Prose.concat, Prose.unitsOfAll, Prose.units, Prose.joinTexts, Prose.consUnit,
      Prose.ofUnits, Container.wrap, Prose.styled, Prose.framedIn, Prose.pieces, hbefore, hmiddle,
      hafter, eq_comm]

namespace Renderer

open Template

/-- A render of the call shows what the markup that the call is turned into shows. -/
theorem renderText_romanizedCall {english romaji : String} (henglish : IsTerm english)
    (hromaji : IsTerm romaji) (context : Context) (levels : Nat)
    (hseveral : ∀ name parameters,
      Markup.parse (romanizedMarkup english romaji) ≠ [.template name parameters]) :
    (ofMarkup context (levels + 1)).renderText (romanizedCall english romaji) =
      Node.renderAll context ((ofMarkup context (levels + 1)).expand levels)
        (Markup.parse (romanizedMarkup english romaji)) := by
  let renderer := ofMarkup context (levels + 1)
  have hfind : find? (canonicalName "Nihongo") = some (.expanding nihongo) := rfl
  have hcall : renderer.expand (levels + 1) "Nihongo"
        [⟨none, english⟩, ⟨none, ""⟩, ⟨none, romaji⟩] =
      Node.renderAll context (renderer.expand levels)
        (Markup.parse (romanizedMarkup english romaji)) := by
    rw [expand_eq, expandWith_expanding _ _ _ _ hfind, callOf,
      nihongo_romanized henglish hromaji, finish_parsed hseveral]
    rfl
  have hnodes : renderer.parse (romanizedCall english romaji) = _ :=
    parse_romanizedCall henglish hromaji
  rw [renderText, hnodes, render, Node.renderAll_singleton, Node.render, hcall]
  exact Node.map_normalize_renderAll

/-- A romanization with single apostrophes is always shown, but it is shown as it is and in italics
    if and only if no apostrophe is at either end of it. -/
theorem renders_romanization (context : Context) {english romaji : String}
    (henglish : IsTerm english) (hromaji : IsTerm romaji) (hquote : '\'' ∉ english.toList)
    (hsingle : Markup.SingleQuotes romaji.toList) :
    ∃ prose, (ofMarkup context CommandLine.Settings.defaultMaxDepth).renderText
        (romanizedCall english romaji) = .ok prose ∧
      (prose = .fragment [.text (english ++ " ("), .styled .italic (.text romaji), .text ")"] ↔
        romaji.toList.head? ≠ some '\'' ∧ romaji.toList.getLast? ≠ some '\'') := by
  have hne : romaji.toList ≠ [] := by simpa using hromaji.ne_empty
  have hopening : english ++ " (" ≠ "" := by simp
  by_cases hone : romaji.toList = ['\'']
  · obtain rfl : romaji = "'" := String.toList_inj.1 hone
    have hparse := parse_romanizedMarkup_quote henglish hquote
    have hshown := renderText_romanizedCall henglish hromaji context 19 (by simp [hparse])
    rw [hparse] at hshown
    refine ⟨_, hshown.trans rfl, iff_of_false ?_ fun hends => hends.1 rfl⟩
    simp [Prose.concat, Prose.unitsOfAll, Prose.units, Prose.joinTexts, Prose.consUnit,
      Prose.ofUnits, Container.wrap, Prose.styled, Prose.framedIn, hopening]
  · obtain ⟨opens, middle, closes, hmiddle, hchain, hopens, hcloses⟩ :=
      hsingle.exists_middle hne hone
    have hparse := parse_romanizedMarkup henglish hromaji hquote hmiddle hchain
    have hshown := renderText_romanizedCall henglish hromaji context 19
      (by cases opens <;> cases closes <;> simp [hparse, Markup.betweenRuns])
    have hmiddle' : String.ofList middle ≠ "" := by simpa using hchain.middle_ne_nil
    obtain ⟨prose, hprose, hitalic⟩ :=
      Node.renderAll_betweenRuns hopening hmiddle' (by decide : ")" ≠ "") opens closes
    rw [hparse, hprose] at hshown
    refine ⟨prose, hshown, ?_⟩
    rw [hitalic, Ne, Ne, ← hopens, ← hcloses, Bool.not_eq_true, Bool.not_eq_true,
      and_iff_right_iff_imp]
    rintro ⟨rfl, rfl⟩
    rw [← String.toList_inj, String.toList_ofList, hmiddle]
    simp

/-- An apostrophe inside the romanization. -/
theorem renders_romanization_inside :
    IsTerm "moon" ∧ IsTerm "tsu'ki" ∧ '\'' ∉ "moon".toList ∧
      Markup.SingleQuotes "tsu'ki".toList ∧
      (ofMarkup .epoch 20).renderText (romanizedCall "moon" "tsu'ki") =
        .ok (.fragment [.text "moon (", .styled .italic (.text "tsu'ki"), .text ")"]) := by
  have henglish : IsTerm "moon" := by decide
  have hromaji : IsTerm "tsu'ki" := by decide
  have hquote : '\'' ∉ "moon".toList := by decide
  have hsingle : Markup.SingleQuotes "tsu'ki".toList := by decide
  obtain ⟨prose, hshown, hitalic⟩ := renders_romanization .epoch henglish hromaji hquote hsingle
  obtain rfl := hitalic.2 ⟨by decide, by decide⟩
  exact ⟨henglish, hromaji, hquote, hsingle, hshown⟩

/-- An apostrophe at the start makes the mark before it one for bold text, so that the mark at the
    end sets in italics what comes after the romanization. -/
theorem renderText_romanization_start :
    IsTerm "e" ∧ IsTerm "'x" ∧ '\'' ∉ "e".toList ∧ Markup.SingleQuotes "'x".toList ∧
      romanizedCall "e" "'x" = "\x7b\x7bNihongo|e||'x\x7d\x7d" ∧
      (ofMarkup .epoch 20).renderText (romanizedCall "e" "'x") =
        .ok (.fragment [.text "e (",
          .styled .bold (.fragment [.text "x", .styled .italic (.text ")")])]) ∧
      (ofMarkup .epoch 20).renderText (romanizedCall "e" "'x") ≠
        .ok (.fragment [.text "e (", .styled .italic (.text "'x"), .text ")"]) := by
  have henglish : IsTerm "e" := by decide
  have hromaji : IsTerm "'x" := by decide
  have hquote : '\'' ∉ "e".toList := by decide
  have hparse := parse_romanizedMarkup henglish hromaji hquote
    (show "'x".toList = List.replicate (Bool.toNat true) '\'' ++
      (['x'] ++ List.replicate (Bool.toNat false) '\'') by decide) (by decide)
  have hshown := renderText_romanizedCall henglish hromaji .epoch 19
    (by simp [hparse, Markup.betweenRuns])
  rw [hparse] at hshown
  have hbold : (ofMarkup .epoch 20).renderText (romanizedCall "e" "'x") =
      .ok (.fragment [.text "e (",
        .styled .bold (.fragment [.text "x", .styled .italic (.text ")")])]) := hshown.trans rfl
  refine ⟨henglish, hromaji, hquote, by decide, by decide, hbold, ?_⟩
  rw [hbold]
  simp [Prose.styled, Prose.framedIn]

end Renderer

end GenreProse
