-- SUMMARY: What a comment, a reference or a nowiki span may hold so that it can stand anywhere in a value.
import Mathlib.Data.List.Chain
import GenreProse.Proofs.Markup.Calls
import GenreProse.Proofs.Markup.Splitting
import GenreProse.Proofs.Text.Ascii

/-!
# Opaque spans in values

Outside of calls nothing that a comment, a reference or a `nowiki` span holds is read as markup. The
search for the end of a call and the search for its separators do not know these spans: they read
what the spans hold like any other text. A span that holds no doubled brackets, and no separator that
would count where it stands, adds itself to a value of the call and changes nothing else.
-/

namespace GenreProse

namespace Markup

variable {separator : Char} {nesting : Nesting} {before after span content : Chars}

/-! ## Spans -/

/-- The kinds of spans whose content is no markup outside of calls. -/
inductive OpaqueSpan where
  | comment
  | reference
  | nowiki

namespace OpaqueSpan

def opening : OpaqueSpan → Chars
  | comment => ['<', '!', '-', '-']
  | reference => ['<', 'r', 'e', 'f', '>']
  | nowiki => ['<', 'n', 'o', 'w', 'i', 'k', 'i', '>']

def closing : OpaqueSpan → Chars
  | comment => ['-', '-', '>']
  | reference => ['<', '/', 'r', 'e', 'f', '>']
  | nowiki => ['<', '/', 'n', 'o', 'w', 'i', 'k', 'i', '>']

def write (kind : OpaqueSpan) (content : Chars) : Chars :=
  kind.opening ++ content ++ kind.closing

end OpaqueSpan

/-- Whether no bracket of a call or a link is doubled. -/
def NoDoubledBrackets (s : Chars) : Prop :=
  s.IsChain fun a b => a = b → a ∉ brackets

instance (s : Chars) : Decidable (NoDoubledBrackets s) :=
  inferInstanceAs (Decidable (List.IsChain _ s))

/-- A text that starts and ends like a tag and doubles no brackets. -/
structure Enclosed (span : Chars) : Prop where
  first : span.head? = some '<'
  last : span.getLast? = some '>'
  pairs : NoDoubledBrackets span

/-- A span that is written stands between the brackets of tags. -/
theorem OpaqueSpan.enclosed_write (kind : OpaqueSpan) (h : NoDoubledBrackets content) :
    Enclosed (kind.write content) := by
  refine ⟨by cases kind <;> rfl, ?_, ?_⟩
  · cases kind <;> simp [write, closing]
  · unfold NoDoubledBrackets write
    rw [List.isChain_append, List.isChain_append]
    refine ⟨⟨?_, h, ?_⟩, ?_, ?_⟩
    · cases kind <;> decide
    · cases kind <;> simp [opening, brackets]
    · cases kind <;> decide
    · rintro x - y hy rfl
      cases kind <;> (obtain rfl := Option.some.inj hy; decide)

/-- After a span another text starts between two tokens. -/
theorem Enclosed.meet (h : Enclosed span) (after : Chars) : Meet span after := by
  refine ⟨fun c hc hlast => ?_, fun front inside hspan _ => ?_⟩
  · obtain rfl : '>' = c := Option.some.inj (h.last.symm.trans hlast)
    exact absurd hc (by decide)
  · have hlast := h.last
    cases inside with
    | nil => simp [hspan] at hlast
    | cons d inside => exact List.mem_of_getLast? (by simpa [hspan] using hlast)

theorem Enclosed.head?_append (h : Enclosed span) {s : Chars} :
    (span ++ s).head? = some '<' := by
  rw [List.head?_append, h.first]
  rfl

/-- Where two texts meet, an enclosed text fits in between. -/
theorem Enclosed.meet_before (h : Enclosed span) (hmeet : Meet before after) :
    Meet before (span ++ after) := by
  refine ⟨fun c hc _ hnext => ?_, fun front inside hbefore hopens => ?_⟩
  · obtain rfl : '<' = c := Option.some.inj (h.head?_append.symm.trans hnext)
    exact absurd hc (by decide)
  · cases inside with
    | nil =>
      rw [List.nil_append, h.head?_append] at hopens
      exact absurd hopens (by decide)
    | cons d inside => exact hmeet.tag front (d :: inside) hbefore hopens

/-! ## Scans -/

/-- Without doubled brackets a token opens and closes nothing. -/
theorem NoDoubledBrackets.opened_eq {c : Char} {s : Chars} {opened : Nesting} {more : Nat}
    (h : NoDoubledBrackets (c :: s)) (htoken : nesting.token? c s = some (opened, more)) :
    opened = nesting := by
  obtain ⟨hmem, hnext, -⟩ | ⟨-, -, -, hopened, -⟩ := token?_cases htoken
  · obtain ⟨rest, rfl⟩ := List.head?_eq_some_iff.1 hnext
    exact absurd hmem ((List.isChain_cons_cons.1 h).1 rfl)
  · exact hopened

/-- Without doubled brackets as much is open after a text as before it. -/
theorem through_eq_self {s : Chars} (h : NoDoubledBrackets s) (nesting : Nesting) (more : Nat) :
    nesting.through more s = nesting := by
  fun_induction Nesting.through nesting more s with
  | case1 => rfl
  | case2 nesting more c s ih => exact ih h.tail
  | case3 nesting c s opened more htoken ih => rw [ih h.tail, h.opened_eq htoken]
  | case4 nesting c s htoken ih => exact ih h.tail

/-- Without doubled brackets and separators that count a text is one part. -/
theorem splitFrom_eq_singleton {s : Chars} (h : NoDoubledBrackets s) {more : Nat}
    (hseparator : nesting.isTop → separator ∉ s) :
    splitFrom separator nesting more s = [s] := by
  fun_induction splitFrom separator nesting more s with
  | case1 => rfl
  | case2 nesting more c s ih =>
    rw [ih h.tail fun htop hmem => hseparator htop (List.mem_cons_of_mem c hmem)]
    rfl
  | case3 nesting c s opened more htoken ih =>
    rw [h.opened_eq htoken] at ih ⊢
    rw [ih h.tail fun htop hmem => hseparator htop (List.mem_cons_of_mem c hmem)]
    rfl
  | case4 nesting c s htoken hcuts ih =>
    obtain ⟨rfl, htop, -⟩ := cutsAt_iff.1 hcuts
    exact absurd List.mem_cons_self (hseparator htop)
  | case5 nesting c s htoken hother ih =>
    rw [ih h.tail fun htop hmem => hseparator htop (List.mem_cons_of_mem c hmem)]
    rfl

/-- Between two texts that meet a span goes into the part that the point is in. -/
theorem splitTopLevel_insert (front : List Chars) {back : List Chars} {start ending : Chars}
    (hspan : Enclosed span) (hmeet : Meet before after)
    (hseparator : (Nesting.top.through 0 before).isTop → separator ∉ span)
    (hbefore : splitTopLevel separator before = front ++ [start])
    (hafter : splitFrom separator (Nesting.top.through 0 before) 0 after = ending :: back) :
    splitTopLevel separator (before ++ (span ++ after)) =
      front ++ (start ++ (span ++ ending)) :: back := by
  rw [splitTopLevel_append separator (hspan.meet_before hmeet), hbefore,
    splitFrom_append (Nat.zero_le _) (hspan.meet after),
    splitFrom_eq_singleton hspan.pairs hseparator, through_eq_self hspan.pairs, hafter]
  exact glue_append_cons front start (span ++ ending) back

section Balanced

variable {opening closing : Char} (hopening : opening ∈ brackets) (hclosing : closing ∈ brackets)

include hopening hclosing

/-- A span is passed. -/
theorem balanced?_span (hspan : Enclosed span) (depth : Nat) (s : Chars) :
    balanced? opening closing depth (span ++ s) =
      (balanced? opening closing depth s).map fun found => (span ++ found.1, found.2) := by
  obtain ⟨-, hlast, hpairs⟩ := hspan
  induction span with
  | nil => cases hlast
  | cons a span ih =>
    cases span with
    | nil =>
      obtain rfl : '>' = a := (Option.some.inj hlast).symm
      exact balanced?_cons hopening hclosing (fun _ _ _ => by decide) depth
    | cons b span =>
      have hsingle : ∀ c, (b :: span ++ s).head? = some c → a = c → a ∉ brackets := by
        rintro _ ⟨⟩
        exact (List.isChain_cons_cons.1 hpairs).1
      rw [List.cons_append, balanced?_cons hopening hclosing hsingle,
        ih (List.getLast?_cons_cons ▸ hlast) hpairs.tail, Option.map_map]
      rfl

/-- Brackets that end after two texts end after the span, too, where it is put in between. -/
theorem balanced?_insert {depth : Nat} {rest : Chars} (hspan : Enclosed span)
    (hmeet : Meet before after) (hne : opening ≠ closing)
    (h : balanced? opening closing depth (before ++ (after ++ closing :: closing :: rest)) =
      some (before ++ after, rest)) :
    balanced? opening closing depth (before ++ (span ++ (after ++ closing :: closing :: rest))) =
      some (before ++ (span ++ after), rest) := by
  fun_induction balanced? opening closing depth before with
  | case1 depth a b s hpair ih =>
    have hstep (t : Chars) : balanced? opening closing depth (a :: b :: t) =
        (balanced? opening closing (depth + 1) t).map fun found =>
          ([a, b] ++ found.1, found.2) := by
      rw [balanced?, if_pos hpair]
      rfl
    rw [List.cons_append, List.cons_append, hstep] at h ⊢
    rw [ih (hmeet.ending (List.suffix_append [a, b] s)) (eq_some_of_map_append _ h)]
    rfl
  | case2 depth a b s hnot hpair hdepth =>
    rw [List.cons_append, List.cons_append, balanced?, if_neg hnot, if_pos hpair, if_pos hdepth] at h
    simp at h
  | case3 depth a b s hnot hpair hdepth ih =>
    have hstep (t : Chars) : balanced? opening closing depth (a :: b :: t) =
        (balanced? opening closing (depth - 1) t).map fun found =>
          ([a, b] ++ found.1, found.2) := by
      rw [balanced?, if_neg hnot, if_pos hpair, if_neg hdepth]
      rfl
    rw [List.cons_append, List.cons_append, hstep] at h ⊢
    rw [ih (hmeet.ending (List.suffix_append [a, b] s)) (eq_some_of_map_append _ h)]
    rfl
  | case4 depth a b s hnot hnot' ih =>
    have hstep (t : Chars) : balanced? opening closing depth (a :: b :: t) =
        (balanced? opening closing depth (b :: t)).map fun found => ([a] ++ found.1, found.2) := by
      rw [balanced?, if_neg hnot, if_neg hnot']
      rfl
    rw [List.cons_append, List.cons_append, hstep] at h ⊢
    rw [← List.cons_append] at h ⊢
    rw [ih (hmeet.ending (List.suffix_append [a] (b :: s))) (eq_some_of_map_append _ h)]
    rfl
  | case5 before depth hshort =>
    cases before with
    | nil =>
      rw [List.nil_append, balanced?_span hopening hclosing hspan]
      exact congrArg (Option.map _) h
    | cons a s =>
      cases s with
      | cons b s => exact absurd rfl (hshort a b s)
      | nil =>
        have hsingle : ∀ b, (after ++ closing :: closing :: rest).head? = some b → a = b →
            a ∉ brackets := by
          cases after with
          | nil =>
            -- The brackets would end before the character.
            rintro _ ⟨⟩ rfl
            by_cases hdepth : depth ≤ 1 <;> simp [balanced?, hne.symm, hdepth] at h
          | cons d after =>
            rintro _ ⟨⟩ rfl hmem
            exact hmeet.bracket a hmem rfl rfl
        have hsingle' : ∀ b, (span ++ (after ++ closing :: closing :: rest)).head? = some b →
            a = b → a ∉ brackets := by
          rintro b hnext rfl
          obtain rfl : '<' = a := Option.some.inj (hspan.head?_append.symm.trans hnext)
          decide
        rw [List.cons_append, List.nil_append, balanced?_cons hopening hclosing hsingle] at h
        rw [List.cons_append, List.nil_append, balanced?_cons hopening hclosing hsingle',
          balanced?_span hopening hclosing hspan, eq_some_of_map_append [a] h]
        rfl

end Balanced

/-! ## Values -/

/-- The part before a point of the argument that the point is in: what follows the last bar. -/
def argumentStart (before : Chars) : Chars :=
  (splitTopLevel '|' before).getLastD []

/-- The part after a point of the argument that the point is in: what precedes the next bar. -/
def argumentEnd (before after : Chars) : Chars :=
  (splitFrom '|' (Nesting.top.through 0 before) 0 after).headD []

/-- Whether the point between two texts, which are together what a call holds, is in the value of an
    argument: it is between two tokens, after a bar, and after the name of its argument. -/
structure InValue (before after : Chars) : Prop where
  meet : Meet before after
  bar : 2 ≤ (splitTopLevel '|' before).length
  name : (cutTopLevel? '=' (argumentStart before ++ argumentEnd before after)).isSome →
    (cutTopLevel? '=' (argumentStart before)).isSome

/-- Whether what a span holds counts for nothing after a text: it doubles no brackets, and unless the
    span is in a call or a link, there is no bar in it, nor an equals sign where the argument has no
    name. -/
structure Fits (before content : Chars) : Prop where
  pairs : NoDoubledBrackets content
  bar : (Nesting.top.through 0 before).isTop → '|' ∉ content
  equals : (Nesting.top.through 0 before).isTop →
    cutTopLevel? '=' (argumentStart before) = none → '=' ∉ content

/-- The marks of a span hold no bar and no equals sign. -/
theorem OpaqueSpan.not_mem_write (kind : OpaqueSpan) {c : Char} (hc : c ∈ ['|', '='])
    (hcontent : c ∉ content) : c ∉ kind.write content := by
  have hedges : c ∉ kind.opening ∧ c ∉ kind.closing := by
    revert c
    cases kind <;> simp [opening, closing]
  simp [write, hcontent, hedges]

/-- In a value a span adds itself to the value. -/
theorem parseParameter_insert (start ending : Chars) (hspan : Enclosed span)
    (hmeet : Meet start ending)
    (hname : (cutTopLevel? '=' (start ++ ending)).isSome → (cutTopLevel? '=' start).isSome)
    (hequals : (Nesting.top.through 0 start).isTop → cutTopLevel? '=' start = none → '=' ∉ span) :
    ∃ key value, value <:+ start ∧
      parseParameter (start ++ ending) = ⟨key, String.ofList (value ++ ending)⟩ ∧
      parseParameter (start ++ (span ++ ending)) =
        ⟨key, String.ofList (value ++ (span ++ ending))⟩ := by
  cases hcut : cutTopLevel? '=' start with
  | some found =>
    obtain ⟨name, value⟩ := found
    refine ⟨some (String.ofList (Chars.trim name)), value, ?_, ?_, ?_⟩
    · rw [(splitTopLevel_of_cutTopLevel? hcut).1]
      exact (List.suffix_cons _ _).trans (List.suffix_append _ _)
    · rw [parseParameter, cutTopLevel?_append hmeet hcut]
    · rw [parseParameter, cutTopLevel?_append (hspan.meet_before hmeet) hcut]
  | none =>
    have hnone : cutTopLevel? '=' (start ++ ending) = none := by simpa [hcut] using hname
    have hstart := splitTopLevel_eq_singleton hcut
    have hboth := splitTopLevel_eq_singleton hnone
    obtain ⟨first, back, hending⟩ := List.exists_cons_of_ne_nil
      (splitFrom_ne_nil '=' (Nesting.top.through 0 start) 0 ending)
    rw [splitTopLevel_append '=' hmeet, hstart, hending] at hboth
    obtain ⟨hfirst, rfl⟩ := List.cons.inj hboth
    obtain rfl := List.append_cancel_left hfirst
    have hinserted : splitTopLevel '=' (start ++ (span ++ first)) =
        [start ++ (span ++ first)] :=
      splitTopLevel_insert [] hspan hmeet (fun htop => hequals htop hcut) hstart hending
    refine ⟨none, start, List.suffix_refl start, ?_, ?_⟩
    · rw [parseParameter, hnone]
    · rw [parseParameter, cutTopLevel?, hinserted]

/-- The argument that a point is in the value of, taken apart at the point. -/
theorem InValue.exists_argument (h : InValue before after) :
    ∃ first front back,
      splitTopLevel '|' before = (first :: front) ++ [argumentStart before] ∧
        splitFrom '|' (Nesting.top.through 0 before) 0 after = argumentEnd before after :: back := by
  obtain ⟨first, front, start, hbefore⟩ : ∃ first front start,
      splitTopLevel '|' before = (first :: front) ++ [start] := by
    have hbar := h.bar
    match hparts : splitTopLevel '|' before with
    | [] => simp [hparts] at hbar
    | [_] => simp [hparts] at hbar
    | first :: next :: parts =>
      have hlast := List.dropLast_append_getLast (List.cons_ne_nil next parts)
      exact ⟨first, _, _, congrArg (first :: ·) hlast.symm⟩
  obtain ⟨ending, back, hafter⟩ := List.exists_cons_of_ne_nil
    (splitFrom_ne_nil '|' (Nesting.top.through 0 before) 0 after)
  have hstart : argumentStart before = start := by
    rw [argumentStart, hbefore, List.getLastD_concat]
  have hending : argumentEnd before after = ending := by
    rw [argumentEnd, hafter]
    rfl
  exact ⟨first, front, back, hstart ▸ hbefore, hending ▸ hafter⟩

/-- In a value of a call a span adds itself to the value. -/
theorem parseTemplate_insert (hspan : Enclosed span) (hpoint : InValue before after)
    (hbar : (Nesting.top.through 0 before).isTop → '|' ∉ span)
    (hequals : (Nesting.top.through 0 before).isTop →
      cutTopLevel? '=' (argumentStart before) = none → '=' ∉ span) :
    ∃ name front key value₁ value₂ back, value₁ <:+ before ∧ value₂ <+: after ∧
      parseTemplate (before ++ after) =
        .template name (front ++ ⟨key, String.ofList (value₁ ++ value₂)⟩ :: back) ∧
      parseTemplate (before ++ (span ++ after)) =
        .template name (front ++ ⟨key, String.ofList (value₁ ++ (span ++ value₂))⟩ :: back) := by
  obtain ⟨first, front, back, hbefore, hafter⟩ := hpoint.exists_argument
  have hsuffix := suffix_of_splitFrom (first :: front) hbefore
  have hprefix := prefix_of_splitFrom hafter
  rw [through_eq_of_splitFrom hbefore] at hequals
  obtain ⟨key, value, hvalue, hold, hnew⟩ := parseParameter_insert _ _ hspan
    ((hpoint.meet.ending hsuffix).beginning hprefix) hpoint.name hequals
  refine ⟨String.ofList (Chars.trim first), front.map parseParameter, key, value, _,
    back.map parseParameter, hvalue.trans hsuffix, hprefix, ?_, ?_⟩
  · have hparts := splitTopLevel_append '|' hpoint.meet
    rw [hbefore, hafter, glue_append_cons] at hparts
    rw [parseTemplate, hparts, ← hold]
    simp only [List.cons_append, List.map_append, List.map_cons]
  · have hparts := splitTopLevel_insert (first :: front) hspan hpoint.meet hbar hbefore hafter
    rw [parseTemplate, hparts, ← hnew]
    simp only [List.cons_append, List.map_append, List.map_cons]

/-! ## Calls -/

/-- A text that starts with a call that holds two texts. -/
def callText (before after rest : Chars) : String :=
  String.ofList ('{' :: '{' :: (before ++ (after ++ '}' :: '}' :: rest)))

/-- A comment, a reference or a `nowiki` span in a value of a call that holds no doubled brackets and
    no separators becomes a part of the value. The call ends where it ended, and its name, the number
    and the names of its arguments and their other values stay. -/
theorem parse_opaqueSpan (kind : OpaqueSpan) {rest : Chars}
    (hcall : balanced? '{' '}' 1 (before ++ (after ++ '}' :: '}' :: rest)) =
      some (before ++ after, rest))
    (hpoint : InValue before after) (hcontent : Fits before content) :
    ∃ name front key value₁ value₂ back, value₁ <:+ before ∧ value₂ <+: after ∧
      parse (callText before after rest) =
        .template name (front ++ ⟨key, String.ofList (value₁ ++ value₂)⟩ :: back) ::
          parse (String.ofList rest) ∧
      parse (callText before (kind.write content ++ after) rest) =
        .template name
            (front ++ ⟨key, String.ofList (value₁ ++ (kind.write content ++ value₂))⟩ :: back) ::
          parse (String.ofList rest) := by
  have hspan := kind.enclosed_write hcontent.pairs
  have hbar (htop : (Nesting.top.through 0 before).isTop) : '|' ∉ kind.write content :=
    kind.not_mem_write (by decide) (hcontent.bar htop)
  have hequals (htop : (Nesting.top.through 0 before).isTop)
      (hcut : cutTopLevel? '=' (argumentStart before) = none) : '=' ∉ kind.write content :=
    kind.not_mem_write (by decide) (hcontent.equals htop hcut)
  obtain ⟨name, front, key, value₁, value₂, back, hsuffix, hprefix, hold, hnew⟩ :=
    parseTemplate_insert hspan hpoint hbar hequals
  have hcall' := balanced?_insert (by decide) (by decide) hspan hpoint.meet (by decide) hcall
  refine ⟨name, front, key, value₁, value₂, back, hsuffix, hprefix, ?_, ?_⟩
  · rw [callText, parse_call hcall, hold]
  · rw [callText, List.append_assoc, parse_call hcall', hnew]

/-- A reference with an equals sign in a value that has a name. -/
theorem parse_opaqueSpan_reference :
    ∃ name front key value₁ value₂ back, value₁ <:+ "a|n=x".toList ∧ value₂ <+: "y|b".toList ∧
      parse (callText "a|n=x".toList "y|b".toList "c".toList) =
        .template name (front ++ ⟨key, String.ofList (value₁ ++ value₂)⟩ :: back) ::
          parse (String.ofList "c".toList) ∧
      parse (callText "a|n=x".toList (OpaqueSpan.reference.write "u=v".toList ++ "y|b".toList)
          "c".toList) =
        .template name (front ++ ⟨key, String.ofList
            (value₁ ++ (OpaqueSpan.reference.write "u=v".toList ++ value₂))⟩ :: back) ::
          parse (String.ofList "c".toList) := by
  have hpoint : InValue "a|n=x".toList "y|b".toList :=
    ⟨.of_not_mem (by decide) (Chars.forall_of_all (by decide)), by decide, by decide⟩
  exact parse_opaqueSpan .reference (by decide) hpoint ⟨by decide, by decide, by decide⟩

/-- A bar in a comment ends the argument that the comment is in. -/
theorem parse_bar_in_comment :
    InValue "a|x".toList "y".toList ∧
      parse (callText "a|x".toList "y".toList []) = [.template "a" [⟨none, "xy"⟩]] ∧
      parse (callText "a|x".toList (OpaqueSpan.comment.write "|".toList ++ "y".toList) []) =
        [.template "a" [⟨none, "x<!--"⟩, ⟨none, "-->y"⟩]] := by
  have hpoint : InValue "a|x".toList "y".toList :=
    ⟨.of_not_mem (by decide) (Chars.forall_of_all (by decide)), by decide, by decide⟩
  refine ⟨hpoint, ?_, ?_⟩
  · have hcall : balanced? '{' '}' 1 ("a|x".toList ++ ("y".toList ++ ['}', '}'])) =
        some ("a|xy".toList, []) := by decide
    exact (parse_whole_call hcall).trans rfl
  · have hcall : balanced? '{' '}' 1 ("a|x".toList ++
        (OpaqueSpan.comment.write "|".toList ++ "y".toList ++ ['}', '}'])) =
          some ("a|x<!--|-->y".toList, []) := by decide
    exact (parse_whole_call hcall).trans rfl

end Markup

end GenreProse
