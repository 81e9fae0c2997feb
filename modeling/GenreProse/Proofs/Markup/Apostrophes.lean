-- SUMMARY: Which characters are bold or italic is a matter of parity along their line.
import Mathlib.Data.List.SplitBy
import Mathlib.Data.Nat.Bits
import GenreProse.Markup.Parse
import GenreProse.Proofs.Markup.Shape
import GenreProse.Proofs.Markup.StyledText
import GenreProse.Proofs.Text.Ascii

/-!
# Apostrophes and parity

Bold and italics may be set in any order and ended in any other. Where only apostrophes and line
breaks are marks, the styles that are open are nevertheless just those that an odd number of the
runs before on the line have changed: closing a style takes it out of the stack, wherever it is, and
leaves the rest of the stack as it is.
-/

namespace GenreProse

/-! ## Parity -/

/-- Whether a run of so many apostrophes starts or ends bold text. -/
def changesBold (count : Nat) : Bool :=
  count == 3 || count == 4 || 5 ≤ count

def changesItalic (count : Nat) : Bool :=
  count == 2 || 5 ≤ count

/-- How many apostrophes of a run are shown. -/
def literalQuotes (count : Nat) : Nat :=
  if count = 1 ∨ count = 4 then 1 else if 5 ≤ count then count - 5 else 0

/-- A character after runs of apostrophes of the given lengths on the same line. It is bold if an
    odd number of them change bold, and italic if an odd number change italics. -/
def StyledChar.after (line : List Nat) (c : Char) : StyledChar :=
  ⟨c, line.countP changesBold % 2, line.countP changesItalic % 2⟩

/-- The characters that runs of equal characters show, with the styles that they have by parity,
    after runs of apostrophes of the given lengths on the same line. The apostrophes of a run are in
    the styles before it. A single line break is part of the line that it starts, and several are a
    paragraph break, which shows no character. -/
def parityChars (line : List Nat) : List Chars → List StyledChar
  | [] => []
  | run :: runs =>
    match run.head? with
    | some '\'' =>
      (List.replicate (literalQuotes run.length) '\'').map (.after line) ++
        parityChars (line ++ [run.length]) runs
    | some '\n' =>
      (if run.length = 1 then [.after [] '\n'] else []) ++ parityChars [] runs
    | _ => run.map (.after line) ++ parityChars line runs

/-- Runs of characters that are no marks are shown in the styles of the line. -/
theorem parityChars_append (line : List Nat) {runs : List Chars}
    (h : ∀ c ∈ runs.flatten, c ≠ '\'' ∧ c ≠ '\n') (others : List Chars) :
    parityChars line (runs ++ others) =
      runs.flatten.map (.after line) ++ parityChars line others := by
  induction runs with
  | nil => rfl
  | cons run runs ih =>
    rw [List.flatten_cons, List.forall_mem_append] at h
    rw [List.cons_append, parityChars, List.flatten_cons, List.map_append, List.append_assoc,
      ih h.2]
    split
    · next hquote => exact absurd rfl (h.1 _ (List.mem_of_mem_head? hquote)).1
    · next hbreak => exact absurd rfl (h.1 _ (List.mem_of_mem_head? hbreak)).2
    · rfl

/-! ## Runs -/

/-- The first run of a text goes on as long as its first character is repeated. -/
theorem splitBy_cons_run (c : Char) (s : Chars) :
    (c :: s).splitBy (· == ·) =
      (c :: s.takeWhile (· == c)) :: (s.dropWhile (· == c)).splitBy (· == ·) := by
  have hrun : ∀ d ∈ c :: s.takeWhile (· == c), d = c := by
    refine List.forall_mem_cons.2 ⟨rfl, fun d hd => ?_⟩
    simpa using List.mem_takeWhile_imp hd
  have hone : (c :: s.takeWhile (· == c)).splitBy (· == ·) = [c :: s.takeWhile (· == c)] := by
    refine List.splitBy_of_isChain (List.cons_ne_nil _ _) ?_
    rw [List.eq_replicate_of_mem hrun]
    exact List.isChain_replicate_of_rel _ (beq_self_eq_true c)
  have hmeet : ∀ x ∈ (c :: s.takeWhile (· == c)).getLast?,
      ∀ y ∈ (s.dropWhile (· == c)).head?, (x == y) = false := by
    intro x hx y hy
    have hy' := List.head?_dropWhile_not (· == c) s
    rw [Option.mem_def.1 hy] at hy'
    rw [hrun x (List.mem_of_mem_getLast? hx), beq_eq_false_iff_ne]
    exact Ne.symm (beq_eq_false_iff_ne.1 hy')
  have hsplit := List.splitBy_append hmeet
  rwa [hone, List.cons_append, List.takeWhile_append_dropWhile] at hsplit

/-! ## The stack of styles -/

namespace Builder

variable {builder : Builder} {kind : Container}

@[simp] theorem kinds_enter (builder : Builder) (kind : Container) :
    (builder.enter kind).kinds = kind :: builder.kinds := by
  rw [← kinds_flush builder]
  rfl

/-- Styles that are entered one after the other lie on the stack in reverse. -/
theorem kinds_foldl_enter (builder : Builder) (kinds : List Container) :
    (kinds.foldl enter builder).kinds = kinds.reverse ++ builder.kinds := by
  induction kinds generalizing builder with
  | nil => rfl
  | cons kind kinds ih => rw [List.foldl_cons, ih, kinds_enter, List.reverse_cons, List.append_assoc,
      List.singleton_append]

/-- Where only text styles are open, closing one takes it out of the stack. -/
theorem kinds_toggle (hstyles : ∀ kind ∈ builder.kinds, kind.isTextStyle) (kind : Container) :
    (builder.toggle kind).kinds =
      if kind ∈ builder.kinds then builder.kinds.erase kind else kind :: builder.kinds := by
  have hplace : (builder.frames.findIdx? fun frame => frame.1 = kind) =
      builder.kinds.idxOf? kind := by
    rw [List.idxOf?, kinds, List.findIdx?_map]
    rfl
  rw [toggle, close?, hplace]
  split
  · next hnone =>
    rw [if_neg (List.idxOf?_eq_none_iff.1 hnone)]
    exact kinds_enter builder kind
  · next inside hinside =>
    have hmem : kind ∈ builder.kinds := by
      by_contra hnot
      rw [List.idxOf?_eq_none_iff.2 hnot] at hinside
      cases hinside
    have hreopened : ((builder.frames.take inside).reverse.map Prod.fst).filter
        Container.isTextStyle = (builder.kinds.take inside).reverse := by
      rw [List.map_reverse, List.map_take, ← kinds, List.filter_eq_self]
      exact fun kind hkind => hstyles kind (List.mem_of_mem_take (List.mem_reverse.1 hkind))
    have herase : builder.kinds.erase kind = builder.kinds.eraseIdx inside := by
      rw [List.erase_eq_eraseIdx, hinside]
    rw [if_pos hmem, herase, Option.getD_some, kinds_foldl_enter, hreopened, List.reverse_reverse,
      kinds_leaveMany, List.eraseIdx_eq_take_drop_succ]

/-- A style is open after a toggle if it has not been before. -/
theorem count_toggle (hstyles : ∀ kind ∈ builder.kinds, kind.isTextStyle) {isOpen : Bool}
    (h : builder.kinds.count kind = isOpen.toNat) :
    (builder.toggle kind).kinds.count kind = (!isOpen).toNat := by
  rw [kinds_toggle hstyles]
  cases isOpen with
  | false =>
    rw [Bool.toNat_false, List.count_eq_zero] at h
    simp [h, List.count_eq_zero_of_not_mem h]
  | true =>
    rw [Bool.toNat_true] at h
    have hmem : kind ∈ builder.kinds := List.count_pos_iff.1 (by omega)
    simp [hmem, h]

/-- A style is not changed when another one is toggled. -/
theorem count_toggle_of_ne (hstyles : ∀ kind ∈ builder.kinds, kind.isTextStyle)
    {other : Container} (h : other ≠ kind) :
    (builder.toggle kind).kinds.count other = builder.kinds.count other := by
  rw [kinds_toggle hstyles]
  split
  · exact List.count_erase_of_ne h
  · exact List.count_cons_of_ne (Ne.symm h)

/-- Toggling a style leaves only styles on the stack. -/
theorem isTextStyle_of_mem_toggle (hstyles : ∀ kind ∈ builder.kinds, kind.isTextStyle)
    (hkind : kind.isTextStyle) : ∀ other ∈ (builder.toggle kind).kinds, other.isTextStyle := by
  intro other hother
  rw [kinds_toggle hstyles] at hother
  split at hother
  · exact hstyles other (List.mem_of_mem_erase hother)
  · rcases List.mem_cons.1 hother with rfl | hbefore
    · exact hkind
    · exact hstyles other hbefore

/-- Toggling shows nothing. -/
@[simp] theorem chars_toggle (builder : Builder) (kind : Container) :
    (builder.toggle kind).chars = builder.chars :=
  chars_perform (.toggle kind) rfl

/-- The end of a line shows nothing. -/
@[simp] theorem chars_endLine (builder : Builder) : builder.endLine.chars = builder.chars :=
  chars_perform .endLine rfl

/-- Closing and opening containers leaves no text waiting that has not been waiting before. -/
theorem not_mem_pending_perform (operation : Operation) (h : operation.content? = none)
    {c : Char} (hpending : c ∉ builder.pending) : c ∉ (builder.perform operation).pending := by
  have hmoves := contents_moves builder operation
  rw [h, Option.toList_none, List.filterMap_eq_nil_iff] at hmoves
  rw [perform_eq_foldl]
  generalize builder.moves operation = steps at hmoves
  induction steps generalizing builder with
  | nil => exact hpending
  | cons step steps ih =>
    obtain ⟨hstep, hrest⟩ := List.forall_mem_cons.1 hmoves
    refine ih ?_ hrest
    cases step with
    | write text => cases hstep
    | push node => cases hstep
    | enter kind => simp [move]
    | leave => simp [move]

/-- Whether just the given text styles are open, each once, and no reference is waiting. -/
structure Emphasized (bold italic : Bool) (builder : Builder) : Prop where
  plain : '&' ∉ builder.pending
  styles : ∀ kind ∈ builder.kinds, kind.isTextStyle
  bolds : builder.kinds.count .bold = bold.toNat
  italics : builder.kinds.count .italic = italic.toNat

namespace Emphasized

variable {bold italic : Bool}

theorem toggle_bold (h : Emphasized bold italic builder) :
    Emphasized (!bold) italic (builder.toggle .bold) where
  plain := not_mem_pending_perform (.toggle .bold) rfl h.plain
  styles := isTextStyle_of_mem_toggle h.styles rfl
  bolds := count_toggle h.styles h.bolds
  italics := by rw [count_toggle_of_ne h.styles (by decide), h.italics]

theorem toggle_italic (h : Emphasized bold italic builder) :
    Emphasized bold (!italic) (builder.toggle .italic) where
  plain := not_mem_pending_perform (.toggle .italic) rfl h.plain
  styles := isTextStyle_of_mem_toggle h.styles rfl
  bolds := by rw [count_toggle_of_ne h.styles (by decide), h.bolds]
  italics := count_toggle h.styles h.italics

theorem write (h : Emphasized bold italic builder) {text : Chars} (htext : '&' ∉ text) :
    Emphasized bold italic (builder.write text) where
  plain := by simp [Builder.write, h.plain, htext]
  styles := h.styles
  bolds := h.bolds
  italics := h.italics

/-- At the end of a line no text style is open, and where only text styles are open, nothing. -/
theorem endLine (h : Emphasized bold italic builder) :
    Emphasized false false builder.endLine ∧ builder.endLine.kinds = [] := by
  have hkinds : builder.endLine.kinds = [] := by
    rw [kinds_endLine, List.reverse_eq_nil_iff, List.takeWhile_eq_nil_iff]
    intro hlength
    simpa using h.styles _ (List.mem_reverse.1 (List.getElem_mem hlength))
  refine ⟨⟨not_mem_pending_perform .endLine rfl h.plain, ?_, ?_, ?_⟩, hkinds⟩ <;>
    simp [hkinds]

end Emphasized

end Builder

/-! ## Runs of apostrophes -/

namespace Markup

open Builder

variable {builder : Builder} {bold italic : Bool}

/-- What a run of apostrophes does, by its length. -/
theorem ofLength_eq (count : Nat) :
    Quotes.ofLength count =
      ⟨literalQuotes count, changesBold count, changesItalic count⟩ := by
  match count with
  | 0 => rfl
  | 1 => rfl
  | 2 => rfl
  | 3 => rfl
  | 4 => rfl
  | n + 5 => simp [Quotes.ofLength, literalQuotes, changesBold, changesItalic]

/-- A run changes the styles that its length says, in whichever order they are open. -/
theorem emphasized_applyQuotes (h : Emphasized bold italic builder) (count : Nat) :
    Emphasized (bold ^^ changesBold count) (italic ^^ changesItalic count)
      (applyQuotes builder count) := by
  have hliteral : '&' ∉ List.replicate (literalQuotes count) '\'' := by simp
  have hwritten := h.write hliteral
  rw [applyQuotes, ofLength_eq]
  cases changesBold count <;> cases changesItalic count <;>
    simp only [Bool.xor_false, Bool.xor_true]
  · exact hwritten
  · exact hwritten.toggle_italic
  · exact hwritten.toggle_bold
  · split
    · exact hwritten.toggle_italic.toggle_bold
    · exact hwritten.toggle_bold.toggle_italic

/-- The literal apostrophes of a run are written before it changes any style. -/
theorem chars_quotes (h : Emphasized bold italic builder) (count : Nat) :
    ((Token.quotes count).apply builder).chars = builder.chars ++
      (List.replicate (literalQuotes count) '\'').map (.under builder.kinds) := by
  have hliteral : '&' ∉ List.replicate (literalQuotes count) '\'' := by simp
  have hwritten := chars_write h.plain hliteral
  rw [Token.apply, applyQuotes, ofLength_eq, ← hwritten]
  cases changesBold count <;> cases changesItalic count
  · rfl
  · exact chars_toggle _ _
  · exact chars_toggle _ _
  · dsimp only
    split <;> rw [chars_toggle, chars_toggle]

/-! ## Lines -/

/-- Whether the open styles are those of a line with runs of the given lengths. -/
abbrev OnLine (line : List Nat) (builder : Builder) : Prop :=
  Emphasized (line.countP changesBold).bodd (line.countP changesItalic).bodd builder

/-- The styles of a character are those of the runs before it on its line. -/
theorem OnLine.under_eq_after {line : List Nat} (h : OnLine line builder) :
    StyledChar.under builder.kinds = StyledChar.after line := by
  funext c
  rw [StyledChar.under, StyledChar.after, h.bolds, h.italics, Nat.mod_two_of_bodd,
    Nat.mod_two_of_bodd]

/-- The parity after one more run. -/
theorem bodd_countP_append (test : Nat → Bool) (line : List Nat) (count : Nat) :
    ((line ++ [count]).countP test).bodd = ((line.countP test).bodd ^^ test count) := by
  rw [List.countP_append, Nat.bodd_add]
  cases htest : test count <;> simp [htest]

/-- A run of apostrophes keeps the invariant. -/
theorem OnLine.quotes {line : List Nat} (h : OnLine line builder) (count : Nat) :
    OnLine (line ++ [count]) ((Token.quotes count).apply builder) := by
  unfold OnLine
  rw [bodd_countP_append, bodd_countP_append]
  exact emphasized_applyQuotes h count

/-- So does text. -/
theorem OnLine.text {line : List Nat} (h : OnLine line builder) {s : Chars} (hs : '&' ∉ s) :
    OnLine line ((Token.text s).apply builder) :=
  h.write hs

/-- After the end of a line the runs are counted anew. -/
theorem OnLine.lines {line : List Nat} (h : OnLine line builder) (count : Nat) :
    OnLine [] ((Token.lines count).apply builder) := by
  obtain ⟨hended, hkinds⟩ := h.endLine
  rw [Token.apply]
  split
  · constructor <;> simp [push, kinds_modifyInner, hkinds]
  · exact hended.write (by decide)

/-- A single line break is shown on the line that it starts. -/
theorem chars_lines {line : List Nat} (h : OnLine line builder) {count : Nat} (hcount : 0 < count) :
    ((Token.lines count).apply builder).chars =
      builder.chars ++ if count = 1 then [.after [] '\n'] else [] := by
  obtain ⟨hended, hkinds⟩ := h.endLine
  rw [Token.apply]
  split
  · rw [if_neg (by omega), chars_push, chars_endLine, Node.styledChars]
  · rw [if_pos (by omega), chars_write hended.plain (by decide), chars_endLine, hkinds]
    rfl

/-! ## Reading -/

/-- A run of apostrophes is read as a whole. -/
theorem readToken_quote (s : Chars) :
    readToken '\'' s =
      (.quotes ((s.takeWhile (· == '\'')).length + 1), s.dropWhile (· == '\'')) := by
  cases s <;> rfl

/-- A run of line feeds is read as a whole. -/
theorem readToken_lineBreak (s : Chars) :
    readToken '\n' s = (.lines ((s.takeWhile (· == '\n')).length + 1), s.dropWhile (· == '\n')) := by
  cases s <;> rfl

theorem readToken_eq_readText {c : Char} (h : startsToken c = false) (s : Chars) :
    readToken c s = readText c s := by
  unfold readToken
  split <;> first | rfl | cases h

/-- Plain text and what follows it have no run in common. -/
theorem splitBy_readText {c : Char} (h : startsToken c = false) (s : Chars) :
    (c :: s).splitBy (· == ·) = (c :: s.takeWhile (!startsToken ·)).splitBy (· == ·) ++
      (s.dropWhile (!startsToken ·)).splitBy (· == ·) := by
  have hmeet : ∀ x ∈ (c :: s.takeWhile (!startsToken ·)).getLast?,
      ∀ y ∈ (s.dropWhile (!startsToken ·)).head?, (x == y) = false := by
    intro x hx y hy
    have hstarts := List.head?_dropWhile_not (!startsToken ·) s
    rw [Option.mem_def.1 hy] at hstarts
    have htext : startsToken x = false := by
      rcases List.mem_cons.1 (List.mem_of_mem_getLast? hx) with rfl | hmem
      · exact h
      · simpa using List.mem_takeWhile_imp hmem
    rw [beq_eq_false_iff_ne]
    rintro rfl
    simp [htext] at hstarts
  have hsplit := List.splitBy_append hmeet
  rwa [List.cons_append, List.takeWhile_append_dropWhile] at hsplit

/-- Plain text is shown in the styles that are open where it starts. -/
theorem parityChars_readText (line : List Nat) {c : Char} (h : startsToken c = false) (s : Chars) :
    parityChars line ((c :: s).splitBy (· == ·)) =
      (c :: s.takeWhile (!startsToken ·)).map (.after line) ++
        parityChars line ((s.dropWhile (!startsToken ·)).splitBy (· == ·)) := by
  have hread : ∀ d ∈ c :: s.takeWhile (!startsToken ·), d ≠ '\'' ∧ d ≠ '\n' := by
    have hplain : ∀ d ∈ c :: s.takeWhile (!startsToken ·), startsToken d = false :=
      List.forall_mem_cons.2 ⟨h, fun d hd => by simpa using List.mem_takeWhile_imp hd⟩
    intro d hd
    constructor <;> rintro rfl <;> cases hplain _ hd
  rw [splitBy_readText h, parityChars_append, List.flatten_splitBy]
  rwa [List.flatten_splitBy]

/-- Tokens that are read from text without other marks show what parity says. -/
theorem chars_foldl_apply {line : List Nat} {s : Chars} (h : OnLine line builder)
    (hmarks : ∀ c ∈ s, c ∉ ['{', '[', '<', '&']) :
    ((tokens s).foldl Token.apply builder).chars =
      builder.chars ++ parityChars line (s.splitBy (· == ·)) := by
  fun_induction tokens s generalizing builder line with
  | case1 => simp [parityChars]
  | case2 c s next =>
    rename_i ih
    have hrest : ∀ d ∈ next.2, d ∉ ['{', '[', '<', '&'] := fun d hd =>
      hmarks d (List.mem_cons_of_mem _ ((readToken_suffix c s).subset hd))
    rw [List.foldl_cons]
    by_cases hquote : c = '\''
    · subst hquote
      rw [show next = _ from readToken_quote s] at ih hrest ⊢
      dsimp only at ih hrest ⊢
      rw [ih (h.quotes _) hrest, chars_quotes h, h.under_eq_after, splitBy_cons_run, parityChars,
        List.append_assoc]
      rfl
    by_cases hbreak : c = '\n'
    · subst hbreak
      rw [show next = _ from readToken_lineBreak s] at ih hrest ⊢
      dsimp only at ih hrest ⊢
      rw [ih (h.lines _) hrest, chars_lines h (Nat.succ_pos _), splitBy_cons_run, parityChars,
        List.append_assoc]
      rfl
    · have htext : startsToken c = false := by
        have hmark := hmarks c List.mem_cons_self
        simp only [List.mem_cons, not_or] at hmark
        simp [startsToken, hquote, hbreak, hmark]
      have hamp : '&' ∉ c :: s.takeWhile (!startsToken ·) := fun hmem =>
        have hread := (List.prefix_cons_inj c).2 (List.takeWhile_prefix (!startsToken ·) (l := s))
        hmarks '&' (hread.subset hmem) (by decide)
      rw [show next = _ from readToken_eq_readText htext s, readText] at ih hrest ⊢
      dsimp only at ih hrest ⊢
      rw [ih (h.text hamp) hrest, Token.apply, chars_write h.plain hamp, h.under_eq_after,
        parityChars_readText line htext, List.append_assoc]

end Markup

/-! ## Result -/

/-- Where a text holds no marks but apostrophes and line breaks, and no references, each character
    that it shows is in one bold container if an odd number of the runs before on its line change
    bold and in none otherwise, and likewise for italics. -/
theorem Markup.parse_parity (text : String) (h : ∀ c ∈ text.toList, c ∉ ['{', '[', '<', '&']) :
    Node.styledCharsOfAll [] (parse text) = parityChars [] (text.toList.splitBy (· == ·)) := by
  have hempty : OnLine [] Builder.empty := by
    constructor <;> simp [Builder.empty, Builder.kinds]
  rw [parse, Builder.styledCharsOfAll_finish, chars_foldl_apply hempty h, Builder.chars_empty,
    List.nil_append]

/-- Italics end inside bold text, both change at once, and a line break ends what is left. -/
theorem Markup.parse_parity_crossed :
    (∀ c ∈ "'''''a''b'''''c\n''''d".toList, c ∉ ['{', '[', '<', '&']) ∧
      Node.styledCharsOfAll [] (parse "'''''a''b'''''c\n''''d") =
        [⟨'a', 1, 1⟩, ⟨'b', 1, 0⟩, ⟨'c', 0, 1⟩, ⟨'\n', 0, 0⟩, ⟨'\'', 0, 0⟩, ⟨'d', 1, 0⟩] := by
  have hmarks : ∀ c ∈ "'''''a''b'''''c\n''''d".toList, c ∉ ['{', '[', '<', '&'] :=
    Chars.forall_of_all (by decide)
  refine ⟨hmarks, ?_⟩
  rw [parse_parity _ hmarks]
  decide

end GenreProse
