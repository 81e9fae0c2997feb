-- SUMMARY: The loops that close containers end, with what the builder's functions give.
import Mathlib.Data.List.TakeWhile
import Mathlib.Data.PFun
import GenreProse.Markup.Parse
import GenreProse.Proofs.Markup.Leaves

/-!
# Loops that close containers

Here the operations that close containers run as loops on the stack, each until its condition
fails: nothing says beforehand how often, and a loop that does not end has no result. A slice of
the stack has no result either if its bounds are out of range. All of them have results, and these
are the results of the functions on builders, which count what they close.
-/

namespace GenreProse

/-! ## Loops -/

section Loop

variable {σ ρ α : Type}

/-- A loop ends if some measure falls with every turn. What it answers with is what is already
    fixed for the state that it starts with, and stays so. -/
theorem fix_eq_some {body : σ →. ρ ⊕ σ} (answers : σ → ρ → Prop) (measure : σ → Nat)
    (turn : ∀ state result, answers state result → body state = .some (.inl result) ∨
      ∃ next, body state = .some (.inr next) ∧ measure next < measure state ∧
        answers next result)
    {state : σ} {result : ρ} (h : answers state result) : body.fix state = .some result := by
  induction hsize : measure state using Nat.strong_induction_on generalizing state with
  | _ size ih =>
    rcases turn state result h with hstop | ⟨next, hnext, hless, hanswers⟩
    · exact Part.eq_some_iff.2 (PFun.fix_stop (Part.eq_some_iff.1 hstop))
    · rw [PFun.fix_fwd_eq (Part.eq_some_iff.1 hnext)]
      exact ih (measure next) (hsize ▸ hless) hanswers rfl

/-- A slice of a list, if its bounds are in order and in range. -/
def listSlice (list : List α) (start stop : Nat) : Part (List α) :=
  Part.assert (start ≤ stop ∧ stop ≤ list.length) fun _ => .some ((list.take stop).drop start)

/-- A slice with bounds in order and in range is there. -/
theorem listSlice_eq_some {list : List α} {start stop : Nat} (horder : start ≤ stop)
    (hrange : stop ≤ list.length) :
    listSlice list start stop = .some ((list.take stop).drop start) :=
  Part.assert_pos ⟨horder, hrange⟩

end Loop

namespace Builder

theorem leaveMany_add (builder : Builder) (m n : Nat) :
    builder.leaveMany (m + n) = (builder.leaveMany m).leaveMany n := by
  induction m generalizing builder with
  | zero => rw [Nat.zero_add, leaveMany]
  | succ m ih => rw [Nat.succ_add, leaveMany, ih, leaveMany]

/-- How many containers are open down to the outermost text style. -/
def styledCount (kinds : List Container) : Nat :=
  (kinds.reverse.dropWhile fun kind => !kind.isTextStyle).length

/-- The end of a line leaves as many containers as there are styles on top of the stack. -/
theorem endLine_eq_leaveMany (builder : Builder) :
    builder.endLine = builder.leaveMany (styledCount builder.kinds) := by
  rw [endLine, styledCount, kinds, ← List.map_reverse, List.dropWhile_map, List.length_map]
  rfl

/-- The containers down to the innermost text style, and those further out down to the
    outermost. -/
theorem styledCount_of_findIdx? {kinds : List Container} {inside : Nat}
    (h : kinds.findIdx? Container.isTextStyle = some inside) :
    styledCount kinds = inside + 1 + styledCount (kinds.drop (inside + 1)) := by
  obtain ⟨hlength, hstyle, -⟩ := List.findIdx?_eq_some_iff_getElem.1 h
  have hsplit : kinds.reverse = (kinds.drop (inside + 1)).reverse ++
      kinds[inside] :: (kinds.take inside).reverse := by
    conv_lhs => rw [← List.take_append_drop inside kinds, List.drop_eq_getElem_cons hlength]
    simp
  have hinner : (kinds.take inside).length = inside := by
    rw [List.length_take]
    omega
  rw [styledCount, styledCount, hsplit, List.dropWhile_append]
  split
  · next hnone =>
    rw [List.isEmpty_iff.1 hnone, List.dropWhile_cons_of_neg (by simp [hstyle])]
    simp [hinner]
  · rw [List.length_append, List.length_cons, List.length_reverse, hinner]
    omega

theorem frames_leaveMany_length (builder : Builder) (count : Nat) :
    (builder.leaveMany count).frames.length = builder.frames.length - count := by
  rw [← length_kinds, kinds_leaveMany, List.length_drop, length_kinds]

end Builder

namespace Markup.Checked

variable {builder : Builder} {kind : Container}

/-! ## Closing down to a level -/

/-- Closes the innermost container as long as more than `level` are open. -/
def closeDown (level : Nat) : Builder →. Builder :=
  PFun.fix fun builder =>
    if level < builder.frames.length then .some (.inr builder.leave) else .some (.inl builder)

/-- Closing down to a level ends, after as many turns as there are levels above it. -/
theorem closeDown_eq (level : Nat) (builder : Builder) :
    closeDown level builder = .some (builder.leaveMany (builder.frames.length - level)) := by
  refine fix_eq_some
    (fun builder result => result = builder.leaveMany (builder.frames.length - level))
    (fun builder => builder.frames.length) ?_ rfl
  rintro builder _ rfl
  split
  · next hopen =>
    have hlength := builder.frames_leaveMany_length 1
    rw [Builder.leaveMany, Builder.leaveMany] at hlength
    refine .inr ⟨builder.leave, rfl, by omega, ?_⟩
    have hcount : builder.frames.length - level = builder.leave.frames.length - level + 1 := by
      omega
    rw [hcount, Builder.leaveMany]
  · next hclosed =>
    rw [Nat.sub_eq_zero_of_le (Nat.le_of_not_lt hclosed)]
    exact .inl rfl

/-- Closing down to the place of a container closes it and all that are inside it. -/
theorem closeDown_place {inside : Nat} (h : inside < builder.frames.length) :
    closeDown (builder.frames.length - 1 - inside) builder =
      .some (builder.leaveMany (inside + 1)) := by
  have hcount : builder.frames.length - (builder.frames.length - 1 - inside) = inside + 1 := by
    omega
  rw [closeDown_eq, hcount]

/-! ## Closing a style -/

/-- The place of the innermost container that a test holds of, counted from the outermost one. -/
def innermost? (test : Container → Bool) (builder : Builder) : Option Nat :=
  (builder.frames.findIdx? fun frame => test frame.1).map fun inside =>
    builder.frames.length - 1 - inside

/-- Closes the innermost container of a kind, with all that are inside it, and opens the text
    styles among those again. The second result says whether there was one. -/
def close (builder : Builder) (kind : Container) : Part (Builder × Bool) :=
  match innermost? (· = kind) builder with
  | none => .some (builder, false)
  | some index => do
    let inside ← listSlice builder.frames.reverse (index + 1) builder.frames.length
    let closed ← closeDown index builder
    return (((inside.map Prod.fst).filter Container.isTextStyle).foldl Builder.enter closed, true)

/-- The loop that closes a style ends in what the recursion does. -/
theorem close_eq (builder : Builder) (kind : Container) :
    close builder kind = .some (builder.close kind, (builder.close? kind).isSome) := by
  unfold close innermost? Builder.close Builder.close?
  cases hfound : builder.frames.findIdx? fun frame => frame.1 = kind with
  | none => simp
  | some inside =>
    have hinside : inside < builder.frames.length := (List.findIdx?_eq_some_iff_getElem.1 hfound).1
    have hopened : (builder.frames.reverse.take builder.frames.length).drop
        (builder.frames.length - 1 - inside + 1) = (builder.frames.take inside).reverse := by
      rw [List.take_of_length_le (by simp), List.drop_reverse]
      congr 2
      omega
    simp only [Option.map_some, Option.getD_some, Option.isSome_some]
    rw [listSlice_eq_some (by omega) (by simp), closeDown_place hinside, hopened]
    simp

def toggle (builder : Builder) (kind : Container) : Part Builder := do
  let (closed, found) ← close builder kind
  return if found then closed else closed.enter kind

/-- Toggling a style has a result. -/
theorem toggle_eq (builder : Builder) (kind : Container) :
    toggle builder kind = .some (builder.toggle kind) := by
  rw [toggle, close_eq]
  simp only [Part.bind_eq_bind, Part.bind_some, Part.pure_eq_some, Builder.close, Builder.toggle]
  cases builder.close? kind <;> rfl

/-! ## The end of a line -/

def endLine : Builder →. Builder :=
  PFun.fix fun builder =>
    match innermost? Container.isTextStyle builder with
    | none => .some (.inl builder)
    | some index => (closeDown index builder).map .inr

/-- The loop at the end of a line ends in what the recursion does. -/
theorem endLine_eq (builder : Builder) : endLine builder = .some builder.endLine := by
  refine fix_eq_some (fun builder result => result = builder.endLine)
    (fun builder => builder.frames.length) ?_ rfl
  rintro builder _ rfl
  have hkinds : builder.frames.findIdx? (fun frame => Container.isTextStyle frame.1) =
      builder.kinds.findIdx? Container.isTextStyle := by
    rw [Builder.kinds, List.findIdx?_map]
    rfl
  rw [innermost?, hkinds]
  cases hfound : builder.kinds.findIdx? Container.isTextStyle with
  | none =>
    have hnone : Builder.styledCount builder.kinds = 0 := by
      rw [List.findIdx?_eq_none_iff] at hfound
      rw [Builder.styledCount, List.length_eq_zero_iff, List.dropWhile_eq_nil_iff]
      simpa using hfound
    left
    rw [Builder.endLine_eq_leaveMany, hnone]
    rfl
  | some inside =>
    have hinside : inside < builder.frames.length := by
      rw [← builder.length_kinds]
      exact (List.findIdx?_eq_some_iff_getElem.1 hfound).1
    refine .inr ⟨builder.leaveMany (inside + 1), ?_, ?_, ?_⟩
    · simp only [Option.map_some, closeDown_place hinside, Part.map_some]
    · rw [Builder.frames_leaveMany_length]
      omega
    · rw [Builder.endLine_eq_leaveMany, Builder.endLine_eq_leaveMany, Builder.kinds_leaveMany,
        Builder.styledCount_of_findIdx? hfound, Builder.leaveMany_add]

/-! ## The end of the text -/

def finish (builder : Builder) : Part (List Node) := do
  let closed ← closeDown 0 builder
  return closed.flush.root

/-- The loop at the end of the text ends in what the recursion does. -/
theorem finish_eq (builder : Builder) : finish builder = .some builder.finish := by
  rw [finish, closeDown_eq]
  exact Part.bind_some _ _

/-! ## Tokens -/

/-- What a run of apostrophes means. The five that set both styles have to be there. -/
def quotesOfLength : Nat → Part Quotes
  | 1 => .some ⟨1, false, false⟩
  | 2 => .some ⟨0, false, true⟩
  | 3 => .some ⟨0, true, false⟩
  | 4 => .some ⟨1, true, false⟩
  | count => Part.assert (5 ≤ count) fun _ => .some ⟨count - 5, true, true⟩

/-- Only a run without apostrophes would be out of range. -/
theorem quotesOfLength_eq {count : Nat} (h : 0 < count) :
    quotesOfLength count = .some (Quotes.ofLength count) := by
  match count with
  | 1 => rfl
  | 2 => rfl
  | 3 => rfl
  | 4 => rfl
  | n + 5 => exact Part.assert_pos (Nat.le_add_left 5 n)

def applyQuotes (builder : Builder) (count : Nat) : Part Builder := do
  let quotes ← quotesOfLength count
  let written := builder.write (List.replicate quotes.literal '\'')
  match quotes.bold, quotes.italic with
  | true, true =>
    if written.frames.head?.any (fun frame => frame.1 = .italic) then
      toggle (← toggle written .italic) .bold
    else toggle (← toggle written .bold) .italic
  | true, false => toggle written .bold
  | false, true => toggle written .italic
  | false, false => return written

/-- A run of apostrophes is applied as it is by the recursion. -/
theorem applyQuotes_eq (builder : Builder) {count : Nat} (h : 0 < count) :
    applyQuotes builder count = .some (Markup.applyQuotes builder count) := by
  rw [applyQuotes, quotesOfLength_eq h, Markup.applyQuotes]
  simp only [Part.bind_eq_bind, Part.bind_some, toggle_eq]
  cases (Quotes.ofLength count).bold <;> cases (Quotes.ofLength count).italic
  · rfl
  · rfl
  · rfl
  · dsimp only
    split <;> rfl

def apply (builder : Builder) : Token → Part Builder
  | .text s => .some (builder.write s)
  | .leaf node => .some (builder.push node)
  | .quotes count => applyQuotes builder count
  | .lines count => do
    let ended ← endLine builder
    return if 1 < count then ended.push .paragraphBreak else ended.write ['\n']
  | .opening kind => .some (builder.enter kind)
  | .closing kind => do
    let (closed, _) ← close builder kind
    return closed
  | .hidden => .some builder

/-- A token is applied as it is by the recursion, if it is no empty run. -/
theorem apply_eq (builder : Builder) {token : Token}
    (h : ∀ count, token = .quotes count → 0 < count) :
    apply builder token = .some (token.apply builder) := by
  cases token with
  | text s => rfl
  | leaf node => rfl
  | quotes count => exact applyQuotes_eq builder (h count rfl)
  | lines count =>
    rw [apply, endLine_eq, Token.apply]
    simp only [Part.bind_eq_bind, Part.bind_some, Part.pure_eq_some]
  | opening kind => rfl
  | closing kind =>
    rw [apply, close_eq]
    simp only [Part.bind_eq_bind, Part.bind_some, Part.pure_eq_some, Token.apply]
  | hidden => rfl

end Markup.Checked

end GenreProse
