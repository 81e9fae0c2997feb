-- SUMMARY: Parsing is total: every loop ends, every slice is defined, every token makes progress.
import GenreProse.Proofs.Markup.Loops
import GenreProse.Proofs.Markup.Slices

/-!
# Totality of parsing

A parse with slices at byte offsets and with loops that run until their condition fails has a
result for every text, and it is the result of `parse`.
-/

namespace GenreProse

open Chars

namespace Markup

/-! ## Runs of apostrophes -/

/-- Whether a token may have been read: a run of apostrophes has at least one of them. The number
    of literal apostrophes of a run is a subtraction that an empty run would make go below zero. -/
def Token.IsRead : Token → Prop
  | quotes count => 0 < count
  | _ => True

theorem readTemplate_isRead (s : Chars) : (readTemplate s).1.IsRead := by
  unfold readTemplate
  split <;> trivial

theorem readLink_isRead (s : Chars) : (readLink s).1.IsRead := by
  unfold readLink
  split
  · split <;> trivial
  · trivial

theorem readExtLink_isRead (s : Chars) : (readExtLink s).1.IsRead := by
  unfold readExtLink
  split <;> trivial

theorem Tag.read_isRead (tag : Tag) (rest : Chars) : (tag.read rest).1.IsRead := by
  unfold Tag.read
  dsimp only
  repeat' split
  all_goals trivial

theorem readTag_isRead (s : Chars) : (readTag s).1.IsRead := by
  unfold readTag
  split
  · split
    · exact Tag.read_isRead _ _
    · trivial
  · trivial

/-- No run of apostrophes that is read is empty. -/
theorem readToken_isRead (c : Char) (s : Chars) : (readToken c s).1.IsRead := by
  unfold readToken
  split
  · exact readTemplate_isRead _
  · exact readLink_isRead _
  · split
    · exact readExtLink_isRead _
    · trivial
  · exact Nat.succ_pos _
  · trivial
  · split
    · trivial
    · exact readTag_isRead _
  · trivial

namespace Checked

/-! ## The main loop -/

def parseOne (builder : Builder) (s : Chars) : Part (Builder × Chars) := do
  let (token, rest) ← readToken s
  return (← apply builder token, rest)

def parseFrom : Builder × Chars →. Builder :=
  PFun.fix fun (builder, s) =>
    if s = [] then .some (.inl builder) else (parseOne builder s).map .inr

def parse (text : String) : Part (List Node) := do
  finish (← parseFrom (.empty, text.toList))

/-- One turn of the main loop reads a token and applies it. -/
theorem parseOne_eq (builder : Builder) (c : Char) (s : Chars) :
    parseOne builder (c :: s) =
      .some ((Markup.readToken c s).1.apply builder, (Markup.readToken c s).2) := by
  have hread := readToken_isRead c s
  rw [parseOne, readToken_eq, Part.bind_eq_bind, Part.bind_some]
  dsimp only
  rw [apply_eq]
  · exact Part.bind_some _ _
  · intro count hcount
    rw [hcount] at hread
    exact hread

/-- The main loop ends when all tokens are read. -/
theorem parseFrom_eq (builder : Builder) (s : Chars) :
    parseFrom (builder, s) = .some ((tokens s).foldl Token.apply builder) := by
  refine fix_eq_some
    (fun state result => result = (tokens state.2).foldl Token.apply state.1)
    (fun state => state.2.length) ?_ rfl
  rintro ⟨builder, s⟩ _ rfl
  cases s with
  | nil =>
    left
    simp [tokens]
  | cons c s =>
    have hless : (Markup.readToken c s).2.length < (c :: s).length :=
      Nat.lt_succ_of_le (readToken_suffix c s).length_le
    refine .inr ⟨((Markup.readToken c s).1.apply builder, (Markup.readToken c s).2), ?_, hless, ?_⟩
    · simp [parseOne_eq]
    · rw [tokens]
      rfl

/-- The parser has a result for every text, which is that of the recursion. -/
theorem parse_eq (text : String) : parse text = .some (Markup.parse text) := by
  rw [parse, parseFrom_eq, Part.bind_eq_bind, Part.bind_some, finish_eq, Markup.parse]

end Checked

/-! ## Result -/

/-- A step on a text that is not empty is defined, which says that all its slices are, and leaves
    an ending of the text behind the first character. The loops that close containers, that look
    for balanced brackets and for separators at top level, and that take all tokens, end. So a
    parse that slices and loops has a result for every text. -/
theorem parse_total :
    (∀ builder c s,
      Checked.parseOne builder (c :: s) =
          .some ((readToken c s).1.apply builder, (readToken c s).2) ∧
        (readToken c s).2 <:+ s) ∧
    (∀ builder kind,
      Checked.close builder kind = .some (builder.close kind, (builder.close? kind).isSome)) ∧
    (∀ builder, Checked.endLine builder = .some builder.endLine) ∧
    (∀ builder, Checked.finish builder = .some builder.finish) ∧
    (∀ bytes opening closing, (Checked.findBalanced bytes opening closing).Dom) ∧
    (∀ bytes wanted, (Checked.topLevelBytes bytes wanted).Dom) ∧
    ∀ text, Checked.parse text = .some (parse text) := by
  refine ⟨fun builder c s => ⟨Checked.parseOne_eq builder c s, readToken_suffix c s⟩,
    Checked.close_eq, Checked.endLine_eq, Checked.finish_eq, ?_, ?_, Checked.parse_eq⟩
  · intro bytes opening closing
    rw [Checked.findBalanced_eq]
    trivial
  · intro bytes wanted
    rw [Checked.topLevelBytes_eq]
    trivial

end Markup

end GenreProse
