-- SUMMARY: The characters that nodes show with the styles they are in, and what operations add to them.
import GenreProse.Proofs.Markup.Operations
import GenreProse.Proofs.Text.Escape

/-!
# Styled text

A character of a builder is under the containers that its list of nodes is in, and text that still
waits is under all that are open. Opening and closing containers moves characters from one place to
another, but never under other containers: only writing and pushing change what is shown.
-/

namespace GenreProse

/-! ## Nodes -/

/-- A character with the numbers of bold and of italic containers that it is in. -/
structure StyledChar where
  char : Char
  bolds : Nat
  italics : Nat
  deriving DecidableEq, Repr

/-- A character in containers of the given kinds. -/
def StyledChar.under (kinds : List Container) (c : Char) : StyledChar :=
  ⟨c, kinds.count .bold, kinds.count .italic⟩

namespace Node

mutual

/-- The characters that a node in containers of the given kinds shows. -/
def styledChars (kinds : List Container) : Node → List StyledChar
  | container kind children => styledCharsOfAll (kind :: kinds) children
  | template _ _ => []
  | link shown _ => shown.toList.map (.under kinds)
  | extLink shown _ => shown.toList.map (.under kinds)
  | text shown => shown.toList.map (.under kinds)
  | paragraphBreak => []
  | newline => []

def styledCharsOfAll (kinds : List Container) : List Node → List StyledChar
  | [] => []
  | node :: nodes => styledChars kinds node ++ styledCharsOfAll kinds nodes

end

variable {kinds : List Container}

@[simp] theorem styledCharsOfAll_append (nodes added : List Node) :
    styledCharsOfAll kinds (nodes ++ added) =
      styledCharsOfAll kinds nodes ++ styledCharsOfAll kinds added := by
  induction nodes with
  | nil => rfl
  | cons node nodes ih => simp only [List.cons_append, styledCharsOfAll, ih, List.append_assoc]

@[simp] theorem styledCharsOfAll_singleton (node : Node) :
    styledCharsOfAll kinds [node] = node.styledChars kinds := by
  simp only [styledCharsOfAll, List.append_nil]

/-- Text that is added is shown in the styles around it. -/
theorem styledCharsOfAll_appendText (nodes : List Node) (added : String) :
    styledCharsOfAll kinds (appendText nodes added) =
      styledCharsOfAll kinds nodes ++ added.toList.map (.under kinds) := by
  fun_induction appendText nodes added with
  | case1 added => simp [styledChars, styledCharsOfAll]
  | case2 last added => simp [styledChars]
  | case3 node nodes added _ ih => simp only [styledCharsOfAll, ih, List.append_assoc]

end Node

open Node

/-! ## Builders -/

/-- The characters in open containers, which are listed from the innermost on. -/
def charsOfFrames : List (Container × List Node) → List StyledChar
  | [] => []
  | (kind, children) :: frames =>
    charsOfFrames frames ++ styledCharsOfAll (kind :: frames.map Prod.fst) children

namespace Builder

variable {builder : Builder}

/-- The characters of the nodes so far. -/
def settledChars (builder : Builder) : List StyledChar :=
  styledCharsOfAll [] builder.root ++ charsOfFrames builder.frames

/-- The characters that the builder holds; waiting text is in all containers that are open. -/
def chars (builder : Builder) : List StyledChar :=
  builder.settledChars ++
    (Entity.decode (String.ofList builder.pending)).toList.map (.under builder.kinds)

@[simp] theorem chars_empty : empty.chars = [] := rfl

/-- With no text waiting, the characters are those of the nodes. -/
theorem chars_of_pending_eq_nil (h : builder.pending = []) :
    builder.chars = builder.settledChars := by
  rw [chars, h]
  exact List.append_nil _

/-- What adds to the innermost list of nodes adds to the characters. -/
theorem settledChars_modifyInner {f : List Node → List Node} {added : List StyledChar}
    (h : ∀ nodes, styledCharsOfAll builder.kinds (f nodes) =
      styledCharsOfAll builder.kinds nodes ++ added) :
    (builder.modifyInner f).settledChars = builder.settledChars ++ added := by
  obtain ⟨root, frames, pending⟩ := builder
  cases frames with
  | nil =>
    have hroot : styledCharsOfAll [] (f root) = styledCharsOfAll [] root ++ added := h root
    simp [settledChars, modifyInner, charsOfFrames, hroot]
  | cons frame frames =>
    obtain ⟨kind, children⟩ := frame
    have hinner : styledCharsOfAll (kind :: frames.map Prod.fst) (f children) =
        styledCharsOfAll (kind :: frames.map Prod.fst) children ++ added := h children
    simp [settledChars, modifyInner, charsOfFrames, hinner]

/-- Decoding the waiting text leaves it where it is. -/
theorem settledChars_flush (builder : Builder) : builder.flush.settledChars = builder.chars := by
  unfold flush
  split
  · next h => exact (chars_of_pending_eq_nil (List.isEmpty_iff.1 h)).symm
  · exact settledChars_modifyInner fun nodes => styledCharsOfAll_appendText nodes _

/-- A node that is pushed is shown in the open styles, after everything else. -/
@[simp] theorem chars_push (builder : Builder) (node : Node) :
    (builder.push node).chars = builder.chars ++ node.styledChars builder.kinds := by
  rw [chars_of_pending_eq_nil (pending_push node), push, ← settledChars_flush, ← kinds_flush]
  exact settledChars_modifyInner fun nodes => by simp

@[simp] theorem chars_enter (builder : Builder) (kind : Container) :
    (builder.enter kind).chars = builder.chars := by
  rw [chars_of_pending_eq_nil (pending_enter kind), ← settledChars_flush]
  simp [enter, settledChars, charsOfFrames, styledCharsOfAll]

/-- The characters of a container that is closed are in it still. -/
@[simp] theorem chars_leave (builder : Builder) : builder.leave.chars = builder.chars := by
  rw [chars_of_pending_eq_nil (pending_leave builder), ← settledChars_flush]
  unfold leave
  generalize builder.flush = flushed
  obtain ⟨root, frames, pending⟩ := flushed
  cases frames with
  | nil => rfl
  | cons frame frames =>
    obtain ⟨kind, children⟩ := frame
    have hsettled : settledChars ⟨root, (kind, children) :: frames, pending⟩ =
        settledChars ⟨root, frames, pending⟩ ++
          styledCharsOfAll (kind :: frames.map Prod.fst) children := by
      simp [settledChars, charsOfFrames]
    rw [hsettled]
    dsimp only
    split
    · next hnone => simp [List.isEmpty_iff.1 hnone, styledCharsOfAll]
    · exact settledChars_modifyInner fun nodes => by simp [styledChars, kinds]

/-- Text without references is shown as it is written. -/
theorem chars_write {text : Chars} (hpending : '&' ∉ builder.pending) (htext : '&' ∉ text) :
    (builder.write text).chars = builder.chars ++ text.map (.under builder.kinds) := by
  have hall : '&' ∉ builder.pending ++ text := by simp [hpending, htext]
  have hdecode : ∀ s : Chars, '&' ∉ s → (Entity.decode (String.ofList s)).toList = s := by
    intro s hs
    simp [Entity.decode, Text.onChars, Entity.decodeFrom_eq_self hs]
  have hkinds : (builder.write text).kinds = builder.kinds := rfl
  have hwaiting : (builder.write text).pending = builder.pending ++ text := rfl
  have hsettled : (builder.write text).settledChars = builder.settledChars := rfl
  rw [chars, chars, hkinds, hwaiting, hsettled, hdecode _ hpending, hdecode _ hall, List.map_append,
    List.append_assoc]

/-! ## Opening and closing -/

/-- Opening and closing containers neither adds characters nor puts any under other containers. -/
theorem chars_moves {steps : List Move} (h : ∀ step ∈ steps, step.content?.isNone) :
    (steps.foldl move builder).chars = builder.chars := by
  induction steps generalizing builder with
  | nil => rfl
  | cons step steps ih =>
    obtain ⟨hstep, hrest⟩ := List.forall_mem_cons.1 h
    rw [List.foldl_cons, ih hrest]
    cases step with
    | write text => cases hstep
    | push node => cases hstep
    | enter kind => exact chars_enter builder kind
    | leave => exact chars_leave builder

/-- An operation that is given nothing changes nothing that is shown. -/
theorem chars_perform (operation : Operation) (h : operation.content? = none) :
    (builder.perform operation).chars = builder.chars := by
  have hmoves := contents_moves builder operation
  rw [h, Option.toList_none, List.filterMap_eq_nil_iff] at hmoves
  rw [perform_eq_foldl]
  exact chars_moves fun step hstep => by rw [hmoves step hstep]; rfl

/-- Leaving shows nothing. -/
theorem chars_leaveMany (builder : Builder) (count : Nat) :
    (builder.leaveMany count).chars = builder.chars := by
  rw [leaveMany_eq_foldl]
  exact chars_moves fun step hstep => by rw [List.eq_of_mem_replicate hstep]; rfl

/-- The finished nodes show what the builder holds. -/
theorem styledCharsOfAll_finish (builder : Builder) :
    styledCharsOfAll [] builder.finish = builder.chars := by
  rw [← chars_leaveMany builder builder.frames.length, ← settledChars_flush, settledChars,
    frames_finished, charsOfFrames, List.append_nil, finish]

end Builder

end GenreProse
