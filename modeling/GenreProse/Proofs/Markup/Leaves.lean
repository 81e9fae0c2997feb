-- SUMMARY: What a builder holds, read from left to right, and how its moves change it.
import Mathlib.Logic.Relation
import GenreProse.Markup.Builder

/-!
# The leaves under way

A builder spreads what it has been given over its finished nodes, the children of the containers
that are open, and the text that still waits to be decoded. Read in this order it is what was
given: a move adds its own text or leaf at the end, and all that opening, closing and decoding
ever do to what is there already is to join text to the text before it.
-/

namespace GenreProse

/-! ## Leaves -/

namespace Node

mutual

/-- The nodes without children in a node, from left to right. -/
def leaves : Node → List Node
  | container _ children => leavesOfAll children
  | template name parameters => [template name parameters]
  | link shown title => [link shown title]
  | extLink shown url => [extLink shown url]
  | text shown => [text shown]
  | paragraphBreak => [paragraphBreak]
  | newline => [newline]

def leavesOfAll : List Node → List Node
  | [] => []
  | node :: nodes => leaves node ++ leavesOfAll nodes

end

theorem leavesOfAll_eq_flatMap (nodes : List Node) : leavesOfAll nodes = nodes.flatMap leaves := by
  induction nodes with
  | nil => rfl
  | cons node nodes ih => rw [leavesOfAll, ih, List.flatMap_cons]

@[simp] theorem leavesOfAll_nil : leavesOfAll [] = [] := rfl

@[simp] theorem leavesOfAll_append (nodes added : List Node) :
    leavesOfAll (nodes ++ added) = leavesOfAll nodes ++ leavesOfAll added := by
  simp only [leavesOfAll_eq_flatMap, List.flatMap_append]

@[simp] theorem leavesOfAll_singleton (node : Node) : leavesOfAll [node] = node.leaves := by
  simp only [leavesOfAll_eq_flatMap, List.flatMap_singleton]

/-- The leaf that waiting text becomes; no text becomes none. -/
def decoded : Chars → List Node
  | [] => []
  | pending => [text (Entity.decode (String.ofList pending))]

end Node

/-! ## Joining texts -/

/-- One text is joined to the text before it. -/
inductive JoinStep : List Node → List Node → Prop where
  | join (before : List Node) (first second : String) (after : List Node) :
    JoinStep (before ++ .text first :: .text second :: after)
      (before ++ .text (first ++ second) :: after)

/-- The second list is the first one, but for texts that are joined to texts before them. -/
abbrev Joins : List Node → List Node → Prop :=
  Relation.ReflTransGen JoinStep

namespace Joins

variable {nodes joined : List Node}

theorem of_eq (h : nodes = joined) : Joins nodes joined :=
  h ▸ .refl

theorem append_left (front : List Node) (h : Joins nodes joined) :
    Joins (front ++ nodes) (front ++ joined) := by
  refine Relation.ReflTransGen.lift (front ++ ·) ?_ _ _ h
  rintro _ _ ⟨before, first, second, after⟩
  simpa only [List.append_assoc] using JoinStep.join (front ++ before) first second after

theorem append_right (h : Joins nodes joined) (back : List Node) :
    Joins (nodes ++ back) (joined ++ back) := by
  refine Relation.ReflTransGen.lift (· ++ back) ?_ _ _ h
  rintro _ _ ⟨before, first, second, after⟩
  simpa only [Function.onFun, List.append_assoc, List.cons_append] using
    JoinStep.join before first second (after ++ back)

end Joins

/-- Text at the end of a list is one more leaf, or joins the text that is last there. -/
theorem Node.joins_appendText (nodes : List Node) (added : String) :
    Joins (leavesOfAll nodes ++ [.text added]) (leavesOfAll (appendText nodes added)) := by
  fun_induction appendText nodes added with
  | case1 added => exact .refl
  | case2 last added => exact .single (.join [] last added [])
  | case3 node nodes added _ ih =>
    simp only [leavesOfAll, List.append_assoc]
    exact ih.append_left node.leaves

namespace Builder

variable {builder : Builder} {added : List Node}

/-! ## What a builder holds -/

/-- The leaves of the nodes so far: the finished ones, and then those in the open containers from
    the outermost on. -/
def settled (builder : Builder) : List Node :=
  Node.leavesOfAll builder.root ++
    builder.frames.reverse.flatMap fun frame => Node.leavesOfAll frame.2

/-- Frames are listed from the innermost on, so the last leaves are those of the first frame. -/
theorem settled_cons (root : List Node) (frame : Container × List Node)
    (frames : List (Container × List Node)) (pending waiting : Chars) :
    settled ⟨root, frame :: frames, pending⟩ =
      settled ⟨root, frames, waiting⟩ ++ Node.leavesOfAll frame.2 := by
  simp only [settled, List.reverse_cons, List.flatMap_append, List.flatMap_singleton,
    List.append_assoc]

/-- What adds to the innermost list of nodes adds to what the builder holds. -/
theorem settled_modifyInner {f : List Node → List Node}
    (h : ∀ nodes, Joins (Node.leavesOfAll nodes ++ added) (Node.leavesOfAll (f nodes))) :
    Joins (builder.settled ++ added) (builder.modifyInner f).settled := by
  obtain ⟨root, frames, pending⟩ := builder
  cases frames with
  | nil => simpa only [settled, modifyInner, List.reverse_nil, List.flatMap_nil,
      List.append_nil] using h root
  | cons frame frames =>
    simp only [modifyInner, settled_cons root _ frames pending pending, List.append_assoc]
    exact (h frame.2).append_left _

/-- A node that is added joins a text before it, or stands by itself. -/
theorem settled_append (node : Node) :
    Joins (builder.settled ++ node.leaves) (builder.modifyInner (· ++ [node])).settled :=
  settled_modifyInner fun nodes => .of_eq (by simp)

/-! ## Moves -/

@[simp] theorem pending_modifyInner (f : List Node → List Node) :
    (builder.modifyInner f).pending = builder.pending := by
  unfold modifyInner
  split <;> rfl

@[simp] theorem pending_flush : builder.flush.pending = [] := by
  unfold flush
  split
  · next h => exact List.isEmpty_iff.1 h
  · rfl

/-- The waiting text is decoded, and is the last leaf then. -/
theorem settled_flush (builder : Builder) :
    Joins (builder.settled ++ Node.decoded builder.pending) builder.flush.settled := by
  unfold flush
  cases h : builder.pending with
  | nil => exact .of_eq (by simp [Node.decoded])
  | cons c s =>
    simp only [List.isEmpty_cons, Bool.false_eq_true, if_false]
    exact settled_modifyInner fun nodes => Node.joins_appendText nodes _

@[simp] theorem pending_push (node : Node) : (builder.push node).pending = [] := by
  simp [push]

/-- A node that is pushed comes after the text that was still to come. -/
theorem settled_push (builder : Builder) (node : Node) :
    Joins (builder.settled ++ Node.decoded builder.pending ++ node.leaves)
      (builder.push node).settled :=
  ((settled_flush builder).append_right node.leaves).trans (settled_append node)

@[simp] theorem pending_enter (kind : Container) : (builder.enter kind).pending = [] := by
  simp [enter]

/-- A container that is entered comes after the text that was still to come. -/
theorem settled_enter (builder : Builder) (kind : Container) :
    Joins (builder.settled ++ Node.decoded builder.pending) (builder.enter kind).settled := by
  have hopened : (builder.enter kind).settled = builder.flush.settled := by
    simp [enter, settled]
  exact hopened ▸ settled_flush builder

@[simp] theorem pending_leave (builder : Builder) : builder.leave.pending = [] := by
  unfold leave
  dsimp only
  split
  · exact pending_flush
  · split <;> simp

/-- A container that is closed keeps its leaves, and one without any leaves none behind. -/
theorem settled_leave (builder : Builder) :
    Joins (builder.settled ++ Node.decoded builder.pending) builder.leave.settled := by
  refine (settled_flush builder).trans ?_
  unfold leave
  generalize builder.flush = flushed
  obtain ⟨root, frames, pending⟩ := flushed
  cases frames with
  | nil => exact .refl
  | cons frame frames =>
    obtain ⟨kind, children⟩ := frame
    rw [settled_cons root (kind, children) frames pending pending]
    dsimp only
    split
    · next hnone =>
      rw [List.isEmpty_iff.1 hnone, Node.leavesOfAll_nil, List.append_nil]
    · exact settled_append (.container kind children)

/-- The single changes that all operations on a builder are made of. -/
inductive Move where
  /-- Text that is not decoded yet. -/
  | write (text : Chars)
  | push (node : Node)
  | enter (kind : Container)
  /-- The innermost container is closed. -/
  | leave

def move (builder : Builder) : Move → Builder
  | .write text => builder.write text
  | .push node => builder.push node
  | .enter kind => builder.enter kind
  | .leave => builder.leave

/-- The leaves that the moves give, after some text that waits. Text is decoded as a whole between
    two moves other than writing. -/
def shownFrom : Chars → List Move → List Node
  | pending, [] => Node.decoded pending
  | pending, .write text :: moves => shownFrom (pending ++ text) moves
  | pending, .push node :: moves => Node.decoded pending ++ node.leaves ++ shownFrom [] moves
  | pending, .enter _ :: moves => Node.decoded pending ++ shownFrom [] moves
  | pending, .leave :: moves => Node.decoded pending ++ shownFrom [] moves

def shown (moves : List Move) : List Node :=
  shownFrom [] moves

/-- What a move adds comes last, after the text that has been waiting. -/
theorem joins_move (builder : Builder) (step : Move) (moves : List Move) :
    Joins (builder.settled ++ shownFrom builder.pending (step :: moves))
      ((builder.move step).settled ++ shownFrom (builder.move step).pending moves) := by
  cases step with
  | write text => exact .refl
  | push node =>
    simpa only [shownFrom, move, pending_push, List.append_assoc] using
      (settled_push builder node).append_right (shownFrom [] moves)
  | enter kind =>
    simpa only [shownFrom, move, pending_enter, List.append_assoc] using
      (settled_enter builder kind).append_right (shownFrom [] moves)
  | leave =>
    simpa only [shownFrom, move, pending_leave, List.append_assoc] using
      (settled_leave builder).append_right (shownFrom [] moves)

/-- Moves keep the leaves that are there and add what they show. -/
theorem joins_moves (builder : Builder) (moves : List Move) :
    Joins (builder.settled ++ shownFrom builder.pending moves)
      ((moves.foldl move builder).settled ++
        Node.decoded (moves.foldl move builder).pending) := by
  induction moves generalizing builder with
  | nil => exact .refl
  | cons step moves ih => exact (joins_move builder step moves).trans (ih (builder.move step))

/-! ## Closing all -/

/-- Several containers are closed one by one. -/
theorem leaveMany_eq_foldl (builder : Builder) (count : Nat) :
    builder.leaveMany count = (List.replicate count Move.leave).foldl move builder := by
  induction count generalizing builder with
  | zero => rfl
  | succ count ih => exact ih builder.leave

/-- The kinds of the open containers, from the innermost on. -/
def kinds (builder : Builder) : List Container :=
  builder.frames.map Prod.fst

@[simp] theorem kinds_modifyInner (f : List Node → List Node) :
    (builder.modifyInner f).kinds = builder.kinds := by
  unfold modifyInner kinds
  split
  · rfl
  · next h => simp [h]

@[simp] theorem kinds_flush (builder : Builder) : builder.flush.kinds = builder.kinds := by
  unfold flush
  split
  · rfl
  · exact kinds_modifyInner _

@[simp] theorem kinds_leave (builder : Builder) : builder.leave.kinds = builder.kinds.tail := by
  rw [← kinds_flush builder]
  unfold leave
  generalize builder.flush = flushed
  obtain ⟨root, frames, pending⟩ := flushed
  cases frames with
  | nil => rfl
  | cons frame frames =>
    dsimp only
    split
    · rfl
    · exact kinds_modifyInner _

/-- Leaving takes the innermost containers off the stack. -/
@[simp] theorem kinds_leaveMany (builder : Builder) (count : Nat) :
    (builder.leaveMany count).kinds = builder.kinds.drop count := by
  induction count generalizing builder with
  | zero => rfl
  | succ count ih => rw [leaveMany, ih, kinds_leave, List.drop_tail]

theorem length_kinds (builder : Builder) : builder.kinds.length = builder.frames.length :=
  List.length_map _

/-- Leaving shows only the text that was still to come. -/
theorem shownFrom_leaves (pending : Chars) (count : Nat) :
    shownFrom pending (List.replicate count .leave) = Node.decoded pending := by
  induction count generalizing pending with
  | zero => rfl
  | succ count ih => simp [List.replicate_succ, shownFrom, ih, Node.decoded]

/-- With nothing open, what a builder holds is what is finished. -/
theorem settled_of_frames_eq_nil (h : builder.frames = []) :
    builder.settled = Node.leavesOfAll builder.root := by
  simp [settled, h]

/-- At the end nothing is open. -/
theorem frames_finished (builder : Builder) :
    (builder.leaveMany builder.frames.length).flush.frames = [] := by
  rw [← List.length_eq_zero_iff, ← length_kinds, kinds_flush, kinds_leaveMany,
    List.length_drop, length_kinds, Nat.sub_self]

/-- Closing all that is open changes nothing but that texts are joined. -/
theorem joins_finish (builder : Builder) :
    Joins (builder.settled ++ Node.decoded builder.pending)
      (Node.leavesOfAll builder.finish) := by
  have hleave : Joins (builder.settled ++ Node.decoded builder.pending)
      ((builder.leaveMany builder.frames.length).settled ++
        Node.decoded (builder.leaveMany builder.frames.length).pending) := by
    have hmoves := joins_moves builder (List.replicate builder.frames.length .leave)
    rwa [shownFrom_leaves, ← leaveMany_eq_foldl] at hmoves
  rw [finish, ← settled_of_frames_eq_nil builder.frames_finished]
  exact hleave.trans (settled_flush _)

end Builder

end GenreProse
