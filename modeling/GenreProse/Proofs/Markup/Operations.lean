-- SUMMARY: Parsing neither loses nor reorders what the tokens of a text hold.
import GenreProse.Markup.Parse
import GenreProse.Proofs.Markup.Leaves

/-!
# Operations on a builder

Closing a container may close several and open some of them again, and the end of a line closes all
up to a text style. Each operation is a run of moves, of which only writing and pushing add
anything. So whatever the operations are, and however badly the styles are nested, the leaves of
the finished nodes are the texts and leaves that the operations were given, in the same order.
-/

namespace GenreProse

namespace Builder

/-! ## Operations -/

/-- An operation on a builder, with what it is given. -/
inductive Operation where
  /-- Text that is not decoded yet. -/
  | write (text : Chars)
  | push (node : Node)
  | enter (kind : Container)
  | close (kind : Container)
  | toggle (kind : Container)
  | endLine

def perform (builder : Builder) : Operation → Builder
  | .write text => builder.write text
  | .push node => builder.push node
  | .enter kind => builder.enter kind
  | .close kind => builder.close kind
  | .toggle kind => builder.toggle kind
  | .endLine => builder.endLine

def run (builder : Builder) (operations : List Operation) : Builder :=
  operations.foldl perform builder

/-- The moves that close the innermost container of a kind, if one is open. -/
def closingMoves? (builder : Builder) (kind : Container) : Option (List Move) :=
  (builder.frames.findIdx? fun frame => frame.1 = kind).map fun inside =>
    List.replicate (inside + 1) .leave ++
      (((builder.frames.take inside).reverse.map Prod.fst).filter Container.isTextStyle).map .enter

def moves (builder : Builder) : Operation → List Move
  | .write text => [.write text]
  | .push node => [.push node]
  | .enter kind => [.enter kind]
  | .close kind => (builder.closingMoves? kind).getD []
  | .toggle kind => (builder.closingMoves? kind).getD [.enter kind]
  | .endLine =>
    List.replicate
      (builder.frames.reverse.dropWhile fun frame => !frame.1.isTextStyle).length .leave

/-- The moves of operations that are performed one after another. -/
def history (builder : Builder) : List Operation → List Move
  | [] => []
  | operation :: operations =>
    builder.moves operation ++ (builder.perform operation).history operations

theorem foldl_enter (builder : Builder) (kinds : List Container) :
    kinds.foldl enter builder = (kinds.map Move.enter).foldl move builder := by
  rw [List.foldl_map]
  rfl

/-- Closing a style makes the moves that were found for it. -/
theorem close?_eq_foldl (builder : Builder) (kind : Container) :
    builder.close? kind =
      (builder.closingMoves? kind).map fun steps => steps.foldl move builder := by
  unfold close? closingMoves?
  cases builder.frames.findIdx? fun frame => frame.1 = kind with
  | none => rfl
  | some inside =>
    simp only [Option.map_some, List.foldl_append, ← foldl_enter, ← leaveMany_eq_foldl]

/-- An operation is its moves. -/
theorem perform_eq_foldl (builder : Builder) (operation : Operation) :
    builder.perform operation = (builder.moves operation).foldl move builder := by
  cases operation with
  | write text => rfl
  | push node => rfl
  | enter kind => rfl
  | close kind =>
    simp only [perform, close, moves, close?_eq_foldl]
    cases builder.closingMoves? kind <;> rfl
  | toggle kind =>
    simp only [perform, toggle, moves, close?_eq_foldl]
    cases builder.closingMoves? kind <;> rfl
  | endLine => exact leaveMany_eq_foldl builder _

/-- Operations make the moves of their history. -/
theorem run_eq_foldl (builder : Builder) (operations : List Operation) :
    builder.run operations = (builder.history operations).foldl move builder := by
  induction operations generalizing builder with
  | nil => rfl
  | cons operation operations ih =>
    rw [history, List.foldl_append, ← perform_eq_foldl]
    exact ih (builder.perform operation)

/-! ## Contents -/

/-- A text or a leaf that a builder is given. -/
inductive Content where
  /-- Text that is not decoded yet. -/
  | text (text : Chars)
  | leaf (node : Node)

def Operation.content? : Operation → Option Content
  | write text => some (.text text)
  | push node => some (.leaf node)
  | enter _ => none
  | close _ => none
  | toggle _ => none
  | endLine => none

def Move.content? : Move → Option Content
  | write text => some (.text text)
  | push node => some (.leaf node)
  | enter _ => none
  | leave => none

theorem contents_leaves (count : Nat) :
    (List.replicate count Move.leave).filterMap Move.content? = [] := by
  simp [List.filterMap_eq_nil_iff, List.mem_replicate, Move.content?]

/-- Closing a style adds no content. -/
theorem contents_closingMoves? {builder : Builder} {kind : Container} {steps : List Move}
    (h : builder.closingMoves? kind = some steps) : steps.filterMap Move.content? = [] := by
  obtain ⟨inside, -, rfl⟩ := Option.map_eq_some_iff.1 h
  rw [List.filterMap_append, contents_leaves, List.filterMap_map]
  simp [List.filterMap_eq_nil_iff, Move.content?]

/-- Of its moves just those that are given something add what the operation is given. -/
theorem contents_moves (builder : Builder) (operation : Operation) :
    (builder.moves operation).filterMap Move.content? = operation.content?.toList := by
  cases operation with
  | write text => rfl
  | push node => rfl
  | enter kind => rfl
  | close kind =>
    cases h : builder.closingMoves? kind with
    | none => simp [moves, h, Operation.content?]
    | some steps => simp [moves, h, contents_closingMoves? h, Operation.content?]
  | toggle kind =>
    cases h : builder.closingMoves? kind with
    | none => simp [moves, h, Operation.content?, Move.content?]
    | some steps => simp [moves, h, contents_closingMoves? h, Operation.content?]
  | endLine => exact contents_leaves _

/-- The moves add what the operations add, and nothing else. -/
theorem contents_history (builder : Builder) (operations : List Operation) :
    (builder.history operations).filterMap Move.content? =
      operations.filterMap Operation.content? := by
  induction operations generalizing builder with
  | nil => rfl
  | cons operation operations ih =>
    rw [history, List.filterMap_append, contents_moves, ih, List.filterMap_cons]
    cases operation.content? <;> rfl

/-- After any operations the leaves of the finished nodes are those that the moves gave. -/
theorem joins_run (operations : List Operation) :
    Joins (shown (empty.history operations)) (Node.leavesOfAll (empty.run operations).finish) := by
  have hmoves := joins_moves empty (empty.history operations)
  rw [← run_eq_foldl] at hmoves
  exact hmoves.trans (joins_finish _)

end Builder

/-! ## Tokens -/

namespace Markup

/-- What a token holds. It does not depend on the styles that are open. -/
def Token.contents : Token → List Builder.Content
  | text s => [.text s]
  | leaf node => [.leaf node]
  | quotes count => [.text (List.replicate (Quotes.ofLength count).literal '\'')]
  | lines count => if 1 < count then [.leaf .paragraphBreak] else [.text ['\n']]
  | opening _ => []
  | closing _ => []
  | hidden => []

/-- The operations that a run of apostrophes stands for. -/
def quoteOperations (builder : Builder) (count : Nat) : List Builder.Operation :=
  let quotes := Quotes.ofLength count
  let text := List.replicate quotes.literal '\''
  let toggles := match quotes.bold, quotes.italic with
    | true, true =>
      if (builder.write text).frames.head?.any (fun frame => frame.1 = .italic) then
        [.toggle .italic, .toggle .bold]
      else [.toggle .bold, .toggle .italic]
    | true, false => [.toggle .bold]
    | false, true => [.toggle .italic]
    | false, false => []
  .write text :: toggles

/-- The operations that a token stands for, with the styles that are open. -/
def Token.operations (builder : Builder) : Token → List Builder.Operation
  | text s => [.write s]
  | leaf node => [.push node]
  | quotes count => quoteOperations builder count
  | lines count => [.endLine, if 1 < count then .push .paragraphBreak else .write ['\n']]
  | opening kind => [.enter kind]
  | closing kind => [.close kind]
  | hidden => []

/-- A run of apostrophes is applied by operations. -/
theorem applyQuotes_eq_run (builder : Builder) (count : Nat) :
    applyQuotes builder count = builder.run (quoteOperations builder count) := by
  unfold applyQuotes quoteOperations
  dsimp only
  cases (Quotes.ofLength count).bold <;> cases (Quotes.ofLength count).italic
  · rfl
  · rfl
  · rfl
  · dsimp only
    split <;> rfl

/-- Of a run of apostrophes only the literal ones are content. -/
theorem contents_quoteOperations (builder : Builder) (count : Nat) :
    (quoteOperations builder count).filterMap Builder.Operation.content? =
      (Token.quotes count).contents := by
  unfold quoteOperations Token.contents
  dsimp only
  cases (Quotes.ofLength count).bold <;> cases (Quotes.ofLength count).italic
  · rfl
  · rfl
  · rfl
  · dsimp only
    split <;> rfl

/-- A token is applied by operations. -/
theorem Token.apply_eq_run (builder : Builder) (token : Token) :
    token.apply builder = builder.run (token.operations builder) := by
  cases token with
  | quotes count => exact applyQuotes_eq_run builder count
  | lines count =>
    simp only [apply, operations]
    split <;> rfl
  | _ => rfl

/-- The operations of a token add its contents. -/
theorem Token.contents_operations (builder : Builder) (token : Token) :
    (token.operations builder).filterMap Builder.Operation.content? = token.contents := by
  cases token with
  | quotes count => exact contents_quoteOperations builder count
  | lines count =>
    simp only [operations, contents]
    split <;> rfl
  | _ => rfl

/-- The operations that tokens stand for, one after another. -/
def operationsFrom (builder : Builder) : List Token → List Builder.Operation
  | [] => []
  | token :: tokens => token.operations builder ++ operationsFrom (token.apply builder) tokens

/-- Tokens are applied by operations. -/
theorem foldl_apply_eq_run (builder : Builder) (tokens : List Token) :
    tokens.foldl Token.apply builder = builder.run (operationsFrom builder tokens) := by
  induction tokens generalizing builder with
  | nil => rfl
  | cons token tokens ih =>
    have htoken := token.apply_eq_run builder
    simp only [Builder.run] at ih htoken ⊢
    rw [List.foldl_cons, ih, operationsFrom, List.foldl_append, ← htoken]

theorem contents_operationsFrom (builder : Builder) (tokens : List Token) :
    (operationsFrom builder tokens).filterMap Builder.Operation.content? =
      tokens.flatMap Token.contents := by
  induction tokens generalizing builder with
  | nil => rfl
  | cons token tokens ih =>
    rw [operationsFrom, List.filterMap_append, Token.contents_operations, ih, List.flatMap_cons]

/-- The operations that a text stands for. -/
def operations (text : String) : List Builder.Operation :=
  operationsFrom .empty (tokens text.toList)

/-- A parse runs the operations of the text, and then closes all. -/
theorem parse_eq_run (text : String) :
    parse text = (Builder.empty.run (operations text)).finish := by
  rw [parse, foldl_apply_eq_run]
  rfl

end Markup

/-! ## Result -/

/-- The moves of any operations add just what the operations were given, in the same order, and
    the leaves of the finished nodes are what the moves add, with text decoded as a whole between
    two other moves and possibly joined to the text before it. Parsing performs operations that
    are given what the tokens of the text hold, whichever styles are open. -/
theorem Markup.parse_keeps_leaves :
    (∀ operations : List Builder.Operation,
      let moves := Builder.empty.history operations
      Builder.empty.run operations = moves.foldl Builder.move .empty ∧
        moves.filterMap Builder.Move.content? =
          operations.filterMap Builder.Operation.content? ∧
        Joins (Builder.shown moves)
          (Node.leavesOfAll (Builder.empty.run operations).finish)) ∧
    ∀ text : String,
      parse text = (Builder.empty.run (operations text)).finish ∧
        (operations text).filterMap Builder.Operation.content? =
          (tokens text.toList).flatMap Token.contents ∧
        Joins (Builder.shown (Builder.empty.history (operations text)))
          (Node.leavesOfAll (parse text)) := by
  refine ⟨fun operations => ?_, fun text => ⟨parse_eq_run text, ?_, ?_⟩⟩
  · exact ⟨Builder.run_eq_foldl _ _, Builder.contents_history _ _, Builder.joins_run _⟩
  · exact contents_operationsFrom _ _
  · rw [parse_eq_run]
    exact Builder.joins_run _

end GenreProse
