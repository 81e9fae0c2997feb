-- SUMMARY: What every parse looks like: no empty container, no paragraph break in a text style.
import GenreProse.Proofs.Markup.Loops
import GenreProse.Proofs.Markup.Operations
import GenreProse.Proofs.Text.Trim

/-!
# The shape of a parse

The containers that are open carry the invariant. A paragraph break only ever goes into a container
when no text style is open at all, and what is opened inside a text style is closed before it. So a
frame that lies in a text style, or is one, never holds a break, and neither does the container that
becomes of it.
-/

namespace GenreProse

/-! ## Well shaped nodes -/

namespace Node

mutual

/-- The node and all nodes below it. -/
def within : Node → List Node
  | container kind children => container kind children :: withinAll children
  | template name parameters => [template name parameters]
  | link shown title => [link shown title]
  | extLink shown url => [extLink shown url]
  | text shown => [text shown]
  | paragraphBreak => [paragraphBreak]
  | newline => [newline]

def withinAll : List Node → List Node
  | [] => []
  | node :: nodes => within node ++ withinAll nodes

end

theorem withinAll_eq_flatMap (nodes : List Node) : withinAll nodes = nodes.flatMap within := by
  induction nodes with
  | nil => rfl
  | cons node nodes ih => rw [withinAll, ih, List.flatMap_cons]

@[simp] theorem withinAll_append (nodes added : List Node) :
    withinAll (nodes ++ added) = withinAll nodes ++ withinAll added := by
  simp only [withinAll_eq_flatMap, List.flatMap_append]

@[simp] theorem withinAll_singleton (node : Node) : withinAll [node] = node.within := by
  simp only [withinAll_eq_flatMap, List.flatMap_singleton]

end Node

/-- Whether markup can open a container of the kind. -/
def Container.IsWritten (kind : Container) : Prop :=
  kind ≠ .fragment ∧ kind ≠ .preformatted

/-- Whether the node itself, apart from the nodes below it, is as a parse makes it. -/
def Node.WellShaped : Node → Prop
  | container kind children => children ≠ [] ∧ kind.IsWritten ∧
      (kind = .bold ∨ kind = .italic → paragraphBreak ∉ leavesOfAll children)
  | template name parameters => Text.trim name = name ∧
      ∀ parameter ∈ parameters, ∀ key ∈ parameter.name, Text.trim key = key
  | _ => True

/-- Whether the nodes and all nodes below them are well shaped. -/
def Node.AllWellShaped (nodes : List Node) : Prop :=
  ∀ node ∈ withinAll nodes, node.WellShaped

theorem Container.isTextStyle_iff {kind : Container} :
    kind.isTextStyle ↔ kind = .bold ∨ kind = .italic := by
  cases kind <;> simp [isTextStyle]

theorem Container.IsWritten.of_isTextStyle {kind : Container} (h : kind.isTextStyle) :
    kind.IsWritten := by
  rcases isTextStyle_iff.1 h with rfl | rfl <;> simp [IsWritten]

namespace Node

variable {nodes added : List Node}

theorem AllWellShaped.nil : AllWellShaped [] := by simp [AllWellShaped, withinAll]

/-- Lists of well shaped nodes may be joined. -/
theorem AllWellShaped.append (hnodes : AllWellShaped nodes) (hadded : AllWellShaped added) :
    AllWellShaped (nodes ++ added) := by
  intro node hnode
  rw [withinAll_append, List.mem_append] at hnode
  exact hnode.elim (hnodes node) (hadded node)

theorem AllWellShaped.text (shown : String) : AllWellShaped [.text shown] := by
  simp [AllWellShaped, within, WellShaped]

/-- Adding text adds at most a text. -/
theorem AllWellShaped.appendText (h : AllWellShaped nodes) (shown : String) :
    AllWellShaped (appendText nodes shown) := by
  fun_induction Node.appendText nodes shown with
  | case1 => exact .text _
  | case2 => exact .text _
  | case3 node nodes shown _ ih =>
    obtain ⟨hnode, hnodes⟩ := List.forall_mem_append.1 h
    exact List.forall_mem_append.2 ⟨hnode, ih hnodes⟩

/-- Adding text adds no paragraph break. -/
theorem paragraphBreak_mem_appendText {shown : String}
    (h : paragraphBreak ∈ leavesOfAll (appendText nodes shown)) :
    paragraphBreak ∈ leavesOfAll nodes := by
  fun_induction Node.appendText nodes shown with
  | case1 => simp [leaves] at h
  | case2 => simp [leaves] at h
  | case3 node nodes shown _ ih =>
    rw [leavesOfAll, List.mem_append] at h ⊢
    exact h.imp_right ih

end Node

open Node

/-! ## Well shaped builders -/

/-- Whether the open containers, the innermost first, are well shaped: those in a text style, and
    the style itself, hold no paragraph break. -/
inductive WellShapedFrames : List (Container × List Node) → Prop where
  | nil : WellShapedFrames []
  | cons {kind : Container} {children : List Node} {frames : List (Container × List Node)}
    (written : kind.IsWritten) (shaped : AllWellShaped children)
    (unbroken : (∃ outer ∈ kind :: frames.map Prod.fst, outer.isTextStyle) →
      .paragraphBreak ∉ leavesOfAll children)
    (outer : WellShapedFrames frames) : WellShapedFrames ((kind, children) :: frames)

namespace Builder

variable {builder : Builder}

/-- Whether all that the builder holds is well shaped. -/
structure WellShaped (builder : Builder) : Prop where
  root : AllWellShaped builder.root
  frames : WellShapedFrames builder.frames

def IsStyled (builder : Builder) : Prop :=
  ∃ kind ∈ builder.kinds, kind.isTextStyle

theorem wellShaped_empty : empty.WellShaped :=
  ⟨.nil, .nil⟩

/-- The innermost list of nodes may be changed into well shaped nodes, without a new break if a
    text style is open. -/
theorem WellShaped.modifyInner (h : builder.WellShaped) {f : List Node → List Node}
    (hshaped : ∀ nodes, AllWellShaped nodes → AllWellShaped (f nodes))
    (hbreak : builder.IsStyled → ∀ nodes, .paragraphBreak ∈ leavesOfAll (f nodes) →
      .paragraphBreak ∈ leavesOfAll nodes) :
    (builder.modifyInner f).WellShaped := by
  obtain ⟨root, frames, pending⟩ := builder
  obtain ⟨hroot, hframes⟩ := h
  cases hframes with
  | nil => exact ⟨hshaped root hroot, .nil⟩
  | cons written shaped unbroken outer =>
    refine ⟨hroot, .cons written (hshaped _ shaped) (fun hstyled hmem => ?_) outer⟩
    exact unbroken hstyled (hbreak hstyled _ hmem)

/-- Writing the text that is still to come changes no style. -/
theorem isStyled_flush : builder.flush.IsStyled ↔ builder.IsStyled := by
  rw [IsStyled, IsStyled, kinds_flush]

/-- Writing the text that is still to come keeps the shape. -/
theorem WellShaped.flush (h : builder.WellShaped) : builder.flush.WellShaped := by
  unfold Builder.flush
  split
  · exact h
  · obtain ⟨hroot, hframes⟩ := h.modifyInner (fun _ hnodes => hnodes.appendText _)
      fun _ _ => paragraphBreak_mem_appendText
    exact ⟨hroot, hframes⟩

/-- So does more text. -/
theorem WellShaped.write (h : builder.WellShaped) (text : Chars) :
    (builder.write text).WellShaped :=
  ⟨h.root, h.frames⟩

/-- A paragraph break may be added where no text style is open, other leaves anywhere. -/
theorem WellShaped.push (h : builder.WellShaped) {node : Node} (hnode : AllWellShaped [node])
    (hbreak : builder.IsStyled → .paragraphBreak ∉ node.leaves) :
    (builder.push node).WellShaped := by
  refine h.flush.modifyInner (fun _ hnodes => hnodes.append hnode) fun hstyled nodes hmem => ?_
  rw [leavesOfAll_append, leavesOfAll_singleton, List.mem_append] at hmem
  exact hmem.resolve_right (hbreak (isStyled_flush.1 hstyled))

/-- So does a container of a kind that can be written. -/
theorem WellShaped.enter (h : builder.WellShaped) {kind : Container} (hkind : kind.IsWritten) :
    (builder.enter kind).WellShaped :=
  ⟨h.flush.root, .cons hkind .nil (fun _ => by simp) h.flush.frames⟩

/-- What is left of a frame is a container with children, and outside of all text styles if it
    holds a break. -/
theorem WellShaped.leave (h : builder.WellShaped) : builder.leave.WellShaped := by
  unfold Builder.leave
  have hflushed := h.flush
  generalize builder.flush = flushed at hflushed
  obtain ⟨root, frames, pending⟩ := flushed
  obtain ⟨hroot, hframes⟩ := hflushed
  cases hframes with
  | nil => exact ⟨hroot, .nil⟩
  | @cons kind children frames written shaped unbroken outer =>
    have houter : WellShaped ⟨root, frames, pending⟩ := ⟨hroot, outer⟩
    dsimp only
    split
    · exact houter
    · next hchildren =>
      have hstyle : kind = .bold ∨ kind = .italic → .paragraphBreak ∉ leavesOfAll children :=
        fun hkind => unbroken ⟨kind, List.mem_cons_self, Container.isTextStyle_iff.2 hkind⟩
      have hnode : AllWellShaped [.container kind children] := by
        rw [AllWellShaped, withinAll_singleton, within, List.forall_mem_cons]
        exact ⟨⟨by simpa using hchildren, written, hstyle⟩, shaped⟩
      refine houter.modifyInner (fun _ hnodes => hnodes.append hnode) fun hstyled nodes hmem => ?_
      obtain ⟨kind', hkind', hstyle'⟩ := hstyled
      rw [leavesOfAll_append, leavesOfAll_singleton, List.mem_append] at hmem
      exact hmem.resolve_right (unbroken ⟨kind', List.mem_cons_of_mem _ hkind', hstyle'⟩)

/-! ## Moves and operations -/

/-- Whether a move keeps builders well shaped whichever styles are open. -/
def Move.IsSafe : Move → Prop
  | write _ => True
  | push node => AllWellShaped [node] ∧ .paragraphBreak ∉ node.leaves
  | enter kind => kind.IsWritten
  | leave => True

/-- A safe move keeps the shape. -/
theorem WellShaped.move (h : builder.WellShaped) {step : Move} (hstep : step.IsSafe) :
    (builder.move step).WellShaped := by
  cases step with
  | write text => exact h.write text
  | push node => exact h.push hstep.1 fun _ => hstep.2
  | enter kind => exact h.enter hstep
  | leave => exact h.leave

theorem WellShaped.moves (h : builder.WellShaped) {steps : List Move}
    (hsteps : ∀ step ∈ steps, step.IsSafe) : (steps.foldl Builder.move builder).WellShaped := by
  induction steps generalizing builder with
  | nil => exact h
  | cons step steps ih =>
    obtain ⟨hstep, hrest⟩ := List.forall_mem_cons.1 hsteps
    exact ih (h.move hstep) hrest

theorem WellShaped.leaveMany (h : builder.WellShaped) (count : Nat) :
    (builder.leaveMany count).WellShaped := by
  rw [leaveMany_eq_foldl]
  exact h.moves fun step hstep => by rw [List.eq_of_mem_replicate hstep]; trivial

/-- Whether an operation keeps builders well shaped whichever styles are open. -/
def Operation.IsSafe : Operation → Prop
  | write _ => True
  | push node => AllWellShaped [node] ∧ .paragraphBreak ∉ node.leaves
  | enter kind => kind.IsWritten
  | close _ => True
  | toggle kind => kind.IsWritten
  | endLine => True

/-- Closing a container opens nothing but text styles. -/
theorem isSafe_of_mem_closingMoves? {kind : Container} {steps : List Move}
    (h : builder.closingMoves? kind = some steps) : ∀ step ∈ steps, step.IsSafe := by
  obtain ⟨inside, -, rfl⟩ := Option.map_eq_some_iff.1 h
  refine List.forall_mem_append.2 ⟨fun step hstep => ?_, fun step hstep => ?_⟩
  · rw [List.eq_of_mem_replicate hstep]
    trivial
  · obtain ⟨reopened, hreopened, rfl⟩ := List.mem_map.1 hstep
    exact .of_isTextStyle (List.mem_filter.1 hreopened).2

theorem Operation.IsSafe.moves {operation : Operation} (h : operation.IsSafe) :
    ∀ step ∈ builder.moves operation, step.IsSafe := by
  cases operation with
  | write text => exact List.forall_mem_singleton.2 h
  | push node => exact List.forall_mem_singleton.2 h
  | enter kind => exact List.forall_mem_singleton.2 h
  | close kind =>
    cases hsteps : builder.closingMoves? kind with
    | none => simp [Builder.moves, hsteps]
    | some steps => simpa [Builder.moves, hsteps] using isSafe_of_mem_closingMoves? hsteps
  | toggle kind =>
    cases hsteps : builder.closingMoves? kind with
    | none =>
      simp only [Builder.moves, hsteps, Option.getD_none]
      exact List.forall_mem_singleton.2 h
    | some steps => simpa [Builder.moves, hsteps] using isSafe_of_mem_closingMoves? hsteps
  | endLine =>
    intro step hstep
    rw [List.eq_of_mem_replicate hstep]
    trivial

/-- A safe operation keeps the shape. -/
theorem WellShaped.perform (h : builder.WellShaped) (operation : Operation)
    (hsafe : operation.IsSafe) : (builder.perform operation).WellShaped := by
  rw [perform_eq_foldl]
  exact h.moves hsafe.moves

/-- Safe operations keep the shape. -/
theorem WellShaped.run (h : builder.WellShaped) {operations : List Operation}
    (hsafe : ∀ operation ∈ operations, operation.IsSafe) :
    (builder.run operations).WellShaped := by
  induction operations generalizing builder with
  | nil => exact h
  | cons operation operations ih =>
    obtain ⟨hoperation, hrest⟩ := List.forall_mem_cons.1 hsafe
    exact ih (h.perform operation hoperation) hrest

/-- At the end of a line the containers down to the outermost text style are closed. -/
theorem kinds_endLine (builder : Builder) :
    builder.endLine.kinds = (builder.kinds.reverse.takeWhile (!·.isTextStyle)).reverse := by
  have hsplit : builder.kinds = (builder.kinds.reverse.dropWhile (!·.isTextStyle)).reverse ++
      (builder.kinds.reverse.takeWhile (!·.isTextStyle)).reverse := by
    rw [← List.reverse_append, List.takeWhile_append_dropWhile, List.reverse_reverse]
  rw [endLine_eq_leaveMany, kinds_leaveMany, styledCount]
  conv_lhs => arg 2; rw [hsplit]
  rw [List.drop_left' List.length_reverse]

/-- After the end of a line no style is open. -/
theorem not_isStyled_endLine (builder : Builder) : ¬builder.endLine.IsStyled := by
  rintro ⟨kind, hkind, hstyle⟩
  rw [kinds_endLine, List.mem_reverse] at hkind
  simpa [hstyle] using List.mem_takeWhile_imp hkind

end Builder

/-! ## Tokens -/

namespace Markup

open Builder

variable {builder : Builder}

/-- Whether a token, applied to any builder, keeps it well shaped. -/
def Token.IsSafe : Token → Prop
  | leaf node => AllWellShaped [node] ∧ .paragraphBreak ∉ node.leaves
  | opening kind => kind.IsWritten
  | _ => True

/-- The operations of a run of apostrophes are safe. -/
theorem quoteOperations_isSafe (builder : Builder) (count : Nat) :
    ∀ operation ∈ quoteOperations builder count, operation.IsSafe := by
  have htoggles : (Operation.toggle .bold).IsSafe ∧ (Operation.toggle .italic).IsSafe :=
    ⟨.of_isTextStyle rfl, .of_isTextStyle rfl⟩
  unfold quoteOperations
  dsimp only
  refine List.forall_mem_cons.2 ⟨trivial, ?_⟩
  cases (Quotes.ofLength count).bold <;> cases (Quotes.ofLength count).italic
  · simp
  · simpa using htoggles.2
  · simpa using htoggles.1
  · dsimp only
    split
    · simpa using htoggles.symm
    · simpa using htoggles

/-- A safe token keeps the shape. -/
theorem wellShaped_apply (h : builder.WellShaped) {token : Token} (hsafe : token.IsSafe) :
    (token.apply builder).WellShaped := by
  cases token with
  | text s => exact h.write s
  | leaf node => exact h.push hsafe.1 fun _ => hsafe.2
  | quotes count =>
    rw [Token.apply, applyQuotes_eq_run]
    exact h.run (quoteOperations_isSafe builder count)
  | lines count =>
    have hended : builder.endLine.WellShaped := h.perform .endLine trivial
    rw [Token.apply]
    split
    · refine hended.push ?_ fun hstyled => absurd hstyled (not_isStyled_endLine builder)
      simp [AllWellShaped, within, Node.WellShaped]
    · exact hended.write _
  | opening kind => exact h.enter hsafe
  | closing kind => exact h.perform (.close kind) trivial
  | hidden => exact h

/-! ## Reading tokens -/

theorem trim_ofList_trim (s : Chars) :
    Text.trim (String.ofList (Chars.trim s)) = String.ofList (Chars.trim s) := by
  rw [Text.trim, Text.onChars, String.toList_ofList, Chars.trim_trim]

/-- The name of a parameter has no blanks around it. -/
theorem parseParameter_trimmed (s : Chars) :
    ∀ key ∈ (parseParameter s).name, Text.trim key = key := by
  unfold parseParameter
  split
  · rintro _ ⟨⟩
    exact trim_ofList_trim _
  · rintro _ ⟨⟩

/-- A call that is read is safe. -/
theorem parseTemplate_isSafe (inner : Chars) : (Token.leaf (parseTemplate inner)).IsSafe := by
  unfold parseTemplate
  split
  · simp [Token.IsSafe, AllWellShaped, within, Node.WellShaped, leaves, Text.trim, Text.onChars,
      Chars.trim, Chars.trimBy, Chars.dropEndWhile]
  · refine ⟨?_, by simp [leaves]⟩
    simp only [AllWellShaped, withinAll_singleton, within, List.forall_mem_singleton,
      Node.WellShaped]
    refine ⟨trim_ofList_trim _, fun parameter hparameter => ?_⟩
    obtain ⟨part, -, rfl⟩ := List.mem_map.1 hparameter
    exact parseParameter_trimmed part

/-- What a link becomes, if it is not dropped. -/
theorem eq_link_of_parseLink? {inner trail : Chars} {node : Node}
    (h : parseLink? inner trail = some node) : ∃ shown title, node = .link shown title := by
  unfold parseLink? linkTo? at h
  dsimp only at h
  split at h
  · cases h
  · exact ⟨_, _, (Option.some.inj h).symm⟩

theorem isWritten_ofTag? {name : String} {kind : Container}
    (h : Container.ofTag? name = some kind) : kind.IsWritten := by
  unfold Container.ofTag? at h
  split at h <;> cases h <;> simp [Container.IsWritten]

theorem Token.isSafe_text (shown : String) : (Token.leaf (.text shown)).IsSafe :=
  ⟨.text shown, by simp [leaves]⟩

theorem Tag.read_isSafe (tag : Tag) (rest : Chars) : (tag.read rest).1.IsSafe := by
  unfold Tag.read
  dsimp only
  split
  · simp [Token.IsSafe, AllWellShaped, within, Node.WellShaped, leaves]
  · split
    · trivial
    · split
      · exact Token.isSafe_text _
      · split
        · trivial
        · next hkind =>
          split
          · trivial
          · split
            · trivial
            · exact isWritten_ofTag? hkind

/-- Whatever is read at a tag is safe. -/
theorem readTag_isSafe (s : Chars) : (readTag s).1.IsSafe := by
  unfold readTag
  split
  · split
    · exact Tag.read_isSafe _ _
    · trivial
  · trivial

theorem readLink_isSafe (s : Chars) : (readLink s).1.IsSafe := by
  unfold readLink
  split
  · next inner rest _ =>
    split
    · next node hlink =>
      obtain ⟨shown, title, rfl⟩ := eq_link_of_parseLink? hlink
      simp [Token.IsSafe, AllWellShaped, within, Node.WellShaped, leaves]
    · trivial
  · trivial

/-- Whatever is read is safe. -/
theorem readToken_isSafe (c : Char) (s : Chars) : (readToken c s).1.IsSafe := by
  unfold readToken
  split
  · unfold readTemplate
    split
    · exact parseTemplate_isSafe _
    · trivial
  · exact readLink_isSafe _
  · split
    · unfold readExtLink
      split
      · simp [parseExtLink, Token.IsSafe, AllWellShaped, within, Node.WellShaped, leaves]
      · trivial
    · trivial
  · trivial
  · trivial
  · split
    · trivial
    · exact readTag_isSafe _
  · trivial

theorem tokens_isSafe (s : Chars) : ∀ token ∈ tokens s, token.IsSafe := by
  fun_induction tokens s with
  | case1 => simp
  | case2 c s next ih => exact List.forall_mem_cons.2 ⟨readToken_isSafe c s, ih⟩

/-- Safe tokens keep the shape. -/
theorem wellShaped_foldl_apply (h : builder.WellShaped) {tokens : List Token}
    (hsafe : ∀ token ∈ tokens, token.IsSafe) : (tokens.foldl Token.apply builder).WellShaped := by
  induction tokens generalizing builder with
  | nil => exact h
  | cons token tokens ih =>
    obtain ⟨htoken, hrest⟩ := List.forall_mem_cons.1 hsafe
    exact ih (wellShaped_apply h htoken) hrest

end Markup

/-! ## Result -/

/-- However the marks of a text are nested, its nodes at all depths are well shaped: no container is
    empty, or of a kind that nothing opens, no paragraph break is anywhere in bold or italic text,
    and the names of templates and of their parameters are trimmed. -/
theorem Markup.parse_wellShaped (text : String) :
    ∀ node ∈ Node.withinAll (parse text), node.WellShaped := by
  have htokens := wellShaped_foldl_apply Builder.wellShaped_empty (tokens_isSafe text.toList)
  exact (htokens.leaveMany _).flush.root

/-- A blank line ends italics. -/
theorem Markup.parse_wellShaped_italic :
    Node.container .italic [.text "a"] ∈ Node.withinAll (parse "''a\n\nb") ∧
      (Node.container .italic [.text "a"]).WellShaped := by
  have htokens : tokens "''a\n\nb".toList = [.quotes 2, .text ['a'], .lines 2, .text ['b']] := by
    simp [tokens, readToken, readText, startsToken]
  have hparse : parse "''a\n\nb" =
      [.container .italic [.text "a"], .paragraphBreak, .text "b"] := by
    rw [parse, htokens]
    rfl
  have hnode : Node.container .italic [.text "a"] ∈ Node.withinAll (parse "''a\n\nb") := by
    rw [hparse]
    exact List.mem_cons_self
  exact ⟨hnode, parse_wellShaped _ _ hnode⟩

end GenreProse
