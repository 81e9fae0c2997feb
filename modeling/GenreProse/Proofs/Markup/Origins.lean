-- SUMMARY: Every template call and every link in the nodes of a text was read as one token of the text.
import GenreProse.Proofs.Markup.Calls
import GenreProse.Proofs.Markup.Shape

/-!
# Where leaves come from

Only texts are ever joined, so any other leaf of a parse is one that some token pushed. Tokens are
read from the endings of a text one after another. Together this says of a call or a link anywhere
in the nodes of a text which part of the text it was read from.
-/

namespace GenreProse

/-! ## Leaves of a parse -/

namespace Node

mutual

/-- A node without children is a leaf wherever it stands. -/
theorem mem_leaves_of_mem_within {node : Node} (hleaf : node.children? = none) (outer : Node)
    (h : node ∈ within outer) : node ∈ leaves outer := by
  cases outer with
  | container kind children =>
    rw [within, List.mem_cons] at h
    obtain rfl | h := h
    · cases hleaf
    · exact mem_leavesOfAll_of_mem_withinAll hleaf children h
  | _ => exact h

/-- A node that is no container is a leaf wherever it lies. -/
theorem mem_leavesOfAll_of_mem_withinAll {node : Node} (hleaf : node.children? = none)
    (nodes : List Node) (h : node ∈ withinAll nodes) : node ∈ leavesOfAll nodes := by
  cases nodes with
  | nil => exact h
  | cons first nodes =>
    rw [withinAll, List.mem_append] at h
    rw [leavesOfAll, List.mem_append]
    exact h.imp (mem_leaves_of_mem_within hleaf first)
      (mem_leavesOfAll_of_mem_withinAll hleaf nodes)

end

end Node

section

variable {node : Node} (hnode : ∀ shown, node ≠ .text shown)

include hnode

/-- Joining makes no other leaves than texts. -/
theorem Joins.mem {nodes joined : List Node} (h : Joins nodes joined) (hmem : node ∈ joined) :
    node ∈ nodes := by
  induction h with
  | refl => exact hmem
  | tail _ hstep ih =>
    obtain ⟨before, first, second, after⟩ := hstep
    refine ih ?_
    simp only [List.mem_append, List.mem_cons] at hmem ⊢
    obtain hbefore | hjoined | hafter := hmem
    · exact .inl hbefore
    · exact absurd hjoined (hnode _)
    · exact .inr (.inr (.inr hafter))

/-- A leaf that moves give was pushed, unless it is text. -/
theorem Builder.exists_pushed_of_mem_shownFrom (pending : Chars) (moves : List Builder.Move)
    (hmem : node ∈ Builder.shownFrom pending moves) :
    ∃ pushed, Builder.Content.leaf pushed ∈ moves.filterMap Builder.Move.content? ∧
      node ∈ pushed.leaves := by
  have hdecoded (text : Chars) : node ∉ Node.decoded text := by
    cases text with
    | nil => exact List.not_mem_nil
    | cons c text => exact fun h => hnode _ (List.mem_singleton.1 h)
  fun_induction Builder.shownFrom pending moves with
  | case1 pending => exact absurd hmem (hdecoded pending)
  | case2 pending text moves ih =>
    obtain ⟨pushed, hpushed, hleaf⟩ := ih hmem
    exact ⟨pushed, List.mem_cons_of_mem _ hpushed, hleaf⟩
  | case3 pending leaf moves ih =>
    rw [List.append_assoc, List.mem_append, List.mem_append] at hmem
    obtain htext | hleaf | hrest := hmem
    · exact absurd htext (hdecoded pending)
    · exact ⟨leaf, List.mem_cons_self, hleaf⟩
    · obtain ⟨pushed, hpushed, hleaf⟩ := ih hrest
      exact ⟨pushed, List.mem_cons_of_mem _ hpushed, hleaf⟩
  | case4 pending kind moves ih =>
    exact ih ((List.mem_append.1 hmem).resolve_left (hdecoded pending))
  | case5 pending moves ih =>
    exact ih ((List.mem_append.1 hmem).resolve_left (hdecoded pending))

end

namespace Markup

/-- A leaf of a parse is a token of the text, or in one, unless it is text or a break. -/
theorem exists_token_of_mem_parse {node : Node} {text : String}
    (h : node ∈ Node.withinAll (parse text)) (hleaf : node.children? = none)
    (hnode : ∀ shown, node ≠ .text shown) (hbreak : node ≠ .paragraphBreak) :
    ∃ pushed, Token.leaf pushed ∈ tokens text.toList ∧ node ∈ pushed.leaves := by
  have hmem := Node.mem_leavesOfAll_of_mem_withinAll hleaf _ h
  rw [parse_eq_run] at hmem
  obtain ⟨pushed, hpushed, hleaves⟩ := Builder.exists_pushed_of_mem_shownFrom hnode _ _
    ((Builder.joins_run (operations text)).mem hnode hmem)
  rw [Builder.contents_history, operations, contents_operationsFrom, List.mem_flatMap] at hpushed
  obtain ⟨token, htoken, hcontent⟩ := hpushed
  refine ⟨pushed, ?_, hleaves⟩
  cases token with
  | leaf held =>
    obtain rfl : pushed = held := by simpa [Token.contents] using hcontent
    exact htoken
  | lines count =>
    rw [Token.contents] at hcontent
    split at hcontent
    · obtain rfl : pushed = .paragraphBreak := by simpa using hcontent
      exact absurd (List.mem_singleton.1 hleaves) hbreak
    · simp at hcontent
  | _ => simp [Token.contents] at hcontent

/-! ## Reading leaves -/

/-- What a leaf is read from: its first character and the text after it. -/
inductive ReadLeaf : Char → Chars → Node → Prop where
  | call {rest inner left : Chars} : balanced? '{' '}' 1 rest = some (inner, left) →
      ReadLeaf '{' ('{' :: rest) (parseTemplate inner)
  | link {rest : Chars} (shown title : String) : ReadLeaf '[' ('[' :: rest) (.link shown title)
  | extLink {rest inner left : Chars} : isUrlStart rest →
      Chars.cutAt? (· == ']') rest = some (inner, left) →
      ReadLeaf '[' rest (parseExtLink inner)
  | newline {rest : Chars} : ReadLeaf '<' rest .newline
  | text {rest : Chars} (shown : String) : ReadLeaf '<' rest (.text shown)

/-- A leaf that is read at a tag. -/
theorem readTag_leaf {s : Chars} {node : Node} (h : (readTag s).1 = .leaf node) :
    ReadLeaf '<' s node := by
  unfold readTag at h
  split at h
  · split at h
    · unfold Tag.read at h
      dsimp only at h
      split at h
      · cases h
        exact .newline
      · split at h
        · cases h
        · split at h
          · cases h
            exact .text _
          · split at h
            · cases h
            · split at h
              · cases h
              · split at h <;> cases h
    · cases h
  · cases h

/-- A token that is a leaf is a call, a link of either kind, a forced line break or text. -/
theorem readToken_leaf {c : Char} {s : Chars} {node : Node}
    (h : (readToken c s).1 = .leaf node) : ReadLeaf c s node := by
  unfold readToken at h
  split at h
  · unfold readTemplate at h
    split at h
    · next hbalanced =>
      cases h
      exact .call hbalanced
    · cases h
  · unfold readLink at h
    split at h
    · split at h
      · next hlink =>
        cases h
        obtain ⟨shown, title, rfl⟩ := eq_link_of_parseLink? hlink
        exact .link shown title
      · cases h
    · cases h
  · split at h
    · next hurl =>
      unfold readExtLink at h
      split at h
      · next hcut =>
        cases h
        exact .extLink hurl hcut
      · cases h
    · cases h
  · cases h
  · cases h
  · split at h
    · cases h
    · exact readTag_leaf h
  · cases h

/-- A token is read at the start of an ending of the text. -/
theorem exists_ending_of_mem_tokens {s : Chars} {token : Token} (h : token ∈ tokens s) :
    ∃ c rest, c :: rest <:+ s ∧ (readToken c rest).1 = token := by
  fun_induction tokens s with
  | case1 => cases h
  | case2 c s next ih =>
    obtain rfl | h := List.mem_cons.1 h
    · exact ⟨c, s, List.suffix_refl _, rfl⟩
    · obtain ⟨d, rest, hending, htoken⟩ := ih h
      exact ⟨d, rest, hending.trans ((readToken_suffix c s).trans (List.suffix_cons c s)), htoken⟩

/-- A template call anywhere in the nodes of a text was read from doubled braces in it. -/
theorem exists_call_of_mem_parse {text name : String} {parameters : List Parameter}
    (h : .template name parameters ∈ Node.withinAll (parse text)) :
    ∃ rest inner left, '{' :: '{' :: rest <:+ text.toList ∧
      balanced? '{' '}' 1 rest = some (inner, left) ∧
      parseTemplate inner = .template name parameters := by
  obtain ⟨pushed, htoken, hleaf⟩ := exists_token_of_mem_parse h rfl nofun nofun
  obtain ⟨c, s, hending, hread⟩ := exists_ending_of_mem_tokens htoken
  cases readToken_leaf hread with
  | @call rest inner left hbalanced =>
    refine ⟨rest, inner, left, hending, hbalanced, ?_⟩
    obtain ⟨name', parameters', heq⟩ := parseTemplate_eq inner
    rw [heq] at hleaf ⊢
    exact (List.mem_singleton.1 hleaf).symm
  | link | extLink | newline | text => exact absurd (List.mem_singleton.1 hleaf) nofun

/-- A link to another site anywhere in the nodes of a text was read from single brackets in it, and
    what stands in them opens like an address. -/
theorem exists_address_of_mem_parse {text label url : String}
    (h : .extLink label url ∈ Node.withinAll (parse text)) :
    ∃ rest inner left, isUrlStart rest ∧ Chars.cutAt? (· == ']') rest = some (inner, left) ∧
      parseExtLink inner = .extLink label url := by
  obtain ⟨pushed, htoken, hleaf⟩ := exists_token_of_mem_parse h rfl nofun nofun
  obtain ⟨c, s, -, hread⟩ := exists_ending_of_mem_tokens htoken
  cases readToken_leaf hread with
  | @extLink _ inner left hurl hcut =>
    exact ⟨s, inner, left, hurl, hcut, (List.mem_singleton.1 hleaf).symm⟩
  | @call _ inner _ hbalanced =>
    obtain ⟨name, parameters, heq⟩ := parseTemplate_eq inner
    rw [heq] at hleaf
    exact absurd (List.mem_singleton.1 hleaf) nofun
  | link | newline | text => exact absurd (List.mem_singleton.1 hleaf) nofun

end Markup

end GenreProse
