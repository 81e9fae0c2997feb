-- SUMMARY: What a text between two runs of apostrophes is parsed to.
import GenreProse.Proofs.Markup.Apostrophes

/-!
# Text between runs of apostrophes

A single apostrophe stands for itself. So a text whose apostrophes are single is written as it is,
up to the next token, and what the runs around a text do depends on their lengths alone.
-/

namespace GenreProse

namespace Markup

variable {rest : Chars}

/-! ## Single apostrophes -/

/-- Whether no two apostrophes stand next to each other. -/
def SingleQuotes (s : Chars) : Prop :=
  s.IsChain fun c d => ¬(c = '\'' ∧ d = '\'')

instance (s : Chars) : Decidable (SingleQuotes s) :=
  inferInstanceAs (Decidable (s.IsChain _))

/-- Text without marks ends where the next token starts. -/
theorem takeWhile_append_rest (hrest : ∀ c ∈ rest.head?, startsToken c) (s : Chars) :
    (s ++ rest).takeWhile (!startsToken ·) = s.takeWhile (!startsToken ·) ∧
      (s ++ rest).dropWhile (!startsToken ·) = s.dropWhile (!startsToken ·) ++ rest := by
  have hstops : rest.takeWhile (!startsToken ·) = [] ∧ rest.dropWhile (!startsToken ·) = rest := by
    cases rest with
    | nil => exact ⟨rfl, rfl⟩
    | cons c rest => simp [hrest c rfl]
  rw [List.takeWhile_append, List.dropWhile_append, hstops.1, hstops.2]
  constructor
  · split
    · next hall =>
      rw [List.append_nil, (List.takeWhile_prefix _).eq_of_length hall]
    · rfl
  · split
    · next hnone => rw [List.isEmpty_iff.1 hnone, List.nil_append]
    · rfl

/-- Text that does not start with an apostrophe has no run of them at its start. -/
theorem no_quotes {s : Chars} (h : s.head? ≠ some '\'') :
    s.takeWhile (· == '\'') = [] ∧ s.dropWhile (· == '\'') = s := by
  cases s with
  | nil => exact ⟨rfl, rfl⟩
  | cons c s =>
    have hc : c ≠ '\'' := fun heq => h (heq ▸ rfl)
    simp [hc]

/-- A run of apostrophes is one token. -/
theorem tokens_quotes (count : Nat) (hrest : rest.head? ≠ some '\'') :
    tokens (List.replicate (count + 1) '\'' ++ rest) = .quotes (count + 1) :: tokens rest := by
  have hall : ∀ c ∈ List.replicate count '\'', (c == '\'') = true :=
    fun c hc => beq_iff_eq.2 (List.eq_of_mem_replicate hc)
  rw [List.replicate_succ, List.cons_append, tokens, readToken_quote,
    List.takeWhile_append_of_pos hall, List.dropWhile_append_of_pos hall, (no_quotes hrest).1,
    (no_quotes hrest).2, List.append_nil, List.length_replicate]

theorem SingleQuotes.head_ne {s : Chars} (h : SingleQuotes ('\'' :: s)) : s.head? ≠ some '\'' := by
  intro hhead
  cases s with
  | nil => cases hhead
  | cons c s =>
    cases hhead
    exact (List.isChain_cons_cons.1 h).1 ⟨rfl, rfl⟩

theorem SingleQuotes.middle_ne_nil {middle : Chars}
    (h : SingleQuotes ('\'' :: (middle ++ ['\'']))) : middle ≠ [] := by
  rintro rfl
  exact h.head_ne rfl

/-- Text without apostrophes may stand before single ones. -/
theorem SingleQuotes.append {s t : Chars} (hs : '\'' ∉ s) (ht : SingleQuotes t) :
    SingleQuotes (s ++ t) := by
  induction s with
  | nil => exact ht
  | cons c s ih =>
    obtain ⟨hc, hs⟩ := List.ne_and_not_mem_of_not_mem_cons hs
    exact List.isChain_cons.2 ⟨fun d _ hpair => hc hpair.1.symm, ih hs⟩

/-- Text without other marks than single apostrophes is written as it is. -/
theorem foldl_tokens_append {s : Chars} {builder : Builder}
    (hplain : ∀ c ∈ s, startsToken c → c = '\'') (hsingle : SingleQuotes (s ++ rest.head?.toList))
    (hrest : ∀ c ∈ rest.head?, startsToken c) :
    (tokens (s ++ rest)).foldl Token.apply builder =
      (tokens rest).foldl Token.apply (builder.write s) := by
  match s, hplain, hsingle with
  | [], _, _ => simp [Builder.write]
  | c :: s, hplain, hsingle =>
    obtain ⟨hc, hs⟩ := List.forall_mem_cons.1 hplain
    have hwrite (front back : Chars) :
        (builder.write front).write back = builder.write (front ++ back) := by
      simp [Builder.write]
    by_cases hquote : c = '\''
    · subst hquote
      have hnext : (s ++ rest).head? ≠ some '\'' := by
        have hsame : (s ++ rest.head?.toList).head? = (s ++ rest).head? := by
          cases s with
          | nil => cases rest <;> rfl
          | cons => rfl
        rw [← hsame]
        exact hsingle.head_ne
      have hone : (Token.quotes 1).apply builder = builder.write ['\''] := rfl
      rw [List.cons_append, ← List.singleton_append, ← List.replicate_one, tokens_quotes 0 hnext,
        List.foldl_cons, foldl_tokens_append hs hsingle.tail hrest, hone, hwrite,
        List.singleton_append]
    · have htext : startsToken c = false := by
        simpa using fun hstarts => hquote (hc hstarts)
      obtain ⟨htake, hdrop⟩ := takeWhile_append_rest hrest s
      obtain ⟨front, hfront⟩ := List.dropWhile_suffix (!startsToken ·) (l := s)
      have hleft : SingleQuotes (s.dropWhile (!startsToken ·) ++ rest.head?.toList) := by
        refine hsingle.suffix ⟨c :: front, ?_⟩
        rw [List.cons_append, ← List.append_assoc, hfront, List.cons_append]
      rw [List.cons_append, tokens, List.foldl_cons, readToken_eq_readText htext, readText, htake,
        hdrop]
      dsimp only
      rw [foldl_tokens_append (fun d hd => hs d (hfront ▸ List.mem_append_right front hd)) hleft
        hrest, Token.apply, hwrite, List.cons_append, List.takeWhile_append_dropWhile]
termination_by s.length
decreasing_by
  · exact Nat.lt_succ_self _
  · exact Nat.lt_succ_of_le (List.dropWhile_suffix _).length_le

/-- Text without marks is written as it is, before a run of apostrophes or at the end. -/
theorem foldl_tokens_plain {s : Chars} {builder : Builder} (hs : ∀ c ∈ s, startsToken c = false)
    (hrest : ∀ c ∈ rest.head?, startsToken c) :
    (tokens (s ++ rest)).foldl Token.apply builder =
      (tokens rest).foldl Token.apply (builder.write s) := by
  refine foldl_tokens_append (fun c hc hstarts => ?_) ?_ hrest
  · exact absurd ((hs c hc).symm.trans hstarts) Bool.false_ne_true
  · have hquote : '\'' ∉ s := fun hmem => absurd (hs _ hmem) (by decide)
    refine .append hquote ?_
    cases rest <;> simp [SingleQuotes]

/-! ## Two runs -/

/-- Whether a text that is shown somewhere is written as it is. -/
structure IsPlain (s : Chars) : Prop where
  ne_nil : s ≠ []
  noMarks : ∀ c ∈ s, startsToken c = false
  noReference : '&' ∉ s

theorem decode_eq_self {s : Chars} (h : '&' ∉ s) :
    Entity.decode (String.ofList s) = String.ofList s := by
  rw [Entity.decode, Text.onChars, String.toList_ofList, Entity.decodeFrom_eq_self h]

theorem IsPlain.no_quote {s : Chars} (h : IsPlain s) : s.head? ≠ some '\'' := fun hhead =>
  absurd (h.noMarks _ (List.mem_of_head? hhead)) (by decide)

theorem startsToken_of_quotes (n : Nat) (s : Chars) :
    ∀ c ∈ (List.replicate (n + 1) '\'' ++ s).head?, startsToken c := by
  rintro c ⟨⟩
  rfl

/-- Plain text at the end is written by its last token. -/
theorem foldl_tokens_last {s : Chars} {builder : Builder} (hs : IsPlain s) :
    (tokens s).foldl Token.apply builder = builder.write s := by
  have hend : tokens [] = [] := by rw [tokens]
  have hlast : (tokens (s ++ [])).foldl Token.apply builder = _ :=
    foldl_tokens_plain hs.noMarks (by simp)
  rwa [List.append_nil, hend] at hlast

/-- A text without markup is one node. -/
theorem parse_plain {s : Chars} (hs : IsPlain s) :
    parse (String.ofList s) = [.text (String.ofList s)] := by
  rw [parse, String.toList_ofList, foldl_tokens_last hs]
  simp [Builder.write, Builder.flush, Builder.empty, Builder.modifyInner, Builder.leaveMany,
    Builder.finish, Node.appendText, decode_eq_self hs.noReference, hs.ne_nil]

section

variable {before middle after : Chars} (hbefore : IsPlain before) (hafter : IsPlain after)
include hbefore hafter

/-- The nodes of a text between two runs of apostrophes, which may set bold in place of italics. -/
def betweenRuns (before middle after : Node) : Bool → Bool → List Node
  | false, false => [before, .container .italic [middle], after]
  | true, false => [before, .container .bold [middle, .container .italic [after]]]
  | false, true => [before, .container .italic [middle, .container .bold [after]]]
  | true, true => [before, .container .bold [middle], after]

/-- A text that neither starts nor ends with an apostrophe, between runs of two or three. -/
theorem parse_betweenRuns (hmiddle : ∀ c ∈ middle, startsToken c → c = '\'')
    (hreference : '&' ∉ middle) (hsingle : SingleQuotes ('\'' :: (middle ++ ['\''])))
    (opens closes : Bool) :
    parse (String.ofList (before ++ (List.replicate (opens.toNat + 2) '\'' ++ (middle ++
      (List.replicate (closes.toNat + 2) '\'' ++ after))))) =
      betweenRuns (.text (String.ofList before)) (.text (String.ofList middle))
        (.text (String.ofList after)) opens closes := by
  have hmiddle' : middle ≠ [] := hsingle.middle_ne_nil
  have hfirst (more : Chars) : (middle ++ more).head? ≠ some '\'' := by
    have hhead : (middle ++ ['\'']).head? ≠ some '\'' := hsingle.head_ne
    obtain ⟨c, rest, rfl⟩ := List.exists_cons_of_ne_nil hmiddle'
    exact hhead
  have hwithin : SingleQuotes
      (middle ++ (List.replicate (closes.toNat + 2) '\'' ++ after).head?.toList) := hsingle.tail
  rw [parse, String.toList_ofList,
    foldl_tokens_plain hbefore.noMarks (startsToken_of_quotes _ _), tokens_quotes _ (hfirst _),
    List.foldl_cons, foldl_tokens_append hmiddle hwithin (startsToken_of_quotes _ _),
    tokens_quotes _ hafter.no_quote, List.foldl_cons, foldl_tokens_last hafter]
  cases opens <;> cases closes <;>
    simp [betweenRuns, applyQuotes, Token.apply, Quotes.ofLength, Builder.toggle, Builder.write,
      Builder.close?, Builder.enter, Builder.flush, Builder.empty, Builder.modifyInner,
      Builder.leave, Builder.leaveMany, Node.appendText, Builder.finish,
      decode_eq_self hbefore.noReference, decode_eq_self hafter.noReference,
      decode_eq_self hreference, hbefore.ne_nil, hafter.ne_nil, hmiddle']

/-- Two runs of two around an apostrophe are one run of five. -/
theorem parse_fiveQuotes :
    parse (String.ofList (before ++ (List.replicate 5 '\'' ++ after))) =
      [.text (String.ofList before),
        .container .bold [.container .italic [.text (String.ofList after)]]] := by
  rw [parse, String.toList_ofList, foldl_tokens_plain hbefore.noMarks (startsToken_of_quotes _ _),
    tokens_quotes _ hafter.no_quote, List.foldl_cons, foldl_tokens_last hafter]
  simp [applyQuotes, Token.apply, Quotes.ofLength, Builder.toggle, Builder.write, Builder.close?,
    Builder.enter, Builder.flush, Builder.empty, Builder.modifyInner, Builder.leave,
    Builder.leaveMany, Node.appendText, Builder.finish, decode_eq_self hbefore.noReference,
    decode_eq_self hafter.noReference, hbefore.ne_nil, hafter.ne_nil]

end

/-! ## Apostrophes at the ends -/

/-- A text with single apostrophes is one that neither starts nor ends with one, with an apostrophe
    before it, after it or both, unless it is a single apostrophe. -/
theorem SingleQuotes.exists_middle {s : Chars} (h : SingleQuotes s) (hne : s ≠ [])
    (hquote : s ≠ ['\'']) :
    ∃ opens middle closes, s = List.replicate (Bool.toNat opens) '\'' ++
        (middle ++ List.replicate (Bool.toNat closes) '\'') ∧
      SingleQuotes ('\'' :: (middle ++ ['\''])) ∧
      (opens = true ↔ s.head? = some '\'') ∧ (closes = true ↔ s.getLast? = some '\'') := by
  obtain ⟨opens, t, hs, ht, hopens⟩ : ∃ opens t, s = List.replicate (Bool.toNat opens) '\'' ++ t ∧
      SingleQuotes ('\'' :: t) ∧ (opens = true ↔ s.head? = some '\'') := by
    obtain ⟨c, t, rfl⟩ := List.exists_cons_of_ne_nil hne
    by_cases hc : c = '\''
    · subst hc
      exact ⟨true, t, rfl, h, by simp⟩
    · exact ⟨false, c :: t, rfl, List.isChain_cons_cons.2 ⟨fun hpair => hc hpair.2, h⟩,
        by simp [hc]⟩
  obtain rfl | ⟨front, last, rfl⟩ := List.eq_nil_or_concat' t
  · cases opens
    · exact absurd hs hne
    · exact absurd hs hquote
  · have hends : s.getLast? = some last := by simp [hs]
    by_cases hlast : last = '\''
    · subst hlast
      exact ⟨opens, front, true, hs, ht, hopens, by simp [hends]⟩
    · refine ⟨opens, front ++ [last], false, ?_, ?_, hopens, by simp [hends, hlast]⟩
      · rw [hs, Bool.toNat_false, List.replicate_zero, List.append_nil]
      · refine List.isChain_append.2 ⟨ht, List.isChain_singleton _, fun c hc _ _ hpair => hlast ?_⟩
        have hc : ('\'' :: front ++ [last]).getLast? = some c := hc
        rw [List.getLast?_concat] at hc
        exact (Option.some.inj hc).trans hpair.1

end Markup

end GenreProse
