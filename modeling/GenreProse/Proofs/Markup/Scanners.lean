-- SUMMARY: The scanners that count bytes, run as loops, find what the searches on characters find.
import GenreProse.Proofs.Markup.Loops
import GenreProse.Proofs.Markup.Splitting
import GenreProse.Proofs.Text.Bytes

/-!
# Scanners on bytes

The end of a template call and the separators at top level are looked for among the bytes of a
text, at an index that a loop moves on. The loops end, on any bytes, and the indices that they find
are the lengths of what the searches on characters cut off.
-/

namespace GenreProse

open Chars

namespace Markup.Checked

/-! ## Balanced brackets -/

/-- One turn of the search for the end of brackets: the depth, and the index of the next byte. -/
def balancedTurn (bytes : List UInt8) (opening closing : UInt8) :
    Nat × Nat →. Option Nat ⊕ Nat × Nat :=
  fun (depth, index) =>
    if index + 1 < bytes.length then do
      let pair ← listSlice bytes index (index + 2)
      return if pair = [opening, opening] then .inr (depth + 1, index + 2)
        else if pair = [closing, closing] then
          if depth - 1 = 0 then .inl (some index) else .inr (depth - 1, index + 2)
        else .inr (depth, index + 1)
    else return .inl none

/-- The index of the doubled byte `closing` that closes the brackets which open the text. -/
def findBalanced (bytes : List UInt8) (opening closing : UInt8) : Part (Option Nat) :=
  (balancedTurn bytes opening closing).fix (0, 0)

/-- What the search answers with from an index on, given the bytes from there. -/
def balancedFrom (opening closing : UInt8) : Nat → Nat → List UInt8 → Option Nat
  | depth, index, a :: b :: rest =>
    if a = opening ∧ b = opening then balancedFrom opening closing (depth + 1) (index + 2) rest
    else if a = closing ∧ b = closing then
      if depth - 1 = 0 then some index
      else balancedFrom opening closing (depth - 1) (index + 2) rest
    else balancedFrom opening closing depth (index + 1) (b :: rest)
  | _, _, _ => none

/-- The loop that looks for balanced brackets ends in what the recursion finds. -/
theorem findBalanced_eq (bytes : List UInt8) (opening closing : UInt8) :
    findBalanced bytes opening closing = .some (balancedFrom opening closing 0 0 bytes) := by
  refine fix_eq_some
    (fun state result =>
      result = balancedFrom opening closing state.1 state.2 (bytes.drop state.2))
    (fun state => bytes.length - state.2) ?_ rfl
  rintro ⟨depth, index⟩ _ rfl
  by_cases hpair : index + 1 < bytes.length
  · have hrest : bytes.drop index =
        bytes[index] :: bytes[index + 1] :: bytes.drop (index + 2) := by
      rw [List.drop_eq_getElem_cons (by omega), List.drop_eq_getElem_cons hpair]
    have hslice : listSlice bytes index (index + 2) =
        .some [bytes[index], bytes[index + 1]] := by
      rw [listSlice_eq_some (by omega) (by omega), List.drop_take, Nat.add_sub_cancel_left, hrest]
      rfl
    simp only [balancedTurn, hpair, if_true, hslice, hrest, balancedFrom, Part.bind_eq_bind,
      Part.bind_some, Part.pure_eq_some, List.cons.injEq, and_true]
    split
    · exact .inr ⟨(depth + 1, index + 2), rfl, by simp only; omega, rfl⟩
    · split
      · split
        · exact .inl rfl
        · exact .inr ⟨(depth - 1, index + 2), rfl, by simp only; omega, rfl⟩
      · refine .inr ⟨(depth, index + 1), rfl, by simp only; omega, ?_⟩
        rw [List.drop_eq_getElem_cons hpair]
  · left
    have hshort : (bytes.drop index).length ≤ 1 := by
      rw [List.length_drop]
      omega
    have hnone : balancedFrom opening closing depth index (bytes.drop index) = none := by
      match hrest : bytes.drop index with
      | [] => rfl
      | [_] => rfl
      | _ :: _ :: _ => simp [hrest] at hshort
    simp only [balancedTurn, hpair, if_false, hnone, Part.pure_eq_some]

/-- Bytes beyond ASCII are no brackets. -/
theorem balancedFrom_high {opening closing : UInt8} (hopening : opening < 128)
    (hclosing : closing < 128) {high : List UInt8} (hhigh : ∀ b ∈ high, 128 ≤ b)
    (depth index : Nat) (rest : List UInt8) :
    balancedFrom opening closing depth index (high ++ rest) =
      balancedFrom opening closing depth (index + high.length) rest := by
  induction high generalizing index with
  | nil => rfl
  | cons first high ih =>
    obtain ⟨hfirst, hrest⟩ := List.forall_mem_cons.1 hhigh
    have hnot : ∀ b : UInt8, b < 128 → first ≠ b := by
      rintro _ hlow rfl
      exact UInt8.not_le.2 hlow hfirst
    rw [List.length_cons, Nat.add_comm high.length, ← Nat.add_assoc, ← ih hrest, List.cons_append]
    cases high ++ rest with
    | nil => rfl
    | cons second others =>
      rw [balancedFrom, if_neg fun h => hnot opening hopening h.1,
        if_neg fun h => hnot closing hclosing h.1]

/-- Doubled closing brackets close the innermost brackets, which may be the outermost ones. -/
theorem balancedFrom_closing {opening closing : Char} (hopening : IsAscii opening)
    (hclosing : IsAscii closing) (hne : closing ≠ opening) (depth index : Nat) (s : Chars) :
    balancedFrom opening.toUInt8 closing.toUInt8 depth index
        (bytes (closing :: closing :: s)) =
      if depth - 1 = 0 then some index
      else balancedFrom opening.toUInt8 closing.toUInt8 (depth - 1) (index + 2) s.bytes := by
  have hdiffer : closing.toUInt8 ≠ opening.toUInt8 := fun h =>
    hne ((hclosing.toUInt8_inj hopening).1 h)
  rw [bytes_pair hclosing, balancedFrom, if_neg fun h => hdiffer h.1, if_pos ⟨rfl, rfl⟩]

/-- Among the bytes the search ends after what the search among the characters cuts off. -/
theorem balancedFrom_bytes {opening closing : Char} (hopening : IsAscii opening)
    (hclosing : IsAscii closing) (depth index : Nat) (s : Chars) :
    balancedFrom opening.toUInt8 closing.toUInt8 depth index s.bytes =
      (balanced? opening closing depth s).map fun found => index + byteLength found.1 := by
  fun_induction balanced? opening closing depth s generalizing index with
  | case1 depth a b s hpair ih =>
    obtain ⟨ha, hb⟩ : a = opening ∧ b = opening := by simpa using hpair
    rw [ha, hb, bytes_pair hopening, balancedFrom, if_pos ⟨rfl, rfl⟩, ih, Option.map_map]
    congr 1
    funext found
    simp only [Function.comp_apply, byteLength_cons, hopening.utf8Size]
    omega
  | case2 depth a b s hnot hpair hdepth =>
    obtain ⟨ha, hb⟩ : a = closing ∧ b = closing := by simpa using hpair
    have hne : closing ≠ opening := by simpa [ha, hb] using hnot
    rw [ha, hb, balancedFrom_closing hopening hclosing hne, if_pos (by omega)]
    rfl
  | case3 depth a b s hnot hpair hdepth ih =>
    obtain ⟨ha, hb⟩ : a = closing ∧ b = closing := by simpa using hpair
    have hne : closing ≠ opening := by simpa [ha, hb] using hnot
    rw [ha, hb, balancedFrom_closing hopening hclosing hne, if_neg (by omega), ih, Option.map_map]
    congr 1
    funext found
    simp only [Function.comp_apply, byteLength_cons, hclosing.utf8Size]
    omega
  | case4 depth a b s hnot hnot' ih =>
    have hskip : balancedFrom opening.toUInt8 closing.toUInt8 depth index (bytes (a :: b :: s)) =
        balancedFrom opening.toUInt8 closing.toUInt8 depth (index + a.utf8Size)
          (bytes (b :: s)) := by
      by_cases ha : IsAscii a
      · obtain ⟨first, rest, hrest⟩ := List.exists_cons_of_ne_nil (bytes_cons_ne_nil b s)
        have hdiffer : ∀ c, IsAscii c → ¬(a = c ∧ b = c) →
            ¬(a.toUInt8 = c.toUInt8 ∧ first = c.toUInt8) := by
          rintro c hc hchars ⟨hfirst, rfl⟩
          exact hchars ⟨(ha.toUInt8_inj hc).1 hfirst, (eq_of_bytes_cons hc hrest).1⟩
        rw [bytes_cons a, ha.utf8EncodeChar, List.singleton_append, hrest, balancedFrom,
          if_neg (hdiffer opening hopening (by simpa using hnot)),
          if_neg (hdiffer closing hclosing (by simpa using hnot')), ha.utf8Size]
      · obtain ⟨first, rest, hencode, hhigh⟩ := utf8EncodeChar_of_not_isAscii ha
        rw [bytes_cons a, ← String.length_utf8EncodeChar, hencode,
          balancedFrom_high hopening.toUInt8_lt hclosing.toUInt8_lt hhigh]
    rw [hskip, ih, Option.map_map]
    congr 1
    funext found
    simp only [Function.comp_apply, byteLength_cons]
    omega
  | case5 s depth hshort =>
    obtain _ | ⟨a, _ | ⟨b, s⟩⟩ := s
    · rfl
    · by_cases ha : IsAscii a
      · rw [bytes_cons, ha.utf8EncodeChar]
        rfl
      · obtain ⟨first, rest, hencode, hhigh⟩ := utf8EncodeChar_of_not_isAscii ha
        rw [bytes_cons, hencode,
          balancedFrom_high hopening.toUInt8_lt hclosing.toUInt8_lt hhigh]
        rfl
    · exact absurd rfl (hshort a b s)

/-! ## Separators at top level -/

/-- The token that starts with a byte and goes on with others, if there is one: what is open after
    it, and how many bytes it has after the first. Of a tag without an end only the first byte is
    taken. -/
def byteToken? (nesting : Nesting) (byte : UInt8) (rest : List UInt8) : Option (Nesting × Nat) :=
  let next := rest.head?
  if byte = '{'.toUInt8 && next = some '{'.toUInt8 then
    some ({ nesting with calls := nesting.calls + 1 }, 1)
  else if byte = '}'.toUInt8 && next = some '}'.toUInt8 && 0 < nesting.calls then
    some ({ nesting with calls := nesting.calls - 1 }, 1)
  else if byte = '['.toUInt8 && next = some '['.toUInt8 then
    some ({ nesting with links := nesting.links + 1 }, 1)
  else if byte = ']'.toUInt8 && next = some ']'.toUInt8 && 0 < nesting.links then
    some ({ nesting with links := nesting.links - 1 }, 1)
  else if byte = '<'.toUInt8 && nesting.isTop &&
      next.any (onAscii opensTag) then
    some (nesting, ((rest.findIdx? (· == '>'.toUInt8)).map (· + 1)).getD 0)
  else none

/-- The state of the search for separators. -/
structure TopLevelScan where
  nesting : Nesting
  /-- The indices of the separators so far. -/
  found : List Nat
  /-- The index of the next byte. -/
  index : Nat

/-- The byte at an index, if the index is in range. -/
def byteAt (bytes : List UInt8) (index : Nat) : Part UInt8 :=
  Part.ofOption bytes[index]?

/-- One turn of the search for separators. -/
def topLevelTurn (bytes : List UInt8) (wanted : UInt8) : TopLevelScan →. List Nat ⊕ TopLevelScan :=
  fun scan =>
    if scan.index < bytes.length then do
      let byte ← byteAt bytes scan.index
      let rest ← listSlice bytes (scan.index + 1) bytes.length
      return match byteToken? scan.nesting byte rest with
        | some (nesting, more) => .inr { scan with nesting, index := scan.index + 1 + more }
        | none =>
          if byte = wanted && scan.nesting.isTop then
            .inr { scan with found := scan.found ++ [scan.index], index := scan.index + 1 }
          else .inr { scan with index := scan.index + 1 }
    else return .inl scan.found

/-- The indices of the bytes that stand in no call, no link and no tag. -/
def topLevelBytes (bytes : List UInt8) (wanted : UInt8) : Part (List Nat) :=
  (topLevelTurn bytes wanted).fix ⟨.top, [], 0⟩

/-- What the search still finds from an index on, given the bytes from there. The first number
    counts the bytes of the current token still to come. -/
def topLevelFrom (wanted : UInt8) : Nesting → Nat → Nat → List UInt8 → List Nat
  | _, _, _, [] => []
  | nesting, more + 1, index, _ :: rest => topLevelFrom wanted nesting more (index + 1) rest
  | nesting, 0, index, byte :: rest =>
    match byteToken? nesting byte rest with
    | some (nesting, more) => topLevelFrom wanted nesting more (index + 1) rest
    | none =>
      if byte = wanted && nesting.isTop then
        index :: topLevelFrom wanted nesting 0 (index + 1) rest
      else topLevelFrom wanted nesting 0 (index + 1) rest

/-- The bytes of a token are passed. -/
theorem topLevelFrom_drop (wanted : UInt8) (nesting : Nesting) (more index : Nat)
    (bytes : List UInt8) :
    topLevelFrom wanted nesting more index bytes =
      topLevelFrom wanted nesting 0 (index + more) (bytes.drop more) := by
  induction more generalizing index bytes with
  | zero => rfl
  | succ more ih =>
    cases bytes with
    | nil => simp [topLevelFrom]
    | cons byte rest =>
      rw [topLevelFrom, ih, List.drop_succ_cons, Nat.add_assoc, Nat.add_comm 1 more]

/-- The loop that looks for separators ends in what the recursion finds. -/
theorem topLevelBytes_eq (bytes : List UInt8) (wanted : UInt8) :
    topLevelBytes bytes wanted = .some (topLevelFrom wanted .top 0 0 bytes) := by
  refine fix_eq_some
    (fun scan result => result =
      scan.found ++ topLevelFrom wanted scan.nesting 0 scan.index (bytes.drop scan.index))
    (fun scan => bytes.length - scan.index) ?_ rfl
  rintro ⟨nesting, found, index⟩ _ rfl
  by_cases hrange : index < bytes.length
  · have hbyte : byteAt bytes index = .some bytes[index] := by
      rw [byteAt, List.getElem?_eq_getElem hrange]
      rfl
    have hslice : listSlice bytes (index + 1) bytes.length = .some (bytes.drop (index + 1)) := by
      rw [listSlice_eq_some hrange (Nat.le_refl _), List.take_length]
    simp only [topLevelTurn, hrange, if_true, hbyte, hslice, List.drop_eq_getElem_cons hrange,
      topLevelFrom, Part.bind_eq_bind, Part.bind_some, Part.pure_eq_some]
    cases byteToken? nesting bytes[index] (bytes.drop (index + 1)) with
    | some token =>
      refine .inr ⟨⟨token.1, found, index + 1 + token.2⟩, rfl, by simp only; omega, ?_⟩
      simp only [topLevelFrom_drop wanted token.1 token.2, List.drop_drop]
    | none =>
      dsimp only
      split
      · refine .inr ⟨⟨nesting, found ++ [index], index + 1⟩, rfl, by simp only; omega, ?_⟩
        simp only [List.append_assoc, List.singleton_append]
      · exact .inr ⟨⟨nesting, found, index + 1⟩, rfl, by simp only; omega, rfl⟩
  · left
    have hend : bytes.drop index = [] := List.drop_eq_nil_of_le (Nat.le_of_not_lt hrange)
    simp only [topLevelTurn, hrange, if_false, hend, topLevelFrom, List.append_nil,
      Part.pure_eq_some]

/-- No token starts with a byte beyond ASCII. -/
theorem byteToken?_high {byte : UInt8} (h : 128 ≤ byte) (nesting : Nesting) (rest : List UInt8) :
    byteToken? nesting byte rest = none := by
  simp [byteToken?, ne_toUInt8_of_le h (c := '{') (by decide),
    ne_toUInt8_of_le h (c := '}') (by decide), ne_toUInt8_of_le h (c := '[') (by decide),
    ne_toUInt8_of_le h (c := ']') (by decide), ne_toUInt8_of_le h (c := '<') (by decide)]

/-- Bytes beyond ASCII are passed one by one. -/
theorem topLevelFrom_high {wanted : Char} (hwanted : IsAscii wanted) {high : List UInt8}
    (hhigh : ∀ b ∈ high, 128 ≤ b) (nesting : Nesting) (index : Nat) (rest : List UInt8) :
    topLevelFrom wanted.toUInt8 nesting 0 index (high ++ rest) =
      topLevelFrom wanted.toUInt8 nesting 0 (index + high.length) rest := by
  induction high generalizing index with
  | nil => rfl
  | cons first high ih =>
    obtain ⟨hfirst, hrest⟩ := List.forall_mem_cons.1 hhigh
    have hother : (first = wanted.toUInt8 && nesting.isTop) = false := by
      simp [ne_toUInt8_of_le hfirst hwanted]
    rw [List.cons_append, topLevelFrom, byteToken?_high hfirst]
    simp only [hother, Bool.false_eq_true, if_false]
    rw [ih hrest, List.length_cons, Nat.add_assoc, Nat.add_comm 1]

theorem isAscii_of_opensTag {d : Char} (h : opensTag d) : IsAscii d := by
  rcases Bool.or_eq_true_iff.1 h with hletter | hslash
  · exact isAscii_of_isAsciiLetter hletter
  · rw [beq_iff_eq.1 hslash]
    decide

/-- A token among the characters, with its length in bytes. -/
def inBytes (s : Chars) (token : Nesting × Nat) : Nesting × Nat :=
  (token.1, byteLength (s.take token.2))

/-- A doubled bracket has as many bytes as characters. -/
theorem inBytes_pair {c : Char} (hc : IsAscii c) {s : Chars} (h : s.head? = some c)
    (after : Nesting) : inBytes s (after, 1) = (after, 1) := by
  rw [inBytes, List.take_one, h, Option.toList_some, byteLength_cons, hc.utf8Size, byteLength_nil]

/-- Where a doubled bracket is the token among the bytes, it is the token among the characters. -/
theorem pair_or_else {found : Prop} [Decidable found] {c : Char} (hc : IsAscii c) {s : Chars}
    (hfound : found → s.head? = some c) {after : Nesting}
    {ofBytes ofChars last : Option (Nesting × Nat)}
    (h : ofBytes = (ofChars.map (inBytes s)).or last) :
    (if found then some (after, 1) else ofBytes) =
      ((if found then some (after, 1) else ofChars).map (inBytes s)).or last := by
  by_cases hpair : found
  · rw [if_pos hpair, if_pos hpair, Option.map_some, inBytes_pair hc (hfound hpair)]
    rfl
  · rw [if_neg hpair, if_neg hpair, h]

/-- The tag that is a token among the characters ends with its first `>`. -/
theorem inBytes_tag {s inner rest : Chars} (h : cutAt? (· == '>') s = some (inner, rest))
    (nesting : Nesting) :
    inBytes s (nesting, inner.length + 1) = (nesting, byteLength inner + 1) := by
  obtain ⟨last, hlast, hs⟩ := eq_append_of_cutAt? h
  have htag : s.take (inner.length + 1) = inner ++ [last] := by
    rw [hs, ← List.singleton_append, ← List.append_assoc, List.take_left' (by simp)]
  have hascii : IsAscii last := by
    rw [beq_iff_eq.1 hlast]
    decide
  simp [inBytes, htag, hascii.utf8Size]

/-- Among the bytes the tokens are those among the characters, except that a tag without an end is
    a token there. -/
theorem byteToken?_bytes (nesting : Nesting) {c : Char} (hc : IsAscii c) (s : Chars) :
    byteToken? nesting c.toUInt8 s.bytes =
      ((nesting.token? c s).map (inBytes s)).or
        (if nesting.isTop && startsTag c s then some (nesting, 0) else none) := by
  have hbyte : ∀ x, IsAscii x → (c.toUInt8 = x.toUInt8 ↔ c = x) := fun x hx => hc.toUInt8_inj hx
  have hnext : ∀ x, IsAscii x → (s.bytes.head? = some x.toUInt8 ↔ s.head? = some x) :=
    fun x hx => head?_bytes_eq_some_iff hx s
  have hopens := (TestsAscii.onAscii @isAscii_of_opensTag).any_head?_bytes s
  have hstarts : (c = '<' && nesting.isTop && s.head?.any opensTag) =
      (nesting.isTop && startsTag c s) := by
    rw [startsTag, Bool.and_assoc, Bool.and_left_comm]
  have hclosed : s.bytes.findIdx? (· == '>'.toUInt8) =
      (cutAt? (· == '>') s).map fun found => byteLength found.1 :=
    (TestsAscii.eq (by decide)).findIdx?_bytes s
  unfold byteToken? Nesting.token?
  simp only [hbyte '{' (by decide), hbyte '}' (by decide), hbyte '[' (by decide),
    hbyte ']' (by decide), hbyte '<' (by decide), hnext '{' (by decide), hnext '}' (by decide),
    hnext '[' (by decide), hnext ']' (by decide), hopens, hstarts, hclosed]
  refine pair_or_else (c := '{') (by decide) (fun h => ?_) ?_
  · simp only [Bool.and_eq_true, decide_eq_true_eq] at h
    exact h.2
  refine pair_or_else (c := '}') (by decide) (fun h => ?_) ?_
  · simp only [Bool.and_eq_true, decide_eq_true_eq] at h
    exact h.1.2
  refine pair_or_else (c := '[') (by decide) (fun h => ?_) ?_
  · simp only [Bool.and_eq_true, decide_eq_true_eq] at h
    exact h.2
  refine pair_or_else (c := ']') (by decide) (fun h => ?_) ?_
  · simp only [Bool.and_eq_true, decide_eq_true_eq] at h
    exact h.1.2
  split
  · cases hcut : cutAt? (· == '>') s with
    | none => rfl
    | some found =>
      simp only [Option.map_some, Option.getD_some, inBytes_tag hcut, Option.some_or]
  · rfl

/-- The indices of the separators between parts, when the first part starts at an index. -/
def partEnds : Nat → List Chars → List Nat
  | index, part :: next :: parts =>
    (index + byteLength part) :: partEnds (index + byteLength part + 1) (next :: parts)
  | _, _ => []

theorem partEnds_cons (index : Nat) (part : Chars) {parts : List Chars} (h : parts ≠ []) :
    partEnds index (part :: parts) =
      (index + byteLength part) :: partEnds (index + byteLength part + 1) parts := by
  cases parts with
  | nil => exact absurd rfl h
  | cons next parts => rfl

theorem partEnds_consFirst (index : Nat) (c : Char) {parts : List Chars} (h : parts ≠ []) :
    partEnds index (consFirst c parts) = partEnds (index + c.utf8Size) parts := by
  match parts with
  | [] => exact absurd rfl h
  | [part] => rfl
  | part :: next :: parts =>
    simp only [consFirst, partEnds, byteLength_cons, Nat.add_assoc]

/-- All tokens start with ASCII characters. -/
theorem isAscii_of_token? {nesting : Nesting} {c : Char} {s : Chars} {token : Nesting × Nat}
    (h : nesting.token? c s = some token) : IsAscii c := by
  have hstart : c = '{' ∨ c = '}' ∨ c = '[' ∨ c = ']' ∨ c = '<' := by
    by_contra hother
    simp only [not_or] at hother
    simp [Nesting.token?, hother, startsTag] at h
  rcases hstart with rfl | rfl | rfl | rfl | rfl <;> decide

/-- Among the bytes the separators are found that lie between the parts of the text. -/
theorem topLevelFrom_bytes {wanted : Char} (hwanted : IsAscii wanted) (nesting : Nesting)
    (more index : Nat) (s : Chars) :
    topLevelFrom wanted.toUInt8 nesting 0 (index + byteLength (s.take more))
      (bytes (s.drop more)) = partEnds index (splitFrom wanted nesting more s) := by
  fun_induction splitFrom wanted nesting more s generalizing index with
  | case1 nesting more => simp [topLevelFrom, partEnds]
  | case2 nesting more c s ih =>
    rw [partEnds_consFirst index c (splitFrom_ne_nil _ _ _ _), ← ih, List.take_succ_cons,
      List.drop_succ_cons, byteLength_cons, Nat.add_assoc]
  | case3 nesting c s after more htoken ih =>
    have hc := isAscii_of_token? htoken
    rw [partEnds_consFirst index c (splitFrom_ne_nil _ _ _ _), ← ih, hc.utf8Size, List.take_zero,
      List.drop_zero, bytes_cons, hc.utf8EncodeChar, List.singleton_append, topLevelFrom,
      byteToken?_bytes nesting hc, htoken, Option.map_some, Option.some_or, inBytes]
    dsimp only
    rw [topLevelFrom_drop, drop_bytes, byteLength_nil, Nat.add_zero]
  | case4 nesting c s htoken hseparator ih =>
    obtain ⟨rfl, htop, hplain⟩ := cutsAt_iff.1 hseparator
    rw [partEnds_cons index [] (splitFrom_ne_nil _ _ _ _), ← ih, List.take_zero, List.drop_zero,
      bytes_cons, hwanted.utf8EncodeChar, List.singleton_append, topLevelFrom,
      byteToken?_bytes nesting hwanted, htoken]
    simp [hplain, htop]
  | case5 nesting c s htoken hother ih =>
    rw [partEnds_consFirst index c (splitFrom_ne_nil _ _ _ _), ← ih]
    simp only [List.take_zero, List.drop_zero, byteLength_nil, Nat.add_zero]
    by_cases hc : IsAscii c
    · rw [bytes_cons, hc.utf8EncodeChar, List.singleton_append, topLevelFrom,
        byteToken?_bytes nesting hc, htoken, hc.utf8Size, Option.map_none, Option.none_or]
      split
      · next hfound =>
        obtain ⟨-, htoken⟩ := Option.ite_none_right_eq_some.1 hfound
        cases htoken
        rfl
      · next hnone =>
        have hbyte : (c.toUInt8 = wanted.toUInt8 && nesting.isTop) = false := by
          rw [Bool.eq_false_iff]
          intro hfound
          obtain ⟨hsame, htop⟩ : c = wanted ∧ nesting.isTop := by
            simpa [hc.toUInt8_inj hwanted] using hfound
          have hplain : startsTag c s = false := by simpa [htop] using hnone
          exact hother (cutsAt_iff.2 ⟨hsame, htop, hplain⟩)
        rw [hbyte]
        rfl
    · obtain ⟨first, rest, hencode, hhigh⟩ := utf8EncodeChar_of_not_isAscii hc
      rw [bytes_cons, ← String.length_utf8EncodeChar, hencode, topLevelFrom_high hwanted hhigh]

end Markup.Checked

end GenreProse
