-- SUMMARY: A value without numbers is read back from its text, unless it nests too deep.
import GenreProse.Proofs.Json.Strings
import Mathlib.Data.List.DropRight

/-!
# Reading back what is written

Both layouts put nothing but blanks around the parts of a value, and the reader skips blanks. So a
value without numbers is read back from its text if the limit of the reader allows its arrays and
objects to nest that deep, and is refused otherwise.
-/

namespace GenreProse

namespace Json

variable {layout : Layout} {s rest : Chars} {level limit : Nat}

/-! ## Values -/

mutual

/-- How deep arrays and objects nest. -/
def depth : Json → Nat
  | array items => itemsDepth items + 1
  | object members => membersDepth members + 1
  | _ => 0

def itemsDepth : List Json → Nat
  | [] => 0
  | item :: items => max (depth item) (itemsDepth items)

def membersDepth : List (String × Json) → Nat
  | [] => 0
  | (_, value) :: members => max (depth value) (membersDepth members)

end

inductive HasNoNumbers : Json → Prop where
  | null : HasNoNumbers .null
  | bool (value : Bool) : HasNoNumbers (.bool value)
  | string (text : String) : HasNoNumbers (.string text)
  | array {items : List Json} (h : ∀ item ∈ items, HasNoNumbers item) :
      HasNoNumbers (.array items)
  | object {members : List (String × Json)}
      (h : ∀ member ∈ members, HasNoNumbers member.2) :
      HasNoNumbers (.object members)

/-! ## Blanks -/

/-- Whether a text is nothing but blanks between tokens. -/
def IsSpacing (s : Chars) : Prop :=
  skipBlanks s = []

/-- Whether a text starts with a character that neither is a blank nor closes anything. -/
def Opens (s : Chars) : Prop :=
  ∃ c tail, s = c :: tail ∧ c ∉ [' ', '\n', '\t', '\r', ']', '\x7d']

/-- Whether a layout puts nothing but blanks around the parts. -/
structure Layout.IsSpaced (layout : Layout) : Prop where
  lineBreak : ∀ level, IsSpacing (layout.lineBreak level).toList
  colon : ∃ spacing, layout.colon.toList = ':' :: spacing ∧ IsSpacing spacing

theorem skipBlanks_append (h : IsSpacing s) (rest : Chars) :
    skipBlanks (s ++ rest) = skipBlanks rest := by
  have hempty : (skipBlanks s).isEmpty = true := by
    rw [h, List.isEmpty_nil]
  exact List.dropWhile_append.trans (if_pos hempty)

theorem skipBlanks_skipBlanks (s : Chars) : skipBlanks (skipBlanks s) = skipBlanks s :=
  List.dropWhile_idempotent _ s

/-- A text that opens a value has no blanks before it. -/
theorem Opens.skipBlanks_eq (h : Opens s) : skipBlanks s = s := by
  obtain ⟨c, tail, rfl, hopens⟩ := h
  apply List.dropWhile_cons_of_neg
  intro hblank
  apply hopens
  simp only [Bool.or_eq_true, beq_iff_eq] at hblank
  simp only [List.mem_cons]
  tauto

theorem Opens.append (h : Opens s) (rest : Chars) : Opens (s ++ rest) := by
  obtain ⟨c, tail, rfl, hopens⟩ := h
  exact ⟨c, tail ++ rest, rfl, hopens⟩

theorem isSpaced_compact : Layout.compact.IsSpaced :=
  ⟨fun _ => rfl, [], rfl, rfl⟩

theorem isSpacing_replicate (n : Nat) : IsSpacing (List.replicate n ' ') := by
  apply List.dropWhile_eq_nil_iff.2
  intro c hc
  obtain rfl := List.eq_of_mem_replicate hc
  rfl

theorem isSpaced_indented : Layout.indented.IsSpaced := by
  refine ⟨fun level => ?_, [' '], rfl, rfl⟩
  have hbreak : (Layout.indented.lineBreak level).toList
      = ['\n'] ++ List.replicate (2 * level) ' ' := by
    simp [Layout.indented]
  have hnewline : IsSpacing ['\n'] := rfl
  rw [hbreak]
  exact (skipBlanks_append hnewline _).trans (isSpacing_replicate _)

/-! ## Parts -/

/-- The parts after the first, each after a comma. -/
def Layout.following (layout : Layout) (level : Nat) (parts : List String) : Chars :=
  parts.flatMap fun part => ',' :: ((layout.lineBreak level).toList ++ part.toList)

theorem toList_join (first : String) (parts : List String) :
    (Text.join "," (first :: parts)).toList
      = first.toList ++ parts.flatMap fun part => ',' :: part.toList := by
  induction parts generalizing first with
  | nil => simp [Text.join]
  | cons next parts ih =>
    have hnext : (Text.join "," (first :: next :: parts)).toList
        = first.toList ++ (',' :: (Text.join "," (next :: parts)).toList) := by
      simp [Text.join]
    rw [hnext, ih, List.flatMap_cons, List.cons_append]

/-- The parts of an array or an object stand between its brackets, each on a line of its own if the
    layout has lines. -/
theorem toList_enclose (opening closing first : String) (parts : List String) :
    (layout.enclose level opening closing (first :: parts)).toList
      = opening.toList ++ ((layout.lineBreak (level + 1)).toList ++ (first.toList
        ++ (layout.following (level + 1) parts
          ++ ((layout.lineBreak level).toList ++ closing.toList)))) := by
  have hparts : (parts.map fun part => layout.lineBreak (level + 1) ++ part).flatMap
      (fun part => ',' :: part.toList) = layout.following (level + 1) parts := by
    rw [List.flatMap_map, Layout.following]
    simp only [String.toList_append]
  rw [Layout.enclose, if_neg (by simp), List.map_cons]
  simp only [String.toList_append, toList_join, hparts, List.append_assoc]

/-- Each part has at least a comma before it. -/
theorem length_following (layout : Layout) (level : Nat) (parts : List String) :
    parts.length ≤ (layout.following level parts).length := by
  induction parts with
  | nil => exact Nat.le_refl 0
  | cons part parts ih =>
    rw [Layout.following, List.flatMap_cons, List.length_append, List.length_cons,
      List.length_cons]
    have hrest : parts.length ≤ (parts.flatMap fun part =>
      ',' :: ((layout.lineBreak level).toList ++ part.toList)).length := ih
    omega

/-! ## Bounds -/

section

variable {α β : Type} (f : α → β) (a : α) (first others : Nat)

/-- A limit for the parts is a limit for the whole, one level up. -/
theorem map_ite_le : (if others ≤ limit then some a else none).map f
    = if others + 1 ≤ limit + 1 then some (f a) else none := by
  by_cases hfits : others ≤ limit
  · rw [if_pos hfits, if_pos (Nat.succ_le_succ hfits)]
    rfl
  · rw [if_neg hfits, if_neg fun h => hfits (Nat.le_of_succ_le_succ h)]
    rfl

/-- A limit for the first part and for the others is a limit for all parts. -/
theorem ite_map_ite_le :
    (if first ≤ limit then (if others ≤ limit then some a else none).map f else none)
      = if max first others ≤ limit then some (f a) else none := by
  by_cases hfirst : first ≤ limit
  · by_cases hothers : others ≤ limit
    · rw [if_pos hfirst, if_pos hothers, if_pos (Nat.max_le.2 ⟨hfirst, hothers⟩)]
      rfl
    · rw [if_pos hfirst, if_neg hothers, if_neg fun h => hothers (Nat.max_le.1 h).2]
      rfl
  · rw [if_neg hfirst, if_neg fun h => hfirst (Nat.max_le.1 h).1]

end

/-! ## Reading parts -/

/-- Whether a value is read from its text, or refused if it nests too deep. -/
def ReadsBack (layout : Layout) (value : Json) : Prop :=
  ∀ level limit rest, readValue limit ((write layout level value).toList ++ rest)
    = if value.depth ≤ limit then some (value, rest) else none

theorem write_emptyArray (level : Nat) : write layout level (.array []) = "[]" := by
  rw [write, writeItems]
  rfl

theorem write_emptyObject (level : Nat) : write layout level (.object []) = "\x7b\x7d" := by
  rw [write, writeMembers]
  rfl

/-- A value that is written starts with the character that opens it. -/
theorem HasNoNumbers.opens {value : Json} (h : value.HasNoNumbers) (level : Nat) :
    Opens (write layout level value).toList := by
  cases h with
  | null => exact ⟨'n', ['u', 'l', 'l'], by rw [write]; rfl, by decide⟩
  | bool value =>
    cases value with
    | true => exact ⟨'t', ['r', 'u', 'e'], by rw [write]; rfl, by decide⟩
    | false => exact ⟨'f', ['a', 'l', 's', 'e'], by rw [write]; rfl, by decide⟩
  | string text => exact ⟨'"', _, toList_quote text, by decide⟩
  | @array items h =>
    cases items with
    | nil => exact ⟨'[', [']'], congrArg String.toList (write_emptyArray level), by decide⟩
    | cons item items => exact ⟨'[', _, toList_enclose "[" "]" _ _, by decide⟩
  | @object members h =>
    cases members with
    | nil =>
      exact ⟨'\x7b', ['\x7d'], congrArg String.toList (write_emptyObject level), by decide⟩
    | cons member members => exact ⟨'\x7b', _, toList_enclose "\x7b" "\x7d" _ _, by decide⟩

/-- What a text of parts starts with is read next. -/
theorem skipBlanks_part (hlayout : layout.IsSpaced) (level : Nat) {part : Chars}
    (hopens : Opens part) (after : Chars) :
    skipBlanks ((layout.lineBreak level).toList ++ (part ++ after)) = part ++ after := by
  rw [skipBlanks_append (hlayout.lineBreak level)]
  exact (hopens.append after).skipBlanks_eq

theorem following_cons (part : String) (parts : List String) (after : Chars) :
    layout.following level (part :: parts) ++ after
      = ',' :: ((layout.lineBreak level).toList
        ++ (part.toList ++ (layout.following level parts ++ after))) := by
  simp [Layout.following]

section

variable {item value : Json} {key : String} {bound : Nat} {after more : Chars}

/-- An item before a comma is read, and then the items after it. -/
theorem readItems_comma (hlayout : layout.IsSpaced)
    (hopens : Opens (write layout level item).toList) (hreads : ReadsBack layout item)
    (hafter : skipBlanks after = ',' :: more) :
    readItems (readValue limit) (bound + 1)
        ((layout.lineBreak level).toList ++ ((write layout level item).toList ++ after))
      = if item.depth ≤ limit then
          (readItems (readValue limit) bound more).map fun read => (item :: read.1, read.2)
        else none := by
  rw [readItems, skipBlanks_part hlayout level hopens, hreads level limit after]
  by_cases hfits : item.depth ≤ limit
  · simp only [if_pos hfits, hafter]
  · simp only [if_neg hfits]

/-- An item before a bracket is the last. -/
theorem readItems_bracket (hlayout : layout.IsSpaced)
    (hopens : Opens (write layout level item).toList) (hreads : ReadsBack layout item)
    (hafter : skipBlanks after = ']' :: more) :
    readItems (readValue limit) (bound + 1)
        ((layout.lineBreak level).toList ++ ((write layout level item).toList ++ after))
      = if item.depth ≤ limit then some ([item], more) else none := by
  rw [readItems, skipBlanks_part hlayout level hopens, hreads level limit after]
  by_cases hfits : item.depth ≤ limit
  · simp only [if_pos hfits, hafter]
  · simp only [if_neg hfits]

theorem opens_quote (key : String) : Opens (quote key).toList :=
  ⟨'"', _, toList_quote key, by decide⟩

/-- The key of a member is read, and then its value. -/
theorem exists_key (hlayout : layout.IsSpaced) (hopens : Opens (write layout level value).toList)
    (hreads : ReadsBack layout value) (key : String) (after : Chars) :
    ∃ text between, skipBlanks ((layout.lineBreak level).toList
        ++ ((quote key ++ layout.colon ++ write layout level value).toList ++ after))
          = '"' :: text ∧
      readString .plain none text = some (key.toList, ':' :: between) ∧
      ∀ limit, readValue limit (skipBlanks between)
        = if value.depth ≤ limit then some (value, after) else none := by
  obtain ⟨spacing, hcolon, hspacing⟩ := hlayout.colon
  have hmember : (quote key ++ layout.colon ++ write layout level value).toList ++ after
      = (quote key).toList
        ++ ':' :: (spacing ++ ((write layout level value).toList ++ after)) := by
    simp only [String.toList_append, hcolon, List.append_assoc, List.cons_append]
  obtain ⟨text, htext, hkey⟩ :=
    readString_quote key (':' :: (spacing ++ ((write layout level value).toList ++ after)))
  refine ⟨text, _, ?_, hkey, fun limit => ?_⟩
  · rw [hmember, skipBlanks_part hlayout level (opens_quote key), htext]
  · rw [skipBlanks_append hspacing, (hopens.append after).skipBlanks_eq]
    exact hreads level limit after

theorem skipBlanks_colon (s : Chars) : skipBlanks (':' :: s) = ':' :: s := rfl

theorem skipBlanks_comma (s : Chars) : skipBlanks (',' :: s) = ',' :: s := rfl

/-- A member before a comma is read, and then the members after it. -/
theorem readMembers_comma (hlayout : layout.IsSpaced)
    (hopens : Opens (write layout level value).toList) (hreads : ReadsBack layout value)
    (hafter : skipBlanks after = ',' :: more) :
    readMembers (readValue limit) (bound + 1)
        ((layout.lineBreak level).toList
          ++ ((quote key ++ layout.colon ++ write layout level value).toList ++ after))
      = if value.depth ≤ limit then
          (readMembers (readValue limit) bound more).map fun read =>
            ((key, value) :: read.1, read.2)
        else none := by
  obtain ⟨text, between, htext, hkey, hvalue⟩ := exists_key hlayout hopens hreads key after
  simp only [readMembers, htext, hkey, skipBlanks_colon, hvalue, String.ofList_toList]
  by_cases hfits : value.depth ≤ limit
  · simp only [if_pos hfits, hafter]
  · simp only [if_neg hfits]

/-- A member before a brace is the last. -/
theorem readMembers_brace (hlayout : layout.IsSpaced)
    (hopens : Opens (write layout level value).toList) (hreads : ReadsBack layout value)
    (hafter : skipBlanks after = '\x7d' :: more) :
    readMembers (readValue limit) (bound + 1)
        ((layout.lineBreak level).toList
          ++ ((quote key ++ layout.colon ++ write layout level value).toList ++ after))
      = if value.depth ≤ limit then some ([(key, value)], more) else none := by
  obtain ⟨text, between, htext, hkey, hvalue⟩ := exists_key hlayout hopens hreads key after
  simp only [readMembers, htext, hkey, skipBlanks_colon, hvalue, String.ofList_toList]
  by_cases hfits : value.depth ≤ limit
  · simp only [if_pos hfits, hafter]
  · simp only [if_neg hfits]

end

/-- The items of an array are read up to its bracket. -/
theorem readItems_write (hlayout : layout.IsSpaced) {closing : Chars} (hclosing : IsSpacing closing)
    (item : Json) (items : List Json) {bound : Nat} (hbound : items.length < bound)
    (hopens : ∀ other ∈ item :: items, Opens (write layout level other).toList)
    (hreads : ∀ other ∈ item :: items, ReadsBack layout other) :
    readItems (readValue limit) bound
        ((layout.lineBreak level).toList ++ ((write layout level item).toList
          ++ (layout.following level (writeItems layout level items) ++ (closing ++ ']' :: rest))))
      = if itemsDepth (item :: items) ≤ limit then some (item :: items, rest) else none := by
  induction items generalizing item bound with
  | nil =>
    obtain ⟨bound, rfl⟩ := Nat.exists_eq_succ_of_ne_zero (Nat.ne_zero_of_lt hbound)
    have hafter : skipBlanks (layout.following level (writeItems layout level [])
        ++ (closing ++ ']' :: rest)) = ']' :: rest := (skipBlanks_append hclosing _).trans rfl
    have hdepth : itemsDepth [item] = item.depth := Nat.max_zero _
    rw [readItems_bracket hlayout (hopens item (by simp)) (hreads item (by simp)) hafter, hdepth]
  | cons next items ih =>
    obtain ⟨bound, rfl⟩ := Nat.exists_eq_succ_of_ne_zero (Nat.ne_zero_of_lt hbound)
    have hnext := ih next (Nat.lt_of_succ_lt_succ hbound)
      (fun other hmem => hopens other (List.mem_cons_of_mem _ hmem))
      (fun other hmem => hreads other (List.mem_cons_of_mem _ hmem))
    have hdepth : itemsDepth (item :: next :: items)
        = max item.depth (itemsDepth (next :: items)) := rfl
    rw [writeItems, following_cons, readItems_comma hlayout (hopens item (by simp))
      (hreads item (by simp)) (skipBlanks_comma _), hnext, hdepth]
    exact ite_map_ite_le _ _ _ _

/-- The members of an object are read up to its brace. -/
theorem readMembers_write (hlayout : layout.IsSpaced) {closing : Chars}
    (hclosing : IsSpacing closing) (key : String) (value : Json) (members : List (String × Json))
    {bound : Nat} (hbound : members.length < bound)
    (hopens : ∀ other ∈ (key, value) :: members, Opens (write layout level other.2).toList)
    (hreads : ∀ other ∈ (key, value) :: members, ReadsBack layout other.2) :
    readMembers (readValue limit) bound
        ((layout.lineBreak level).toList
          ++ ((quote key ++ layout.colon ++ write layout level value).toList
            ++ (layout.following level (writeMembers layout level members)
              ++ (closing ++ '\x7d' :: rest))))
      = if membersDepth ((key, value) :: members) ≤ limit then some ((key, value) :: members, rest)
        else none := by
  induction members generalizing key value bound with
  | nil =>
    obtain ⟨bound, rfl⟩ := Nat.exists_eq_succ_of_ne_zero (Nat.ne_zero_of_lt hbound)
    have hafter : skipBlanks (layout.following level (writeMembers layout level [])
        ++ (closing ++ '\x7d' :: rest)) = '\x7d' :: rest :=
      (skipBlanks_append hclosing _).trans rfl
    have hdepth : membersDepth [(key, value)] = value.depth := Nat.max_zero _
    rw [readMembers_brace hlayout (hopens (key, value) (by simp)) (hreads (key, value) (by simp))
      hafter, hdepth]
  | cons next members ih =>
    obtain ⟨bound, rfl⟩ := Nat.exists_eq_succ_of_ne_zero (Nat.ne_zero_of_lt hbound)
    obtain ⟨nextKey, nextValue⟩ := next
    have hnext := ih nextKey nextValue (Nat.lt_of_succ_lt_succ hbound)
      (fun other hmem => hopens other (List.mem_cons_of_mem _ hmem))
      (fun other hmem => hreads other (List.mem_cons_of_mem _ hmem))
    have hdepth : membersDepth ((key, value) :: (nextKey, nextValue) :: members)
        = max value.depth (membersDepth ((nextKey, nextValue) :: members)) := rfl
    rw [writeMembers, following_cons, readMembers_comma hlayout (hopens (key, value) (by simp))
      (hreads (key, value) (by simp)) (skipBlanks_comma _), hnext, hdepth]
    exact ite_map_ite_le _ _ _ _

/-! ## Reading values -/

theorem readValue_quote (limit : Nat) (s : Chars) : readValue limit ('"' :: s)
    = (readString .plain none s).map fun (text, rest) => (.string (String.ofList text), rest) := by
  cases limit <;> rfl

theorem readItems_skipBlanks (value : Chars → Option (Json × Chars)) (bound : Nat) (s : Chars) :
    readItems value bound (skipBlanks s) = readItems value bound s := by
  cases bound with
  | zero => rfl
  | succ bound => rw [readItems, readItems, skipBlanks_skipBlanks]

theorem readMembers_skipBlanks (value : Chars → Option (Json × Chars)) (bound : Nat) (s : Chars) :
    readMembers value bound (skipBlanks s) = readMembers value bound s := by
  cases bound with
  | zero => rfl
  | succ bound => rw [readMembers, readMembers, skipBlanks_skipBlanks]

/-- After an opening bracket the items are read. -/
theorem readValue_bracket (h : Opens (skipBlanks s)) : readValue (limit + 1) ('[' :: s)
    = (readItems (readValue limit) (skipBlanks s).length s).map fun (items, rest) =>
      (.array items, rest) := by
  obtain ⟨c, tail, hs, hopens⟩ := h
  rw [← readItems_skipBlanks]
  simp only [readValue, hs]
  split
  · next heq =>
    obtain ⟨rfl, -⟩ := List.cons.inj heq
    exact absurd hopens (by decide)
  · rfl

/-- After an opening brace the members are read. -/
theorem readValue_brace (h : Opens (skipBlanks s)) : readValue (limit + 1) ('\x7b' :: s)
    = (readMembers (readValue limit) (skipBlanks s).length s).map fun (members, rest) =>
      (.object members, rest) := by
  obtain ⟨c, tail, hs, hopens⟩ := h
  rw [← readMembers_skipBlanks]
  simp only [readValue, hs]
  split
  · next heq =>
    obtain ⟨rfl, -⟩ := List.cons.inj heq
    exact absurd hopens (by decide)
  · rfl

theorem readsBack_string (text : String) : ReadsBack layout (.string text) := by
  intro level limit rest
  obtain ⟨tail, htail, hread⟩ := readString_quote text rest
  have hdepth : (Json.string text).depth ≤ limit := Nat.zero_le _
  rw [write, htail, readValue_quote, hread, if_pos hdepth]
  exact congrArg (fun text => some (Json.string text, rest)) String.ofList_toList

theorem length_writeItems (items : List Json) :
    (writeItems layout level items).length = items.length := by
  induction items with
  | nil => rfl
  | cons item items ih => rw [writeItems, List.length_cons, ih, List.length_cons]

theorem length_writeMembers (members : List (String × Json)) :
    (writeMembers layout level members).length = members.length := by
  induction members with
  | nil => rfl
  | cons member members ih => rw [writeMembers, List.length_cons, ih, List.length_cons]

/-- The first part is a character, and so is each comma before another one. -/
theorem length_parts (layout : Layout) (level : Nat) {first : Chars} (hopens : Opens first)
    (parts : List String) (after : Chars) :
    parts.length < (first ++ (layout.following level parts ++ after)).length := by
  obtain ⟨c, tail, rfl, -⟩ := hopens
  have hparts := length_following layout level parts
  simp only [List.length_append, List.length_cons]
  omega

/-- How an array with items is written. -/
theorem toList_writeArray (item : Json) (items : List Json) (rest : Chars) :
    (write layout level (.array (item :: items))).toList ++ rest
      = '[' :: ((layout.lineBreak (level + 1)).toList
        ++ ((write layout (level + 1) item).toList
          ++ (layout.following (level + 1) (writeItems layout (level + 1) items)
            ++ ((layout.lineBreak level).toList ++ ']' :: rest)))) := by
  rw [write, writeItems, toList_enclose]
  simp

/-- How an object with members is written. -/
theorem toList_writeObject (key : String) (value : Json) (members : List (String × Json))
    (rest : Chars) :
    (write layout level (.object ((key, value) :: members))).toList ++ rest
      = '\x7b' :: ((layout.lineBreak (level + 1)).toList
        ++ ((quote key ++ layout.colon ++ write layout (level + 1) value).toList
          ++ (layout.following (level + 1) (writeMembers layout (level + 1) members)
            ++ ((layout.lineBreak level).toList ++ '\x7d' :: rest)))) := by
  rw [write, writeMembers, toList_enclose]
  simp

/-- An array is read back if its items are. -/
theorem readsBack_array (hlayout : layout.IsSpaced) {items : List Json}
    (hopens : ∀ item ∈ items, ∀ level, Opens (write layout level item).toList)
    (hreads : ∀ item ∈ items, ReadsBack layout item) : ReadsBack layout (.array items) := by
  intro level limit rest
  cases items with
  | nil =>
    rw [write_emptyArray]
    cases limit with
    | zero => rfl
    | succ limit => rfl
  | cons item items =>
    rw [toList_writeArray]
    cases limit with
    | zero => rfl
    | succ limit =>
      have hfirst := hopens item List.mem_cons_self (level + 1)
      have hskip := skipBlanks_part hlayout (level + 1) hfirst
        (layout.following (level + 1) (writeItems layout (level + 1) items)
          ++ ((layout.lineBreak level).toList ++ ']' :: rest))
      have hbound := length_parts layout (level + 1) hfirst
        (writeItems layout (level + 1) items) ((layout.lineBreak level).toList ++ ']' :: rest)
      rw [length_writeItems] at hbound
      rw [readValue_bracket (by rw [hskip]; exact hfirst.append _), hskip,
        readItems_write hlayout (hlayout.lineBreak level) item items hbound
          (fun other hmem => hopens other hmem _) hreads]
      exact map_ite_le _ _ _

/-- An object is read back if the values of its members are. -/
theorem readsBack_object (hlayout : layout.IsSpaced) {members : List (String × Json)}
    (hopens : ∀ member ∈ members, ∀ level, Opens (write layout level member.2).toList)
    (hreads : ∀ member ∈ members, ReadsBack layout member.2) :
    ReadsBack layout (.object members) := by
  intro level limit rest
  cases members with
  | nil =>
    rw [write_emptyObject]
    cases limit with
    | zero => rfl
    | succ limit => rfl
  | cons member members =>
    obtain ⟨key, value⟩ := member
    rw [toList_writeObject]
    cases limit with
    | zero => rfl
    | succ limit =>
      have hfirst : Opens (quote key ++ layout.colon ++ write layout (level + 1) value).toList := by
        rw [String.append_assoc, String.toList_append]
        exact (opens_quote key).append _
      have hskip := skipBlanks_part hlayout (level + 1) hfirst
        (layout.following (level + 1) (writeMembers layout (level + 1) members)
          ++ ((layout.lineBreak level).toList ++ '\x7d' :: rest))
      have hbound := length_parts layout (level + 1) hfirst
        (writeMembers layout (level + 1) members)
        ((layout.lineBreak level).toList ++ '\x7d' :: rest)
      rw [length_writeMembers] at hbound
      rw [readValue_brace (by rw [hskip]; exact hfirst.append _), hskip,
        readMembers_write hlayout (hlayout.lineBreak level) key value members hbound
          (fun other hmem => hopens other hmem _) hreads]
      exact map_ite_le _ _ _

/-- A value without numbers is read back in any layout. -/
theorem HasNoNumbers.readsBack (hlayout : layout.IsSpaced) {value : Json}
    (h : value.HasNoNumbers) : ReadsBack layout value := by
  induction h with
  | null =>
    intro level limit rest
    rw [write]
    cases limit <;> rfl
  | bool value =>
    intro level limit rest
    cases value <;> rw [write] <;> cases limit <;> rfl
  | string text => exact readsBack_string text
  | array h ih => exact readsBack_array hlayout (fun item hmem => (h item hmem).opens) ih
  | object h ih => exact readsBack_object hlayout (fun member hmem => (h member hmem).opens) ih

/-- A text that is one value without numbers is read back, unless the value nests too deep. -/
theorem HasNoNumbers.readNested?_write (hlayout : layout.IsSpaced) {value : Json}
    (h : value.HasNoNumbers) (limit : Nat) :
    readNested? limit (write layout 0 value)
      = if value.depth ≤ limit then some value else none := by
  have hread := h.readsBack hlayout 0 limit []
  rw [List.append_nil] at hread
  rw [readNested?, (h.opens 0).skipBlanks_eq, hread]
  by_cases hfits : value.depth ≤ limit
  · rw [if_pos hfits, if_pos hfits]
    rfl
  · rw [if_neg hfits, if_neg hfits]

end Json

end GenreProse
