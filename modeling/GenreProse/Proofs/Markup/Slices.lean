-- SUMMARY: Reading tokens by slices at byte offsets, all of which are defined.
import GenreProse.Proofs.Markup.ClosingTag
import GenreProse.Proofs.Markup.Scanners

/-!
# Reading tokens by slices

Here a token is read at byte offsets: a scanner finds where a part ends, and a slice cuts the part
off. A slice has no result if its bounds are out of order, out of range or inside a character, and
neither has an index that is out of range. None of this happens, whatever the text is: each reader
has the result of the reader on characters.
-/

namespace GenreProse

open Chars

namespace Markup.Checked

/-! ## Parts at top level -/

/-- The slices of a text between the indices of separators, from an index on. -/
def splitAtOffsets (s : Chars) (start : Nat) : List Nat → Part (List Chars)
  | [] => do return [← sliceFrom s start]
  | index :: found => do
    let part ← slice s start index
    let parts ← splitAtOffsets s (index + 1) found
    return part :: parts

def splitTopLevel (separator : Char) (s : Chars) : Part (List Chars) := do
  splitAtOffsets s 0 (← topLevelBytes s.bytes separator.toUInt8)

def cutTopLevel (separator : Char) (s : Chars) : Part (Option (Chars × Chars)) := do
  match (← topLevelBytes s.bytes separator.toUInt8).head? with
  | some index => return some (← sliceTo s index, ← sliceFrom s (index + 1))
  | none => return none

/-- The separators that are found among the bytes end the parts. -/
theorem topLevelBytes_splitTopLevel {separator : Char} (hascii : IsAscii separator)
    (s : Chars) :
    topLevelBytes s.bytes separator.toUInt8 =
      .some (partEnds 0 (Markup.splitTopLevel separator s)) := by
  rw [topLevelBytes_eq]
  exact congrArg Part.some (topLevelFrom_bytes hascii .top 0 0 s)

/-- The slices between the ends of parts are the parts. -/
theorem splitAtOffsets_partEnds {separator : Char} (hascii : IsAscii separator) {s before : Chars}
    {parts : List Chars} {start : Nat} (hne : parts ≠ [])
    (hs : s = before ++ [separator].intercalate parts) (hstart : start = byteLength before) :
    splitAtOffsets s start (partEnds start parts) = .some parts := by
  induction parts generalizing before start with
  | nil => exact absurd rfl hne
  | cons part parts ih =>
    cases parts with
    | nil =>
      have hlast : s = before ++ part := by simpa [List.intercalate] using hs
      have hends : partEnds start [part] = [] := rfl
      rw [hends, splitAtOffsets, sliceFrom_eq_some hlast hstart]
      exact Part.bind_some _ _
    | cons next parts =>
      have hcut : s = before ++ (part ++ ([separator] ++
          [separator].intercalate (next :: parts))) := by
        simpa [List.intercalate] using hs
      have hrest : s = (before ++ part ++ [separator]) ++
          [separator].intercalate (next :: parts) := by
        simpa using hcut
      have hnext : start + byteLength part + 1 = byteLength (before ++ part ++ [separator]) := by
        simp [hstart, hascii.utf8Size, Nat.add_assoc]
      rw [partEnds, splitAtOffsets, slice_eq_some hcut hstart rfl,
        ih (List.cons_ne_nil _ _) hrest hnext]
      simp

/-- All slices between separators are in range, and are the parts. -/
theorem splitTopLevel_eq {separator : Char} (hascii : IsAscii separator)
    (s : Chars) :
    splitTopLevel separator s = .some (Markup.splitTopLevel separator s) := by
  rw [splitTopLevel, topLevelBytes_splitTopLevel hascii, Part.bind_eq_bind,
    Part.bind_some]
  have hs : s = [] ++ [separator].intercalate (Markup.splitTopLevel separator s) :=
    (intercalate_splitFrom separator .top 0 s).symm
  exact splitAtOffsets_partEnds hascii (splitFrom_ne_nil _ _ _ _) hs rfl

/-- The slices around the first separator are in range. -/
theorem cutTopLevel_eq {separator : Char} (hascii : IsAscii separator)
    (s : Chars) :
    cutTopLevel separator s = .some (cutTopLevel? separator s) := by
  have hjoined := intercalate_splitFrom separator .top 0 s
  rw [cutTopLevel, topLevelBytes_splitTopLevel hascii, Part.bind_eq_bind, Part.bind_some,
    cutTopLevel?]
  unfold Markup.splitTopLevel
  rcases hparts : splitFrom separator .top 0 s with _ | ⟨part, _ | ⟨next, parts⟩⟩
  · exact absurd hparts (splitFrom_ne_nil _ _ _ _)
  · rfl
  · have hcut : s = part ++ ([separator] ++ [separator].intercalate (next :: parts)) := by
      rw [hparts] at hjoined
      simpa [List.intercalate] using hjoined.symm
    have hend : 0 + byteLength part + 1 = byteLength (part ++ [separator]) := by
      simp [hascii.utf8Size]
    simp only [partEnds, List.head?_cons]
    rw [sliceTo_eq_some hcut (Nat.zero_add _),
      sliceFrom_eq_some (hcut.trans (List.append_assoc ..).symm) hend]
    simp

/-! ## Template calls and links -/

def parameter (s : Chars) : Part Parameter := do
  match ← cutTopLevel '=' s with
  | some (name, value) =>
    return ⟨some (String.ofList (Chars.trim name)), String.ofList value⟩
  | none => return ⟨none, String.ofList s⟩

/-- A parameter is read by slices in range. -/
theorem parameter_eq (s : Chars) : parameter s = .some (parseParameter s) := by
  rw [parameter, cutTopLevel_eq (by decide), parseParameter, Part.bind_eq_bind,
    Part.bind_some]
  cases cutTopLevel? '=' s <;> rfl

def template (inner : Chars) : Part Node := do
  match ← splitTopLevel '|' inner with
  | [] => return .template "" []
  | name :: parameters =>
    return .template (String.ofList (Chars.trim name)) (← parameters.mapM parameter)

theorem mapM_parameter (parts : List Chars) :
    parts.mapM parameter = .some (parts.map parseParameter) := by
  induction parts with
  | nil => rfl
  | cons part parts ih =>
    rw [List.mapM_cons, parameter_eq, ih]
    simp

/-- A call is read by slices in range. -/
theorem template_eq (inner : Chars) : template inner = .some (parseTemplate inner) := by
  rw [template, splitTopLevel_eq (by decide), parseTemplate, Part.bind_eq_bind,
    Part.bind_some]
  cases Markup.splitTopLevel '|' inner with
  | nil => rfl
  | cons name parameters =>
    dsimp only
    rw [mapM_parameter]
    exact Part.bind_some _ _

def link? (inner trail : Chars) : Part (Option Node) := do
  let (title, text) := (← cutTopLevel '|' inner).getD (inner, [])
  return linkTo? title text trail

/-- A link is read by slices in range. -/
theorem link?_eq (inner trail : Chars) : link? inner trail = .some (parseLink? inner trail) := by
  rw [link?, cutTopLevel_eq (by decide)]
  exact Part.bind_some _ _

/-! ## Brackets -/

section Brackets

variable {opening closing : Char} {s inner rest : Chars}

/-- After the opening brackets the search goes on as among characters. -/
theorem findBalanced_opened (hopening : IsAscii opening) (hclosing : IsAscii closing)
    (s : Chars) :
    findBalanced (bytes (opening :: opening :: s)) opening.toUInt8 closing.toUInt8 =
      .some ((balanced? opening closing 1 s).map fun found => 2 + byteLength found.1) := by
  rw [findBalanced_eq, bytes_pair hopening, balancedFrom, if_pos ⟨rfl, rfl⟩]
  exact congrArg Part.some (balancedFrom_bytes hopening hclosing 1 2 s)

theorem sliceFrom_opened (hopening : IsAscii opening) (s : Chars) :
    sliceFrom (opening :: opening :: s) 2 = .some s := by
  have hs : opening :: opening :: s = [opening, opening] ++ s := rfl
  exact sliceFrom_eq_some hs (by simp [hopening.utf8Size])

/-- The slice between the brackets is the inside. -/
theorem slice_balanced (hopening : IsAscii opening)
    (h : balanced? opening closing 1 s = some (inner, rest)) :
    slice (opening :: opening :: s) 2 (2 + byteLength inner) = .some inner := by
  have hs : opening :: opening :: s =
      [opening, opening] ++ (inner ++ closing :: closing :: rest) := by
    rw [eq_append_of_balanced? h]
    rfl
  exact slice_eq_some hs (by simp [hopening.utf8Size]) rfl

/-- The slice after the brackets is the rest. -/
theorem sliceFrom_balanced (hopening : IsAscii opening) (hclosing : IsAscii closing)
    (h : balanced? opening closing 1 s = some (inner, rest)) :
    sliceFrom (opening :: opening :: s) (2 + byteLength inner + 2) = .some rest := by
  have hs : opening :: opening :: s =
      ([opening, opening] ++ inner ++ [closing, closing]) ++ rest := by
    simp [eq_append_of_balanced? h]
  refine sliceFrom_eq_some hs ?_
  simp only [byteLength_append, byteLength_cons, byteLength_nil, hopening.utf8Size,
    hclosing.utf8Size]

end Brackets

def readTemplate (s : Chars) : Part (Token × Chars) := do
  match ← findBalanced s.bytes '{'.toUInt8 '}'.toUInt8 with
  | some stop =>
    let node ← template (← slice s 2 stop)
    return (.leaf node, ← sliceFrom s (stop + 2))
  | none => return (.text ['{', '{'], ← sliceFrom s 2)

/-- A call at the start of the text is read by slices in range. -/
theorem readTemplate_eq (s : Chars) :
    readTemplate ('{' :: '{' :: s) = .some (Markup.readTemplate s) := by
  rw [readTemplate, findBalanced_opened (by decide) (by decide), Part.bind_eq_bind,
    Part.bind_some, Markup.readTemplate]
  cases hfound : balanced? '{' '}' 1 s with
  | none =>
    dsimp only [Option.map_none]
    rw [sliceFrom_opened (by decide)]
    exact Part.bind_some _ _
  | some found =>
    dsimp only [Option.map_some]
    rw [slice_balanced (by decide) hfound, sliceFrom_balanced (by decide) (by decide) hfound]
    simp [template_eq]

/-- The offset of the first character that fails a test, or the end. -/
def offsetWhile (test : Char → Bool) (s : Chars) : Nat :=
  ((cutAt? (fun c => !test c) s).map fun found => byteLength found.1).getD (byteLength s)

/-- The offset after a run is the length of the run in bytes. -/
theorem offsetWhile_eq (test : Char → Bool) (s : Chars) :
    offsetWhile test s = byteLength (s.takeWhile test) := by
  induction s with
  | nil => rfl
  | cons c s ih =>
    rw [offsetWhile, cutAt?, List.takeWhile_cons]
    rw [offsetWhile] at ih
    cases test c with
    | false => rfl
    | true =>
      simp only [Bool.not_true, Bool.false_eq_true, if_false, if_true, byteLength_cons, ← ih]
      cases cutAt? (fun c => !test c) s <;> simp

def readLink (s : Chars) : Part (Token × Chars) := do
  match ← findBalanced s.bytes '['.toUInt8 ']'.toUInt8 with
  | some stop =>
    let rest ← sliceFrom s (stop + 2)
    let trail := offsetWhile Char.isLower rest
    match ← link? (← slice s 2 stop) (← sliceTo rest trail) with
    | some node => return (.leaf node, ← sliceFrom rest trail)
    | none => return (.hidden, rest)
  | none => return (.text ['[', '['], ← sliceFrom s 2)

/-- A link at the start of the text is read by slices in range. -/
theorem readLink_eq (s : Chars) :
    readLink ('[' :: '[' :: s) = .some (Markup.readLink s) := by
  rw [readLink, findBalanced_opened (by decide) (by decide), Part.bind_eq_bind,
    Part.bind_some, Markup.readLink]
  cases hfound : balanced? '[' ']' 1 s with
  | none =>
    dsimp only [Option.map_none]
    rw [sliceFrom_opened (by decide)]
    exact Part.bind_some _ _
  | some found =>
    obtain ⟨inner, rest⟩ := found
    have htrail : rest = rest.takeWhile Char.isLower ++ rest.dropWhile Char.isLower :=
      List.takeWhile_append_dropWhile.symm
    dsimp only [Option.map_some]
    rw [slice_balanced (by decide) hfound, sliceFrom_balanced (by decide) (by decide) hfound]
    simp only [Part.bind_eq_bind, Part.bind_some, Part.pure_eq_some, offsetWhile_eq,
      sliceTo_eq_some htrail rfl, sliceFrom_eq_some htrail rfl, link?_eq]
    cases parseLink? inner (rest.takeWhile Char.isLower) <;> rfl

section Found

variable {c stop : Char} {s inner rest : Chars}

/-- An ASCII character that is found after the first one is found among the bytes after it. -/
theorem findIdx?_bytes_cons (hc : IsAscii c) (hstop : IsAscii stop) (hne : c ≠ stop) (s : Chars) :
    (bytes (c :: s)).findIdx? (· == stop.toUInt8) =
      (cutAt? (· == stop) s).map fun found => 1 + byteLength found.1 := by
  rw [(TestsAscii.eq hstop).findIdx?_bytes, cutAt?, beq_false_of_ne hne, if_neg Bool.false_ne_true,
    Option.map_map]
  congr 1
  funext found
  simp only [Function.comp_apply, byteLength_cons, hc.utf8Size]

/-- The slice up to a character that is found. -/
theorem slice_found (hc : IsAscii c) (h : cutAt? (· == stop) s = some (inner, rest)) :
    slice (c :: s) 1 (1 + byteLength inner) = .some inner := by
  obtain ⟨last, -, hs⟩ := eq_append_of_cutAt? h
  have hs' : c :: s = [c] ++ (inner ++ last :: rest) := by
    rw [hs]
    rfl
  exact slice_eq_some hs' (by simp [hc.utf8Size]) rfl

/-- The slice after a character that is found. -/
theorem sliceFrom_found (hc : IsAscii c) (hstop : IsAscii stop)
    (h : cutAt? (· == stop) s = some (inner, rest)) :
    sliceFrom (c :: s) (1 + byteLength inner + 1) = .some rest := by
  obtain ⟨last, hlast, hs⟩ := eq_append_of_cutAt? h
  have hs' : c :: s = ([c] ++ inner ++ [last]) ++ rest := by simp [hs]
  refine sliceFrom_eq_some hs' ?_
  simp only [byteLength_append, byteLength_cons, byteLength_nil, hc.utf8Size, beq_iff_eq.1 hlast,
    hstop.utf8Size]

end Found

def readExtLink (s : Chars) : Part (Token × Chars) := do
  match s.bytes.findIdx? (· == ']'.toUInt8) with
  | some stop =>
    let inner ← slice s 1 stop
    return (.leaf (parseExtLink inner), ← sliceFrom s (stop + 1))
  | none => return (.text ['['], ← sliceFrom s 1)

theorem sliceFrom_one {c : Char} (hc : IsAscii c) (s : Chars) :
    sliceFrom (c :: s) 1 = .some s := by
  have hs : c :: s = [c] ++ s := rfl
  exact sliceFrom_eq_some hs (by simp [hc.utf8Size])

/-- A link to another site is read by slices in range. -/
theorem readExtLink_eq (s : Chars) : readExtLink ('[' :: s) = .some (Markup.readExtLink s) := by
  rw [readExtLink, findIdx?_bytes_cons (by decide) (by decide) (by decide), Markup.readExtLink]
  cases hfound : cutAt? (· == ']') s with
  | none =>
    dsimp only [Option.map_none]
    rw [sliceFrom_one (by decide)]
    exact Part.bind_some _ _
  | some found =>
    dsimp only [Option.map_some]
    rw [slice_found (by decide) hfound, sliceFrom_found (by decide) (by decide) hfound]
    simp

/-! ## Runs of one character -/

/-- How often a character is repeated at the start, and the text after it. -/
def readRun (c : Char) (s : Chars) : Part (Nat × Chars) := do
  let count := (s.bytes.takeWhile (· == c.toUInt8)).length
  return (count, ← sliceFrom s count)

/-- A run of one character is read by slices in range. -/
theorem readRun_eq {c : Char} (hc : IsAscii c) (s : Chars) :
    readRun c (c :: s) =
      .some ((s.takeWhile (· == c)).length + 1, s.dropWhile (· == c)) := by
  have hrun : c :: s = (c :: s.takeWhile (· == c)) ++ s.dropWhile (· == c) := by
    rw [List.cons_append, List.takeWhile_append_dropWhile]
  have hbytes : (bytes (c :: s)).takeWhile (· == c.toUInt8) =
      bytes (c :: s.takeWhile (· == c)) := by
    rw [(TestsAscii.eq hc).takeWhile_bytes, List.takeWhile_cons, beq_self_eq_true, if_pos rfl]
  have hascii : ∀ d ∈ c :: s.takeWhile (· == c), IsAscii d := by
    intro d hd
    rcases List.mem_cons.1 hd with rfl | hd
    · exact hc
    · have hsame : d == c := List.mem_takeWhile_imp (p := (· == c)) hd
      rw [beq_iff_eq.1 hsame]
      exact hc
  rw [readRun, hbytes, ← byteLength, sliceFrom_eq_some hrun rfl]
  rw [byteLength_of_isAscii hascii]
  exact Part.bind_some _ _

/-! ## Tags -/

def tag? (inner : Chars) : Part (Option Tag) :=
  let (isClosing, body) := Tag.cutSlash inner
  let nameLength := ((bytes body).takeWhile (onAscii isAsciiAlphanumeric)).length
  if nameLength = 0 then return none
  else do
    let first ← byteAt (bytes body) 0
    if onAscii isAsciiLetter first then
      let name ← sliceTo body nameLength
      return some ⟨String.ofList (name.map Char.toLower), isClosing, body.getLast? = some '/'⟩
    else return none

/-- The name of a tag is cut off by slices in range. -/
theorem tag?_eq (inner : Chars) : tag? inner = .some (Tag.ofInner? inner) := by
  have hletter : TestsAscii (onAscii isAsciiLetter) isAsciiLetter :=
    TestsAscii.onAscii @isAscii_of_isAsciiLetter
  have halphanumeric : TestsAscii (onAscii isAsciiAlphanumeric) isAsciiAlphanumeric :=
    TestsAscii.onAscii @isAscii_of_isAsciiAlphanumeric
  unfold tag? Tag.ofInner?
  obtain ⟨isClosing, body⟩ := Tag.cutSlash inner
  simp only [halphanumeric.takeWhile_bytes]
  cases hname : body.takeWhile isAsciiAlphanumeric with
  | nil => rfl
  | cons c name =>
    have hbody : body = (c :: name) ++ body.dropWhile isAsciiAlphanumeric := by
      rw [← hname, List.takeWhile_append_dropWhile]
    have hc : IsAscii c := by
      have hmem : c ∈ body.takeWhile isAsciiAlphanumeric := hname ▸ List.mem_cons_self
      exact isAscii_of_isAsciiAlphanumeric (List.mem_takeWhile_imp (p := isAsciiAlphanumeric) hmem)
    have hfirst : byteAt (bytes body) 0 = .some c.toUInt8 := by
      rw [hbody, List.cons_append, bytes_cons, hc.utf8EncodeChar]
      rfl
    have hlength : (bytes (c :: name)).length ≠ 0 := by simp [hc.utf8EncodeChar]
    rw [if_neg hlength, hfirst, ← byteLength, sliceTo_eq_some hbody rfl]
    simp only [Part.bind_eq_bind, Part.bind_some, Part.pure_eq_some, hletter.ascii c hc]
    cases isAsciiLetter c <;> rfl

/-- Reads what a tag stands for, given the text after it. What a reference or `nowiki` holds is cut
    off at byte offsets. -/
def tagToken (tag : Tag) (rest : Chars) : Part (Token × Chars) :=
  if (tag.name = "ref" || tag.name = "nowiki") && !tag.isClosing && !tag.isSelfClosing then do
    let (inner, rest) ← cutClosing ("</" ++ tag.name ++ ">").toList rest
    return if tag.name = "nowiki" then (.leaf (.text (Entity.decode (String.ofList inner))), rest)
      else (.hidden, rest)
  else return tag.read rest

theorem tagToken_eq (tag : Tag) (rest : Chars) : tagToken tag rest = .some (tag.read rest) := by
  unfold tagToken
  split
  · next hholds =>
    obtain ⟨name, isClosing, isSelfClosing⟩ := tag
    simp only [Bool.and_eq_true, Bool.or_eq_true, decide_eq_true_eq, Bool.not_eq_true'] at hholds
    obtain ⟨⟨hname, rfl⟩, rfl⟩ := hholds
    rcases hname with rfl | rfl
    · rw [cutClosing_eq (forall_of_all (by decide)) (by decide)]
      exact Part.bind_some _ _
    · rw [cutClosing_eq (forall_of_all (by decide)) (by decide)]
      exact Part.bind_some _ _
  · rfl

/-- Reads a tag that opens the text, if it is shaped like one. -/
def readTag? (s : Chars) : Part (Option (Token × Chars)) := do
  match s.bytes.findIdx? (· == '>'.toUInt8) with
  | none => return none
  | some stop =>
    match ← tag? (← slice s 1 stop) with
    | none => return none
    | some tag => return some (← tagToken tag (← sliceFrom s (stop + 1)))

def readText (s : Chars) : Part (Token × Chars) := do
  let first := (s.head?.map Char.utf8Size).getD 1
  let next := first + offsetWhile (!startsToken ·) (← sliceFrom s first)
  return (.text (← sliceTo s next), ← sliceFrom s next)

/-- Text is read by slices in range. -/
theorem readText_eq (c : Char) (s : Chars) :
    readText (c :: s) = .some (Markup.readText c s) := by
  have hfirst : c :: s = [c] ++ s := rfl
  have hnext : c :: s = (c :: s.takeWhile (!startsToken ·)) ++ s.dropWhile (!startsToken ·) := by
    rw [List.cons_append, List.takeWhile_append_dropWhile]
  have hlength : c.utf8Size + byteLength (s.takeWhile (!startsToken ·)) =
      byteLength (c :: s.takeWhile (!startsToken ·)) := (byteLength_cons ..).symm
  rw [readText]
  simp only [List.head?_cons, Option.map_some, Option.getD_some]
  rw [sliceFrom_eq_some hfirst (by simp)]
  simp only [Part.bind_eq_bind, Part.bind_some, Part.pure_eq_some, offsetWhile_eq,
    sliceTo_eq_some hnext hlength, sliceFrom_eq_some hnext hlength]
  rfl

def readTag (s : Chars) : Part (Token × Chars) := do
  match ← readTag? s with
  | some read => return read
  | none => readText s

/-- A tag is read by slices in range. -/
theorem readTag_eq (s : Chars) : readTag ('<' :: s) = .some (Markup.readTag s) := by
  rw [readTag, readTag?, findIdx?_bytes_cons (by decide) (by decide) (by decide), Markup.readTag]
  cases hfound : cutAt? (· == '>') s with
  | none =>
    dsimp only [Option.map_none]
    rw [Part.pure_eq_some, Part.bind_eq_bind, Part.bind_some]
    exact readText_eq '<' s
  | some found =>
    obtain ⟨inner, rest⟩ := found
    dsimp only [Option.map_some]
    rw [slice_found (by decide) hfound, sliceFrom_found (by decide) (by decide) hfound]
    simp only [Part.bind_eq_bind, Part.bind_some, Part.pure_eq_some, tag?_eq]
    cases Tag.ofInner? inner with
    | none => simp only [Part.bind_some, readText_eq]
    | some tag => simp only [tagToken_eq, Part.bind_some]

/-! ## All tokens -/

/-- The text after a comment. Without an end the comment takes all of the text. -/
def afterComment (s : Chars) : Part Chars :=
  match (cut? ['-', '-', '>'] s).map fun found => byteLength found.1 with
  | some stop => sliceFrom s (stop + 3)
  | none => return []

/-- What follows a comment is a slice in range. -/
theorem afterComment_eq (s : Chars) :
    afterComment ('<' :: s) = .some ((cut? ['-', '-', '>'] s).elim [] Prod.snd) := by
  have hcut : cut? ['-', '-', '>'] ('<' :: s) =
      (cut? ['-', '-', '>'] s).map fun (before, rest) => ('<' :: before, rest) := rfl
  rw [afterComment, hcut]
  cases hfound : cut? ['-', '-', '>'] s with
  | none => rfl
  | some found =>
    obtain ⟨before, rest⟩ := found
    have hs : '<' :: s = ('<' :: before ++ ['-', '-', '>']) ++ rest := by
      rw [eq_append_of_cut? hfound]
      simp
    exact sliceFrom_eq_some hs (by simp; rfl)

def readToken (s : Chars) : Part (Token × Chars) := do
  if opensWith ['{', '{'] s then readTemplate s
  else if opensWith ['[', '['] s then readLink s
  else if opensWith ['['] s then
    if isUrlStart (← sliceFrom s 1) then readExtLink s else readText s
  else if opensWith ['\''] s then
    let (count, rest) ← readRun '\'' s
    return (.quotes count, rest)
  else if opensWith ['\n'] s then
    let (count, rest) ← readRun '\n' s
    return (.lines count, rest)
  else if opensWith ['<', '!', '-', '-'] s then return (.hidden, ← afterComment s)
  else if opensWith ['<'] s then readTag s
  else readText s

theorem opensWith_nil (s : Chars) : opensWith [] s = true := rfl

theorem opensWith_cons (p c : Char) (ps s : Chars) :
    opensWith (p :: ps) (c :: s) = (p == c && opensWith ps s) := by
  rw [opensWith, after?]
  split
  · next h => simp [h, opensWith]
  · next h => simp [h]

theorem opensWith_singleton_eq_false {p : Char} {s : Chars} (h : ∀ rest, s = p :: rest → False) :
    opensWith [p] s = false := by
  cases s with
  | nil => rfl
  | cons c s =>
    have hne : p ≠ c := by
      rintro rfl
      exact h s rfl
    simp [opensWith_cons, hne]

/-- Reading by slices never fails, and reads the token that is read from the characters. -/
theorem readToken_eq (c : Char) (s : Chars) :
    readToken (c :: s) = .some (Markup.readToken c s) := by
  unfold Markup.readToken
  split
  · exact readTemplate_eq _
  · exact readLink_eq _
  · next hlink =>
    have hsingle := opensWith_singleton_eq_false hlink
    simp only [readToken, opensWith_cons, hsingle, opensWith_nil, Char.reduceBEq, Bool.false_and,
      Bool.and_false, Bool.and_true, beq_self_eq_true, Bool.false_eq_true, if_false, if_true,
      sliceFrom_one (by decide : IsAscii '['), Part.bind_eq_bind, Part.bind_some]
    split
    · exact readExtLink_eq s
    · exact readText_eq '[' s
  · simp only [readToken, opensWith_cons, opensWith_nil, Char.reduceBEq, Bool.false_and,
      Bool.and_true, beq_self_eq_true, Bool.false_eq_true, if_false, if_true,
      readRun_eq (by decide : IsAscii '\''), Part.bind_eq_bind, Part.bind_some, Part.pure_eq_some]
  · simp only [readToken, opensWith_cons, opensWith_nil, Char.reduceBEq, Bool.false_and,
      Bool.and_true, beq_self_eq_true, Bool.false_eq_true, if_false, if_true,
      readRun_eq (by decide : IsAscii '\n'), Part.bind_eq_bind, Part.bind_some, Part.pure_eq_some]
  · simp only [readToken, opensWith_cons, opensWith_nil, Char.reduceBEq, Bool.false_and,
      Bool.true_and, beq_self_eq_true, Bool.false_eq_true, if_false, if_true, afterComment_eq,
      Part.bind_eq_bind, Part.bind_some, Part.pure_eq_some]
    split
    · rfl
    · exact readTag_eq s
  · next hlink hquote hline htag htemplate _ =>
    have hcall : ('{' == c && opensWith ['{'] s) = false := by
      rw [Bool.and_eq_false_iff]
      by_cases hc : c = '{'
      · exact .inr (opensWith_singleton_eq_false fun rest => htemplate rest hc)
      · exact .inl (beq_eq_false_iff_ne.2 (Ne.symm hc))
    have hother : ∀ d : Char, (c = d → False) → (d == c) = false := by
      rintro d hd
      exact beq_eq_false_iff_ne.2 (Ne.symm hd)
    simp only [readToken, opensWith_cons, hcall, hother _ hlink, hother _ hquote, hother _ hline,
      hother _ htag, Bool.false_and, Bool.false_eq_true, if_false]
    exact readText_eq c s

end Markup.Checked

end GenreProse
