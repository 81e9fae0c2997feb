-- SUMMARY: A reader that finds the tags in HTML.
import GenreProse.Proofs.Prose.Tokens

/-!
# Tag scanner

The scanner goes through HTML character by character, as browsers do, and finds the tags in it with
their attributes. Values may stand in quotation marks of either kind or in none, and what starts
with `<!` or `<?` is passed over. Text without `<` holds no tag, and a value without quotation marks
ends where its attribute does.
-/

namespace GenreProse

namespace Html

/-! ## Scanner -/

/-- A tag as it is found, with its attributes and their values as they are written. -/
structure Tag where
  isClosing : Bool
  name : Chars
  attributes : List (Chars × Chars)
  deriving DecidableEq, Repr

def Tag.withAttribute (tag : Tag) (key value : Chars) : Tag :=
  { tag with attributes := tag.attributes ++ [(key, value)] }

/-- Where the scanner is. -/
inductive Place where
  | text
  /-- After `<`. -/
  | opened
  /-- After `</`. -/
  | openedClosing
  /-- In what starts with `<!` or `<?`. -/
  | declaration
  | name (isClosing : Bool) (name : Chars)
  /-- Before an attribute or the end of the tag. -/
  | between (tag : Tag)
  | key (tag : Tag) (key : Chars)
  /-- After the name of an attribute and a space. -/
  | afterKey (tag : Tag) (key : Chars)
  /-- Before the value of an attribute. -/
  | beforeValue (tag : Tag) (key : Chars)
  | quoted (tag : Tag) (key : Chars) (quote : Char) (value : Chars)
  | unquoted (tag : Tag) (key : Chars) (value : Chars)

/-- Whether the character separates attributes. -/
def isSpace (c : Char) : Bool :=
  [' ', '\t', '\n', '\r', '\x0c'].contains c

/-- Reads one character: where the scanner is then, and the tag that ends there. -/
def step (place : Place) (c : Char) : Place × List Tag :=
  match place with
  | .text => if c = '<' then (.opened, []) else (.text, [])
  | .opened =>
    if isAsciiLetter c then (.name false [c], [])
    else if c = '/' then (.openedClosing, [])
    else if c = '!' || c = '?' then (.declaration, [])
    else if c = '<' then (.opened, [])
    else (.text, [])
  | .openedClosing =>
    if isAsciiLetter c then (.name true [c], [])
    else if c = '>' then (.text, [])
    else (.declaration, [])
  | .declaration => if c = '>' then (.text, []) else (.declaration, [])
  | .name isClosing name =>
    if c = '>' then (.text, [⟨isClosing, name, []⟩])
    else if isSpace c || c = '/' then (.between ⟨isClosing, name, []⟩, [])
    else (.name isClosing (name ++ [c]), [])
  | .between tag =>
    if c = '>' then (.text, [tag])
    else if isSpace c || c = '/' then (.between tag, [])
    else (.key tag [c], [])
  | .key tag key =>
    if c = '>' then (.text, [tag.withAttribute key []])
    else if c = '=' then (.beforeValue tag key, [])
    else if c = '/' then (.between (tag.withAttribute key []), [])
    else if isSpace c then (.afterKey tag key, [])
    else (.key tag (key ++ [c]), [])
  | .afterKey tag key =>
    if c = '>' then (.text, [tag.withAttribute key []])
    else if c = '=' then (.beforeValue tag key, [])
    else if c = '/' then (.between (tag.withAttribute key []), [])
    else if isSpace c then (.afterKey tag key, [])
    else (.key (tag.withAttribute key []) [c], [])
  | .beforeValue tag key =>
    if c = '>' then (.text, [tag.withAttribute key []])
    else if c = '"' || c = '\'' then (.quoted tag key c [], [])
    else if isSpace c then (.beforeValue tag key, [])
    else (.unquoted tag key [c], [])
  | .quoted tag key quote value =>
    if c = quote then (.between (tag.withAttribute key value), [])
    else (.quoted tag key quote (value ++ [c]), [])
  | .unquoted tag key value =>
    if c = '>' then (.text, [tag.withAttribute key value])
    else if isSpace c then (.between (tag.withAttribute key value), [])
    else (.unquoted tag key (value ++ [c]), [])

/-- Reads a text: where the scanner is after it, and the tags that end in it. -/
def scan (place : Place) : Chars → Place × List Tag
  | [] => (place, [])
  | c :: s =>
    let next := step place c
    let rest := scan next.1 s
    (rest.1, next.2 ++ rest.2)

def tagsOf (html : String) : List Tag :=
  (scan .text html.toList).2

/-! ## Runs of the scanner -/

/-- The scanner gets from one place to another over the text and finds the tags. -/
def Scans (place : Place) (s : Chars) (last : Place) (tags : List Tag) : Prop :=
  scan place s = (last, tags)

theorem Scans.nil (place : Place) : Scans place [] place [] :=
  rfl

theorem Scans.cons {place next last : Place} {c : Char} {s : Chars} {found tags : List Tag}
    (hstep : step place c = (next, found)) (hrest : Scans next s last tags) :
    Scans place (c :: s) last (found ++ tags) := by
  simp only [Scans, scan, hstep, show scan next s = _ from hrest]

/-- The scanner goes on where it stopped. -/
theorem Scans.append {place next last : Place} {s t : Chars} {found tags : List Tag}
    (h : Scans place s next found) (hrest : Scans next t last tags) :
    Scans place (s ++ t) last (found ++ tags) := by
  induction s generalizing place found with
  | nil =>
    obtain ⟨rfl, rfl⟩ := Prod.mk.inj h
    exact hrest
  | cons c s ih =>
    obtain ⟨rfl, rfl⟩ := Prod.mk.inj h
    rw [List.append_assoc]
    exact .cons rfl (ih rfl)

/-- A place that collects characters has all of a text, if no character of it ends the place. -/
theorem Scans.collect {place : Chars → Place} {s : Chars}
    (hstep : ∀ c ∈ s, ∀ before, step (place before) c = (place (before ++ [c]), []))
    (before : Chars) : Scans (place before) s (place (before ++ s)) [] := by
  induction s generalizing before with
  | nil =>
    rw [List.append_nil]
    exact .nil _
  | cons c s ih =>
    obtain ⟨hc, hs⟩ := List.forall_mem_cons.mp hstep
    rw [List.append_cons]
    exact .cons (hc before) (ih hs _)

/-- Text without `<` holds no tag. -/
theorem scans_text {s : Chars} (h : '<' ∉ s) : Scans .text s .text [] := by
  have htext : ∀ c ∈ s, Chars → step .text c = (.text, []) := by
    intro c hc _
    refine if_neg ?_
    rintro rfl
    exact h hc
  exact Scans.collect htext []

/-! ## Names and values -/

/-- A character of a name does not end it. -/
theorem isNameChar_ends {c : Char} (h : isNameChar c) :
    c ≠ '>' ∧ c ≠ '/' ∧ c ≠ '=' ∧ isSpace c = false := by
  refine ⟨?_, ?_, ?_, ?_⟩
  · rintro rfl
    exact absurd h (by decide)
  · rintro rfl
    exact absurd h (by decide)
  · rintro rfl
    exact absurd h (by decide)
  · refine Bool.eq_false_iff.mpr ?_
    intro hspace
    simp only [isSpace, List.contains_eq_mem, List.mem_cons, List.not_mem_nil, or_false,
      decide_eq_true_eq] at hspace
    rcases hspace with rfl | rfl | rfl | rfl | rfl <;> exact absurd h (by decide)

/-- The scanner collects the name of a tag. -/
theorem scans_name {isClosing : Bool} {s : Chars} (h : ∀ c ∈ s, isNameChar c) (before : Chars) :
    Scans (.name isClosing before) s (.name isClosing (before ++ s)) [] := by
  refine .collect ?_ before
  intro c hc _
  obtain ⟨hclose, hslash, -, hspace⟩ := isNameChar_ends (h c hc)
  simp [step, hclose, hslash, hspace]

/-- The scanner collects the name of an attribute. -/
theorem scans_key {tag : Tag} {s : Chars} (h : ∀ c ∈ s, isNameChar c) (before : Chars) :
    Scans (.key tag before) s (.key tag (before ++ s)) [] := by
  refine .collect ?_ before
  intro c hc _
  obtain ⟨hclose, hslash, hequals, hspace⟩ := isNameChar_ends (h c hc)
  simp [step, hclose, hslash, hequals, hspace]

/-- A value goes on up to its quotation mark. -/
theorem scans_value {tag : Tag} {key s : Chars} (h : '"' ∉ s) (before : Chars) :
    Scans (.quoted tag key '"' before) s (.quoted tag key '"' (before ++ s)) [] := by
  refine .collect ?_ before
  intro c hc _
  refine if_neg ?_
  rintro rfl
  exact h hc

/-! ## Tags -/

theorem isName_cons {c : Char} {s : Chars} (h : isName (c :: s)) :
    isAsciiLetter c ∧ isNameChar c ∧ ∀ d ∈ s, isNameChar d := by
  simp only [isName, Bool.and_eq_true, List.all_eq_true] at h
  obtain ⟨hc, hs⟩ := h
  exact ⟨by simp [isAsciiLetter, hc], by simp [isNameChar, hc], hs⟩

/-- A name starts a tag where a letter does. -/
theorem scans_firstName {place : Place} {isClosing : Bool} {s : Chars}
    (hletter : ∀ c, isAsciiLetter c → step place c = (.name isClosing [c], [])) (h : isName s) :
    Scans place s (.name isClosing s) [] := by
  cases s with
  | nil => cases h
  | cons c s =>
    obtain ⟨hc, -, hs⟩ := isName_cons h
    exact .cons (hletter c hc) (scans_name hs [c])

/-- A name directly after `<` starts an opening tag. -/
theorem scans_opened {s : Chars} (h : isName s) : Scans .opened s (.name false s) [] := by
  refine scans_firstName ?_ h
  intro c hc
  exact if_pos hc

/-- A name directly after `</` starts a closing tag. -/
theorem scans_openedClosing {s : Chars} (h : isName s) :
    Scans .openedClosing s (.name true s) [] := by
  refine scans_firstName ?_ h
  intro c hc
  exact if_pos hc

theorem scans_between {tag : Tag} {s : Chars} (h : isName s) :
    Scans (.between tag) s (.key tag s) [] := by
  cases s with
  | nil => cases h
  | cons c s =>
    obtain ⟨-, hc, hs⟩ := isName_cons h
    obtain ⟨hclose, hslash, -, hspace⟩ := isNameChar_ends hc
    have hstep : step (.between tag) c = (.key tag [c], []) := by
      simp [step, hclose, hslash, hspace]
    exact .cons hstep (scans_key hs [c])

def foundAttribute (entry : Attribute) : Chars × Chars :=
  (entry.key.toList, entry.written.toList)

/-- A place where the tag may end or go on with an attribute. -/
inductive Pending (tag : Tag) : Place → Prop where
  | name : tag.attributes = [] → Pending tag (.name tag.isClosing tag.name)
  | between : Pending tag (.between tag)

section

variable {tag : Tag} {place : Place}

/-- A space ends what is pending of the tag. -/
theorem Pending.step_space (h : Pending tag place) : step place ' ' = (.between tag, []) := by
  cases h with
  | name hattributes => cases tag; cases hattributes; rfl
  | between => rfl

/-- A `>` ends the tag. -/
theorem Pending.step_close (h : Pending tag place) : step place '>' = (.text, [tag]) := by
  cases h with
  | name hattributes => cases tag; cases hattributes; rfl
  | between => rfl

/-- An attribute is read with its whole value, as no character of it ends the value. -/
theorem Pending.scans_attribute (h : Pending tag place) {entry : Attribute}
    (hkey : isName entry.key.toList) (hfree : entry.Free '"') :
    Scans place entry.chars
      (.between (tag.withAttribute entry.key.toList entry.written.toList)) [] := by
  have hvalue := hfree.not_mem (.inl rfl)
  rw [Attribute.chars]
  generalize entry.key.toList = key at hkey ⊢
  generalize entry.written.toList = value at hvalue ⊢
  have hequals : step (.key tag key) '=' = (.beforeValue tag key, []) := rfl
  have hopen : step (.beforeValue tag key) '"' = (.quoted tag key '"' [], []) := rfl
  have hclose : step (.quoted tag key '"' value) '"'
      = (.between (tag.withAttribute key value), []) := rfl
  refine .cons h.step_space (.append (scans_between hkey) (.cons hequals (.cons hopen ?_)))
  exact .append (scans_value hvalue []) (.cons hclose (.nil _))

/-- The scanner finds the attributes that are written. -/
theorem Pending.scans_attributes (h : Pending tag place) {entries : List Attribute}
    (hkeys : ∀ entry ∈ entries, isName entry.key.toList)
    (hfree : ∀ entry ∈ entries, entry.Free '"') :
    ∃ last, Scans place (entries.flatMap Attribute.chars) last [] ∧
      Pending { tag with attributes := tag.attributes ++ entries.map foundAttribute } last := by
  induction entries generalizing tag place with
  | nil =>
    refine ⟨place, .nil place, ?_⟩
    rw [List.map_nil, List.append_nil]
    exact h
  | cons entry entries ih =>
    obtain ⟨hkey, hkeys⟩ := List.forall_mem_cons.mp hkeys
    obtain ⟨hentry, hfree⟩ := List.forall_mem_cons.mp hfree
    obtain ⟨last, hscans, hpending⟩ := ih .between hkeys hfree
    refine ⟨last, .append (h.scans_attribute hkey hentry) hscans, ?_⟩
    simpa [Tag.withAttribute, foundAttribute] using hpending

end

end Html

open Html

namespace Element

/-- The opening tag as it is found. -/
def openingTag (element : Element) : Tag :=
  ⟨false, element.name.toList, element.attributes.map foundAttribute⟩

def closingTag (element : Element) : Tag :=
  ⟨true, element.name.toList, []⟩

/-- The scanner finds a start tag with its attributes. -/
theorem scans_opening {element : Element} (h : element.Free '"') :
    Scans .text element.opening.toList .text [element.openingTag] := by
  have hname : Pending ⟨false, element.name.toList, []⟩ (.name false element.name.toList) :=
    .name rfl
  obtain ⟨last, hscans, hpending⟩ := hname.scans_attributes h.keys h.values
  rw [toList_opening]
  have hopen : step .text '<' = (.opened, []) := rfl
  refine .cons hopen (.append (scans_opened h.name) (.append hscans ?_))
  exact .cons hpending.step_close (.nil _)

/-- The scanner finds an end tag. -/
theorem scans_closing {element : Element} (h : element.Named) :
    Scans .text element.closing.toList .text [element.closingTag] := by
  rw [toList_closing]
  have hopen : step .text '<' = (.opened, []) := rfl
  have hslash : step .opened '/' = (.openedClosing, []) := rfl
  have hclose : step (.name true element.name.toList) '>' = (.text, [element.closingTag]) := rfl
  refine .cons hopen (.cons hslash (.append (scans_openedClosing h.name) ?_))
  exact .cons hclose (.nil _)

end Element

namespace Token

/-- The tags that are found in a token. -/
def tags : Token → List Tag
  | text _ => []
  | lineBreak => [⟨false, "br".toList, []⟩]
  | opening element => [element.openingTag]
  | closing element => [element.closingTag]

/-- The scanner finds the tags of a token, if no value ends early. -/
theorem Free.scans {token : Token} (h : token.Free '"') :
    Scans .text token.html .text token.tags := by
  cases h with
  | text => exact scans_text (Entity.not_mem_escape _).1
  | lineBreak => rfl
  | opening helement => exact Element.scans_opening helement
  | closing helement => exact Element.scans_closing helement.toNamed

/-- The scanner finds the tags of tokens one after the other. -/
theorem scans_tokens {tokens : List Token} (h : ∀ token ∈ tokens, token.Free '"') :
    Scans .text (tokens.flatMap html) .text (tokens.flatMap tags) := by
  induction tokens with
  | nil => exact .nil _
  | cons token tokens ih =>
    obtain ⟨htoken, htokens⟩ := List.forall_mem_cons.mp h
    exact .append htoken.scans (ih htokens)

end Token

/-- The tags in the HTML of prose are those of its tokens, whatever texts and values they have, if
    no class ends its value. -/
theorem Prose.tagsOf_html {prose : Prose} (h : ∀ name ∈ prose.classes, '"' ∉ name.toList) :
    tagsOf prose.html = prose.tokens.flatMap Token.tags := by
  have hscans := Token.scans_tokens (tokens_free (.inl rfl) h)
  rw [← prose.toList_html] at hscans
  rw [tagsOf, hscans]

end GenreProse
