-- SUMMARY: The tags and texts that prose is written as, in order.
import GenreProse.Proofs.Prose.Frames
import GenreProse.Proofs.Text.Escape
import GenreProse.Prose.Html
import GenreProse.Prose.Plain

/-!
# Tokens

HTML and plain text are both written token by token: text, line breaks, and the tags of elements.
What is shown for prose in either form is settled by its tokens, and a fact about one token carries
over to all prose.
-/

namespace GenreProse

/-! ## Elements -/

/-- Whether the character may stand in a name. -/
def isNameChar (c : Char) : Bool :=
  c.isLower || c = '-'

/-- Whether the text is a name of elements and attributes: it starts with a small letter. -/
def isName : Chars → Bool
  | [] => false
  | c :: s => c.isLower && s.all isNameChar

theorem isNameChar_of_mem {s : Chars} {c : Char} (h : isName s) (hc : c ∈ s) : isNameChar c := by
  cases s with
  | nil => cases hc
  | cons d s =>
    simp only [isName, Bool.and_eq_true, List.all_eq_true] at h
    obtain ⟨hd, hs⟩ := h
    rcases List.mem_cons.mp hc with rfl | hc
    · simp [isNameChar, hd]
    · exact hs c hc

/-- No other characters stand in a name. -/
theorem not_mem_name {s : Chars} {c : Char} (h : isName s) (hc : isNameChar c = false) : c ∉ s := by
  intro hmem
  exact absurd (isNameChar_of_mem h hmem) (by simp [hc])

/-- The characters that end a value or a tag. -/
def IsEnd (mark : Char) : Prop :=
  mark = '"' ∨ mark = '>'

namespace Attribute

/-- Whether the mark cannot stand in the value: it is escaped in strings. -/
def Free (mark : Char) : Attribute → Prop
  | verbatim _ value => mark ∉ value.toList
  | escaped _ _ => True

theorem Free.not_mem {mark : Char} {entry : Attribute} (h : entry.Free mark)
    (hmark : IsEnd mark) : mark ∉ entry.written.toList := by
  cases entry with
  | verbatim key value => exact h
  | escaped key value =>
    rcases hmark with rfl | rfl
    · exact Entity.quote_not_mem_escapeAttribute value
    · exact (Entity.not_mem_escapeAttribute value).2

/-- The characters of an attribute, with a space before it. -/
def chars (entry : Attribute) : Chars :=
  ' ' :: (entry.key.toList ++ '=' :: '"' :: (entry.written.toList ++ ['"']))

theorem toList_html (entry : Attribute) : entry.html.toList = entry.chars := by
  simp [html, chars]

end Attribute

namespace Element

/-- The element has names only where names are written, and is not a line break. -/
structure Named (element : Element) : Prop where
  name : isName element.name.toList
  ne_br : element.name ≠ "br"
  keys : ∀ entry ∈ element.attributes, isName entry.key.toList

/-- The mark stands in no value of the element either. -/
structure Free (mark : Char) (element : Element) : Prop extends Named element where
  values : ∀ entry ∈ element.attributes, entry.Free mark

/-- How a start tag is written. -/
theorem toList_opening (element : Element) :
    element.opening.toList
      = '<' :: (element.name.toList ++ (element.attributes.flatMap Attribute.chars ++ ['>'])) := by
  simp [opening, String.toList_join, List.flatMap_map, Attribute.toList_html]

/-- How an end tag is written. -/
theorem toList_closing (element : Element) :
    element.closing.toList = '<' :: '/' :: (element.name.toList ++ ['>']) := by
  simp [closing]

end Element

theorem Style.element_named (style : Style) : style.element.Named := by
  cases style <;> constructor <;> simp [element, isName, isNameChar, Attribute.key]

/-- The name of every frame is a name of HTML. -/
theorem Frame.element_named (frame : Frame) : frame.element.Named := by
  cases frame with
  | style style => exact style.element_named
  | tooltip title cssClass =>
    cases cssClass <;> constructor <;> simp [element, isName, isNameChar, Attribute.key]
  | _ => constructor <;> simp [element, isName, isNameChar, Attribute.key]

theorem Prose.linkElement_named (title url : String) : (linkElement title url).Named := by
  constructor <;> simp [linkElement, isName, isNameChar, Attribute.key]

theorem Prose.genreElement_named (genre : String) : (genreElement genre).Named := by
  constructor <;> simp [genreElement, isName, isNameChar, Attribute.key]

theorem Prose.errorElement_named : errorElement.Named := by
  constructor <;> simp [errorElement, isName, isNameChar, Attribute.key]

theorem Prose.maintenanceElement_named : maintenanceElement.Named := by
  constructor <;> simp [maintenanceElement, isName, isNameChar, Attribute.key]

section

variable {mark : Char} (hmark : IsEnd mark)
include hmark

/-- The fixed attributes of a style hold no mark that ends a value or a tag. -/
theorem Style.element_free (style : Style) : style.element.Free mark := by
  refine ⟨style.element_named, ?_⟩
  rcases hmark with rfl | rfl <;> cases style <;> simp [element, Attribute.Free]

/-- Only the class of a frame can hold the mark. -/
theorem Frame.element_free {frame : Frame}
    (h : ∀ name, frame.cssClass? = some name → mark ∉ name.toList) : frame.element.Free mark := by
  cases frame with
  | style style => exact style.element_free hmark
  | tooltip title cssClass =>
    refine ⟨element_named _, List.forall_mem_cons.mpr ⟨trivial, List.forall_mem_map.mpr ?_⟩⟩
    intro name hname
    exact h name (Option.mem_toList.mp hname)
  | _ =>
    refine ⟨element_named _, ?_⟩
    rcases hmark with rfl | rfl <;> simp [element, Attribute.Free]

/-- Addresses and titles are escaped, so that no mark in them counts. -/
theorem Prose.linkElement_free (title url : String) : (linkElement title url).Free mark := by
  refine ⟨linkElement_named title url, ?_⟩
  rcases hmark with rfl | rfl <;> simp [linkElement, Attribute.Free]

theorem Prose.genreElement_free (genre : String) : (genreElement genre).Free mark := by
  refine ⟨genreElement_named genre, ?_⟩
  rcases hmark with rfl | rfl <;> simp [genreElement, Attribute.Free]

theorem Prose.errorElement_free : errorElement.Free mark := by
  refine ⟨errorElement_named, ?_⟩
  rcases hmark with rfl | rfl <;> simp [errorElement, Attribute.Free]

theorem Prose.maintenanceElement_free : maintenanceElement.Free mark := by
  refine ⟨maintenanceElement_named, ?_⟩
  rcases hmark with rfl | rfl <;> simp [maintenanceElement, Attribute.Free]

end

/-! ## Tokens -/

inductive Token where
  | text (text : String)
  | lineBreak
  | opening (element : Element)
  | closing (element : Element)

namespace Token

def html : Token → Chars
  | text s => (Entity.escape s).toList
  | lineBreak => "<br>".toList
  | opening element => element.opening.toList
  | closing element => element.closing.toList

/-- What the token shows. -/
def shown : Token → Chars
  | text s => s.toList
  | lineBreak => ['\n']
  | opening _ => []
  | closing _ => []

def around (element : Element) (content : List Token) : List Token :=
  opening element :: (content ++ [closing element])

/-- The element of the token, if it has one, is free of the mark. -/
inductive Free (mark : Char) : Token → Prop where
  | text {s : String} : Free mark (text s)
  | lineBreak : Free mark lineBreak
  | opening {element : Element} : element.Free mark → Free mark (opening element)
  | closing {element : Element} : element.Free mark → Free mark (closing element)

end Token

namespace Prose

mutual

def tokens : Prose → List Token
  | .empty => []
  | .text s => [.text s]
  | .fragment pieces => tokensOfAll pieces
  | .framed frame pieces => Token.around frame.element (tokensOfAll pieces)
  | .link title s url => Token.around (linkElement title url) [.text s]
  | .genreLink genre s => Token.around (genreElement genre) [.text s]
  | .error message => Token.around errorElement [.text message]
  | .maintenance s =>
    Token.around maintenanceElement
      (.text "[" :: (Token.around Style.italic.element [.text s] ++ [.text "]"]))
  | .newline => [.lineBreak]
  | .paragraphBreak => [.lineBreak, .lineBreak]

def tokensOfAll : List Prose → List Token
  | [] => []
  | piece :: pieces => tokens piece ++ tokensOfAll pieces

end

/-! ## Output -/

/-- An element is written around its content. -/
theorem html_around {element : Element} {content : List Token} :
    (Token.around element content).flatMap Token.html
      = element.opening.toList ++ (content.flatMap Token.html ++ element.closing.toList) := by
  simp [Token.around, Token.html]

/-- An element shows its content. -/
theorem shown_around {element : Element} {content : List Token} :
    (Token.around element content).flatMap Token.shown = content.flatMap Token.shown := by
  simp [Token.around, Token.shown]

mutual

/-- HTML is written token by token. -/
theorem toList_html (prose : Prose) : prose.html.toList = prose.tokens.flatMap Token.html := by
  cases prose with
  | empty => rfl
  | text s => simp [html, tokens, Token.html]
  | fragment pieces => exact toList_htmlOfAll pieces
  | framed frame pieces =>
    rw [html, tokens, html_around, ← toList_htmlOfAll pieces, Element.around]
    simp
  | link title s url => simp [html, tokens, Token.html, html_around, Element.around]
  | genreLink genre s => simp [html, tokens, Token.html, html_around, Element.around]
  | error message => simp [html, tokens, Token.html, html_around, Element.around]
  | maintenance s =>
    have hopen : Entity.escape "[" = "[" := rfl
    have hclose : Entity.escape "]" = "]" := rfl
    simp [html, tokens, Token.html, html_around, Element.around, hopen, hclose]
  | newline => rfl
  | paragraphBreak => rfl

/-- The HTML of prose is that of its tokens. -/
theorem toList_htmlOfAll (pieces : List Prose) :
    (htmlOfAll pieces).toList = (tokensOfAll pieces).flatMap Token.html := by
  cases pieces with
  | nil => rfl
  | cons piece pieces =>
    rw [htmlOfAll, tokensOfAll, String.toList_append, List.flatMap_append, toList_html piece,
      toList_htmlOfAll pieces]

end

mutual

/-- Plain text is what the tokens show. -/
theorem toList_plainText (prose : Prose) :
    prose.plainText.toList = prose.tokens.flatMap Token.shown := by
  cases prose with
  | fragment pieces => exact toList_plainTextOfAll pieces
  | framed frame pieces =>
    rw [plainText, tokens, shown_around, toList_plainTextOfAll pieces]
  | _ => simp [plainText, tokens, shown_around, Token.shown]

/-- The plain text of prose is what its tokens show. -/
theorem toList_plainTextOfAll (pieces : List Prose) :
    (plainTextOfAll pieces).toList = (tokensOfAll pieces).flatMap Token.shown := by
  cases pieces with
  | nil => rfl
  | cons piece pieces =>
    rw [plainTextOfAll, tokensOfAll, String.toList_append, List.flatMap_append,
      toList_plainText piece, toList_plainTextOfAll pieces]

end

/-! ## Tokens without a mark -/

/-- An element around tokens without the mark has none, if its own tags have none. -/
theorem around_free {mark : Char} {element : Element} {content : List Token}
    (helement : element.Free mark) (h : ∀ token ∈ content, token.Free mark) :
    ∀ token ∈ Token.around element content, token.Free mark := by
  intro token htoken
  simp only [Token.around, List.mem_cons, List.mem_append, List.not_mem_nil, or_false] at htoken
  rcases htoken with rfl | htoken | rfl
  · exact .opening helement
  · exact h token htoken
  · exact .closing helement

theorem text_free {mark : Char} (s : String) : ∀ token ∈ [Token.text s], token.Free mark := by
  simp [Token.Free.text]

mutual

/-- Only the frames of prose can have a mark in their tags. -/
theorem tokens_free_of_frames {mark : Char} (hmark : IsEnd mark) (prose : Prose)
    (h : ∀ frame ∈ prose.frames, frame.element.Free mark) :
    ∀ token ∈ prose.tokens, token.Free mark := by
  cases prose with
  | empty => simp [tokens]
  | text s => exact text_free s
  | fragment pieces => exact tokensOfAll_free_of_frames hmark pieces h
  | framed frame pieces =>
    obtain ⟨hframe, hpieces⟩ := List.forall_mem_cons.mp h
    exact around_free hframe (tokensOfAll_free_of_frames hmark pieces hpieces)
  | link title s url => exact around_free (linkElement_free hmark title url) (text_free s)
  | genreLink genre s => exact around_free (genreElement_free hmark genre) (text_free s)
  | error message => exact around_free (errorElement_free hmark) (text_free message)
  | maintenance s =>
    refine around_free (maintenanceElement_free hmark) ?_
    refine List.forall_mem_cons.mpr ⟨.text, List.forall_mem_append.mpr ⟨?_, text_free "]"⟩⟩
    exact around_free (Style.element_free hmark .italic) (text_free s)
  | newline => simp [tokens, Token.Free.lineBreak]
  | paragraphBreak => simp [tokens, Token.Free.lineBreak]

theorem tokensOfAll_free_of_frames {mark : Char} (hmark : IsEnd mark) (pieces : List Prose)
    (h : ∀ frame ∈ framesOfAll pieces, frame.element.Free mark) :
    ∀ token ∈ tokensOfAll pieces, token.Free mark := by
  cases pieces with
  | nil => simp [tokensOfAll]
  | cons piece pieces =>
    obtain ⟨hpiece, hpieces⟩ := List.forall_mem_append.mp h
    exact List.forall_mem_append.mpr
      ⟨tokens_free_of_frames hmark piece hpiece, tokensOfAll_free_of_frames hmark pieces hpieces⟩

end

/-- If no class holds the mark, the values in the HTML do not hold it. -/
theorem tokens_free {mark : Char} (hmark : IsEnd mark) {prose : Prose}
    (h : ∀ name ∈ prose.classes, mark ∉ name.toList) :
    ∀ token ∈ prose.tokens, token.Free mark := by
  refine tokens_free_of_frames hmark prose fun frame hframe => Frame.element_free hmark ?_
  intro name hname
  exact h name (List.mem_filterMap.mpr ⟨frame, hframe, hname⟩)

end Prose

end GenreProse
