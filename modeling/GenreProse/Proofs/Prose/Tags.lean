-- SUMMARY: The tags in HTML depend on the shape of prose alone, are nested, and hold its strings.
import GenreProse.Proofs.Prose.TagScanner

/-!
# Tags of prose

No string in prose can change the tags of its HTML. Their names and the names of their attributes
are settled by the shape of the prose, each element is closed where it belongs, and the values of
the attributes are the strings that were put there.
-/

namespace GenreProse

/-! ## Shapes -/

/-- The frame with its string emptied. A class is not one of the strings. -/
def Frame.shape : Frame → Frame
  | style s => style s
  | lang _ => lang ""
  | tooltip _ cssClass => tooltip "" cssClass
  | extLink _ => extLink ""
  | time _ => time ""
  | audio _ => audio ""

namespace Prose

mutual

/-- The prose with all its strings emptied. -/
def shape : Prose → Prose
  | .empty => .empty
  | .text _ => .text ""
  | .fragment pieces => .fragment (shapeOfAll pieces)
  | .framed frame pieces => .framed frame.shape (shapeOfAll pieces)
  | .link _ _ _ => .link "" "" ""
  | .genreLink _ _ => .genreLink "" ""
  | .error _ => .error ""
  | .maintenance _ => .maintenance ""
  | .newline => .newline
  | .paragraphBreak => .paragraphBreak

def shapeOfAll : List Prose → List Prose
  | [] => []
  | piece :: pieces => shape piece :: shapeOfAll pieces

end

end Prose

def Html.Tag.names (tag : Tag) : Bool × Chars × List Chars :=
  (tag.isClosing, tag.name, tag.attributes.map Prod.fst)

open Html

def Token.tagNames (token : Token) : List (Bool × Chars × List Chars) :=
  token.tags.map Tag.names

theorem Element.names_openingTag (element : Element) : element.openingTag.names
    = (false, element.name.toList, element.attributes.map fun entry => entry.key.toList) := by
  simp [Tag.names, openingTag, foundAttribute]

theorem Element.names_closingTag (element : Element) :
    element.closingTag.names = (true, element.name.toList, []) :=
  rfl

/-- The names of an element do not depend on the values of its attributes. -/
theorem Frame.names_shape (frame : Frame) :
    frame.shape.element.openingTag.names = frame.element.openingTag.names ∧
      frame.shape.element.closingTag.names = frame.element.closingTag.names := by
  simp only [Element.names_openingTag, Element.names_closingTag]
  cases frame <;> simp [shape, element, Attribute.key]

theorem Token.tagNames_around {element : Element} {content : List Token} :
    (around element content).flatMap tagNames
      = element.openingTag.names
          :: (content.flatMap tagNames ++ [element.closingTag.names]) := by
  simp [around, tagNames, tags]

namespace Prose

mutual

/-- Leaving out what is shown changes no tag. -/
theorem tagNames_shape (prose : Prose) :
    prose.shape.tokens.flatMap Token.tagNames = prose.tokens.flatMap Token.tagNames := by
  cases prose with
  | fragment pieces => exact tagNamesOfAll_shape pieces
  | framed frame pieces =>
    obtain ⟨hopening, hclosing⟩ := frame.names_shape
    rw [shape, tokens, tokens, Token.tagNames_around, Token.tagNames_around, hopening, hclosing,
      tagNamesOfAll_shape pieces]
  | link | genreLink =>
    simp [shape, tokens, Token.tagNames_around, Element.names_openingTag,
      Element.names_closingTag, linkElement, genreElement, Attribute.key, Token.tagNames, Token.tags]
  | _ => simp [shape, tokens, Token.tagNames_around, Token.tagNames, Token.tags]

theorem tagNamesOfAll_shape (pieces : List Prose) :
    (tokensOfAll (shapeOfAll pieces)).flatMap Token.tagNames
      = (tokensOfAll pieces).flatMap Token.tagNames := by
  cases pieces with
  | nil => rfl
  | cons piece pieces =>
    rw [shapeOfAll, tokensOfAll, tokensOfAll, List.flatMap_append, List.flatMap_append,
      tagNames_shape piece, tagNamesOfAll_shape pieces]

end

end Prose

/-! ## Nesting -/

namespace Html

/-- Whether the tags close the open elements, innermost first, and all that they open themselves. A
    line break is not closed. -/
def nested : List Chars → List Tag → Bool
  | openNames, [] => openNames.isEmpty
  | openNames, tag :: tags =>
    if tag.isClosing then
      match openNames with
      | [] => false
      | name :: openNames => name == tag.name && nested openNames tags
    else if tag.name = "br".toList then nested openNames tags
    else nested (tag.name :: openNames) tags

/-- A start tag opens its element. -/
theorem nested_opening {element : Element} (h : element.Named) (openNames : List Chars)
    (tags : List Tag) : nested openNames (element.openingTag :: tags)
      = nested (element.name.toList :: openNames) tags := by
  have hname : element.name.toList ≠ "br".toList := by
    intro hbr
    exact h.ne_br (String.toList_inj.mp hbr)
  rw [nested.eq_def]
  exact if_neg hname

/-- An end tag closes the element that was opened last. -/
theorem nested_closing (element : Element) (openNames : List Chars) (tags : List Tag) :
    nested (element.name.toList :: openNames) (element.closingTag :: tags)
      = nested openNames tags := by
  rw [nested.eq_def]
  simp [Element.closingTag]

/-- The tags close what they open and nothing else. -/
def Neutral (tags : List Tag) : Prop :=
  ∀ openNames rest, nested openNames (tags ++ rest) = nested openNames rest

theorem Neutral.nil : Neutral [] := by
  intro openNames rest
  rfl

/-- What is neutral may be joined. -/
theorem Neutral.append {tags tags' : List Tag} (h : Neutral tags) (h' : Neutral tags') :
    Neutral (tags ++ tags') := by
  intro openNames rest
  rw [List.append_assoc, h, h']

theorem Neutral.lineBreak : Neutral [⟨false, "br".toList, []⟩] := by
  intro openNames rest
  rfl

/-- An element around something neutral is neutral. -/
theorem Neutral.around {element : Element} {content : List Tag} (helement : element.Named)
    (h : Neutral content) :
    Neutral (element.openingTag :: (content ++ [element.closingTag])) := by
  intro openNames rest
  rw [List.cons_append, List.append_assoc, nested_opening helement, h, List.singleton_append,
    nested_closing]

end Html

/-- An element around neutral tokens is neutral. -/
theorem Token.neutral_around {element : Element} {content : List Token} (helement : element.Named)
    (h : Neutral (content.flatMap tags)) : Neutral ((around element content).flatMap tags) := by
  have hneutral := h.around helement
  rw [around, List.flatMap_cons, List.flatMap_append]
  exact hneutral

theorem Token.neutral_text (s : String) : Neutral ([Token.text s].flatMap tags) :=
  .nil

namespace Prose

mutual

/-- Each element of prose is closed around its content. -/
theorem neutral_tokens (prose : Prose) : Neutral (prose.tokens.flatMap Token.tags) := by
  cases prose with
  | empty => exact .nil
  | text s => exact Token.neutral_text s
  | fragment pieces => exact neutral_tokensOfAll pieces
  | framed frame pieces =>
    exact Token.neutral_around frame.element_named (neutral_tokensOfAll pieces)
  | link title s url =>
    exact Token.neutral_around (linkElement_named title url) (Token.neutral_text s)
  | genreLink genre s =>
    exact Token.neutral_around (genreElement_named genre) (Token.neutral_text s)
  | error message => exact Token.neutral_around errorElement_named (Token.neutral_text message)
  | maintenance s =>
    refine Token.neutral_around maintenanceElement_named ?_
    have hitalic := Token.neutral_around (Style.element_named .italic) (Token.neutral_text s)
    rw [List.flatMap_cons, List.flatMap_append]
    exact .append .nil (.append hitalic .nil)
  | newline => exact .lineBreak
  | paragraphBreak => exact .append .lineBreak .lineBreak

theorem neutral_tokensOfAll (pieces : List Prose) :
    Neutral ((tokensOfAll pieces).flatMap Token.tags) := by
  cases pieces with
  | nil => exact .nil
  | cons piece pieces =>
    rw [tokensOfAll, List.flatMap_append]
    exact .append (neutral_tokens piece) (neutral_tokensOfAll pieces)

end

end Prose

/-! ## Values -/

/-- An attribute as a reader takes it, with the references in its value decoded. -/
def Html.readAttribute (found : Chars × Chars) : String × String :=
  (String.ofList found.1, Entity.decode (String.ofList found.2))

/-- The attributes as a reader takes them, but for those whose values are fixed. -/
def Html.Tag.values (tag : Tag) : List (String × String) :=
  (tag.attributes.map readAttribute).filter fun (key, _) => key ≠ "class" ∧ key ≠ "rel"

/-- The string of a frame, below the attribute that shows it. -/
def Frame.values : Frame → List (String × String)
  | style _ => []
  | lang code => [("lang", code)]
  | tooltip title _ => [("title", title)]
  | extLink url => [("href", url)]
  | time iso => [("datetime", iso)]
  | audio file => [("data-file", file)]

namespace Prose

mutual

/-- The strings of the prose that are not text, in order, below the attributes that show them. -/
def values : Prose → List (String × String)
  | .fragment pieces => valuesOfAll pieces
  | .framed frame pieces => frame.values ++ valuesOfAll pieces
  | .link title _ url => [("href", url), ("title", title)]
  | .genreLink genre _ => [("data-genre", genre)]
  | _ => []

def valuesOfAll : List Prose → List (String × String)
  | [] => []
  | piece :: pieces => values piece ++ valuesOfAll pieces

end

end Prose

/-- Reading gives back the string that was escaped. -/
@[simp] theorem Html.readAttribute_escaped (key value : String) :
    readAttribute (foundAttribute (.escaped key value)) = (key, value) := by
  simp [readAttribute, foundAttribute, Attribute.key, Attribute.written,
    Entity.decode_escapeAttribute]

@[simp] theorem Html.readAttribute_verbatim (key value : String) :
    readAttribute (foundAttribute (.verbatim key value)) = (key, Entity.decode value) := by
  simp [readAttribute, foundAttribute, Attribute.key, Attribute.written]

/-- The attributes of a start tag have the values that were written. -/
theorem Element.values_openingTag (element : Element) : element.openingTag.values
    = (element.attributes.map fun entry => readAttribute (foundAttribute entry)).filter
        fun (key, _) => key ≠ "class" ∧ key ≠ "rel" := by
  rw [Tag.values, openingTag, List.map_map]
  rfl

theorem Element.values_closingTag (element : Element) : element.closingTag.values = [] :=
  rfl

/-- The start tag of a frame has the values of the frame. -/
theorem Frame.values_openingTag (frame : Frame) :
    frame.element.openingTag.values = frame.values := by
  rw [Element.values_openingTag]
  cases frame with
  | style style => cases style <;> simp [element, Style.element, values]
  | tooltip title cssClass => cases cssClass <;> simp [element, values]
  | _ => simp [element, values]

def Token.values (token : Token) : List (String × String) :=
  token.tags.flatMap Tag.values

theorem Token.values_around {element : Element} {content : List Token} :
    (around element content).flatMap values
      = element.openingTag.values ++ content.flatMap values := by
  simp [around, values, tags, Element.values_closingTag]

namespace Prose

mutual

/-- The values of all tags are those of the prose. -/
theorem values_tokens (prose : Prose) : prose.tokens.flatMap Token.values = prose.values := by
  cases prose with
  | fragment pieces => exact valuesOfAll_tokens pieces
  | framed frame pieces =>
    rw [tokens, Token.values_around, frame.values_openingTag, valuesOfAll_tokens pieces, values]
  | link | genreLink | error | maintenance =>
    simp [tokens, Token.values_around, Element.values_openingTag, linkElement, genreElement,
      errorElement, maintenanceElement, Style.element, Token.values, Token.tags, values]
  | _ => rfl

theorem valuesOfAll_tokens (pieces : List Prose) :
    (tokensOfAll pieces).flatMap Token.values = valuesOfAll pieces := by
  cases pieces with
  | nil => rfl
  | cons piece pieces =>
    rw [tokensOfAll, List.flatMap_append, values_tokens piece, valuesOfAll_tokens pieces,
      valuesOfAll]

end

/-! ## Tags of HTML -/

mutual

/-- The frames of a shape are those of the prose without their texts. -/
theorem frames_shape (prose : Prose) : prose.shape.frames = prose.frames.map Frame.shape := by
  cases prose with
  | fragment pieces => exact framesOfAll_shape pieces
  | framed frame pieces => exact congrArg (frame.shape :: ·) (framesOfAll_shape pieces)
  | _ => rfl

theorem framesOfAll_shape (pieces : List Prose) :
    framesOfAll (shapeOfAll pieces) = (framesOfAll pieces).map Frame.shape := by
  cases pieces with
  | nil => rfl
  | cons piece pieces =>
    rw [shapeOfAll, framesOfAll, framesOfAll, List.map_append, frames_shape piece,
      framesOfAll_shape pieces]

end

/-- Prose of the same shape has the same classes, as they are not emptied. -/
theorem classes_shape (prose : Prose) : prose.shape.classes = prose.classes := by
  have hframe : Frame.cssClass? ∘ Frame.shape = Frame.cssClass? := by
    funext frame
    cases frame <;> rfl
  rw [classes, frames_shape, List.filterMap_map, hframe, classes]

/-- If no class ends its value, prose of the same shape has the same tags with the same attributes,
    all elements are closed in order, and the values of the attributes are the strings of the
    prose. -/
theorem html_tags (prose : Prose) (h : ∀ name ∈ prose.classes, '"' ∉ name.toList) :
    (∀ other : Prose, prose.shape = other.shape →
      (tagsOf prose.html).map Tag.names = (tagsOf other.html).map Tag.names) ∧
    nested [] (tagsOf prose.html) ∧
    (tagsOf prose.html).flatMap Tag.values = prose.values := by
  refine ⟨?_, ?_, ?_⟩
  · intro other hshape
    have hclasses : other.classes = prose.classes := by
      rw [← classes_shape other, ← hshape, classes_shape prose]
    have hnames : prose.tokens.flatMap Token.tagNames = other.tokens.flatMap Token.tagNames := by
      rw [← tagNames_shape prose, hshape, tagNames_shape other]
    rw [tagsOf_html h, tagsOf_html (hclasses ▸ h), List.map_flatMap, List.map_flatMap]
    exact hnames
  · have hneutral := prose.neutral_tokens [] []
    rw [List.append_nil] at hneutral
    rw [tagsOf_html h, hneutral]
    rfl
  · rw [tagsOf_html h, List.flatMap_assoc]
    exact prose.values_tokens

/-- A language code and a hover text that look like the end of their tags. -/
def taggedCode : Prose :=
  .framed (.lang "en\"><script>")
    [.framed (.tooltip "\"><b>" (some "IPA-key")) [.text "</span><b>"]]

/-- They are in the values of attributes, as another code and another hover text are. -/
theorem html_tags_taggedCode :
    (∀ name ∈ taggedCode.classes, '"' ∉ name.toList) ∧
      (tagsOf taggedCode.html).map Tag.names
        = (tagsOf (Prose.framed (.lang "de")
            [.framed (.tooltip "/l/" (some "IPA-key")) [.text "Lied"]]).html).map Tag.names := by
  have hclasses : ∀ name ∈ taggedCode.classes, '"' ∉ name.toList := by decide
  exact ⟨hclasses, (taggedCode.html_tags hclasses).1 _ rfl⟩

end Prose

end GenreProse
