-- SUMMARY: Nodes are read back from every spelling of their JSON form.
import GenreProse.Markup.Format
import GenreProse.Proofs.Json.RoundTrip
import Mathlib.Data.List.Forall2

/-!
# Spellings of nodes

The same node can be spelled in several ways: the members of an object may stand in any order, the
parameters of a template call may be called `children`, and a positional parameter may have a `name`
of `null`. The form that is written is one of these spellings. Whatever the nesting, each spelling
is read as the node that it spells, and so is its text if the limit of the reader allows for the
nesting.
-/

namespace GenreProse

/-! ## Fields -/

/-- The order of members makes no difference to a field. -/
theorem Json.optionalField?_of_perm {members expected : List (String × Json)}
    (h : members.Perm expected) (names : List String) :
    optionalField? names members = optionalField? names expected := by
  have hvalues : (valuesOf names members).Perm (valuesOf names expected) :=
    (h.filter _).map Prod.snd
  unfold optionalField?
  split
  · next hnone =>
    rw [hnone] at hvalues
    rw [hvalues.symm.eq_nil]
  · next value hone =>
    rw [hone] at hvalues
    rw [List.perm_singleton.1 hvalues.symm]
  · next hnotNone hnotOne =>
    split
    · next hnone =>
      rw [hnone] at hvalues
      exact absurd hvalues.eq_nil hnotNone
    · next value hone =>
      rw [hone] at hvalues
      exact absurd (List.perm_singleton.1 hvalues) (hnotOne value)
    · rfl

/-- Nor to one that has to be there. -/
theorem Json.field?_of_perm {members expected : List (String × Json)}
    (h : members.Perm expected) (names : List String) :
    field? names members = field? names expected := by
  rw [field?, field?, optionalField?_of_perm h]

/-! ## Spellings -/

/-- A parameter can be spelled this way. -/
inductive Parameter.Spells : Parameter → Json → Prop where
  | named {name value : String} {members : List (String × Json)}
      (h : members.Perm [("name", .string name), ("value", .string value)]) :
      Spells ⟨some name, value⟩ (.object members)
  | positional {value : String} {members : List (String × Json)}
      (h : members.Perm [("value", .string value)]) :
      Spells ⟨none, value⟩ (.object members)
  | nullName {value : String} {members : List (String × Json)}
      (h : members.Perm [("name", .null), ("value", .string value)]) :
      Spells ⟨none, value⟩ (.object members)

theorem Parameter.ofJson?_of_perm {members expected : List (String × Json)}
    (h : members.Perm expected) : ofJson? (.object members) = ofJson? (.object expected) := by
  simp only [ofJson?, Json.optionalField?_of_perm h, Json.field?_of_perm h]

/-- A parameter is read from each of its spellings. -/
theorem Parameter.Spells.ofJson?_eq {parameter : Parameter} {json : Json}
    (h : parameter.Spells json) : ofJson? json = some parameter := by
  cases h with
  | named h => exact (ofJson?_of_perm h).trans rfl
  | positional h => exact (ofJson?_of_perm h).trans rfl
  | nullName h => exact (ofJson?_of_perm h).trans rfl

/-- The form in which a parameter is written is one of its spellings. -/
theorem Parameter.spells_toJson (parameter : Parameter) : parameter.Spells parameter.toJson := by
  obtain ⟨name?, value⟩ := parameter
  cases name? with
  | none => exact .positional (.refl _)
  | some name => exact .named (.refl _)

/-- Parameters are read one by one. -/
theorem Parameter.listOfJson?_of_spells {parameters : List Parameter} {items : List Json}
    (h : List.Forall₂ Spells parameters items) :
    listOfJson? (.array items) = some parameters := by
  have hitems : items.mapM ofJson? = some parameters := by
    induction h with
    | nil => rfl
    | cons hparameter hrest ih => simp [List.mapM_cons, hparameter.ofJson?_eq, ih]
  exact hitems

/-- An object has no numbers in it if its members have none, whatever their order. -/
theorem hasNoNumbers_of_perm {members expected : List (String × Json)}
    (h : members.Perm expected) (hvalues : ∀ member ∈ expected, member.2.HasNoNumbers) :
    (Json.object members).HasNoNumbers :=
  .object fun member hmem => hvalues member (h.mem_iff.1 hmem)

theorem Parameter.Spells.hasNoNumbers {parameter : Parameter} {json : Json}
    (h : parameter.Spells json) : json.HasNoNumbers := by
  cases h with
  | named h => exact hasNoNumbers_of_perm h (by simp [Json.HasNoNumbers.string])
  | positional h => exact hasNoNumbers_of_perm h (by simp [Json.HasNoNumbers.string])
  | nullName h =>
    exact hasNoNumbers_of_perm h (by simp [Json.HasNoNumbers.string, Json.HasNoNumbers.null])

theorem Parameter.hasNoNumbers_of_spells {parameters : List Parameter} {items : List Json}
    (h : List.Forall₂ Spells parameters items) : ∀ item ∈ items, item.HasNoNumbers := by
  induction h with
  | nil => nofun
  | cons hparameter hrest ih => exact List.forall_mem_cons.2 ⟨hparameter.hasNoNumbers, ih⟩

namespace Node

mutual

/-- A node can be spelled this way. -/
inductive Spells : Node → Json → Prop where
  | container {kind : Container} {children : List Node} {items : List Json}
      {members : List (String × Json)} (hchildren : SpellEach children items)
      (h : members.Perm [("type", .string kind.label), ("children", .array items)]) :
      Spells (.container kind children) (.object members)
  | template {name key : String} {parameters : List Parameter} {items : List Json}
      {members : List (String × Json)} (hkey : key = "parameters" ∨ key = "children")
      (hparameters : List.Forall₂ Parameter.Spells parameters items)
      (h : members.Perm [("type", .string "template"), ("name", .string name),
        (key, .array items)]) :
      Spells (.template name parameters) (.object members)
  | link {shown title : String} {members : List (String × Json)}
      (h : members.Perm [("type", .string "link"), ("text", .string shown),
        ("title", .string title)]) :
      Spells (.link shown title) (.object members)
  | extLink {shown url : String} {members : List (String × Json)}
      (h : members.Perm [("type", .string "ext-link"), ("text", .string shown),
        ("link", .string url)]) :
      Spells (.extLink shown url) (.object members)
  | text {shown : String} {members : List (String × Json)}
      (h : members.Perm [("type", .string "text"), ("text", .string shown)]) :
      Spells (.text shown) (.object members)
  | paragraphBreak {members : List (String × Json)}
      (h : members.Perm [("type", .string "paragraph_break")]) :
      Spells .paragraphBreak (.object members)
  | newline {members : List (String × Json)} (h : members.Perm [("type", .string "newline")]) :
      Spells .newline (.object members)

inductive SpellEach : List Node → List Json → Prop where
  | nil : SpellEach [] []
  | cons {node : Node} {nodes : List Node} {item : Json} {items : List Json}
      (hnode : Spells node item) (hnodes : SpellEach nodes items) :
      SpellEach (node :: nodes) (item :: items)

end

/-! ## Reading -/

theorem ofLabel?_label (kind : Container) : Container.ofLabel? kind.label = some kind := by
  cases kind <;> rfl

/-- The children are the field of that name. -/
theorem childrenIn?_eq (members : List (String × Json)) :
    childrenIn? members = (Json.field? ["children"] members).bind listOfJson? := by
  induction members with
  | nil => rw [childrenIn?]; rfl
  | cons member members ih =>
    obtain ⟨key, value⟩ := member
    rw [childrenIn?]
    by_cases hkey : key = "children"
    · have hvalues : Json.valuesOf ["children"] ((key, value) :: members)
          = value :: Json.valuesOf ["children"] members := by
        simp [Json.valuesOf, hkey]
      rw [if_pos hkey, Json.field?, Json.optionalField?, hvalues]
      cases Json.valuesOf ["children"] members <;> rfl
    · have hvalues : Json.valuesOf ["children"] ((key, value) :: members)
          = Json.valuesOf ["children"] members := by
        simp [Json.valuesOf, hkey]
      rw [if_neg hkey, ih, Json.field?, Json.field?, Json.optionalField?, Json.optionalField?,
        hvalues]

theorem leafOf?_of_perm {members expected : List (String × Json)} (h : members.Perm expected)
    (label : String) : leafOf? label members = leafOf? label expected := by
  simp only [leafOf?, parametersIn?, Json.field?_of_perm h]

/-- A node that is no container is read from its members, in whatever order they stand. -/
theorem ofJson?_leaf {members expected : List (String × Json)} {label : String}
    (h : members.Perm expected) (hlabel : Json.field? ["type"] expected = some (.string label))
    (hleaf : Container.ofLabel? label = none) :
    ofJson? (.object members) = leafOf? label expected := by
  have htype : (Json.field? ["type"] members).bind Json.string? = some label := by
    rw [Json.field?_of_perm h, hlabel]
    rfl
  simp only [ofJson?, htype, hleaf]
  exact leafOf?_of_perm h label

/-- The parameters of a template call are read under either key. -/
theorem ofJson?_template {name key : String} {parameters : List Parameter} {items : List Json}
    {members : List (String × Json)} (hkey : key = "parameters" ∨ key = "children")
    (hparameters : List.Forall₂ Parameter.Spells parameters items)
    (h : members.Perm [("type", .string "template"), ("name", .string name),
      (key, .array items)]) :
    ofJson? (.object members) = some (.template name parameters) := by
  have htype : Json.field? ["type"] [("type", .string "template"), ("name", .string name),
      (key, .array items)] = some (.string "template") := by
    rcases hkey with rfl | rfl <;> rfl
  have hleaf : leafOf? "template" [("type", .string "template"), ("name", .string name),
      (key, .array items)]
        = (Parameter.listOfJson? (.array items)).bind fun read => some (.template name read) := by
    rcases hkey with rfl | rfl <;> rfl
  rw [ofJson?_leaf h htype rfl, hleaf, Parameter.listOfJson?_of_spells hparameters]
  rfl

/-- A container is read from its kind and its children, whatever their order. -/
theorem ofJson?_container {kind : Container} {items : List Json} {members : List (String × Json)}
    (h : members.Perm [("type", .string kind.label), ("children", .array items)]) :
    ofJson? (.object members) = (itemsOfJson? items).map (container kind) := by
  have htype : (Json.field? ["type"] members).bind Json.string? = some kind.label := by
    rw [Json.field?_of_perm h]
    rfl
  have hchildren : childrenIn? members = itemsOfJson? items := by
    have hfound : Json.field? ["children"] members = some (.array items) :=
      Json.field?_of_perm h ["children"]
    rw [childrenIn?_eq, hfound, Option.bind_some, listOfJson?]
  simp only [ofJson?, htype, ofLabel?_label, hchildren]

mutual

/-- A node is read from each of its spellings. -/
theorem Spells.ofJson?_eq {node : Node} {json : Json} (h : Spells node json) :
    ofJson? json = some node :=
  match h with
  | .container hchildren h => by
    rw [ofJson?_container h, hchildren.itemsOfJson?_eq]
    rfl
  | .template hkey hparameters h => ofJson?_template hkey hparameters h
  | .link h => (ofJson?_leaf h rfl rfl).trans rfl
  | .extLink h => (ofJson?_leaf h rfl rfl).trans rfl
  | .text h => (ofJson?_leaf h rfl rfl).trans rfl
  | .paragraphBreak h => (ofJson?_leaf h rfl rfl).trans rfl
  | .newline h => (ofJson?_leaf h rfl rfl).trans rfl

theorem SpellEach.itemsOfJson?_eq {nodes : List Node} {items : List Json}
    (h : SpellEach nodes items) : itemsOfJson? items = some nodes :=
  match h with
  | .nil => by rw [itemsOfJson?]
  | .cons hnode hnodes => by
    rw [itemsOfJson?, hnode.ofJson?_eq, hnodes.itemsOfJson?_eq]
    rfl

end

/-! ## The form that is written -/

mutual

/-- The form that is written is a spelling. -/
theorem spells_toJson (node : Node) : Spells node node.toJson :=
  match node with
  | .container kind children => by
    rw [toJson]
    exact .container (spellEach_listToJson children) (.refl _)
  | .template name parameters => by
    rw [toJson]
    refine .template (.inl rfl) ?_ (.refl _)
    apply List.forall₂_map_right_iff.2
    exact List.forall₂_same.2 fun parameter _ => parameter.spells_toJson
  | .link shown title => by
    rw [toJson]
    exact .link (.refl _)
  | .extLink shown url => by
    rw [toJson]
    exact .extLink (.refl _)
  | .text shown => by
    rw [toJson]
    exact .text (.refl _)
  | .paragraphBreak => by
    rw [toJson]
    exact .paragraphBreak (.refl _)
  | .newline => by
    rw [toJson]
    exact .newline (.refl _)

theorem spellEach_listToJson (nodes : List Node) : SpellEach nodes (listToJson nodes) :=
  match nodes with
  | [] => by
    rw [listToJson]
    exact .nil
  | node :: nodes => by
    rw [listToJson]
    exact .cons (spells_toJson node) (spellEach_listToJson nodes)

end

/-! ## Reading text -/

mutual

theorem Spells.hasNoNumbers {node : Node} {json : Json} (h : Spells node json) :
    json.HasNoNumbers :=
  match h with
  | .container hchildren h => by
    apply hasNoNumbers_of_perm h
    simp [Json.HasNoNumbers.string, Json.HasNoNumbers.array hchildren.hasNoNumbers]
  | .template hkey hparameters h => by
    apply hasNoNumbers_of_perm h
    have hitems := Json.HasNoNumbers.array (Parameter.hasNoNumbers_of_spells hparameters)
    simp [Json.HasNoNumbers.string, hitems]
  | .link h => hasNoNumbers_of_perm h (by simp [Json.HasNoNumbers.string])
  | .extLink h => hasNoNumbers_of_perm h (by simp [Json.HasNoNumbers.string])
  | .text h => hasNoNumbers_of_perm h (by simp [Json.HasNoNumbers.string])
  | .paragraphBreak h => hasNoNumbers_of_perm h (by simp [Json.HasNoNumbers.string])
  | .newline h => hasNoNumbers_of_perm h (by simp [Json.HasNoNumbers.string])

theorem SpellEach.hasNoNumbers {nodes : List Node} {items : List Json}
    (h : SpellEach nodes items) : ∀ item ∈ items, item.HasNoNumbers :=
  match h with
  | .nil => nofun
  | .cons hnode hnodes => List.forall_mem_cons.2 ⟨hnode.hasNoNumbers, hnodes.hasNoNumbers⟩

end

/-- A list of nodes is read back from the form that is written, and from every other spelling: from
    the value whatever its nesting, and from its text in either layout if and only if the limit of
    the reader allows for the nesting. The reader of the program has a limit of 127 levels: text that
    nests deeper is not read back. -/
theorem listOfJson?_spellings (nodes : List Node) :
    listOfJson? (.array (listToJson nodes)) = some nodes ∧
    SpellEach nodes (listToJson nodes) ∧
    ∀ items, SpellEach nodes items →
      listOfJson? (.array items) = some nodes ∧
      ∀ layout ∈ [Json.Layout.compact, Json.Layout.indented], ∀ limit,
        (Json.readNested? limit (Json.write layout 0 (.array items))).bind listOfJson?
          = if (Json.array items).depth ≤ limit then some nodes else none := by
  have hvalue : ∀ items, SpellEach nodes items → listOfJson? (.array items) = some nodes := by
    intro items hspelled
    rw [listOfJson?]
    exact hspelled.itemsOfJson?_eq
  have hwritten := spellEach_listToJson nodes
  refine ⟨hvalue _ hwritten, hwritten, fun items hspelled => ⟨hvalue items hspelled, ?_⟩⟩
  intro layout hlayout limit
  have hspaced : layout.IsSpaced := by
    rcases List.mem_pair.1 hlayout with rfl | rfl
    · exact Json.isSpaced_compact
    · exact Json.isSpaced_indented
  rw [(Json.HasNoNumbers.array hspelled.hasNoNumbers).readNested?_write hspaced limit]
  split
  · exact hvalue items hspelled
  · rfl

/-- A template call with its parameters under the other key, the first one with a name of `null`. -/
def respelledCall : Json :=
  .object [("type", .string "template"), ("name", .string "lang"),
    ("children", .array [.object [("name", .null), ("value", .string "fr")],
      .object [("name", .string "lit"), ("value", .string "a \"b\"")]])]

theorem listOfJson?_spellings_respelled :
    SpellEach [.template "lang" [⟨none, "fr"⟩, ⟨some "lit", "a \"b\""⟩]] [respelledCall] ∧
    listOfJson? (.array [respelledCall])
      = some [.template "lang" [⟨none, "fr"⟩, ⟨some "lit", "a \"b\""⟩]] ∧
    (Json.readNested? 4 (Json.write .compact 0 (.array [respelledCall]))).bind listOfJson?
      = some [.template "lang" [⟨none, "fr"⟩, ⟨some "lit", "a \"b\""⟩]] := by
  have hspelled : SpellEach [.template "lang" [⟨none, "fr"⟩, ⟨some "lit", "a \"b\""⟩]]
      [respelledCall] :=
    .cons (.template (.inr rfl) (.cons (.nullName (.refl _)) (.cons (.named (.refl _)) .nil))
      (.refl _)) .nil
  obtain ⟨-, -, hall⟩ :=
    listOfJson?_spellings [.template "lang" [⟨none, "fr"⟩, ⟨some "lit", "a \"b\""⟩]]
  obtain ⟨hvalue, htext⟩ := hall [respelledCall] hspelled
  exact ⟨hspelled, hvalue, (htext .compact (by simp) 4).trans (if_pos (by decide))⟩

end Node

end GenreProse
