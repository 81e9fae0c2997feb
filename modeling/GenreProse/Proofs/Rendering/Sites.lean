-- SUMMARY: The classes of a render show nothing, and addresses of scripts come from certain calls.
import GenreProse.Proofs.Markup.Origins
import GenreProse.Proofs.Prose.VisibleText
import GenreProse.Proofs.Rendering.Nodes
import GenreProse.Proofs.Rendering.Termination
import GenreProse.Proofs.Template.Sites
import GenreProse.Proofs.Text.Ascii

/-!
# Classes and links of a render

Every rule of a render shows what its parts show. So a render has no class but the one that handlers
write, and the HTML of it shows its plain text.

A link to another site goes where some node leads, or where a handler does. Those that markup writes
open like an address of the web, and those that handlers write have a secure scheme. Only an address
that a call gives for a link to another site can be one of a script, and it is left as it is only
with slashes after a colon.
-/

namespace GenreProse

open Node

/-! ## Runs -/

/-- Whether a node leads to allowed addresses only: a link by itself, and a call by its argument. -/
def Node.LeadsIn (allowed : String → Prop) : Node → Prop
  | .extLink _ url => allowed url
  | .template name parameters =>
    ∀ url, Template.address? ⟨name, parameters⟩ = some url → allowed url
  | _ => True

/-- Whether what a task has to do leads to allowed addresses only. -/
def Task.LeadsIn (allowed : String → Prop) : Task → Prop
  | .node single => ∀ node ∈ single.within, node.LeadsIn allowed
  | .nodes several => ∀ node ∈ withinAll several, node.LeadsIn allowed
  | .lossy several => ∀ node ∈ withinAll several, node.LeadsIn allowed
  | .call name parameters => (Node.template name parameters).LeadsIn allowed
  | .handler eval => eval.Ensures (Prose.KeepsTo allowed) (Outcome.KeepsTo allowed)
  | .request _ => True

/-- Whether what a task resulted in keeps to allowed addresses. -/
def Task.KeepsTo (allowed : String → Prop) : (task : Task) → task.Output → Prop
  | .node _, prose => prose.KeepsTo allowed
  | .nodes _, pieces => ∀ piece ∈ pieces, piece.KeepsTo allowed
  | .lossy _, pieces => ∀ piece ∈ pieces, piece.KeepsTo allowed
  | .call _ _, prose => prose.KeepsTo allowed
  | .handler _, outcome => outcome.KeepsTo allowed
  | .request _, prose => prose.KeepsTo allowed

variable {allowed : String → Prop} {renderer : Renderer}

theorem Container.wrap_keepsTo (kind : Container) {content : Prose}
    (h : content.KeepsTo allowed) : (kind.wrap content).KeepsTo allowed := by
  cases kind with
  | fragment => exact h
  | _ => exact Prose.keepsTo_styled.mpr h

theorem keepsTo_depthExceeded (subject : String) : (depthExceeded subject).KeepsTo allowed :=
  Prose.keepsTo_error _

/-- A handler leads only to addresses of its call and to secure ones. -/
theorem startHandler_leadsIn (hsecure : ∀ url, Text.opensWith url "https:" → allowed url)
    {name : String} {parameters : List Parameter} {handler : Handler}
    (hfind : Template.find? (canonicalName name) = some handler)
    (hcall : (Node.template name parameters).LeadsIn allowed) :
    (Task.handler (startHandler renderer handler name parameters)).LeadsIn allowed :=
  Template.find?_keepsTo hsecure hcall hfind renderer.context

/-- Whether all that a parser call gives leads to allowed addresses only. -/
def ParserCall.LeadsIn (renderer : Renderer) (allowed : String → Prop) (call : ParserCall) : Prop :=
  ∀ node ∈ withinAll (renderer.parse call.text), node.LeadsIn allowed

/-- A run keeps to allowed addresses if its task and all that it parses do. -/
theorem Run.keepsTo (hsecure : ∀ url, Text.opensWith url "https:" → allowed url) {depth : Nat}
    {task : Task} {result : Result task.Output} {calls : List ParserCall}
    (h : Run renderer depth task result calls) :
    task.LeadsIn allowed → (∀ call ∈ calls, call.LeadsIn renderer allowed) →
      ∀ output, result = .ok output → task.KeepsTo allowed output := by
  induction h with
  -- These rules fail.
  | unknownCall | failedNode | failedCall | refused =>
    intro _ _ output hresult
    cases hresult
  -- Leaves, and messages in place of what lies too deep.
  | link =>
    rintro - - _ ⟨⟩
    exact link_keepsTo _ _ _
  | extLink =>
    rintro htask - _ ⟨⟩
    have hurl : allowed _ := htask _ (List.mem_singleton_self _)
    exact Prose.keepsTo_framed_text.mpr hurl
  | text | paragraphBreak | newline | emptyRequest =>
    rintro - - _ ⟨⟩
    exact List.forall_mem_nil _
  | noNodes | lossyEnd | lossyStop =>
    rintro - - _ ⟨⟩
    exact List.forall_mem_nil _
  | deepCall | deepRequest =>
    rintro - - _ ⟨⟩
    exact keepsTo_depthExceeded _
  | finished =>
    rintro htask - _ ⟨⟩
    exact htask
  -- The others show what their parts show.
  | @container _ kind _ _ _ _ ih =>
    intro htask hcalls output hresult
    obtain ⟨pieces, hpieces, rfl⟩ := map_eq_ok hresult
    have hchildren := ih (fun node hnode => htask node (List.mem_cons_of_mem _ hnode)) hcalls
    exact kind.wrap_keepsTo (Prose.keepsTo_concat.mpr (hchildren pieces hpieces))
  | template _ ih =>
    intro htask hcalls
    exact ih (htask _ (List.mem_singleton_self _)) hcalls
  | nextNode _ _ ihnode ihnodes | lossyNext _ _ ihnode ihnodes =>
    intro htask hcalls output hresult
    obtain ⟨pieces, hpieces, rfl⟩ := map_eq_ok hresult
    obtain ⟨hnode, hnodes⟩ := List.forall_mem_append.mp htask
    obtain ⟨hfirst, hrest⟩ := List.forall_mem_append.mp hcalls
    exact List.forall_mem_cons.mpr
      ⟨ihnode hnode hfirst _ rfl, ihnodes hnodes hrest pieces hpieces⟩
  | shownCall hfind _ ih =>
    rintro htask hcalls _ ⟨⟩
    exact ih (startHandler_leadsIn hsecure hfind htask) hcalls _ rfl
  | nextCall _ _ _ hparse _ _ ihnext =>
    intro _ hcalls
    obtain ⟨hparsed, hbelow⟩ := List.forall_mem_cons.mp (List.forall_mem_append.mp hcalls).2
    rw [ParserCall.LeadsIn, hparse] at hparsed
    exact ihnext (hparsed _ (List.mem_singleton_self _)) hbelow
  | parsedCall _ _ _ _ _ _ ih =>
    intro _ hcalls output hresult
    obtain ⟨pieces, hpieces, rfl⟩ := map_eq_ok hresult
    obtain ⟨hparsed, hbelow⟩ := List.forall_mem_cons.mp (List.forall_mem_append.mp hcalls).2
    exact Prose.keepsTo_concat.mpr (ih hparsed hbelow pieces hpieces)
  | answered _ _ ihrequest ihrest =>
    intro htask hcalls output hresult
    obtain ⟨hrequest, hrest⟩ := List.forall_mem_append.mp hcalls
    exact ihrest (htask _ (ihrequest trivial hrequest _ rfl)) hrest output hresult
  | parsedRequest _ _ _ ih =>
    intro _ hcalls output hresult
    obtain ⟨pieces, hpieces, rfl⟩ := map_eq_ok hresult
    obtain ⟨hparsed, hbelow⟩ := List.forall_mem_cons.mp hcalls
    exact Prose.keepsTo_concat.mpr (ih hparsed hbelow pieces hpieces)

/-! ## Classes -/

namespace Renderer

end Renderer

/-- The class that handlers write does not end a tag. -/
theorem Prose.KeepsTo.visibleText {prose : Prose} (h : prose.KeepsTo allowed) :
    Html.visibleText prose.html = prose.plainText := by
  refine visibleText_of_classes fun name hname => ?_
  rw [h.cssClass name hname]
  decide

/-- Whether an address has a scheme for scripts or for data, in any case of its letters. -/
def isScriptUrl (url : String) : Bool :=
  ["javascript:", "vbscript:", "data:"].any (Text.opensWith (Text.asciiLower url))

theorem isScriptUrl_eq_false {url : String} {c : Char} {rest : Chars}
    (hurl : url.toList = c :: rest) (hc : c.toLower ∉ ['j', 'v', 'd']) :
    isScriptUrl url = false := by
  simp only [List.mem_cons, List.not_mem_nil, or_false, not_or] at hc
  obtain ⟨hj, hv, hd⟩ := hc
  simp [isScriptUrl, Text.opensWith, Text.asciiLower, Text.onChars, Chars.opensWith, Chars.after?,
    hurl, Ne.symm hj, Ne.symm hv, Ne.symm hd]

/-- A text that opens a safe address opens no script. -/
theorem isScriptUrl_of_opensWith {url p : String} (h : Text.opensWith url p) {c : Char}
    {rest : Chars} (hp : p.toList = c :: rest) (hc : c.toLower ∉ ['j', 'v', 'd']) :
    isScriptUrl url = false := by
  rw [Text.opensWith, Chars.opensWith_iff, hp] at h
  obtain ⟨more, hurl⟩ := h
  exact isScriptUrl_eq_false hurl.symm hc

/-- An address of a script that gets no scheme has slashes after a colon. -/
theorem Template.contains_of_withScheme {url : String} (hscript : isScriptUrl url)
    (hkept : withScheme url = url) : Text.contains url "://" := by
  have hscheme {p : String} (h : Text.opensWith url p) {c : Char} {rest : Chars}
      (hp : p.toList = c :: rest) (hc : c.toLower ∉ ['j', 'v', 'd']) : False :=
    Bool.false_ne_true ((isScriptUrl_of_opensWith h hp hc).symm.trans hscript)
  have hopens (p : String) (h : p ++ url = url) : Text.opensWith url p := by
    rw [Text.opensWith, Chars.opensWith_iff]
    exact ⟨url.toList, by rw [← String.toList_append, h]⟩
  unfold withScheme at hkept
  split at hkept
  · exact (hscheme (hopens _ hkept) rfl (by decide)).elim
  · split at hkept
    · next hslashes =>
      rw [Bool.or_eq_true] at hslashes
      exact hslashes.resolve_right fun hmail => hscheme hmail rfl (by decide)
    · exact (hscheme (hopens _ hkept) rfl (by decide)).elim

/-- No external link that is parsed is a script. -/
theorem Markup.isScriptUrl_of_parse {text label url : String}
    (h : .extLink label url ∈ withinAll (parse text)) : isScriptUrl url = false := by
  obtain ⟨rest, inner, left, hstart, hcut, hlink⟩ := exists_address_of_mem_parse h
  obtain ⟨c, s, rfl, hc⟩ : ∃ c s, rest = c :: s ∧ c ∈ ['h', '/'] := by
    simp only [isUrlStart, List.any_cons, List.any_nil, Bool.or_false, Bool.or_eq_true,
      Chars.opensWith_iff] at hstart
    obtain ⟨more, rfl⟩ | ⟨more, rfl⟩ | ⟨more, rfl⟩ := hstart
    · exact ⟨'h', _, rfl, by decide⟩
    · exact ⟨'h', _, rfl, by decide⟩
    · exact ⟨'/', _, rfl, by decide⟩
  have hstarts : ∀ c ∈ ['h', '/'], (c == ']') = false ∧ (c == ' ') = false ∧
      isBlank c = false ∧ c.toLower ∉ ['j', 'v', 'd'] := Chars.forall_of_all (by decide)
  obtain ⟨hbracket, hspace, hblank, hlower⟩ := hstarts c hc
  -- Neither the bracket nor a blank ends the address before its first character.
  obtain ⟨inside, rfl⟩ : ∃ inside, inner = c :: inside := by
    simp only [Chars.cutAt?, hbracket, Bool.false_eq_true, if_false, Option.map_eq_some_iff,
      Prod.mk.injEq] at hcut
    obtain ⟨before, -, hinner, -⟩ := hcut
    exact ⟨before.1, hinner.symm⟩
  obtain ⟨kept, htrim⟩ := Chars.exists_trim_cons hblank inside
  obtain ⟨address, haddress⟩ : ∃ address, url.toList = c :: address := by
    simp only [parseExtLink, htrim, Chars.cutAt?, hspace, Bool.false_eq_true, if_false,
      Node.extLink.injEq] at hlink
    rw [← hlink.2, String.toList_ofList]
    cases Chars.cutAt? (· == ' ') kept with
    | none => exact ⟨kept, rfl⟩
    | some parts => exact ⟨parts.1, rfl⟩
  exact isScriptUrl_eq_false haddress hlower

/-- An address with a scheme is left as it is. -/
theorem Template.withScheme_of_address? {call : Call} {url : String}
    (h : address? call = some url) : withScheme url = url := by
  rw [address?, Option.filter_eq_some_iff] at h
  exact of_decide_eq_true h.2

/-- Whether an address is the one of a call in the nodes or in what was parsed. -/
def Renderer.Cites (renderer : Renderer) (nodes : List Node) (calls : List ParserCall)
    (url : String) : Prop :=
  ∃ name parameters, Template.address? ⟨name, parameters⟩ = some url ∧
    (.template name parameters ∈ withinAll nodes ∨
      ∃ call ∈ calls, .template name parameters ∈ withinAll (renderer.parse call.text))

/-- A script that is linked to has a scheme in the text that it comes from. -/
theorem Renderer.Cites.contains {nodes : List Node} {calls : List ParserCall} {url : String}
    (h : renderer.Cites nodes calls url) (hscript : isScriptUrl url) :
    Text.contains url "://" := by
  obtain ⟨name, parameters, haddress, -⟩ := h
  exact Template.contains_of_withScheme hscript (Template.withScheme_of_address? haddress)

/-- What markup reads leads to scripts by calls only. -/
theorem Markup.leadsIn_of_parse {text : String} {node : Node} (h : node ∈ withinAll (parse text))
    (hsafe : ∀ url, isScriptUrl url = false → allowed url)
    (hcall : ∀ name parameters, node = .template name parameters →
      ∀ url, Template.address? ⟨name, parameters⟩ = some url → allowed url) :
    node.LeadsIn allowed := by
  cases node with
  | extLink label url => exact hsafe url (isScriptUrl_of_parse h)
  | template name parameters => exact hcall name parameters rfl
  | _ => trivial

/-- A run of markup that links to a script met a call with its address. -/
theorem Run.cites {text : String} {task : Task} {output : task.Output} {calls : List ParserCall}
    (h : Run renderer 0 task (.ok output) calls) (hparse : renderer.parse = Markup.parse)
    (htask : ∀ allowed, (Task.nodes (Markup.parse text)).LeadsIn allowed → task.LeadsIn allowed) :
    task.KeepsTo (fun url => isScriptUrl url → renderer.Cites (Markup.parse text) calls url)
      output := by
  have hsafe (url : String) (hurl : isScriptUrl url = false) (hscript : isScriptUrl url) :
      renderer.Cites (Markup.parse text) calls url :=
    absurd (hurl.symm.trans hscript) Bool.false_ne_true
  refine h.keepsTo (fun url hopens => hsafe url (isScriptUrl_of_opensWith hopens rfl (by decide)))
    ?_ ?_ output rfl
  · refine htask _ fun node hnode => ?_
    refine Markup.leadsIn_of_parse hnode hsafe ?_
    rintro name parameters rfl url haddress -
    exact ⟨name, parameters, haddress, .inl hnode⟩
  · intro call hcall node hnode
    rw [hparse] at hnode
    refine Markup.leadsIn_of_parse hnode hsafe ?_
    rintro name parameters rfl url haddress -
    exact ⟨name, parameters, haddress, .inr ⟨call, hcall, hparse ▸ hnode⟩⟩

/-- A context at the start of the epoch, in which no page is about a genre. -/
def Context.epoch : Context :=
  ⟨none, .utc ⟨1970, 1, 1, isCalendarDay_epoch⟩ .midnight, fun _ => none⟩

namespace Renderer

/-- The renderer that reads texts as markup. -/
abbrev ofMarkup (context : Context) (maxDepth : Nat) : Renderer :=
  ⟨Markup.parse, context, maxDepth⟩

/-- A strict or lossy render of markup links to the address of a script only if the address has
    slashes after a colon and a call of a template for links to other sites gives it, in the markup
    or in what the render parsed. All other links go elsewhere. -/
theorem renders_scriptUrls (context : Context) (maxDepth : Nat) (text url : String)
    (hscript : isScriptUrl url) :
    let renderer := ofMarkup context maxDepth
    let nodes := Markup.parse text
    (∀ prose, renderer.renderText text = .ok prose → url ∈ prose.sites →
      Text.contains url "://" ∧ ∃ pieces calls,
        Run renderer 0 (.nodes nodes) (.ok pieces) calls ∧ renderer.Cites nodes calls url) ∧
    (url ∈ (renderer.renderLossy nodes).sites →
      Text.contains url "://" ∧ ∃ pieces calls,
        Run renderer 0 (.lossy nodes) (.ok pieces) calls ∧ renderer.Cites nodes calls url) := by
  intro renderer nodes
  constructor
  · intro prose hrender hurl
    obtain ⟨pieces, hpieces, rfl⟩ := map_eq_ok hrender
    obtain ⟨calls, hrun⟩ := finishes (Nat.zero_add renderer.maxDepth) (.nodes nodes)
    rw [show renderer.perform renderer.maxDepth (.nodes nodes) = .ok pieces from hpieces] at hrun
    have hcites := (Prose.keepsTo_concat.mpr (hrun.cites rfl fun _ h => h)).site url hurl hscript
    exact ⟨hcites.contains hscript, pieces, calls, hrun, hcites⟩
  · intro hurl
    obtain ⟨calls, hrun⟩ := finishes (Nat.zero_add renderer.maxDepth) (.lossy nodes)
    have hcites := (Prose.keepsTo_concat.mpr (hrun.cites rfl fun _ h => h)).site url hurl hscript
    exact ⟨hcites.contains hscript, _, calls, hrun, hcites⟩

/-- A call with an address of a script that looks like one of the web. -/
def scriptCall : String :=
  "\x7b\x7bURL|javascript://%0aalert(1)\x7d\x7d"

theorem parse_scriptCall :
    Markup.parse scriptCall = [.template "URL" [⟨none, "javascript://%0aalert(1)"⟩]] := by
  have hcall : Markup.balanced? '{' '}' 1 "URL|javascript://%0aalert(1)\x7d\x7d".toList =
      some ("URL|javascript://%0aalert(1)".toList, []) := by decide
  exact (Markup.parse_whole_call hcall).trans rfl

theorem renderText_scriptCall (context : Context) (maxDepth : Nat) :
    (ofMarkup context maxDepth).renderText scriptCall =
      .ok (.framed (.extLink "javascript://%0aalert(1)") [.text "%0aalert(1)"]) :=
  (congrArg (render _) parse_scriptCall).trans (by cases maxDepth <;> rfl)

theorem renders_scriptUrls_call :
    isScriptUrl "javascript://%0aalert(1)" ∧
      Text.contains "javascript://%0aalert(1)" "://" ∧ ∃ pieces calls,
        Run (ofMarkup .epoch 20) 0 (.nodes (Markup.parse scriptCall)) (.ok pieces) calls ∧
        (ofMarkup .epoch 20).Cites (Markup.parse scriptCall) calls "javascript://%0aalert(1)" := by
  have hscript : isScriptUrl "javascript://%0aalert(1)" := by decide
  have hrender := renderText_scriptCall .epoch 20
  exact ⟨hscript, (renders_scriptUrls .epoch 20 scriptCall _ hscript).1 _ hrender (by decide)⟩

/-- A link that a render shows leads to a script. -/
theorem renderText_scriptCall_epoch :
    isScriptUrl "javascript://%0aalert(1)" ∧
      "javascript://%0aalert(1)" ∈
        (Prose.framed (.extLink "javascript://%0aalert(1)") [.text "%0aalert(1)"]).sites ∧
      (ofMarkup .epoch 20).renderText "\x7b\x7bURL|javascript://%0aalert(1)\x7d\x7d" =
        .ok (.framed (.extLink "javascript://%0aalert(1)") [.text "%0aalert(1)"]) :=
  ⟨by decide, by decide, renderText_scriptCall .epoch 20⟩

end Renderer

end GenreProse
