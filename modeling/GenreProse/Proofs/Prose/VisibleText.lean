-- SUMMARY: HTML shows the plain text.
import GenreProse.Proofs.Prose.Tokens

/-!
# Visible text

A reader of HTML shows a line break for `<br>`, nothing for any other tag, and for a reference the
character that it means. What it shows for the HTML of prose is the plain text, whatever texts and
values are in the prose.
-/

namespace GenreProse

namespace Html

/-! ## Reader -/

/-- Puts line breaks in place of their tags. -/
def breakLines (s : Chars) : Chars :=
  Chars.replace "<br>".toList ['\n'] s

/-- Removes tags, from `<` to the next `>`. The first argument says whether a tag is open. -/
def removeTags : Bool → Chars → Chars
  | _, [] => []
  | true, c :: s => removeTags (c ≠ '>') s
  | false, c :: s => if c = '<' then removeTags true s else c :: removeTags false s

/-- Puts the characters of markup in place of the references to them. -/
def decodeMarkup : Chars → Chars
  | '&' :: 'a' :: 'm' :: 'p' :: ';' :: s => '&' :: decodeMarkup s
  | '&' :: 'l' :: 't' :: ';' :: s => '<' :: decodeMarkup s
  | '&' :: 'g' :: 't' :: ';' :: s => '>' :: decodeMarkup s
  | '&' :: 'q' :: 'u' :: 'o' :: 't' :: ';' :: s => '"' :: decodeMarkup s
  | c :: s => c :: decodeMarkup s
  | [] => []

/-- What a reader sees of HTML. -/
def visible (s : Chars) : Chars :=
  decodeMarkup (removeTags false (breakLines s))

def visibleText (html : String) : String :=
  Text.onChars visible html

/-! ## Line breaks -/

section

variable {s body rest : Chars}

/-- Text before the first tag has no line break in it. -/
theorem breakLines_text (h : '<' ∉ s) : breakLines (s ++ rest) = s ++ breakLines rest := by
  induction s with
  | nil => rfl
  | cons c s ih =>
    simp only [List.mem_cons, not_or] at h
    obtain ⟨hc, hs⟩ := h
    have hopens : Chars.opensWith "<br>".toList (c :: (s ++ rest)) = false := by
      simp [Chars.opensWith, Chars.after?, hc]
    rw [List.cons_append, breakLines, Chars.replace, Chars.replaceFrom, hopens, if_neg (by simp)]
    exact congrArg (c :: ·) (ih hs)

theorem breakLines_break : breakLines ("<br>".toList ++ rest) = '\n' :: breakLines rest :=
  rfl

/-- Only the tag of a line break is read as one. -/
theorem after?_break (hclose : '>' ∉ body) (hbody : body ≠ "br".toList) :
    Chars.after? "br>".toList (body ++ '>' :: rest) = none := by
  refine Option.eq_none_iff_forall_ne_some.mpr ?_
  intro rest' hafter
  have hsame : body ++ '>' :: rest = "br>".toList ++ rest' :=
    Chars.eq_append_of_after? hafter
  have hchars : ∀ c ∈ body, decide (c ≠ '>') = true := by
    intro c hc
    exact decide_eq_true fun h => hclose (h ▸ hc)
  have htag := congrArg (List.takeWhile fun c => decide (c ≠ '>')) hsame
  rw [List.takeWhile_append_of_pos hchars] at htag
  exact hbody (by simpa using htag)

/-- No line break is read up to the end of a tag, unless the tag is one from its last `<` on. -/
theorem breakLines_tag {s : Chars} (hclose : '>' ∉ s) (hbreak : ¬ "<br".toList <:+ s) :
    breakLines (s ++ '>' :: rest) = s ++ '>' :: breakLines rest := by
  induction s with
  | nil => rfl
  | cons c s ih =>
    obtain ⟨-, hs⟩ : ¬ '>' = c ∧ '>' ∉ s := by simpa using hclose
    have hopens : Chars.opensWith "<br>".toList (c :: (s ++ '>' :: rest)) = false := by
      by_cases hc : c = '<'
      · subst hc
        have hbody : s ≠ "br".toList := by
          rintro rfl
          exact hbreak (List.suffix_refl _)
        simpa [Chars.opensWith, Chars.after?] using after?_break hs hbody
      · simp [Chars.opensWith, Chars.after?, Ne.symm hc]
    rw [List.cons_append, breakLines, Chars.replace, Chars.replaceFrom, hopens, if_neg (by simp)]
    exact congrArg (c :: ·) (ih hs fun h => hbreak (h.trans (List.suffix_cons c s)))

/-! ## Tags -/

/-- Text before the first tag stays. -/
theorem removeTags_text (h : '<' ∉ s) :
    removeTags false (s ++ rest) = s ++ removeTags false rest := by
  induction s with
  | nil => rfl
  | cons c s ih =>
    simp only [List.mem_cons, not_or] at h
    obtain ⟨hc, hs⟩ := h
    rw [List.cons_append, removeTags, if_neg (Ne.symm hc), ih hs]
    rfl

/-- A tag goes up to its `>`. -/
theorem removeTags_tag (h : '>' ∉ body) :
    removeTags false ('<' :: (body ++ '>' :: rest)) = removeTags false rest := by
  rw [removeTags, if_pos rfl]
  induction body with
  | nil => rfl
  | cons c body ih =>
    simp only [List.mem_cons, not_or] at h
    obtain ⟨hc, hbody⟩ := h
    have hopen : decide (c ≠ '>') = true := decide_eq_true (Ne.symm hc)
    rw [List.cons_append, removeTags, hopen, ih hbody]

/-! ## References -/

/-- Only an ampersand starts a reference. -/
theorem decodeMarkup_text {c : Char} (h : c ≠ '&') :
    decodeMarkup (c :: rest) = c :: decodeMarkup rest := by
  rw [decodeMarkup] <;> simp [h]

end

/-- However a character is written, it is read back. -/
theorem decodeMarkup_written {c : Char} {written : Chars} (h : Entity.Written c written)
    (rest : Chars) : decodeMarkup (written ++ rest) = c :: decodeMarkup rest := by
  cases h with
  | reference name hname =>
    simp only [Entity.markupEntities, List.mem_cons, Prod.mk.injEq, List.not_mem_nil,
      or_false] at hname
    rcases hname with ⟨rfl, rfl⟩ | ⟨rfl, rfl⟩ | ⟨rfl, rfl⟩ | ⟨rfl, rfl⟩ <;> rfl
  | plain hamp => exact decodeMarkup_text hamp

/-! ## Shown text -/

/-- The reader sees the text for what is written, whatever comes after it. -/
def Shows (written shown : Chars) : Prop :=
  ∀ rest, visible (written ++ rest) = shown ++ visible rest

/-- A character that is written is shown. -/
theorem shows_written {c : Char} {written : Chars} (h : Entity.Written c written) :
    Shows written [c] := by
  intro rest
  have hopen := h.not_mem.1
  rw [visible, breakLines_text hopen, removeTags_text hopen, decodeMarkup_written h]
  rfl

/-- Escaped text is shown as it was. -/
theorem shows_escape (s : String) : Shows (Entity.escape s).toList s.toList := by
  intro rest
  rw [Entity.toList_escape]
  exact Entity.read_flatMap (fun c => shows_written (Entity.written_escapeChar c)) s.toList rest

theorem shows_break : Shows "<br>".toList ['\n'] := by
  intro rest
  rw [visible, breakLines_break, removeTags, if_neg (by decide), decodeMarkup_text (by decide)]
  rfl

theorem not_break_of_last {s : Chars} {c : Char} (hc : c ≠ 'r') :
    ¬ "<br".toList <:+ s ++ [c] := by
  rintro ⟨before, hsame⟩
  have hlast := congrArg List.getLast? hsame
  simp [hc.symm] at hlast

theorem not_break_of_name {body : Chars} (hopen : '<' ∉ body) (hbody : body ≠ "br".toList) :
    ¬ "<br".toList <:+ '<' :: body := by
  intro hsuffix
  rcases List.suffix_cons_iff.mp hsuffix with hwhole | hinside
  · exact hbody (List.cons.inj hwhole).2.symm
  · exact hopen (hinside.subset (by simp))

/-- A tag that is no line break shows nothing. -/
theorem shows_tag (body : Chars) (hclose : '>' ∉ body) (hbreak : ¬ "<br".toList <:+ '<' :: body) :
    Shows ('<' :: (body ++ ['>'])) [] := by
  intro rest
  have hmark : '>' ∉ '<' :: body := by simpa using hclose
  rw [visible, List.cons_append, List.append_assoc, List.singleton_append, ← List.cons_append,
    breakLines_tag hmark hbreak, List.cons_append, removeTags_tag hclose]
  rfl

section

variable {element : Element}

/-- An opening tag ends with its first `>` if no value holds one. -/
theorem shows_opening (h : element.Free '>') : Shows element.opening.toList [] := by
  rw [Element.toList_opening, ← List.append_assoc]
  refine shows_tag _ ?_ ?_
  · simp only [List.mem_append, List.mem_flatMap, not_or, not_exists, not_and]
    refine ⟨not_mem_name h.name rfl, ?_⟩
    intro entry hentry
    have hvalue := (h.values entry hentry).not_mem (.inr rfl)
    simp [Attribute.chars, not_mem_name (h.keys entry hentry) (c := '>') rfl, hvalue]
  · -- A name alone has no other `<` in it, and an attribute ends with a quotation mark.
    rcases List.eq_nil_or_concat element.attributes with hnone | ⟨before, last, hattributes⟩
    · rw [hnone, List.flatMap_nil, List.append_nil]
      exact not_break_of_name (not_mem_name h.name rfl)
        fun hbr => h.ne_br (String.toList_inj.mp hbr)
    · have hend : element.attributes.flatMap Attribute.chars
          = before.flatMap Attribute.chars ++ ' ' :: (last.key.toList ++ '=' :: '"' ::
            last.written.toList) ++ ['"'] := by
        simp [hattributes, Attribute.chars]
      rw [hend, ← List.append_assoc, ← List.cons_append]
      exact not_break_of_last (by decide)

/-- An end tag shows nothing. -/
theorem shows_closing (h : element.Named) : Shows element.closing.toList [] := by
  rw [Element.toList_closing]
  have hopen : '<' ∉ element.name.toList := not_mem_name h.name rfl
  have hclose : '>' ∉ element.name.toList := not_mem_name h.name rfl
  exact shows_tag ('/' :: element.name.toList) (by simp [hclose])
    (not_break_of_name (by simp [hopen]) (by simp))

end

/-- A token shows what it is meant to, if no tag ends early. -/
theorem shows_token {token : Token} (h : token.Free '>') : Shows token.html token.shown := by
  cases h with
  | text => exact shows_escape _
  | lineBreak => exact shows_break
  | opening helement => exact shows_opening helement
  | closing helement => exact shows_closing helement.toNamed

/-- Tokens show what they are meant to, one after the other. -/
theorem shows_tokens {tokens : List Token} (h : ∀ token ∈ tokens, token.Free '>') :
    Shows (tokens.flatMap Token.html) (tokens.flatMap Token.shown) := by
  intro rest
  induction tokens with
  | nil => rfl
  | cons token tokens ih =>
    obtain ⟨htoken, htokens⟩ := List.forall_mem_cons.mp h
    rw [List.flatMap_cons, List.append_assoc, shows_token htoken, ih htokens, List.flatMap_cons,
      List.append_assoc]

end Html

open Html

/-- The visible text of the HTML of prose is its plain text, if no class in it ends a tag. -/
theorem Prose.visibleText_of_classes {prose : Prose}
    (h : ∀ name ∈ prose.classes, '>' ∉ name.toList) :
    visibleText prose.html = prose.plainText := by
  have hshown := shows_tokens (tokens_free (.inr rfl) h) []
  rw [List.append_nil, ← prose.toList_html, ← prose.toList_plainText] at hshown
  rw [visibleText, Text.onChars, hshown]
  simp [visible, breakLines, Chars.replace, Chars.replaceFrom, removeTags, decodeMarkup]

/-- A class is written as it is, so that the end of a tag in it shows the rest of it. -/
example : visibleText (Prose.framed (.tooltip "" (some "a>b")) []).html = "b\">" :=
  rfl

end GenreProse
