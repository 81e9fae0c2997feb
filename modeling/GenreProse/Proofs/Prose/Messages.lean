-- SUMMARY: The messages that prose shows, and which operations keep them.
import GenreProse.Proofs.Prose.Units

/-!
# Messages

A problem with a template call is shown as a message in the prose. Putting pieces next to each other
or into a frame loses no message and adds none, and prose that shows nothing has none. The message
for markup that lies too deep tells which prose was cut short.
-/

namespace GenreProse

namespace Prose

/-! ## Messages of prose -/

mutual

/-- The messages in the prose, in order. -/
def messages : Prose → List String
  | .error message => [message]
  | .fragment pieces => messagesOfAll pieces
  | .framed _ pieces => messagesOfAll pieces
  | _ => []

def messagesOfAll : List Prose → List String
  | [] => []
  | piece :: pieces => messages piece ++ messagesOfAll pieces

end

@[simp] theorem messages_empty : messages .empty = [] := rfl
@[simp] theorem messages_text (s : String) : messages (.text s) = [] := rfl
@[simp] theorem messages_error (message : String) : messages (.error message) = [message] := rfl
/-- Frames around prose hide no message. -/
@[simp] theorem messages_framed (frame : Frame) (pieces : List Prose) :
    messages (.framed frame pieces) = messagesOfAll pieces := rfl

theorem messagesOfAll_eq_flatMap (pieces : List Prose) :
    messagesOfAll pieces = pieces.flatMap messages := by
  induction pieces with
  | nil => rfl
  | cons piece pieces ih => simp [messagesOfAll, ih]

/-- Messages are collected piece by piece, and texts have none. -/
theorem messages_isView : IsView messages where
  empty := messages_empty
  noText := messages_text ""
  text _ _ := rfl
  fragment pieces := by rw [messages, messagesOfAll_eq_flatMap]

/-- The normal form of pieces shows the messages of all of them. -/
theorem messages_concat (pieces : List Prose) :
    messages (concat pieces) = pieces.flatMap messages :=
  messages_isView.concat pieces

/-! ## Frames -/

@[simp] theorem messages_framedIn (frame : Frame) (content : Prose) :
    messages (framedIn frame content) = messages content := by
  rw [framedIn, messages_framed, messagesOfAll_eq_flatMap, messages_isView.flatMap_pieces]

@[simp] theorem messages_tooltip (title : String) (content : Prose) :
    messages (tooltip title content) = messages content :=
  messages_framedIn ..

/-! ## Prose that was cut short -/

/-- How the message in place of what lies too deep starts. -/
def depthMessage : String :=
  "Template expansion depth exceeded"

/-- Whether some part of the prose was cut short by the limit on expansions. -/
def IsCut (prose : Prose) : Prop :=
  ∃ message ∈ prose.messages, Text.opensWith message depthMessage

namespace IsCut

/-- Prose with all messages of a cut prose is cut, too. -/
theorem of_messages {prose prose' : Prose} (h : prose.IsCut)
    (hsub : ∀ message ∈ prose.messages, message ∈ prose'.messages) : prose'.IsCut := by
  obtain ⟨message, hmem, hopens⟩ := h
  exact ⟨message, hsub message hmem, hopens⟩

/-- Prose is cut if one of its pieces is. -/
theorem concat {piece : Prose} {pieces : List Prose} (h : piece.IsCut) (hmem : piece ∈ pieces) :
    (Prose.concat pieces).IsCut := by
  refine h.of_messages fun message hmessage => ?_
  rw [messages_concat]
  exact List.mem_flatMap.mpr ⟨piece, hmem, hmessage⟩

theorem framedIn {content : Prose} (h : content.IsCut) (frame : Frame) :
    (Prose.framedIn frame content).IsCut := by
  refine h.of_messages fun message hmessage => ?_
  rwa [messages_framedIn]

theorem isEmpty_eq_false {prose : Prose} (h : prose.IsCut) : prose.isEmpty = false := by
  obtain ⟨message, hmem, -⟩ := h
  cases hempty : prose.isEmpty with
  | false => rfl
  | true =>
    rw [messages_isView.of_isEmpty hempty] at hmem
    cases hmem

end IsCut

end Prose

end GenreProse
