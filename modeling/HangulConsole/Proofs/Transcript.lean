import HangulConsole.LineInput.Basic

/-!
# Growing transcripts

Whatever is done with a transcript, its events stay and others follow them; and every
event is one that a reader notices.
-/

namespace HangulConsole

def TranscriptEvent.IsVisible : TranscriptEvent -> Prop
  | appended text => text ≠ ""
  | cleared => True

def Piece.shown (marker : String) (piece : Piece) : String :=
  (match piece.stream with
    | .stdout => piece.text
    | .stderr => marker ++ piece.text) ++ if piece.complete then "\n" else ""

namespace Transcript

/-- The events of a transcript are followed by others, all of them visible. -/
def GrowsTo (transcript later : Transcript) : Prop :=
  ∃ more, later.published = transcript.published ++ more ∧ ∀ event ∈ more, event.IsVisible

namespace GrowsTo

theorem refl (transcript : Transcript) : GrowsTo transcript transcript :=
  ⟨[], (List.append_nil _).symm, fun event mem => by cases mem⟩

theorem trans {transcript between later : Transcript} (first : GrowsTo transcript between)
    (second : GrowsTo between later) : GrowsTo transcript later := by
  rcases first with ⟨early, eq, earlyVisible⟩
  rcases second with ⟨late, eq', lateVisible⟩
  refine ⟨early ++ late, by rw [eq', eq, List.append_assoc], ?_⟩
  intro event mem
  rcases List.mem_append.1 mem with mem | mem
  · exact earlyVisible event mem
  · exact lateVisible event mem

theorem of_event {transcript later : Transcript} {event : TranscriptEvent}
    (published : later.published = transcript.published ++ [event]) (visible : event.IsVisible) :
    GrowsTo transcript later := by
  refine ⟨[event], published, ?_⟩
  intro other mem
  rw [List.mem_singleton] at mem
  rw [mem]
  exact visible

end GrowsTo

variable (transcript : Transcript)

theorem text_appendRaw (text : String) :
    (transcript.appendRaw text).text = transcript.text ++ text := by
  rw [appendRaw]
  split
  · rename_i nothing
    rw [String.isEmpty_iff.1 nothing, String.append_empty]
  · rfl

theorem text_receive (marker : String) (piece : Piece) :
    (transcript.receive marker piece).text = transcript.text ++ piece.shown marker := by
  rw [receive, Piece.shown]
  cases piece.complete with
  | true => rfl
  | false =>
      rw [if_neg Bool.false_ne_true, if_neg Bool.false_ne_true, String.append_empty]
      exact transcript.text_appendRaw _

theorem growsTo_appendLine (text : String) : transcript.GrowsTo (transcript.appendLine text) := by
  refine .of_event rfl ?_
  intro empty
  have length := congrArg String.length empty
  simp at length

theorem growsTo_appendRaw (text : String) : transcript.GrowsTo (transcript.appendRaw text) := by
  rw [appendRaw]
  split
  · exact .refl transcript
  · rename_i visible
    refine .of_event rfl ?_
    intro empty
    rw [empty] at visible
    exact visible rfl

theorem growsTo_clear : transcript.GrowsTo transcript.clear :=
  .of_event rfl trivial

theorem growsTo_receive (marker : String) (piece : Piece) :
    transcript.GrowsTo (transcript.receive marker piece) := by
  rw [receive]
  split
  · exact transcript.growsTo_appendLine _
  · exact transcript.growsTo_appendRaw _

theorem growsTo_noticeSaved (messages : Messages) (path : String) :
    transcript.GrowsTo (transcript.noticeSaved messages path) :=
  transcript.growsTo_appendLine _

theorem growsTo_noticeLoaded (messages : Messages) (path : String) :
    transcript.GrowsTo (transcript.noticeLoaded messages path) :=
  transcript.growsTo_appendLine _

end Transcript

/-!
# The transcript of a line input
-/

namespace LineInput

variable (input : LineInput)

theorem growsTo_submit : input.transcript.GrowsTo input.submit.1.transcript := by
  rw [submit]
  cases waiting : input.waiting? with
  | none => exact .refl _
  | some request => exact Transcript.growsTo_appendLine _ _

theorem growsTo_submitLine (text : String) :
    input.transcript.GrowsTo (input.submitLine text).1.transcript := by
  rw [submitLine]
  split
  · exact (input.setContent text).growsTo_submit
  · exact .refl _

theorem growsTo_press (key : Key) : input.transcript.GrowsTo (input.press key).1.transcript := by
  cases key with
  | enter => exact input.growsTo_submit
  | other => exact .refl _

theorem growsTo_poll (ticket : Ticket) :
    input.transcript.GrowsTo (input.poll ticket).1.transcript := by
  cases ticket with
  | closed => exact .refl _
  | prepared prompt =>
      rw [poll, ask]
      split
      · exact .refl _
      · exact Transcript.growsTo_appendRaw _ _
  | waiting number =>
      rw [poll]
      split
      · exact .refl _
      · split
        · exact .refl _
        · exact .refl _

theorem transcript_abandon (ticket : Ticket) :
    (input.abandon ticket).transcript = input.transcript := by
  cases ticket with
  | closed => rfl
  | prepared prompt => rfl
  | waiting number =>
      rw [abandon]
      split
      · rfl
      · rfl

end LineInput

end HangulConsole
