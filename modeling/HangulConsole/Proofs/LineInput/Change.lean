import HangulConsole.Proofs.Transcript
import Mathlib.Logic.Relation

/-!
# Changes of a line input

A line input is changed by operations of the host, by steps of a call for a line, and by
what others write into its transcript.  What each of these keeps is kept forever: no
event is taken out of the transcript, and the control is on exactly while a request
waits.
-/

namespace HangulConsole
namespace LineInput

variable {input after : LineInput}

inductive Change (input : LineInput) : LineInput -> Prop where
  | write {transcript : Transcript} :
      input.transcript.GrowsTo transcript -> Change input { input with transcript }
  | type (text : String) : Change input (input.type text)
  | setContent (text : String) : Change input (input.setContent text)
  | submit : Change input input.submit.1
  | submitLine (text : String) : Change input (input.submitLine text).1
  | press (key : Key) : Change input (input.press key).1
  | poll (ticket : Ticket) : Change input (input.poll ticket).1
  | abandon (ticket : Ticket) : Change input (input.abandon ticket)

def Reaches : LineInput -> LineInput -> Prop :=
  Relation.ReflTransGen Change

namespace Reaches

theorem refl (input : LineInput) : Reaches input input :=
  Relation.ReflTransGen.refl

theorem trans {between : LineInput} (first : Reaches input between)
    (second : Reaches between after) : Reaches input after :=
  Relation.ReflTransGen.trans first second

theorem of_change (change : Change input after) : Reaches input after :=
  Relation.ReflTransGen.single change

end Reaches

/-!
# The transcript
-/

theorem Change.growsTo (change : Change input after) :
    input.transcript.GrowsTo after.transcript := by
  cases change with
  | write grows => exact grows
  | type text => exact .refl _
  | setContent text => exact .refl _
  | submit => exact input.growsTo_submit
  | submitLine text => exact input.growsTo_submitLine text
  | press key => exact input.growsTo_press key
  | poll ticket => exact input.growsTo_poll ticket
  | abandon ticket =>
      rw [input.transcript_abandon ticket]
      exact .refl _

theorem Reaches.growsTo (reaches : Reaches input after) :
    input.transcript.GrowsTo after.transcript := by
  induction reaches with
  | refl => exact .refl _
  | tail _ change ih => exact ih.trans change.growsTo

/-!
# The control
-/

/-- The control is enabled and focused exactly while a request waits. -/
structure Controlled (input : LineInput) : Prop where
  enabled : input.control.enabled = input.isWaiting
  focused : input.control.focused = input.isWaiting

theorem controlled_empty : empty.Controlled :=
  ⟨rfl, rfl⟩

namespace Controlled

theorem submit (controlled : input.Controlled) : input.submit.1.Controlled := by
  rw [LineInput.submit]
  split
  · exact controlled
  · exact ⟨rfl, rfl⟩

theorem submitLine (controlled : input.Controlled) (text : String) :
    (input.submitLine text).1.Controlled := by
  rw [LineInput.submitLine]
  split
  · have placed : (input.setContent text).Controlled := ⟨controlled.enabled, controlled.focused⟩
    exact placed.submit
  · exact controlled

theorem poll (controlled : input.Controlled) (ticket : Ticket) :
    (input.poll ticket).1.Controlled := by
  cases ticket with
  | closed => exact controlled
  | prepared prompt =>
      rw [LineInput.poll, ask]
      split
      · exact ⟨controlled.enabled, controlled.focused⟩
      · exact ⟨rfl, rfl⟩
  | waiting number =>
      rw [LineInput.poll]
      split
      · exact ⟨controlled.enabled, controlled.focused⟩
      · split
        · exact controlled
        · exact controlled

theorem abandon (controlled : input.Controlled) (ticket : Ticket) :
    (input.abandon ticket).Controlled := by
  cases ticket with
  | prepared prompt => exact controlled
  | closed => exact controlled
  | waiting number =>
      rw [LineInput.abandon]
      dsimp only
      split
      · exact ⟨rfl, rfl⟩
      · exact ⟨controlled.enabled, controlled.focused⟩

theorem change (controlled : input.Controlled) (change : Change input after) :
    after.Controlled := by
  cases change with
  | write grows => exact ⟨controlled.enabled, controlled.focused⟩
  | type text => exact ⟨controlled.enabled, controlled.focused⟩
  | setContent text => exact ⟨controlled.enabled, controlled.focused⟩
  | submit => exact controlled.submit
  | submitLine text => exact controlled.submitLine text
  | press key =>
      cases key with
      | enter => exact controlled.submit
      | other => exact controlled
  | poll ticket => exact controlled.poll ticket
  | abandon ticket => exact controlled.abandon ticket

theorem reaches (controlled : input.Controlled) (reaches : Reaches input after) :
    after.Controlled := by
  induction reaches with
  | refl => exact controlled
  | tail _ change ih => exact ih.change change

end Controlled

end LineInput
end HangulConsole
