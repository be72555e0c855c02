import HangulConsole.Session.Basic

/-!
# Conversations

What a guest does once it is set to work depends on nothing but the lines that it is
given, one for each of its requests.  A conversation tells how far it comes with some
lines and which of them it leaves.
-/

namespace HangulConsole

variable {γ : Type}

/-- How far a guest comes with some lines, and what it does with its host on the way. -/
inductive Conversation (γ : Type) where
  /-- It is done.  These lines it did not ask for. -/
  | ended (deeds : List Deed) (result : Except Failure Unit) (guest : γ) (unread : List String)
  /-- It had all lines, and it asks for one more.  The state is what stays of the guest if it is
  given up here. -/
  | asks (deeds : List Deed) (prompt : String) (guest : γ)
      (resume : Except String String -> Activity Unit γ)

def Conversation.after (deeds : List Deed) : Conversation γ -> Conversation γ
  | ended later result guest unread => ended (deeds ++ later) result guest unread
  | asks later prompt guest resume => asks (deeds ++ later) prompt guest resume

def Conversation.unread : Conversation γ -> List String
  | ended _ _ _ unread => unread
  | asks _ _ _ _ => []

/-- Gives a guest at work the first lines of some, one for each request that it makes. -/
def Activity.converse : Activity Unit γ -> List String -> Conversation γ
  | .ended result guest, lines => .ended [] result guest lines
  | .deliver piece _ resume, lines => ((resume (.ok ())).converse lines).after [.wrote piece]
  | .call _ arguments guest resume, [] =>
      .asks [.asked arguments] (arguments.head?.getD "") guest resume
  | .call _ arguments _ resume, line :: rest =>
      ((resume (.ok line)).converse rest).after [.asked arguments, .returned line]

def Conversation.goOn : Conversation γ -> List String -> Conversation γ
  | ended deeds result guest unread, lines => ended deeds result guest (unread ++ lines)
  | asks deeds prompt guest resume, [] => asks deeds prompt guest resume
  | asks deeds _ _ resume, line :: rest =>
      ((resume (.ok line)).converse rest).after (deeds ++ [.returned line])

/-!
# One line after another
-/

namespace Conversation

theorem after_after (first second : List Deed) (conversation : Conversation γ) :
    (conversation.after second).after first = conversation.after (first ++ second) := by
  cases conversation with
  | ended later result guest unread => simp [after]
  | asks later prompt guest resume => simp [after]

@[simp] theorem unread_after (deeds : List Deed) (conversation : Conversation γ) :
    (conversation.after deeds).unread = conversation.unread := by
  cases conversation with
  | _ => rfl

theorem goOn_after (deeds : List Deed) (conversation : Conversation γ) (lines : List String) :
    (conversation.after deeds).goOn lines = (conversation.goOn lines).after deeds := by
  cases conversation with
  | ended later result guest unread => rfl
  | asks later prompt guest resume =>
      cases lines with
      | nil => rfl
      | cons line rest => rw [after, goOn, goOn, after_after, List.append_assoc]

end Conversation

theorem Activity.goOn_converse (activity : Activity Unit γ) (lines : List String) :
    (activity.converse []).goOn lines = activity.converse lines := by
  induction activity with
  | ended result guest => rfl
  | deliver piece guest resume ih => rw [converse, converse, Conversation.goOn_after, ih]
  | call function arguments guest resume ih =>
      cases lines with
      | nil => rfl
      | cons line rest => rfl

/-!
# Requests and their lines
-/

def Deed.isInput : Deed -> Bool
  | asked _ | returned _ | refused _ => true
  | load | bind _ | exec _ | wrote _ => false

def Deed.answered (requests : List (List String)) (lines : List String) : List Deed :=
  (requests.zip lines).flatMap fun (arguments, line) => [.asked arguments, .returned line]

/-- The requests of a conversation got the lines in turn, each the one that came next: a guest
that is done got the first of them and left the others, and one that asks for more got them
all. -/
def Conversation.InTurn (lines : List String) : Conversation γ -> Prop
  | ended deeds _ _ unread => ∃ requests taken, lines = taken ++ unread ∧
      requests.length = taken.length ∧ deeds.filter Deed.isInput = Deed.answered requests taken
  | asks deeds prompt _ _ => ∃ requests last, requests.length = lines.length ∧
      deeds.filter Deed.isInput = Deed.answered requests lines ++ [.asked last] ∧
      prompt = last.head?.getD ""

namespace Conversation

variable {lines : List String} {conversation : Conversation γ}

theorem InTurn.after_other (inTurn : conversation.InTurn lines) {deed : Deed}
    (other : deed.isInput = false) : (conversation.after [deed]).InTurn lines := by
  have apart (deeds : List Deed) :
      ([deed] ++ deeds).filter Deed.isInput = deeds.filter Deed.isInput :=
    List.filter_cons_of_neg (by rw [other]; exact Bool.false_ne_true)
  cases conversation with
  | ended deeds result guest unread =>
      rcases inTurn with ⟨requests, taken, split, same, said⟩
      exact ⟨requests, taken, split, same, (apart deeds).trans said⟩
  | asks deeds prompt guest resume =>
      rcases inTurn with ⟨requests, last, same, said, shown⟩
      exact ⟨requests, last, same, (apart deeds).trans said, shown⟩

theorem InTurn.after_returned (inTurn : conversation.InTurn lines) (arguments : List String)
    (line : String) :
    (conversation.after [.asked arguments, .returned line]).InTurn (line :: lines) := by
  cases conversation with
  | ended deeds result guest unread =>
      rcases inTurn with ⟨requests, taken, rfl, same, said⟩
      refine ⟨arguments :: requests, line :: taken, rfl, congrArg Nat.succ same, ?_⟩
      exact congrArg (fun later => .asked arguments :: .returned line :: later) said
  | asks deeds prompt guest resume =>
      rcases inTurn with ⟨requests, last, same, said, shown⟩
      refine ⟨arguments :: requests, last, congrArg Nat.succ same, ?_, shown⟩
      exact congrArg (fun later => .asked arguments :: .returned line :: later) said

end Conversation

theorem Activity.inTurn_converse (activity : Activity Unit γ) (lines : List String) :
    (activity.converse lines).InTurn lines := by
  induction activity generalizing lines with
  | ended result guest => exact ⟨[], [], rfl, rfl, rfl⟩
  | deliver piece guest resume ih => exact (ih _ lines).after_other rfl
  | call function arguments guest resume ih =>
      cases lines with
      | nil => exact ⟨[], arguments, rfl, rfl, rfl⟩
      | cons line rest => exact (ih _ rest).after_returned arguments line

theorem Activity.length_unread_le (activity : Activity Unit γ) (lines : List String) :
    (activity.converse lines).unread.length ≤ lines.length := by
  have inTurn := activity.inTurn_converse lines
  cases same : activity.converse lines with
  | asks deeds prompt guest resume => exact Nat.zero_le _
  | ended deeds result guest unread =>
      rw [same] at inTurn
      rcases inTurn with ⟨requests, taken, rfl, _, _⟩
      rw [List.length_append]
      exact Nat.le_add_left _ _

theorem Activity.unread_converse_nil (activity : Activity Unit γ) :
    (activity.converse []).unread = [] :=
  List.eq_nil_of_length_eq_zero (Nat.le_zero.1 (activity.length_unread_le []))

end HangulConsole
