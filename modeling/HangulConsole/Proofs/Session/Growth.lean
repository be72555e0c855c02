import HangulConsole.Proofs.LineInput.Change
import HangulConsole.Proofs.Session.Moves
import HangulConsole.Proofs.Session.Ticks

/-!
# The line input of a session

The moves of a session change its line input only as a host and a guest can: no move
takes an event out of the transcript.
-/

namespace HangulConsole
namespace Session

variable {γ : Type} (session : Session γ)

theorem reaches_report (line : String) : session.input.Reaches (session.report line).input :=
  .of_change (.write (Transcript.growsTo_appendLine _ _))

theorem reaches_deliver (piece : Piece) : session.input.Reaches (session.deliver piece).input :=
  .of_change (.write (Transcript.growsTo_receive _ _ _))

/-!
# Steps of tasks
-/

theorem reaches_await (task : Nat) (ticket : LineInput.Ticket) (guest : γ)
    (resume : Except String String -> Activity Unit γ) :
    session.input.Reaches (session.await task ticket guest resume).1.input := by
  have polled : session.input.Reaches (session.input.poll ticket).1 := .of_change (.poll ticket)
  rw [await]
  cases result : session.input.poll ticket with
  | mk input rest =>
      rcases rest with ⟨later, progress⟩
      rw [result] at polled
      cases progress with
      | answered line => exact polled
      | refused failure => exact polled
      | waiting => exact polled
      | gone => exact polled

theorem reaches_workOn (task : Nat) (work : Work γ) :
    session.input.Reaches (session.workOn task work).1.input := by
  cases work with
  | asking ticket guest resume => exact session.reaches_await task ticket guest resume
  | going activity =>
      cases activity with
      | ended result guest => exact .refl _
      | deliver piece guest resume => exact session.reaches_deliver piece
      | call function arguments guest resume =>
          exact (session.note task (.asked arguments)).reaches_await task _ guest resume

theorem reaches_failBoot (task : Nat) (failure : Failure) :
    session.input.Reaches (session.failBoot task failure).input :=
  session.reaches_report _

theorem reaches_becomeReady (task : Nat) (guest : γ) :
    session.input.Reaches (session.becomeReady task guest).input := by
  rw [becomeReady]
  split
  · exact .refl _
  · exact .refl _

theorem reaches_followPlan (task : Nat) (guest : γ) (plan : BootPlan) :
    session.input.Reaches (session.followPlan task guest plan).input := by
  cases plan with
  | nil => exact session.reaches_becomeReady task guest
  | cons next plan => exact .refl _

theorem reaches_endRun (task : Nat) (result : Except Failure Unit) (guest : γ) :
    session.input.Reaches (session.endRun task result guest).input := by
  cases result with
  | ok done => exact .refl _
  | error failure => exact session.reaches_report _

theorem reaches_tick (task : Nat) : session.input.Reaches (session.tick task).input := by
  have ticked := session.ticked task
  generalize session.tick task = after at ticked ⊢
  cases ticked with
  | rests => exact .refl _
  | works _ _ => exact session.reaches_workOn task _
  | bootFails _ => exact session.reaches_failBoot task _
  | bootGoesOn _ => exact session.reaches_followPlan task _ _
  | runStarts _ _ _ => exact session.reaches_report _
  | runEnds _ => exact session.reaches_endRun task _ _

/-!
# Operations
-/

theorem reaches_beginBoot (task : Nat) : session.input.Reaches (session.beginBoot task).input := by
  rw [beginBoot]
  split
  · exact .refl _
  · dsimp only
    split
    · exact reaches_failBoot { session with bootAsked := true } task _
    · exact .refl _

theorem reaches_beginRun (task : Nat) (source : String) :
    session.input.Reaches (session.beginRun task source).input := by
  rw [beginRun]
  split
  · exact .refl _
  · exact session.reaches_report _

theorem reaches_takeGuest (result : Except Failure γ) :
    session.input.Reaches (session.takeGuest result).input := by
  unfold takeGuest
  split
  · exact .refl _
  · exact session.reaches_failBoot _ _
  · exact .refl _

theorem reaches_takeScript (result : Except Failure String) :
    session.input.Reaches (session.takeScript result).input := by
  unfold takeScript
  split
  · exact .refl _
  · exact session.reaches_failBoot _ _
  · exact session.reaches_followPlan _ _ _

theorem reaches_abandon (work : Work γ) :
    session.input.Reaches (session.abandon work).input := by
  cases work with
  | going activity => exact .refl _
  | asking ticket guest resume => exact .of_change (.abandon ticket)

theorem reaches_cancel (task : Nat) : session.input.Reaches (session.cancel task).input := by
  rw [cancel]
  split
  · rename_i phase _
    cases phase with
    | loading source => exact .refl _
    | reading source guest => exact .refl _
    | booting work plan => exact session.reaches_abandon work
    | queued source => exact .refl _
    | running work => exact session.reaches_abandon work
  · exact .refl _

theorem reaches_apply (operation : Operation γ) :
    session.input.Reaches (session.apply operation).input := by
  cases operation with
  | boot => exact reaches_beginBoot { session with nextTask := session.nextTask + 1 } _
  | loaded result => exact session.reaches_takeGuest result
  | scriptRead result => exact session.reaches_takeScript result
  | run source => exact reaches_beginRun { session with nextTask := session.nextTask + 1 } _ source
  | cancel task => exact session.reaches_cancel task
  | prepare source => exact .refl _
  | submit => exact .of_change .submit
  | submitLine text => exact .of_change (.submitLine text)
  | press key => exact .of_change (.press key)
  | type text => exact .of_change (.type text)
  | setContent text => exact .of_change (.setContent text)
  | clear => exact .of_change (.write (Transcript.growsTo_clear _))

/-!
# Any number of moves
-/

theorem reaches_move (move : Move γ) : session.input.Reaches (session.move move).input := by
  cases move with
  | operation operation => exact session.reaches_apply operation
  | tick task => exact session.reaches_tick task

theorem reaches_moves (list : List (Move γ)) :
    session.input.Reaches (session.moves list).input := by
  induction list generalizing session with
  | nil => exact .refl _
  | cons first rest ih => exact (session.reaches_move first).trans (ih _)

/-!
# The transcript
-/

def GrowsTo (session after : Session γ) : Prop :=
  session.transcript.GrowsTo after.transcript

theorem GrowsTo.trans {session between after : Session γ} (first : GrowsTo session between)
    (second : GrowsTo between after) : GrowsTo session after :=
  Transcript.GrowsTo.trans first second

theorem growsTo_report (line : String) : session.GrowsTo (session.report line) :=
  (session.reaches_report line).growsTo

theorem growsTo_moves (list : List (Move γ)) : session.GrowsTo (session.moves list) :=
  (session.reaches_moves list).growsTo

theorem growsTo_settle : session.GrowsTo session.settle := by
  rcases goesOnTo_settle session with ⟨tasks, settled⟩
  rw [settled]
  exact session.growsTo_moves _

theorem growsTo_step (operation : Operation γ) : session.GrowsTo (session.step operation) :=
  GrowsTo.trans (session.reaches_apply operation).growsTo (growsTo_settle _)

end Session
end HangulConsole
