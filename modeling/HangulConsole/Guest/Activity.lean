import HangulConsole.Failure
import HangulConsole.Output.Piece

/-!
# Guest activity

What a guest does when it is set to work, as its host sees it: it hands over
pieces of output, it calls functions of the host and waits for their answers, and
it ends.  The host goes on with an activity by answering.
-/

namespace HangulConsole

/-- What a guest does from some moment on.  `φ` are the host's functions and `γ` the states of the
guest between two activities. -/
inductive Activity (φ γ : Type) where
  /-- It is over: the guest is in a state and the activity succeeded or failed. -/
  | ended (result : Except Failure Unit) (guest : γ)
  /-- It hands over a piece of output, which may be refused.  The state is what stays of the guest
  if it is given up here. -/
  | deliver (piece : Piece) (guest : γ) (resume : Except String Unit -> Activity φ γ)
  /-- It calls a function of the host and waits.  The state is what stays of the guest if it is
  given up here. -/
  | call (function : φ) (arguments : List String) (guest : γ)
      (resume : Except String String -> Activity φ γ)

namespace Activity

variable {φ γ σ : Type}

def left : Activity φ γ -> γ
  | .ended _ guest => guest
  | .deliver _ guest _ => guest
  | .call _ _ guest _ => guest

def fail (failure : Failure) (guest : γ) : Activity φ γ :=
  .ended (.error failure) guest

/-- Hands over pieces one after another and goes on.  A refusal ends the activity with the reason;
the pieces behind the refused one are lost. -/
def deliverAll (pieces : List Piece) (guest : γ) (next : Activity φ γ) : Activity φ γ :=
  match pieces with
  | [] => next
  | piece :: rest =>
      .deliver piece guest fun answer =>
        match answer with
        | .ok () => deliverAll rest guest next
        | .error reason => fail (.host reason) guest

/-- Carries an activity out to its end: output goes to a receiver and calls are answered by the
host, which both act on one state. -/
def perform (receiver : Receiver σ)
    (answer : φ -> List String -> σ -> Except String String × σ) :
    Activity φ γ -> σ -> (Except Failure Unit × γ) × σ
  | .ended result guest, state => ((result, guest), state)
  | .deliver piece _ resume, state =>
      match receiver.receive piece state with
      | .ok state => perform receiver answer (resume (.ok ())) state
      | .error reason => perform receiver answer (resume (.error reason)) state
  | .call function arguments _ resume, state =>
      let (result, state) := answer function arguments state
      perform receiver answer (resume result) state

end Activity

structure Guest (φ γ : Type) where
  /-- Makes a function of the host known to the guest under a name. -/
  bind : γ -> String -> φ -> Activity φ γ
  exec : γ -> String -> Activity φ γ

end HangulConsole
