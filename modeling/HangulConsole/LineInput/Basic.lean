import HangulConsole.Failure
import HangulConsole.Text.Quoted
import HangulConsole.Transcript

/-!
# Line input

The host answers the guest's requests for a line through one input control.  At
most one request waits at a time.  Asking writes the prompt into the transcript
and turns the control on; submitting writes the line, turns the control off, and
leaves the line for the request that waited.
-/

namespace HangulConsole

structure Control where
  enabled : Bool
  focused : Bool
  content : String
deriving Repr, DecidableEq, Inhabited

def Control.idle : Control := ⟨false, false, ""⟩

structure Request where
  number : Nat
  prompt : String
deriving Repr, DecidableEq

inductive Key where
  | enter
  | other
deriving Repr, DecidableEq

structure LineInput where
  transcript : Transcript
  waiting? : Option Request
  control : Control
  nextNumber : Nat
  /-- The lines that were submitted and not yet collected, each with the number of its request. -/
  answers : List (Nat × String)
  /-- How often the observers of the control were notified. -/
  notices : Nat
deriving Repr, DecidableEq

namespace LineInput

def ofTranscript (transcript : Transcript) : LineInput where
  transcript := transcript
  waiting? := none
  control := .idle
  nextNumber := 1
  answers := []
  notices := 0

def empty : LineInput := ofTranscript .empty

def isWaiting (input : LineInput) : Bool :=
  input.waiting?.isSome

def prompt? (input : LineInput) : Option String :=
  input.waiting?.map Request.prompt

/-- Changes the control and notifies its observers, even if it is the same as before. -/
def setControl (input : LineInput) (control : Control) : LineInput :=
  { input with control, notices := input.notices + 1 }

def mapTranscript (input : LineInput) (change : Transcript -> Transcript) : LineInput :=
  { input with transcript := change input.transcript }

/-! # The host's side -/

def type (input : LineInput) (text : String) : LineInput :=
  input.setControl { input.control with content := input.control.content ++ text }

def setContent (input : LineInput) (text : String) : LineInput :=
  input.setControl { input.control with content := text }

/-- Submits the text in the control to the request that waits.  Without one nothing changes. -/
def submit (input : LineInput) : LineInput × Bool :=
  match input.waiting? with
  | none => (input, false)
  | some request =>
      let line := input.control.content
      let cleared := input.setControl .idle
      ({ cleared with
          waiting? := none
          transcript := input.transcript.appendLine line
          answers := input.answers ++ [(request.number, line)] }, true)

def submitLine (input : LineInput) (text : String) : LineInput × Bool :=
  if input.isWaiting then (input.setContent text).submit else (input, false)

def press (input : LineInput) : Key -> LineInput × Bool
  | .enter => input.submit
  | .other => (input, false)

/-! # The guest's side -/

inductive Ticket where
  /-- The request has not been made yet. -/
  | prepared (prompt : String)
  | waiting (number : Nat)
  | closed
deriving Repr, DecidableEq, Inhabited

inductive Progress where
  | waiting
  | answered (line : String)
  | refused (failure : Failure)
  | gone
deriving Repr, DecidableEq

def answer? (input : LineInput) (number : Nat) : Option String :=
  (input.answers.find? fun answer => answer.1 == number).map Prod.snd

def forget (input : LineInput) (number : Nat) : LineInput :=
  { input with answers := input.answers.filter fun answer => answer.1 != number }

def waitsFor (input : LineInput) (number : Nat) : Bool :=
  input.waiting?.any fun request => request.number == number

/-- Makes a request.  It is refused while another one waits. -/
def ask (input : LineInput) (prompt : String) : LineInput × Ticket × Progress :=
  let number := input.nextNumber
  let input := { input with nextNumber := number + 1 }
  if input.isWaiting then
    (input, .closed, .refused .inputBusy)
  else
    let asked := { input with
      waiting? := some ⟨number, prompt⟩
      transcript := input.transcript.appendRaw prompt }
    (asked.setControl { input.control with enabled := true, focused := true },
      .waiting number, .waiting)

/-- Takes a call for a line one step further: the first step makes the request, a later one collects
the line. -/
def poll (input : LineInput) : Ticket -> LineInput × Ticket × Progress
  | .prepared prompt => input.ask prompt
  | .waiting number =>
      match input.answer? number with
      | some line => (input.forget number, .closed, .answered line)
      | none =>
          if input.waitsFor number then (input, .waiting number, .waiting)
          else (input, .closed, .refused .inputAbandoned)
  | .closed => (input, .closed, .gone)

/-- Gives a call for a line up.  A request that still waits is withdrawn and the control turned off;
the text in the control stays. -/
def abandon (input : LineInput) : Ticket -> LineInput
  | .prepared _ => input
  | .closed => input
  | .waiting number =>
      let input := input.forget number
      if input.waitsFor number then
        { input with waiting? := none }.setControl
          { input.control with enabled := false, focused := false }
      else
        input

def Ticket.ofArguments (arguments : List String) : Ticket :=
  .prepared (arguments.head?.getD "")

def showBool (b : Bool) : String := if b then "true" else "false"

def summary (input : LineInput) : String :=
  let pending := match input.prompt? with
    | none => "None"
    | some prompt => "Some(" ++ Text.quote prompt ++ ")"
  "InputBridge \x7b pending: " ++ pending ++ ", control: InputControl \x7b enabled: " ++
    showBool input.control.enabled ++ ", focused: " ++ showBool input.control.focused ++
    ", content: " ++ Text.quote input.control.content ++ " \x7d, .. \x7d"

end LineInput

end HangulConsole
