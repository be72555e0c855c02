import HangulConsole.Editor
import HangulConsole.Program
import HangulConsole.Session.Step
import HangulConsole.Terminal.Screen

/-!
# Terminals

A terminal joins a session, an editor and a screen.  It takes lines: as commands,
or while a run waits for a line, as the answers that the run asked for.
-/

namespace HangulConsole

inductive Complaint where
  | failed (failure : Failure)
  | noProgram
  | unknownTask (name : String)
deriving Repr, DecidableEq

def Complaint.message : Complaint -> String
  | failed failure => failure.message
  | noProgram => "usage: hangpy run <file.kpy>"
  | unknownTask name => "unknown task: " ++ name

inductive Exit where
  | success
  | failure
  | complaint (reason : Complaint)
deriving Repr, DecidableEq

/-- What a terminal does with the next line. -/
inductive Mode where
  | commanding
  /-- It gives it to a run.  If the run is all that the terminal was opened for, it closes after the
  run. -/
  | running (task : Nat) (only : Bool)
  /-- It never takes it, since the boot waits for a line. -/
  | stuck
  | closed (exit : Exit)
deriving Repr, DecidableEq

structure Surroundings (m : Type -> Type) where
  disk : Files.Disk m
  network : Keywords.Source.Network m
  /-- Whether the terminal has to wait for what the network says.  Without a network it is known at
  once that no server answers. -/
  networkWaits : Bool
  now : m Calendar.Minute
  [pace : Pace]

structure Terminal (γ : Type) where
  session : Session γ
  editor : Editor
  screen : Screen
  pace : Pace
  /-- What the next line is taken for. -/
  mode : Mode

namespace Terminal

variable {γ : Type}

def ofSession (pace : Pace) (session : Session γ) : Terminal γ where
  session := session
  editor := .withExample
  screen := .empty
  pace := pace
  mode := .commanding

def mapSession (terminal : Terminal γ) (change : Session γ -> Session γ) : Terminal γ :=
  { terminal with session := change terminal.session }

def mapTranscript (terminal : Terminal γ) (change : Transcript -> Transcript) : Terminal γ :=
  terminal.mapSession fun session => session.mapTranscript change

def mapEditor (terminal : Terminal γ) (change : Editor -> Editor) : Terminal γ :=
  { terminal with editor := change terminal.editor }

def report (terminal : Terminal γ) (line : String) : Terminal γ :=
  terminal.mapSession fun session => session.report line

/-- Waits; the screen shows as many events as it can meanwhile. -/
def idle (terminal : Terminal γ) : Terminal γ :=
  { terminal with screen := terminal.screen.wait terminal.pace terminal.session.transcript }

/-- Closes the terminal, once the screen has shown all that is left. -/
def close (terminal : Terminal γ) (exit : Exit) : Terminal γ :=
  { terminal with
    screen := terminal.screen.wait .prompt terminal.session.transcript
    mode := .closed exit }

def isClosed (terminal : Terminal γ) : Bool :=
  match terminal.mode with
  | .closed _ => true
  | _ => false

/-! # Runs -/

def exitAfter : Except Failure Unit -> Exit
  | .ok () => .success
  | .error _ => .failure

def follow (terminal : Terminal γ) (task : Nat) (only : Bool) : Terminal γ :=
  match terminal.session.result? task with
  | none => { terminal with mode := .running task only }
  | some result =>
      if only then terminal.close (exitAfter result)
      else { terminal with mode := .commanding }

def start (terminal : Terminal γ) (source : String) (only : Bool) : Terminal γ :=
  let terminal := terminal.idle
  let (session, task) := terminal.session.run source
  ({ terminal with session }).idle.follow task only

def answer (terminal : Terminal γ) (task : Nat) (only : Bool) (line : String) : Terminal γ :=
  let input := (terminal.session.input.submitLine line).1
  let submitted := (terminal.mapSession fun session => { session with input }).idle
  (submitted.mapSession Session.settle).idle.follow task only

end Terminal

end HangulConsole
