import HangulConsole.Calls.Marking
import HangulConsole.EntryPoint
import HangulConsole.Guest.Activity
import HangulConsole.Keywords.Source
import HangulConsole.LineInput.Basic
import HangulConsole.Session.Lock
import HangulConsole.Session.Status

/-!
# Sessions

A session has one guest, one line input and one transcript.  It is booted once:
the guest is made, the keyword script is read, the guest learns the line input of
the host, and the script is executed.  From then on it executes programs, one at
a time, in the order in which they were asked for.

Booting and runs are tasks.  A task goes on in small steps, between which anything
else can happen, until it has to wait: a boot for the guest to be made or for the
script to be read, a run for the runs before it, and both for a line of input.  The
operations of `Session.Step` let every task go on as far as it can.
-/

namespace HangulConsole

/-! # What happens in a session -/

/-- One thing that the host and its guest do with each other. -/
inductive Deed where
  | load
  | bind (name : String)
  | exec (script : String)
  | wrote (piece : Piece)
  | asked (arguments : List String)
  | returned (line : String)
  /-- The guest got no line, since its call failed. -/
  | refused (failure : Failure)
deriving Repr, DecidableEq

inductive Demand where
  | bind (name : String)
  | exec (script : String)
deriving Repr, DecidableEq

def Demand.deed : Demand -> Deed
  | bind name => .bind name
  | exec script => .exec script

/-- A deed, the task that it was done for, and the status at that moment. -/
structure Note where
  task : Nat
  deed : Deed
  status : Status
deriving Repr, DecidableEq

structure Finished where
  task : Nat
  result : Except Failure Unit

/-! # Tasks -/

inductive Work (γ : Type) where
  | going (activity : Activity Unit γ)
  /-- The guest called for a line.  The state is what stays of it if it is given up here. -/
  | asking (ticket : LineInput.Ticket) (guest : γ)
      (resume : Except String String -> Activity Unit γ)

def Work.left {γ : Type} : Work γ -> γ
  | going activity => activity.left
  | asking _ guest _ => guest

/-- What the guest still has to do before the session is ready, and the stage in which it does
so. -/
abbrev BootPlan := List (BootStage × Demand)

inductive Phase (γ : Type) where
  /-- A boot waits for the guest to be made. -/
  | loading (source : Keywords.Source)
  /-- A boot waits for the keyword script to be read. -/
  | reading (source : Keywords.Source) (guest : γ)
  /-- The guest works for a boot, of whose plan this is left. -/
  | booting (work : Work γ) (plan : BootPlan)
  | queued (source : String)
  | running (work : Work γ)

def Phase.work? {γ : Type} : Phase γ -> Option (Work γ)
  | booting work _ => some work
  | running work => some work
  | _ => none

def Phase.isBoot {γ : Type} : Phase γ -> Bool
  | loading _ | reading _ _ | booting _ _ => true
  | queued _ | running _ => false

structure Task (γ : Type) where
  number : Nat
  phase : Phase γ

structure PreparedRun where
  id : Nat
  wrapped : String
deriving Repr, DecidableEq

/-! # The session -/

structure Session (γ : Type) where
  abilities : Guest Unit γ
  addresses : Keywords.AddressReader
  settings : Settings
  /-- The names whose calls ask for a line. -/
  names : Calls.Names
  /-- The line input, with the transcript. -/
  input : LineInput
  status : Status
  bootAsked : Bool
  /-- The guest, once the session is ready; while it works for a run, as it was before. -/
  guest? : Option γ
  /-- Whether a run was started and is not over. -/
  running : Bool
  /-- The tasks that are not over, the earliest first. -/
  tasks : List (Task γ)
  /-- The lock that a run has while the guest works for it. -/
  lock : Lock
  nextRun : Nat
  nextTask : Nat
  /-- Everything that was done, the earliest first. -/
  notes : List Note
  /-- The tasks that are over, in the order in which they ended. -/
  finished : List Finished

namespace Session

variable {γ : Type}

def start (abilities : Guest Unit γ) (addresses : Keywords.AddressReader) (settings : Settings)
    (names : Calls.Names) : Session γ where
  abilities := abilities
  addresses := addresses
  settings := settings
  names := names
  input := .empty
  status := .idle
  bootAsked := false
  guest? := none
  running := false
  tasks := []
  lock := .free
  nextRun := 1
  nextTask := 1
  notes := []
  finished := []

/-- A new session; the settings are refused if a name of the input is no name. -/
def ofSettings [addresses : Keywords.AddressReader] (abilities : Guest Unit γ)
    (settings : Settings) : Except Failure (Session γ) :=
  (Calls.Names.ofStrings? settings.inputNames).map (start abilities addresses settings)

theorem exists_start_of_ofSettings [addresses : Keywords.AddressReader]
    {abilities : Guest Unit γ} {settings : Settings} {session : Session γ}
    (accepted : ofSettings abilities settings = .ok session) :
    ∃ names, session = start abilities addresses settings names := by
  rw [ofSettings] at accepted
  cases parsed : Calls.Names.ofStrings? settings.inputNames with
  | error failure =>
      rw [parsed] at accepted
      cases accepted
  | ok names =>
      rw [parsed] at accepted
      exact ⟨names, (Except.ok.inj accepted).symm⟩

def transcript (session : Session γ) : Transcript := session.input.transcript

def messages (session : Session γ) : Messages := session.settings.messages

abbrev keywordSource (session : Session γ) : Except Failure Keywords.Source :=
  @Settings.keywordSource session.addresses session.settings

def isReady (session : Session γ) : Bool := session.guest?.isSome

def runEnabled (session : Session γ) : Bool := session.isReady && !session.running

def summary (session : Session γ) : String :=
  "Session \x7b status: " ++ session.status.summary ++ ", running: " ++
    LineInput.showBool session.running ++ ", .. \x7d"

/-! # Small changes -/

def mapTranscript (session : Session γ) (change : Transcript -> Transcript) : Session γ :=
  { session with input := session.input.mapTranscript change }

def report (session : Session γ) (line : String) : Session γ :=
  session.mapTranscript fun transcript => transcript.appendLine line

def note (session : Session γ) (task : Nat) (deed : Deed) : Session γ :=
  { session with notes := session.notes ++ [⟨task, deed, session.status⟩] }

def addTask (session : Session γ) (task : Nat) (phase : Phase γ) : Session γ :=
  { session with tasks := session.tasks ++ [⟨task, phase⟩] }

def phase? (session : Session γ) (task : Nat) : Option (Phase γ) :=
  (session.tasks.find? fun found => found.number == task).map Task.phase

def setPhase (session : Session γ) (task : Nat) (phase : Phase γ) : Session γ :=
  { session with
    tasks := session.tasks.map fun found =>
      if found.number = task then { found with phase } else found }

def removeTask (session : Session γ) (task : Nat) : Session γ :=
  { session with tasks := session.tasks.filter fun found => found.number != task }

def finish (session : Session γ) (task : Nat) (result : Except Failure Unit) : Session γ :=
  { session with finished := session.finished ++ [⟨task, result⟩] }

def result? (session : Session γ) (task : Nat) : Option (Except Failure Unit) :=
  (session.finished.find? fun finished => finished.task == task).map Finished.result

def prepare (session : Session γ) (source : String) : Session γ × PreparedRun :=
  let marked := session.names.mark source
  ({ session with nextRun := session.nextRun + 1 },
    ⟨session.nextRun, EntryPoint.wrap marked session.settings.entryPoint session.settings.indent⟩)

end Session

end HangulConsole
