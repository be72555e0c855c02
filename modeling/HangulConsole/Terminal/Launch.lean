import HangulConsole.Settings.Document
import HangulConsole.Terminal.Basic
import HangulConsole.Terminal.Command

/-!
# Opening a terminal

The arguments say what a terminal is opened for: for commands, or for the run of
one program.  The session boots in any case.
-/

namespace HangulConsole

inductive Purpose where
  | commands
  | program (path : String)
  | noProgram
  | unknown (name : String)
deriving Repr, DecidableEq

def Purpose.ofArguments : List String -> Purpose
  | [] => commands
  | name :: rest =>
      if name = "run" then
        match rest with
        | [] => noProgram
        | path :: _ => program path
      else
        unknown name

namespace Terminal

variable {γ : Type} {m : Type -> Type} [Monad m]

/-- Whether the terminal has to wait until a keyword script is read.  Only the built-in table is
always at hand. -/
def waitsFor (surroundings : Surroundings m) : Keywords.Source -> Bool
  | .builtin => false
  | .file _ => true
  | .web _ => surroundings.networkWaits

def boot (surroundings : Surroundings m) (made : Except Failure γ) (terminal : Terminal γ) :
    m (Terminal γ) := do
  let terminal := terminal.mapSession fun session => session.boot.1.loaded made
  match terminal.session.wantedSource? with
  | none => return terminal
  | some source =>
      let terminal := if waitsFor surroundings source then terminal.idle else terminal
      let script ← source.load surroundings.disk surroundings.network
      return terminal.mapSession fun session => session.scriptRead script

/-- Loads a program; the terminal waits only if the path names a program file. -/
def fetch (surroundings : Surroundings m) (terminal : Terminal γ) (path : String) :
    m (Terminal γ × Except Failure String) := do
  let terminal := if Program.isProgramFile path then terminal.idle else terminal
  return (terminal, ← Program.load surroundings.disk path)

def runProgram (surroundings : Surroundings m) (terminal : Terminal γ) (path : String) :
    m (Terminal γ) := do
  if terminal.session.isReady then
    match ← terminal.fetch surroundings path with
    | (terminal, .ok source) => return terminal.start source true
    | (terminal, .error failure) => return terminal.close (.complaint (.failed failure))
  else
    return terminal.close .failure

def pursue (surroundings : Surroundings m) (terminal : Terminal γ) :
    Purpose -> m (Except Complaint (Terminal γ))
  | .commands => return .ok { terminal.report Command.summary with mode := .commanding }
  | .program path => .ok <$> terminal.runProgram surroundings path
  | .noProgram => return .error .noProgram
  | .unknown name => return .ok (terminal.close (.complaint (.unknownTask name)))

def openFor (surroundings : Surroundings m) (made : Except Failure γ) (purpose : Purpose)
    (session : Session γ) : m (Except Complaint (Terminal γ)) := do
  let terminal ← (ofSession surroundings.pace session).boot surroundings made
  if terminal.session.isBooting then
    return .ok { terminal with mode := .stuck }
  else
    terminal.pursue surroundings purpose

/-- Opens a terminal in an environment.  A complaint means that the terminal did not open, and that
nothing was shown. -/
def launch [Settings.DocumentReader] [Keywords.AddressReader] (surroundings : Surroundings m)
    (abilities : Guest Unit γ) (made : Except Failure γ) (lookup : String -> Option String)
    (arguments : List String) : m (Except Complaint (Terminal γ)) := do
  let settings ← Settings.load surroundings.disk (lookup Settings.fileVariable) lookup
  match settings.bind (Session.ofSettings abilities) with
  | .error failure => return .error (.failed failure)
  | .ok session => openFor surroundings made (.ofArguments arguments) session

end Terminal

end HangulConsole
