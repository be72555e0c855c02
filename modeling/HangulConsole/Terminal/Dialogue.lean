import HangulConsole.Terminal.Incoming
import HangulConsole.Terminal.Launch

/-!
# The dialogue with a terminal

A terminal takes one line after another until it is closed; the end of the input
closes it too.
-/

namespace HangulConsole
namespace Terminal

variable {γ : Type} {m : Type -> Type} [Monad m]

/-! # Commands -/

def lineNumber (width number : Nat) : String :=
  let digits := Nat.toDigits 10 number
  String.ofList (List.replicate (width - digits.length) ' ' ++ digits)

def listing (editor : Editor) : List String :=
  let width := (Nat.toDigits 10 editor.lineCount).length
  (Text.fields '\n' editor.text).mapIdx fun index line =>
    lineNumber width (index + 1) ++ " | " ++ line

def showProgram (terminal : Terminal γ) : Terminal γ :=
  (listing terminal.editor).foldl report terminal

def saveAs (surroundings : Surroundings m) (terminal : Terminal γ) (name : String) :
    m (Terminal γ) := do
  let terminal := terminal.idle
  match ← Program.save surroundings.disk "." name terminal.editor.text with
  | .ok path =>
      return terminal.mapTranscript fun transcript =>
        transcript.noticeSaved terminal.session.messages path
  | .error failure => return terminal.report failure.message

def saveProgram (surroundings : Surroundings m) (terminal : Terminal γ) (name : String) :
    m (Terminal γ) := do
  if name.isEmpty then
    terminal.saveAs surroundings (Program.suggestedName (← surroundings.now))
  else
    terminal.saveAs surroundings name

def loadProgram (surroundings : Surroundings m) (terminal : Terminal γ) (path : String) :
    m (Terminal γ) := do
  match ← terminal.fetch surroundings path with
  | (terminal, .ok text) =>
      return (terminal.mapEditor fun editor => editor.setText text).mapTranscript fun transcript =>
        transcript.noticeLoaded terminal.session.messages path
  | (terminal, .error failure) => return terminal.report failure.message

def obey (surroundings : Surroundings m) (terminal : Terminal γ) : Command -> m (Terminal γ)
  | .run => return terminal.start terminal.editor.text false
  | .startAfresh => return terminal.mapEditor Editor.clear
  | .insertHelp => return terminal.mapEditor Editor.insertHelpCall
  | .insertExample => return terminal.mapEditor Editor.insertExample
  | .clearScreen => return terminal.mapTranscript Transcript.clear
  | .save name => terminal.saveProgram surroundings name
  | .load path => terminal.loadProgram surroundings path
  | .list => return terminal.showProgram
  | .quit => return terminal.close .success
  | .explain => return terminal.report Command.summary
  | .append line => return terminal.mapEditor fun editor => editor.appendSnippet (line ++ "\n")

/-! # Lines -/

/-- Waits if a line is not at hand. -/
def await (terminal : Terminal γ) (line : IncomingLine) : Terminal γ :=
  if line.waited then terminal.idle else terminal

def take (surroundings : Surroundings m) (terminal : Terminal γ) (line : IncomingLine) :
    m (Terminal γ) :=
  match terminal.mode with
  | .commanding => (terminal.await line).obey surroundings (.ofLine line.text)
  | .running task only => return (terminal.await line).answer task only line.text
  | .stuck => return terminal
  | .closed _ => return terminal

/-- Takes the end of the input.  A run that waits for a line is given up. -/
def takeEnd (terminal : Terminal γ) : Terminal γ :=
  match terminal.mode with
  | .commanding => terminal.idle.close .success
  | .running task only =>
      (terminal.idle.mapSession fun session => (session.giveUp task).1).close
        (if only then .failure else .success)
  | .stuck => terminal
  | .closed _ => terminal

def takeAll (surroundings : Surroundings m) (terminal : Terminal γ) (lines : List IncomingLine) :
    m (Terminal γ) :=
  lines.foldlM (take surroundings) terminal

def takeInput (surroundings : Surroundings m) (terminal : Terminal γ) (input : String) :
    m (Terminal γ) :=
  takeEnd <$> terminal.takeAll surroundings (IncomingLine.ofText input)

def dialogue [Settings.DocumentReader] [Keywords.AddressReader] (surroundings : Surroundings m)
    (abilities : Guest Unit γ) (made : Except Failure γ) (lookup : String -> Option String)
    (arguments : List String) (input : String) : m (Except Complaint (Terminal γ)) := do
  match ← launch surroundings abilities made lookup arguments with
  | .error complaint => return .error complaint
  | .ok terminal => .ok <$> terminal.takeInput surroundings input

/-! # A dialogue goes on line by line -/

@[simp] theorem takeAll_nil (surroundings : Surroundings m) (terminal : Terminal γ) :
    terminal.takeAll surroundings [] = pure terminal := rfl

theorem takeAll_cons (surroundings : Surroundings m) (terminal : Terminal γ)
    (line : IncomingLine) (rest : List IncomingLine) :
    terminal.takeAll surroundings (line :: rest) =
      terminal.take surroundings line >>= fun next => next.takeAll surroundings rest := by
  simp [takeAll]

theorem take_of_closed (surroundings : Surroundings m) {terminal : Terminal γ} {exit : Exit}
    (closed : terminal.mode = .closed exit) (line : IncomingLine) :
    terminal.take surroundings line = pure terminal := by
  simp [take, closed]

theorem takeEnd_of_closed {terminal : Terminal γ} {exit : Exit}
    (closed : terminal.mode = .closed exit) : terminal.takeEnd = terminal := by
  simp [takeEnd, closed]

end Terminal
end HangulConsole
