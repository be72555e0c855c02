import HangulConsole.Calendar
import HangulConsole.Failure
import HangulConsole.Files.Disk
import HangulConsole.Files.Path

/-!
# Program files

A program is kept as the plain text of the editor, in a file with the extension
`kpy`.  What is saved is exactly what was typed.
-/

namespace HangulConsole
namespace Program

def extension : String := "kpy"

/-- Whether a path names a program file; the case of ASCII letters does not matter. -/
def isProgramFile (path : String) : Bool :=
  match Files.extension? path with
  | none => false
  | some ext => Text.asciiLower ext == extension

/-- The name with the extension of program files, which is added only when it is missing. -/
def withExtension (name : String) : String :=
  if isProgramFile name then name else name ++ "." ++ extension

def suggestedName (now : Calendar.Minute) : String :=
  "hangpy_" ++ now.stamp ++ "." ++ extension

variable {m : Type -> Type} [Monad m]

def save (disk : Files.Disk m) (dir name text : String) : m (Except Failure String) := do
  let path := Files.join dir (withExtension name)
  match ← disk.writeText path text with
  | .error fault => return .error (.file fault)
  | .ok () => return .ok path

def load (disk : Files.Disk m) (path : String) : m (Except Failure String) := do
  if isProgramFile path then
    match ← disk.readText path with
    | .error fault => return .error (.file fault)
    | .ok text => return .ok text
  else
    return .error (.notProgramFile path)

end Program
end HangulConsole
