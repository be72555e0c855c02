import HangulConsole.Text.Lines
import HangulConsole.Text.Blank

/-!
# Paths

A path is a text whose parts are divided by slashes.  Its file name is its last
part that is neither empty nor a dot, unless that part is the double dot.
-/

namespace HangulConsole
namespace Files

def pathParts (path : List Char) : List (List Char) :=
  (Text.splitAt '/' path).filter fun part => !part.isEmpty && part != ['.']

def fileNameChars? (path : List Char) : Option (List Char) :=
  match (pathParts path).getLast? with
  | none => none
  | some part => if part = ['.', '.'] then none else some part

/-- The part of a name after its last dot, unless that dot is its first character or missing. -/
def nameExtension? (name : List Char) : Option (List Char) :=
  if '.' ∈ name.drop 1 then
    some (name.reverse.takeWhile (· != '.')).reverse
  else
    none

def extension? (path : String) : Option String :=
  ((fileNameChars? path.toList).bind nameExtension?).map String.ofList

/-- The name by which a path is shown: its file name, or the whole path when it has none. -/
def displayName (path : String) : String :=
  ((fileNameChars? path.toList).map String.ofList).getD path

def isAbsolute (path : String) : Bool :=
  path.toList.head? == some '/'

def join (dir name : String) : String :=
  if isAbsolute name || dir.isEmpty then name
  else if dir.toList.getLast? == some '/' then dir ++ name
  else dir ++ "/" ++ name

end Files
end HangulConsole
