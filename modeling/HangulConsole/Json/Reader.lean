import HangulConsole.Json.Fault

/-!
# Reading documents

A reader takes what is left of the text and answers with a value or a fault, and
with what is left then.
-/

namespace HangulConsole
namespace Json

/-- A reader of what is left of a text; what is left after it is known even when it fails. -/
abbrev Reader (α : Type) := ExceptT Fault (StateM (List Char)) α

namespace Reader

def fail {α : Type} (reason : Reason) : Reader α := do
  throw ⟨reason, some ⟨Text.byteCount (← get), false⟩⟩

def failNext {α : Type} (reason : Reason) : Reader α := do
  throw ⟨reason, some ⟨Text.byteCount (← get), true⟩⟩

def reject {α : Type} (reason : Reason) : Reader α :=
  throw ⟨reason, none⟩

def settle {α : Type} (reader : Reader α) : Reader α := fun rest =>
  match reader rest with
  | (.error ⟨reason, none⟩, left) => (.error ⟨reason, some ⟨Text.byteCount left, false⟩⟩, left)
  | outcome => outcome

/-- Reads a body and then its end.  The end is read even when the body fails, and the body's fault
counts first. -/
def enclosed {α : Type} (body : Reader α) (ending : Reader Unit) : Reader α := fun rest =>
  let (value, left) := body rest
  let (closed, left) := ending left
  match value, closed with
  | .error fault, _ => (.error fault, left)
  | .ok _, .error fault => (.error fault, left)
  | .ok value, .ok () => (.ok value, left)

def peek? : Reader (Option Char) := do
  return (← get).head?

def next? : Reader (Option Char) := do
  match ← get with
  | [] => return none
  | c :: rest =>
      set rest
      return some c

def skip : Reader Unit := modify (List.drop 1)

def isSpace (c : Char) : Bool :=
  c == ' ' || c == '\n' || c == '\t' || c == '\r'

def peekPart? : Reader (Option Char) := do
  modify (List.dropWhile isSpace)
  peek?

end Reader
end Json
end HangulConsole
