import HangulConsole.Guest.Activity
import HangulConsole.Guest.Exception
import HangulConsole.Guest.Scope
import HangulConsole.Keywords.Script
import HangulConsole.Output.Queue

/-!
# The workspace of scripts

What stays of one script for the next: the names with their meanings, the
functions of the host, and output that was not handed over.
-/

namespace HangulConsole
namespace Script

open Guest (Exception Scope Value)

/-! # Meanings -/

inductive Meaning where
  | value (value : Value)
  /-- A number with a fraction, as it is shown. -/
  | fraction (shown : String)
  /-- The function that writes its arguments on a line. -/
  | printer
  /-- The function that asks for a line through a function of the host. -/
  | asker (bridge : String)
  /-- The function that calls a function of the host. -/
  | host (function : String)
  /-- The function that lists the localized names. -/
  | helper
  | exceptionClass (name : String)
  /-- An exception that was made and not raised. -/
  | exception (made : Exception)
  /-- Something else, by the name of its kind. -/
  | other (kind : String)
deriving Repr, Inhabited

namespace Meaning

def none : Meaning := .value .none

def text (value : String) : Meaning := .value (.text value)

def kind : Meaning -> String
  | value held => held.kind
  | fraction _ => "float"
  | printer => "builtin_function_or_method"
  | exceptionClass _ => "type"
  | exception made => made.kind
  | other kind => kind
  | _ => "function"

def str : Meaning -> String
  | value held => held.str
  | fraction shown => shown
  | printer => "<built-in function print>"
  | exceptionClass name => s!"<class '{name}'>"
  | exception made => made.text
  | meaning => s!"<{meaning.kind}>"

def asValue : Meaning -> Value
  | value held => held
  | meaning => .text meaning.str

end Meaning

/-! # Workspaces -/

structure Workspace where
  globals : Scope Meaning
  bound : List String
  output : OutputQueue

namespace Workspace

def empty : Workspace := ⟨.empty, [], .empty⟩

def builtin? (name : String) : Option Meaning :=
  if name = "print" then some .printer
  else if name = "input" then some (.other "builtin_function_or_method")
  else if name = "True" then some (.value (.bool true))
  else if name = "False" then some (.value (.bool false))
  else if name = "None" then some .none
  else if Exception.classes.contains name then some (.exceptionClass name)
  else none

def meaning? (workspace : Workspace) (name : String) : Option Meaning :=
  (workspace.globals.get? name).or (builtin? name)

def define (workspace : Workspace) (name : String) (meaning : Meaning) : Workspace :=
  { workspace with globals := workspace.globals.put name meaning }

def write (workspace : Workspace) (text : String) : Workspace :=
  { workspace with output := workspace.output.write .stdout text }

def emptied (workspace : Workspace) : Workspace :=
  { workspace with output := workspace.output.take.2 }

def drain (workspace : Workspace) (next : Workspace -> Activity Unit Workspace) :
    Activity Unit Workspace :=
  .deliverAll workspace.output.take.1 workspace.emptied (next workspace.emptied)

def finish (workspace : Workspace) (result : Except Failure Unit) : Activity Unit Workspace :=
  workspace.drain fun workspace => .ended result workspace

/-! # The boot scripts -/

/-- The name of the function that is put in place of the guest's own line input. -/
def askerName : String := "_hangpy_input"

def installInput (workspace : Workspace) (bridge : String) : Workspace :=
  (workspace.define askerName (.asker bridge)).define "input" (.asker bridge)

def circleRatio : String := "3.141592653589793"

def meaningOf (workspace : Workspace) (expr : String) : Meaning :=
  match workspace.meaning? expr with
  | some meaning => meaning
  | none => if expr = "math.pi" then .fraction circleRatio else .other "function"

/-- Binds the localized names of a table that have no meaning yet, and the function that lists
them. -/
def installKeywords (workspace : Workspace) (keywords : List Keywords.Keyword) : Workspace :=
  let bound := keywords.foldl
    (fun workspace keyword =>
      if (workspace.meaning? keyword.name).isSome then workspace
      else workspace.define keyword.name (workspace.meaningOf keyword.expr))
    workspace
  bound.define Keywords.helpFunction .helper

def helpHead : String := "사용 가능한 한글 명령어:"

def helpWidth : Nat := 10

def helpLine (keyword : Keywords.Keyword) : String :=
  let padding := String.ofList (List.replicate (helpWidth - keyword.name.length) ' ')
  "· " ++ keyword.name ++ padding ++ " → " ++ keyword.origin

def helpText (keywords : List Keywords.Keyword) : String :=
  let ordered := keywords.mergeSort fun a b => decide (a.name ≤ b.name)
  String.join ((helpHead :: ordered.map helpLine).map (· ++ "\n"))

end Workspace

end Script
end HangulConsole
