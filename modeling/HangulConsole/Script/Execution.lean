import HangulConsole.Script.Reader
import HangulConsole.Script.Workspace
import HangulConsole.Standard

/-!
# Executing scripts

The statements of a script are executed one after another; a call of the host
suspends the whole script.  In an entry point the names that the script assigns
are its own, and they are published when the entry point is left, in whichever
way.
-/

namespace HangulConsole
namespace Script

open Guest (Exception Scope Value)

structure Frame where
  workspace : Workspace
  /-- The names that are the entry point's own. -/
  own : List String
  /-- The meanings of those that have one. -/
  locals : Scope Meaning
  /-- Whether the script awaits anything. -/
  suspendable : Bool

/-- What a script does from some moment on, given the outcome of what it did before. -/
abbrev Next (α : Type) := Frame -> Except Exception α -> Activity Unit Workspace

namespace Frame

def lookup (frame : Frame) (name : String) : Except Exception Meaning :=
  if frame.own.contains name then
    match frame.locals.get? name with
    | some meaning => .ok meaning
    | none => .error (.unassigned name)
  else
    match frame.workspace.meaning? name with
    | some meaning => .ok meaning
    | none => .error (.undefined name)

def assign (frame : Frame) (name : String) (meaning : Meaning) : Frame :=
  if frame.own.contains name then
    { frame with locals := frame.locals.put name meaning }
  else
    { frame with workspace := frame.workspace.define name meaning }

def write (frame : Frame) (text : String) : Frame :=
  { frame with workspace := frame.workspace.write text }

def leave (frame : Frame) : Workspace :=
  { frame.workspace with globals := frame.workspace.globals.putAll frame.locals }

def finish (frame : Frame) : Except Exception Unit -> Activity Unit Workspace
  | .ok () => frame.leave.finish (.ok ())
  | .error raised =>
      let raised := if frame.suspendable then raised.leavingSuspendable else raised
      frame.leave.finish (.error raised.failure)

/-! # Calls -/

def callHost (frame : Frame) (function : String) (arguments : List String)
    (next : Next Meaning) : Activity Unit Workspace :=
  .deliverAll frame.workspace.output.take.1 frame.workspace.emptied <|
    let frame := { frame with workspace := frame.workspace.emptied }
    if frame.workspace.bound.contains function then
      .call () arguments frame.leave fun answer =>
        match answer with
        | .ok line => next frame (.ok (.text line))
        | .error reason => next frame (.error (.hostFailed reason))
    else
      next frame (.error (.unboundHost function))

def awaitedPlain (awaited : Bool) (result : Meaning) : Except Exception Meaning :=
  if awaited then .error (.wrongType s!"object {result.kind} can't be used in 'await' expression")
  else .ok result

def neverAwaited : Meaning := .other "coroutine"

def apply (frame : Frame) (awaited : Bool) (target : Meaning) (arguments : List Meaning)
    (ending? : Option String) (next : Next Meaning) : Activity Unit Workspace :=
  match target with
  | .printer =>
      let line := " ".intercalate (arguments.map Meaning.str) ++ ending?.getD "\n"
      next (frame.write line) (awaitedPlain awaited .none)
  | .asker bridge =>
      match arguments with
      | _ :: _ :: _ =>
          next frame (.error (.wrongType
            ("_hangpy_input() takes from 0 to 1 positional arguments but " ++
              s!"{arguments.length} were given")))
      | _ =>
          if awaited then
            frame.callHost bridge [(arguments.head?.map Meaning.str).getD ""] next
          else
            next frame (.ok neverAwaited)
  | .host function =>
      if awaited then frame.callHost function (arguments.map Meaning.str) next
      else next frame (.ok neverAwaited)
  | .helper =>
      if arguments.isEmpty then
        next (frame.write (Workspace.helpText Keywords.builtin)) (awaitedPlain awaited .none)
      else
        next frame (.error (.wrongType
          (s!"{Keywords.helpFunction}() takes 0 positional arguments but " ++
            s!"{arguments.length} were given")))
  | .exceptionClass name =>
      next frame (awaitedPlain awaited
        (.exception (.ofClass name (arguments.head?.map Meaning.asValue))))
  | .value value => next frame (.error (.notCallable value))
  | other => next frame (.error (.wrongType s!"'{other.kind}' object is not callable"))

end Frame

/-! # Expressions -/

mutual

def evaluate : Expression -> Frame -> Next Meaning -> Activity Unit Workspace
  | .text value, frame, next => next frame (.ok (.text value))
  | .int value, frame, next => next frame (.ok (.value (.int value)))
  | .name name, frame, next => next frame (frame.lookup name)
  | .call awaited function arguments ending?, frame, next =>
      match frame.lookup function with
      | .error raised => next frame (.error raised)
      | .ok target =>
          evaluateAll arguments frame fun frame result =>
            match result with
            | .error raised => next frame (.error raised)
            | .ok arguments => frame.apply awaited target arguments ending? next

def evaluateAll : List Expression -> Frame -> Next (List Meaning) -> Activity Unit Workspace
  | [], frame, next => next frame (.ok [])
  | expression :: rest, frame, next =>
      evaluate expression frame fun frame result =>
        match result with
        | .error raised => next frame (.error raised)
        | .ok first =>
            evaluateAll rest frame fun frame result =>
              next frame (result.map (first :: ·))

end

/-! # Statements -/

def raisedFor : Meaning -> Exception
  | .exception made => made
  | .exceptionClass name => .ofClass name none
  | _ => .wrongType "exceptions must derive from BaseException"

def execute (statement : Statement) (frame : Frame) (next : Next Unit) :
    Activity Unit Workspace :=
  match statement with
  | .assign name value =>
      evaluate value frame fun frame result =>
        match result with
        | .error raised => next frame (.error raised)
        | .ok meaning => next (frame.assign name meaning) (.ok ())
  | .raise exception =>
      evaluate exception frame fun frame result =>
        match result with
        | .error raised => next frame (.error raised)
        | .ok meaning => next frame (.error (raisedFor meaning))
  | .evaluate expression =>
      evaluate expression frame fun frame result => next frame (result.map fun _ => ())

def executeAll : Program -> Frame -> Activity Unit Workspace
  | [], frame => frame.finish (.ok ())
  | statement :: rest, frame =>
      execute statement frame fun frame result =>
        match result with
        | .ok () => executeAll rest frame
        | .error raised => frame.finish (.error raised)

/-! # The guest -/

namespace Workspace

def execShape (workspace : Workspace) : Shape -> Activity Unit Workspace
  | .top program =>
      executeAll program ⟨workspace, [], .empty, program.any Statement.suspends⟩
  | .entry program => executeAll program ⟨workspace, assignedNames program, .empty, true⟩

/-- The function of the host that a script puts in place of the guest's line input, if it does
that. -/
def overrides? (workspace : Workspace) (script : String) : Option String :=
  workspace.bound.find? fun bridge => Keywords.inputOverride bridge == script

def exec (workspace : Workspace) (script : String) : Activity Unit Workspace :=
  if script = Keywords.builtinScript then
    (workspace.installKeywords Keywords.builtin).finish (.ok ())
  else
    match workspace.overrides? script with
    | some bridge => (workspace.installInput bridge).finish (.ok ())
    | none =>
        match read script with
        | .ok shape => workspace.execShape shape
        | .error raised => workspace.finish (.error raised.failure)

def bind (workspace : Workspace) (name : String) : Activity Unit Workspace :=
  if Guest.isBindable name then
    let known := { workspace with bound := workspace.bound ++ [name] }
    match Guest.Compiler.define name with
    | .error raised => known.finish (.error raised.failure)
    | .ok global => (known.define global (.host name)).finish (.ok ())
  else
    .fail (.settings ("invalid host function name: " ++ Text.quote name)) workspace

def abilities : Guest Unit Workspace where
  bind workspace name _ := workspace.bind name
  exec := exec

end Workspace

end Script
end HangulConsole
