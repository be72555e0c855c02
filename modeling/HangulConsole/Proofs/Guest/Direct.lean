import HangulConsole.Guest.Interpreter
import Mathlib.Logic.Function.Basic

/-!
# Programs without a queue

What instruction programs mean if all that they write counts as written at once.  They
change names, write, call functions of their host, and end.
-/

namespace HangulConsole
namespace Guest

/-- A guest with all that it has written so far. -/
structure Direct (φ : Type) where
  values : String -> Option Value
  functions : String -> Option φ
  written : OutputStream -> String

abbrev Compiler.reserving (word : String) : Compiler where
  define name := if name = word then .error (.malformed "invalid syntax" 1) else .ok name

inductive Command (φ : Type) where
  | bind (name : String) (function : φ)
  | exec (program : List Instruction)

namespace Direct

variable {φ : Type}

def empty : Direct φ := ⟨fun _ => none, fun _ => none, fun _ => ""⟩

def write (direct : Direct φ) (stream : OutputStream) (text : String) : Direct φ :=
  { direct with
    written := Function.update direct.written stream (direct.written stream ++ text) }

def writeLine (direct : Direct φ) (text : String) : Direct φ :=
  direct.write .stdout (text ++ "\n")

def set (direct : Direct φ) (name : String) (value : Value) : Direct φ :=
  { direct with values := Function.update direct.values name (some value) }

def addFunction (direct : Direct φ) (name : String) (function : φ) : Direct φ :=
  { direct with functions := Function.update direct.functions name (some function) }

theorem written_write (direct : Direct φ) (stream : OutputStream) (text : String)
    (other : OutputStream) :
    (direct.write stream text).written other =
      if other = stream then direct.written stream ++ text else direct.written other :=
  Function.update_apply _ _ _ _

theorem values_set (direct : Direct φ) (name : String) (value : Value) (other : String) :
    (direct.set name value).values other =
      if other = name then some value else direct.values other :=
  Function.update_apply _ _ _ _

theorem functions_addFunction (direct : Direct φ) (name : String) (function : φ)
    (other : String) :
    (direct.addFunction name function).functions other =
      if other = name then some function else direct.functions other :=
  Function.update_apply _ _ _ _

def callee (direct : Direct φ) (name : String) : Except Exception String :=
  match direct.values name with
  | none => .error (.undefined name)
  | some (.function target) => .ok target
  | some value => .error (.notCallable value)

def raise (direct : Direct φ) (suspendable : Bool) (raised : Exception) :
    Activity φ (Direct φ) :=
  .fail (if suspendable then raised.leavingSuspendable else raised).failure direct

def call (direct : Direct φ) (function : String) (arguments : List String)
    (next : Except Exception String -> Activity φ (Direct φ)) : Activity φ (Direct φ) :=
  match direct.functions function with
  | none => next (.error (.unboundHost function))
  | some known => .call known arguments direct fun answer => next (answer.mapError .hostFailed)

def resume (direct : Direct φ) (suspendable : Bool) (use : Use)
    (next : Direct φ -> Activity φ (Direct φ)) : Except Exception String -> Activity φ (Direct φ)
  | .ok answer =>
      match use with
      | .forget => next direct
      | .show | .guarded => next (direct.writeLine answer)
  | .error raised =>
      match use with
      | .guarded => next (direct.writeLine ("caught " ++ raised.text))
      | .forget | .show => direct.raise suspendable raised

def execFrom (suspendable : Bool) (direct : Direct φ) :
    List Instruction -> Activity φ (Direct φ)
  | [] => .ended (.ok ()) direct
  | .write stream text :: rest => execFrom suspendable (direct.write stream text) rest
  | .count stream text :: rest =>
      execFrom suspendable ((direct.write stream text).writeLine (toString text.length)) rest
  | .flush :: rest => execFrom suspendable direct rest
  | .describeOutput :: rest => execFrom suspendable (direct.writeLine "Falseutf-8") rest
  | .set name value :: rest => execFrom suspendable (direct.set name value) rest
  | .raise kind text? :: _ => direct.raise suspendable (.ofClass kind (text?.map .text))
  | .append name value :: rest =>
      match direct.values name with
      | none => direct.raise suspendable (.undefined name)
      | some old =>
          match old.add value with
          | .ok sum => execFrom suspendable (direct.set name sum) rest
          | .error reason => direct.raise suspendable (.wrongType reason)
  | .show name :: rest =>
      match direct.values name with
      | none => direct.raise suspendable (.undefined name)
      | some value => execFrom suspendable (direct.writeLine value.str) rest
  | .call function arguments use :: rest =>
      match direct.callee function with
      | .error raised => direct.raise suspendable raised
      | .ok target =>
          direct.call target (arguments.map Value.str)
            (direct.resume suspendable use fun direct => execFrom suspendable direct rest)
  | .hostCall function arguments use :: rest =>
      match arguments.mapM Value.text? with
      | some texts =>
          direct.call function texts
            (direct.resume suspendable use fun direct => execFrom suspendable direct rest)
      | none =>
          direct.resume suspendable use (fun direct => execFrom suspendable direct rest)
            (.error .notHostCall)
  | .wait _ use :: rest =>
      direct.resume suspendable use (fun direct => execFrom suspendable direct rest)
        (.error .notHostCall)

def bind [Compiler] (direct : Direct φ) (name : String) (function : φ) : Activity φ (Direct φ) :=
  if isBindable name then
    let known := direct.addFunction name function
    match Compiler.define name with
    | .error raised => known.raise false raised
    | .ok global => .ended (.ok ()) (known.set global (.function name))
  else
    .fail (.settings ("invalid host function name: " ++ Text.quote name)) direct

def obey [Compiler] (direct : Direct φ) : Command φ -> Activity φ (Direct φ)
  | .bind name function => direct.bind name function
  | .exec program => direct.execFrom (suspendable program) program

end Direct

end Guest
end HangulConsole
