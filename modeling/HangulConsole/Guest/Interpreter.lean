import HangulConsole.Guest.Activity
import HangulConsole.Guest.Definition
import HangulConsole.Guest.Exception
import HangulConsole.Guest.Scope
import HangulConsole.Output.Queue

/-!
# The interpreter of instruction programs

A guest whose programs are lists of instructions.  Names keep their values from
one program to the next.  Output is queued and handed over whenever the program
waits for its host, and at its end, whether it ended well or raised.
-/

namespace HangulConsole
namespace Guest

/-! # Programs -/

inductive Use where
  /-- The program forgets the answer. -/
  | forget
  /-- The program writes the answer on a line. -/
  | show
  /-- The program writes the answer on a line, and likewise the reason if there was none. -/
  | guarded
deriving Repr, DecidableEq

inductive Instruction where
  | write (stream : OutputStream) (text : String)
  /-- Writes a text to a stream, and the number of its characters on a line of the standard
  output. -/
  | count (stream : OutputStream) (text : String)
  | flush
  /-- Writes whether the output is a terminal, and how it is encoded. -/
  | describeOutput
  /-- Calls the function of a name with values and waits for the answer. -/
  | call (function : String) (arguments : List Value) (use : Use)
  /-- Calls a function of the host by its name in the host, with values as they are. -/
  | hostCall (function : String) (arguments : List Value) (use : Use)
  /-- Waits for something that is no call of the host. -/
  | wait (value : Value) (use : Use)
  | raise (kind : String) (text? : Option String)
  | set (name : String) (value : Value)
  | append (name : String) (value : Value)
  | show (name : String)
deriving Repr

def Instruction.suspends : Instruction -> Bool
  | call .. => true
  | hostCall .. => true
  | wait .. => true
  | _ => false

def suspendable (program : List Instruction) : Bool :=
  program.any Instruction.suspends

/-! # The interpreter -/

/-- An interpreter between two programs; `φ` are the functions of its host. -/
structure Interpreter (φ : Type) where
  globals : Scope Value
  functions : List (String × φ)
  output : OutputQueue

namespace Interpreter

variable {φ : Type}

def empty : Interpreter φ := ⟨.empty, [], .empty⟩

def function? (interpreter : Interpreter φ) (name : String) : Option φ :=
  (interpreter.functions.find? fun entry => entry.1 == name).map Prod.snd

def addFunction (interpreter : Interpreter φ) (name : String) (function : φ) :
    Interpreter φ :=
  { interpreter with
    functions :=
      if interpreter.functions.any fun entry => entry.1 == name then
        interpreter.functions.map fun entry =>
          if entry.1 == name then (name, function) else entry
      else
        interpreter.functions ++ [(name, function)] }

def write (interpreter : Interpreter φ) (stream : OutputStream) (text : String) :
    Interpreter φ :=
  { interpreter with output := interpreter.output.write stream text }

def writeLine (interpreter : Interpreter φ) (text : String) : Interpreter φ :=
  interpreter.write .stdout (text ++ "\n")

def setGlobal (interpreter : Interpreter φ) (name : String) (value : Value) :
    Interpreter φ :=
  { interpreter with globals := interpreter.globals.put name value }

def emptied (interpreter : Interpreter φ) : Interpreter φ :=
  { interpreter with output := interpreter.output.take.2 }

def drain (interpreter : Interpreter φ)
    (next : Interpreter φ -> Activity φ (Interpreter φ)) : Activity φ (Interpreter φ) :=
  .deliverAll interpreter.output.take.1 interpreter.emptied (next interpreter.emptied)

def finish (interpreter : Interpreter φ) (result : Except Failure Unit) :
    Activity φ (Interpreter φ) :=
  interpreter.drain fun interpreter => .ended result interpreter

def raised (interpreter : Interpreter φ) (suspendable : Bool) (raised : Exception) :
    Activity φ (Interpreter φ) :=
  interpreter.finish <| .error <|
    (if suspendable then raised.leavingSuspendable else raised).failure

/-! # Executing -/

def lookup (interpreter : Interpreter φ) (name : String) : Except Exception Value :=
  match interpreter.globals.get? name with
  | some value => .ok value
  | none => .error (.undefined name)

def callee (interpreter : Interpreter φ) (name : String) : Except Exception String :=
  match interpreter.lookup name with
  | .error raised => .error raised
  | .ok (.function target) => .ok target
  | .ok value => .error (.notCallable value)

def step (interpreter : Interpreter φ) : Instruction -> Except Exception (Interpreter φ)
  | .write stream text => .ok (interpreter.write stream text)
  | .count stream text =>
      .ok ((interpreter.write stream text).writeLine (toString text.length))
  | .flush => .ok interpreter
  | .describeOutput => .ok (interpreter.writeLine "Falseutf-8")
  | .raise kind text? => .error (.ofClass kind (text?.map .text))
  | .set name value => .ok (interpreter.setGlobal name value)
  | .append name value =>
      match interpreter.lookup name with
      | .error raised => .error raised
      | .ok old =>
          match old.add value with
          | .ok sum => .ok (interpreter.setGlobal name sum)
          | .error reason => .error (.wrongType reason)
  | .show name => (interpreter.lookup name).map fun value => interpreter.writeLine value.str
  | .call .. => .ok interpreter
  | .hostCall .. => .ok interpreter
  | .wait .. => .ok interpreter

/-- What an instruction waits for: the answer to a call of the host, or an exception that the host
throws into the program. -/
inductive Awaited where
  /-- A call of the host's function of a name. -/
  | call (function : String) (arguments : List String)
  /-- Nothing that the host could answer. -/
  | nothing
deriving Repr, DecidableEq

/-- What an instruction that waits for the host waits for, and what it does with the answer; none
for the others. -/
def awaited? (interpreter : Interpreter φ) :
    Instruction -> Option (Except Exception (Awaited × Use))
  | .call function arguments use =>
      some ((interpreter.callee function).map fun target =>
        (.call target (arguments.map Value.str), use))
  | .hostCall function arguments use =>
      match arguments.mapM Value.text? with
      | some texts => some (.ok (.call function texts, use))
      | none => some (.ok (.nothing, use))
  | .wait _ use => some (.ok (.nothing, use))
  | _ => none

def answered (interpreter : Interpreter φ) (use : Use) :
    Except Exception String -> Except Exception (Interpreter φ)
  | .ok answer =>
      match use with
      | .forget => .ok interpreter
      | .show => .ok (interpreter.writeLine answer)
      | .guarded => .ok (interpreter.writeLine answer)
  | .error raised =>
      match use with
      | .guarded => .ok (interpreter.writeLine ("caught " ++ raised.text))
      | .forget => .error raised
      | .show => .error raised

def await (interpreter : Interpreter φ) (awaited : Awaited)
    (next : Interpreter φ -> Except Exception String -> Activity φ (Interpreter φ)) :
    Activity φ (Interpreter φ) :=
  interpreter.drain fun interpreter =>
    match awaited with
    | .nothing => next interpreter (.error .notHostCall)
    | .call name arguments =>
        match interpreter.function? name with
        | none => next interpreter (.error (.unboundHost name))
        | some function =>
            .call function arguments interpreter fun answer =>
              next interpreter (answer.mapError Exception.hostFailed)

def execFrom (suspendable : Bool) (interpreter : Interpreter φ) :
    List Instruction -> Activity φ (Interpreter φ)
  | [] => interpreter.finish (.ok ())
  | instruction :: rest =>
      match interpreter.awaited? instruction with
      | some (.error raised) => interpreter.raised suspendable raised
      | some (.ok (awaited, use)) =>
          interpreter.await awaited fun interpreter answer =>
            match interpreter.answered use answer with
            | .ok interpreter => execFrom suspendable interpreter rest
            | .error raised => interpreter.raised suspendable raised
      | none =>
          match interpreter.step instruction with
          | .ok interpreter => execFrom suspendable interpreter rest
          | .error raised => interpreter.raised suspendable raised

def exec (interpreter : Interpreter φ) (program : List Instruction) :
    Activity φ (Interpreter φ) :=
  execFrom (Guest.suspendable program) interpreter program

/-! # Functions of the host -/

/-- Makes a function of the host known under a name: the host has it from then on, and the guest
defines a function that calls it. -/
def bind [Compiler] (interpreter : Interpreter φ) (name : String) (function : φ) :
    Activity φ (Interpreter φ) :=
  if isBindable name then
    let known := interpreter.addFunction name function
    match Compiler.define name with
    | .error raised => known.raised false raised
    | .ok global => (known.setGlobal global (.function name)).finish (.ok ())
  else
    .fail (.settings ("invalid host function name: " ++ Text.quote name)) interpreter

def summary (interpreter : Interpreter φ) : String :=
  "PythonRuntime \x7b functions: [" ++
    ", ".intercalate (interpreter.functions.map fun entry => Text.quote entry.1) ++ "], .. \x7d"

end Interpreter

end Guest
end HangulConsole
