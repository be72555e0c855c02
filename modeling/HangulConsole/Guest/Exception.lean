import HangulConsole.Failure
import HangulConsole.Guest.Value

/-!
# Guest exceptions

What a guest program raises: an exception of a known class, whose text is shown
behind the name of its class.
-/

namespace HangulConsole
namespace Guest

structure Exception where
  kind : String
  text : String
deriving Repr, DecidableEq, Inhabited

namespace Exception

def message (raised : Exception) : String :=
  raised.kind ++ ": " ++ raised.text

def failure (raised : Exception) : Failure := .guest raised.message

def undefined (name : String) : Exception :=
  ⟨"NameError", s!"name '{name}' is not defined"⟩

def unassigned (name : String) : Exception :=
  ⟨"UnboundLocalError",
    s!"cannot access local variable '{name}' where it is not associated with a value"⟩

def notCallable (value : Value) : Exception :=
  ⟨"TypeError", s!"'{value.kind}' object is not callable"⟩

def wrongType (reason : String) : Exception := ⟨"TypeError", reason⟩

def hostFailed (reason : String) : Exception := ⟨"RuntimeError", reason⟩

def unboundHost (name : String) : Exception := hostFailed s!"host function {name} is not bound"

def notHostCall : Exception := hostFailed "only host calls may be awaited in guest code"

def malformed (reason : String) (line : Nat) : Exception :=
  ⟨"SyntaxError", s!"{reason} (<hangpy>, line {line})"⟩

def misplaced (reason : String) (line : Nat) : Exception :=
  ⟨"IndentationError", s!"{reason} (<hangpy>, line {line})"⟩

/-! # Classes -/

def classes : List String :=
  ["ArithmeticError", "AssertionError", "AttributeError", "BaseException", "BlockingIOError",
    "BrokenPipeError", "BufferError", "BytesWarning", "ChildProcessError", "ConnectionAbortedError",
    "ConnectionError", "ConnectionRefusedError", "ConnectionResetError", "DeprecationWarning",
    "EOFError", "EncodingWarning", "EnvironmentError", "Exception", "FileExistsError",
    "FileNotFoundError", "FloatingPointError", "FutureWarning", "GeneratorExit", "IOError",
    "ImportError", "ImportWarning", "IndentationError", "IndexError", "InterruptedError",
    "IsADirectoryError", "KeyError", "KeyboardInterrupt", "LookupError", "MemoryError",
    "ModuleNotFoundError", "NameError", "NotADirectoryError", "NotImplementedError", "OSError",
    "OverflowError", "PendingDeprecationWarning", "PermissionError", "ProcessLookupError",
    "RecursionError", "ReferenceError", "ResourceWarning", "RuntimeError", "RuntimeWarning",
    "StopAsyncIteration", "StopIteration", "SyntaxError", "SyntaxWarning", "SystemError",
    "SystemExit", "TabError", "TimeoutError", "TypeError", "UnboundLocalError", "UnicodeError",
    "UnicodeWarning", "UserWarning", "ValueError", "Warning", "ZeroDivisionError"]

def className (name : String) : String :=
  if name = "IOError" || name = "EnvironmentError" then "OSError" else name

/-- The text of an exception that was made from a value: the class for missing keys shows the
value as inside of a list. -/
def textOf (kind : String) (value : Value) : String :=
  if kind = "KeyError" then value.display else value.str

def ofClass (name : String) (value? : Option Value) : Exception :=
  if classes.contains name then
    let kind := className name
    ⟨kind, (value?.map (textOf kind)).getD ""⟩
  else
    undefined name

/-- What becomes of an exception that leaves a program which suspends: the one that ends iterations
may not pass. -/
def leavingSuspendable (raised : Exception) : Exception :=
  if raised.kind = "StopIteration" then hostFailed "coroutine raised StopIteration" else raised

end Exception

end Guest
end HangulConsole
