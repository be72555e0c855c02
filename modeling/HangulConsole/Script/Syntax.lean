/-!
# Scripts

The small language of the console's programs: output, questions, names, and
exceptions.  One statement stands on each line.
-/

namespace HangulConsole
namespace Script

inductive Expression where
  | text (value : String)
  | int (value : Int)
  | name (name : String)
  /-- A call of the function of a name, awaited or not; `ending?` is what output ends with if the
  call says so. -/
  | call (awaited : Bool) (function : String) (arguments : List Expression)
      (ending? : Option String)
deriving Repr, Inhabited

inductive Statement where
  /-- Gives a name the value of an expression. -/
  | assign (name : String) (value : Expression)
  /-- Raises the exception that an expression stands for. -/
  | raise (exception : Expression)
  | evaluate (expression : Expression)
deriving Repr, Inhabited

abbrev Program := List Statement

mutual

def Expression.suspends : Expression -> Bool
  | .call awaited _ arguments _ => awaited || anySuspends arguments
  | _ => false

def anySuspends : List Expression -> Bool
  | [] => false
  | expression :: rest => expression.suspends || anySuspends rest

end

def Statement.suspends : Statement -> Bool
  | assign _ value => value.suspends
  | raise exception => exception.suspends
  | evaluate expression => expression.suspends

def assignedNames (program : Program) : List String :=
  program.filterMap fun statement =>
    match statement with
    | .assign name _ => some name
    | _ => none

end Script
end HangulConsole
