import HangulConsole.Text.Blank
import HangulConsole.Text.Lines

/-!
# Terminal commands

A line whose first word begins with a colon is a command; any other line is a
line of the program.
-/

namespace HangulConsole

inductive Command where
  | run
  | startAfresh
  | insertHelp
  | insertExample
  | clearScreen
  /-- Saves the program, under a suggested name if the name is empty. -/
  | save (name : String)
  | load (path : String)
  | list
  | quit
  /-- Shows what the commands are, for want of a known one. -/
  | explain
  /-- Puts a line at the end of the program. -/
  | append (line : String)
deriving Repr, DecidableEq

namespace Command

def summary : String :=
  "commands: :run :new :help :example :clear :save [name] :load <path> :show :quit"

/-- The first word of a line, and the text behind it; both without blanks around them. -/
def split (line : String) : String × String :=
  let trimmed := Text.trimChars line.toList
  match Text.cutAtFirst Text.isBlank trimmed with
  | none => (String.ofList trimmed, "")
  | some (word, rest) => (String.ofList word, String.ofList (Text.trimChars rest))

def ofWord? (word argument : String) : Option Command :=
  match word with
  | ":run" => some .run
  | ":new" => some .startAfresh
  | ":help" => some .insertHelp
  | ":example" => some .insertExample
  | ":clear" => some .clearScreen
  | ":save" => some (.save argument)
  | ":load" => some (.load argument)
  | ":show" => some .list
  | ":quit" => some .quit
  | _ => none

def ofLine (line : String) : Command :=
  let (word, argument) := split line
  match ofWord? word argument with
  | some command => command
  | none => if word.toList.head? = some ':' then .explain else .append line

end Command

end HangulConsole
