import HangulConsole.Text.Quoted

/-!
# Guest values

The values that a guest program computes with, how they are shown to the user and
how they are shown inside of lists.
-/

namespace HangulConsole
namespace Guest

inductive Value where
  | none
  /-- A truth value; in sums it counts as a number. -/
  | bool (value : Bool)
  | int (value : Int)
  | text (value : String)
  | list (items : List Value)
  /-- The function that a name was bound to. -/
  | function (name : String)
deriving Repr, Inhabited, BEq

namespace Value

def kind : Value -> String
  | none => "NoneType"
  | bool _ => "bool"
  | int _ => "int"
  | text _ => "str"
  | list _ => "list"
  | function _ => "function"

/-! # Showing values -/

/-- The quote around a text: the single one, unless the text holds that one and not the other. -/
def quoteMark (text : List Char) : Char :=
  if text.contains '\'' && !text.contains '"' then '"' else '\''

def quotedChar (mark c : Char) : List Char :=
  if c = mark || c = '\\' then ['\\', c]
  else if c = '\n' then ['\\', 'n']
  else if c = '\r' then ['\\', 'r']
  else if c = '\t' then ['\\', 't']
  else if Text.isPrintable c then [c]
  else if c.toNat < 0x100 then '\\' :: 'x' :: Text.hexPadded 2 c.toNat
  else if c.toNat < 0x10000 then '\\' :: 'u' :: Text.hexPadded 4 c.toNat
  else '\\' :: 'U' :: Text.hexPadded 8 c.toNat

def quoted (text : String) : String :=
  let mark := quoteMark text.toList
  String.ofList (mark :: text.toList.flatMap (quotedChar mark) ++ [mark])

mutual

def display : Value -> String
  | none => "None"
  | bool true => "True"
  | bool false => "False"
  | int value => toString value
  | text value => quoted value
  | list items => "[" ++ displayAll items ++ "]"
  | function name => "<function " ++ name ++ ">"

def displayAll : List Value -> String
  | [] => ""
  | [item] => display item
  | item :: rest => display item ++ ", " ++ displayAll rest

end

/-- A value as it is shown to the user: a text as it is, any other value as inside of a list. -/
def str : Value -> String
  | text value => value
  | value => display value

def text? : Value -> Option String
  | text value => some value
  | _ => Option.none

/-! # Sums -/

def number? : Value -> Option Int
  | bool true => some 1
  | bool false => some 0
  | int value => some value
  | _ => Option.none

def add (left right : Value) : Except String Value :=
  match left, right with
  | text a, text b => .ok (.text (a ++ b))
  | list a, list b => .ok (.list (a ++ b))
  | text _, other => .error s!"can only concatenate str (not \"{other.kind}\") to str"
  | list _, other => .error s!"can only concatenate list (not \"{other.kind}\") to list"
  | left, right =>
      match left.number?, right.number? with
      | some a, some b => .ok (.int (a + b))
      | _, _ => .error s!"unsupported operand type(s) for +: '{left.kind}' and '{right.kind}'"

end Value

end Guest
end HangulConsole
