import HangulConsole.Calls.Occurrence
import HangulConsole.EntryPoint
import HangulConsole.Guest.Exception
import HangulConsole.Script.Syntax
import HangulConsole.Text.Alphanumeric
import HangulConsole.Text.Lines
import HangulConsole.Url.Percent

/-!
# Reading scripts

A script is read line by line: each line is cut into words, and the words are put
together to a statement.
-/

namespace HangulConsole
namespace Script

/-! # Words -/

inductive Word where
  | name (name : String)
  | text (value : String)
  | int (value : Nat)
  | mark (c : Char)
deriving Repr, DecidableEq

def charOf? (digits : List Char) : Option Char := do
  let code ← digits.foldlM (fun n c => do return n * 16 + (← Url.hexValue? c)) 0
  if code < 0xd800 || (0xdfff < code && code < 0x110000) then return Char.ofNat code
  else none

def simpleEscape? (c : Char) : Option Char :=
  match c with
  | '\\' => some '\\'
  | '\'' => some '\''
  | '"' => some '"'
  | 'n' => some '\n'
  | 't' => some '\t'
  | 'r' => some '\r'
  | 'a' => some '\x07'
  | 'b' => some '\x08'
  | 'f' => some '\x0c'
  | 'v' => some '\x0b'
  | '0' => some '\x00'
  | _ => none

def escapeDigits? (c : Char) : Option Nat :=
  match c with
  | 'x' => some 2
  | 'u' => some 4
  | 'U' => some 8
  | _ => none

def readText? (quote : Char) : List Char -> Option (List Char × List Char)
  | [] => none
  | '\\' :: c :: rest =>
      match simpleEscape? c, escapeDigits? c with
      | some meant, _ => (readText? quote rest).map fun read => (meant :: read.1, read.2)
      | none, some count => do
          let meant ← charOf? (rest.take count)
          if rest.length < count then none
          else
            let read ← readText? quote (rest.drop count)
            return (meant :: read.1, read.2)
      | none, none => (readText? quote rest).map fun read => ('\\' :: c :: read.1, read.2)
  | c :: rest =>
      if c = quote then some ([], rest)
      else (readText? quote rest).map fun read => (c :: read.1, read.2)
  termination_by text => text.length
  decreasing_by all_goals simp only [List.length_cons, List.length_drop]; omega

def decimal (digits : List Char) : Nat :=
  digits.foldl (fun n c => n * 10 + (c.toNat - '0'.toNat)) 0

def marks : List Char := ['(', ')', ',', '=', '.']

def words? : Nat -> List Char -> Option (List Word)
  | 0, _ => some []
  | _, [] => some []
  | fuel + 1, c :: rest =>
      if c = ' ' || c = '\t' then words? fuel rest
      else if c = '#' then some []
      else if c = '"' || c = '\'' then do
        let (value, rest) ← readText? c rest
        return .text (String.ofList value) :: (← words? fuel rest)
      else if c.isDigit then do
        let digits := (c :: rest).takeWhile Char.isDigit
        return .int (decimal digits) :: (← words? fuel ((c :: rest).dropWhile Char.isDigit))
      else if Text.isIdentifierChar c then do
        let name := (c :: rest).takeWhile Text.isIdentifierChar
        let rest := (c :: rest).dropWhile Text.isIdentifierChar
        return .name (String.ofList name) :: (← words? fuel rest)
      else if marks.contains c then do
        return .mark c :: (← words? fuel rest)
      else none

/-! # Statements -/

mutual

def expression? : Nat -> List Word -> Option (Expression × List Word)
  | 0, _ => none
  | _ + 1, .text value :: rest => some (.text value, rest)
  | _ + 1, .int value :: rest => some (.int value, rest)
  | fuel + 1, .name "await" :: .name function :: .mark '(' :: rest =>
      call? fuel true function rest
  | fuel + 1, .name function :: .mark '(' :: rest => call? fuel false function rest
  | _ + 1, .name name :: rest => some (.name name, rest)
  | _ + 1, _ => none

def call? : Nat -> Bool -> String -> List Word -> Option (Expression × List Word)
  | 0, _, _, _ => none
  | fuel + 1, awaited, function, words => do
      let (arguments, ending?, rest) ← arguments? fuel words
      return (.call awaited function arguments ending?, rest)

def arguments? : Nat -> List Word -> Option (List Expression × Option String × List Word)
  | 0, _ => none
  | _ + 1, .mark ')' :: rest => some ([], none, rest)
  | _ + 1, .name "end" :: .mark '=' :: .text ending :: .mark ')' :: rest =>
      some ([], some ending, rest)
  | fuel + 1, words => do
      let (argument, rest) ← expression? fuel words
      match rest with
      | .mark ')' :: rest => return ([argument], none, rest)
      | .mark ',' :: rest =>
          let (arguments, ending?, rest) ← arguments? fuel rest
          return (argument :: arguments, ending?, rest)
      | _ => none

end

def wholeExpression? (words : List Word) : Option Expression :=
  match expression? (2 * words.length + 2) words with
  | some (expression, []) => some expression
  | _ => none

def statement? (line : List Char) : Option (Option Statement) := do
  match ← words? (line.length + 1) line with
  | [] => return none
  | [.name "pass"] => return none
  | .name "raise" :: rest => return some (.raise (← wholeExpression? rest))
  | .name name :: .mark '=' :: rest => return some (.assign name (← wholeExpression? rest))
  | words => return some (.evaluate (← wholeExpression? words))

/-! # Lines -/

def isMargin (c : Char) : Bool := c = ' ' || c = '\t'

def depth (line : List Char) : Nat :=
  (line.takeWhile isMargin).length

def isVacant (line : List Char) : Bool :=
  (line.dropWhile isMargin).head?.all (· = '#')

def depthFault? (level? : Option Nat) (depth : Nat) : Option String :=
  level?.bind fun level =>
    if level < depth then some "unexpected indent"
    else if depth < level then some "unindent does not match any outer indentation level"
    else none

/-- Reads the lines of a program, the first of which has a number.  The statements stand at
`level?`, or all of them wherever the first one stands. -/
def statements (number : Nat) (level? : Option Nat) :
    List (List Char) -> Except Guest.Exception Program
  | [] => .ok []
  | line :: rest =>
      let line := Text.dropReturn line
      if isVacant line then statements (number + 1) level? rest
      else
        match depthFault? level? (depth line), statement? line with
        | some reason, _ => .error (.misplaced reason number)
        | none, none => .error (.malformed "invalid syntax" number)
        | none, some statement? =>
            (statements (number + 1) (some (depth line)) rest).map fun program =>
              statement?.toList ++ program

/-! # Whole scripts -/

inductive Shape where
  /-- The statements stand at the top. -/
  | top (program : Program)
  /-- The statements stand in an entry point, whose names are its own until it ends. -/
  | entry (program : Program)
deriving Repr

def entryStart? (script : List Char) : Option (List Char × List Char) := do
  let rest ← Calls.dropStart? "async def ".toList script
  let name := rest.takeWhile (· != '(')
  let second ← Calls.dropStart? "():\n".toList (rest.drop name.length)
  let line := second.takeWhile (· != '\n')
  let indent ← EntryPoint.dropEnding? "try:".toList line
  return (name, indent)

def entryProgram? (script : List Char) : Option (List Char) := do
  let (name, indent) ← entryStart? script
  EntryPoint.unwrap? script name indent

def read (script : String) : Except Guest.Exception Shape :=
  match entryProgram? script.toList with
  | some program =>
      (statements 3 none (Text.splitAt '\n' program ++ [EntryPoint.filler])).map .entry
  | none => (statements 1 (some 0) (Text.splitAt '\n' script.toList)).map .top

end Script
end HangulConsole
