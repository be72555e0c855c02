import HangulConsole.Calls.Names
import HangulConsole.Calls.Occurrence
import HangulConsole.Text.Lines

/-!
# Marking calls

Every call of a call name is to carry the suspension marker.  Calls that carry
it already are set aside behind a sentinel character that the source does not
hold, the remaining ones are marked, and what was set aside is put back.  This
is a pass over text: a call inside a string literal or a comment counts too.
-/

namespace HangulConsole
namespace Calls

/-! # Setting marked calls aside -/

/-- The private-use characters that may stand for what is set aside, in order of preference. -/
def sentinelCandidates : List Char :=
  (List.range 6400).map fun offset => Char.ofNat (0xe000 + offset)

/-- The first candidate that the source does not hold; U+FFFF when it holds all of them. -/
def pickSentinel (source : List Char) : Char :=
  (sentinelCandidates.find? fun c => !source.contains c).getD (Char.ofNat 0xffff)

def placeHolder (sentinel : Char) (index : Nat) : List Char :=
  sentinel :: Nat.toDigits 10 index ++ [sentinel]

def setAside (sentinel : Char) (name : List Char) (aside : List (List Char)) :
    List Char -> List (List Char) × List Char
  | [] => (aside, [])
  | c :: rest =>
      match _found : markedCallAt? name (c :: rest) with
      | some (call, after) =>
          let (others, out) := setAside sentinel name (aside ++ [call]) after
          (others, placeHolder sentinel aside.length ++ out)
      | none =>
          let (others, out) := setAside sentinel name aside rest
          (others, c :: out)
  termination_by text => text.length
  decreasing_by
    · have := length_lt_of_markedCallAt? _found
      simpa using this
    · simp

def setAsideAll (sentinel : Char) (names : List (List Char)) (source : List Char) :
    List (List Char) × List Char :=
  names.foldl (fun state name => setAside sentinel name state.1 state.2) ([], source)

/-! # Marking the remaining calls -/

/-- Whether a name that follows this character (or the start of the text) stands on its own. -/
def atBoundary (before : Option Char) : Bool :=
  !before.any Text.isIdentifierChar

def markName (name : List Char) (before : Option Char) : List Char -> List Char
  | [] => []
  | c :: rest =>
      match _found : callAt? name (c :: rest) with
      | some (call, after) =>
          (if atBoundary before then marker ++ [' '] else []) ++ call ++
            markName name (some '(') after
      | none => c :: markName name (some c) rest
  termination_by text => text.length
  decreasing_by
    · have := length_lt_of_callAt? _found
      simpa using this
    · simp

def markAll (names : List (List Char)) (text : List Char) : List Char :=
  names.foldl (fun text name => markName name none text) text

/-! # Putting back what was set aside -/

def dropPlus : List Char -> List Char
  | '+' :: rest => rest
  | text => text

/-- The number that a text of decimal digits stands for, with or without a plus sign in front.  No
bound is needed: a number that no place has names nothing. -/
def indexOf? (text : List Char) : Option Nat :=
  let digits := dropPlus text
  if digits.isEmpty || !digits.all Char.isDigit then none
  else some (Nat.ofDigitChars 10 digits 0)

/-- The call that a piece between two sentinels stands for; any other piece stands for itself. -/
def putBackPiece (aside : List (List Char)) (piece : List Char) : List Char :=
  ((indexOf? piece).bind fun index => aside[index]?).getD piece

def putBackPieces (aside : List (List Char)) : Bool -> List (List Char) -> List Char
  | _, [] => []
  | inside, piece :: pieces =>
      (if inside then putBackPiece aside piece else piece) ++ putBackPieces aside (!inside) pieces

def putBack (sentinel : Char) (aside : List (List Char)) (text : List Char) : List Char :=
  if aside.isEmpty then text else putBackPieces aside false (Text.splitAt sentinel text)

/-! # The whole pass -/

def Names.markChars (names : Names) (source : List Char) : List Char :=
  let sentinel := pickSentinel source
  let (aside, code) := setAsideAll sentinel names.names source
  putBack sentinel aside (markAll names.names code)

def Names.mark (names : Names) (source : String) : String :=
  String.ofList (names.markChars source.toList)

end Calls
end HangulConsole
