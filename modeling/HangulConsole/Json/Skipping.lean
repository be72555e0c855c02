import HangulConsole.Json.Numerals
import HangulConsole.Json.Strings

/-!
# Passing over values

A value that nobody wants is passed over whatever its kind is, and however deep
it goes.
-/

namespace HangulConsole
namespace Json
namespace Reader

inductive Frame where
  | list
  | object
deriving DecidableEq

def Frame.atEnd : Frame -> Reason
  | list => .endInList
  | object => .endInObject

def Frame.unfinished : Frame -> Reason
  | list => .expectedCommaOrEndOfList
  | object => .expectedCommaOrEndOfObject

def Frame.closing : Frame -> Char
  | list => ']'
  | object => '\x7d'

def skipKey : Reader Unit := do
  match ← peekPart? with
  | some '"' => skip
  | some _ => failNext .keyNotString
  | none => failNext .endInObject
  skipString
  match ← peekPart? with
  | some ':' => skip
  | some _ => failNext .expectedColon
  | none => failNext .endInObject

def skipScalar : Reader (Option Frame) := do
  match ← peekPart? with
  | none => failNext .endInValue
  | some 'n' => skip; word ['u', 'l', 'l']; return none
  | some 't' => skip; word ['r', 'u', 'e']; return none
  | some 'f' => skip; word ['a', 'l', 's', 'e']; return none
  | some '-' => skip; skipNumber; return none
  | some '"' => skip; skipString; return none
  | some '[' => skip; return some .list
  | some '\x7b' => skip; return some .object
  | some c => if c.isDigit then skipNumber; return none else failNext .expectedValue

/-- Passes over a value, or over what follows one inside the frames that are still open, the
innermost first.  `opened` says that the innermost frame was only just opened. -/
def skipFrames : Nat -> (atValue opened : Bool) -> List Frame -> Reader Unit
  | 0, _, _, _ => return ()
  | fuel + 1, true, _, frames => do
      match ← skipScalar with
      | none => skipFrames fuel false false frames
      | some frame => skipFrames fuel false true (frame :: frames)
  | _ + 1, false, _, [] => return ()
  | fuel + 1, false, opened, frame :: frames => do
      match ← peekPart? with
      | none => failNext frame.atEnd
      | some c =>
          if c = frame.closing then
            skip
            skipFrames fuel false false frames
          else if c = ',' && !opened then
            skip
            continueFrame fuel frame frames
          else if opened then
            continueFrame fuel frame frames
          else
            failNext frame.unfinished
where
  /-- Passes over the next value of a frame. -/
  continueFrame (fuel : Nat) (frame : Frame) (frames : List Frame) : Reader Unit := do
    if frame = .object then skipKey
    skipFrames fuel true false (frame :: frames)

def skipValue : Reader Unit := do
  skipFrames (2 * (← get).length + 3) true false []

end Reader
end Json
end HangulConsole
