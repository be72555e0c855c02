import HangulConsole.Domain.Composition
import HangulConsole.Domain.Direction
import HangulConsole.Domain.Mapping
import HangulConsole.Domain.Punycode
import HangulConsole.Text.Lines

/-!
# Domain names

A domain name is mapped, composed, and cut into labels at its dots.  Every label
is checked and then written in ASCII; labels may be empty and have any length up
to a generous limit.
-/

namespace HangulConsole
namespace Domain

def asciiMarker : List Char := ['x', 'n', '-', '-']

def longestRead : Nat := 2000

def longestWritten : Nat := 1000

def isAsciiLabel (label : List Char) : Bool := label.all isAscii

/-- Whether a label with characters outside ASCII may stand in a name: it does not start with a
mark, and its joiners stand where they may. -/
def isSoundLabel (label : List Char) : Bool :=
  !label.head?.any isMark && joinersAllowed [] label

/-- Whether a label read from its ASCII form is one that would have been written so. -/
def isWrittenLabel (label : List Char) : Bool :=
  !isAsciiLabel label && label.all isKept && compose label == label && isSoundLabel label

def meaning? (label : List Char) : Option (List Char) :=
  if label.take asciiMarker.length = asciiMarker then
    let written := label.drop asciiMarker.length
    if longestRead < written.length then none
    else (ofPunycode? written).filter isWrittenLabel
  else if isAsciiLabel label || isSoundLabel label then
    some label
  else
    none

def asciiLabel? (label : List Char) : Option (List Char) :=
  if isAsciiLabel label then some label
  else if longestWritten < label.length then none
  else some (asciiMarker ++ toPunycode label)

def labels? (name : List Char) : Option (List (List Char)) := do
  let mapped ← mapChars? name
  let labels ← (Text.splitAt '.' (compose mapped)).mapM meaning?
  if labels.any mixesDirections && !labels.all keepsDirection then none
  else return labels

def toAscii? (name : List Char) : Option (List Char) := do
  let labels ← labels? name
  return Text.joinWith '.' (← labels.mapM asciiLabel?)

end Domain
end HangulConsole
