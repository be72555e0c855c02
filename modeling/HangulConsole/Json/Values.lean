import HangulConsole.Json.Skipping

/-!
# Values of a wanted kind

Readers of texts, lists, records and choices.  A value of another kind is
rejected with what was found and what was wanted.
-/

namespace HangulConsole
namespace Json
namespace Reader

def rejectValue {α : Type} (wanted : String) : Reader α := settle do
  match ← peek? with
  | some 'n' => skip; word ['u', 'l', 'l']; reject (.invalidType .null wanted)
  | some 't' => skip; word ['r', 'u', 'e']; reject (.invalidType (.boolean true) wanted)
  | some 'f' => skip; word ['a', 'l', 's', 'e']; reject (.invalidType (.boolean false) wanted)
  | some '-' => skip; reject (.invalidType (.number (← number true)) wanted)
  | some '"' => skip; reject (.invalidType (.text (← string)) wanted)
  | some '[' => reject (.invalidType .sequence wanted)
  | some '\x7b' => reject (.invalidType .map wanted)
  | some c =>
      if c.isDigit then reject (.invalidType (.number (← number false)) wanted)
      else failNext .expectedValue
  | none => failNext .expectedValue

def stringValue {α : Type} (wanted : String) (take : String -> Reader α) : Reader α := settle do
  match ← peekPart? with
  | none => failNext .endInValue
  | some '"' =>
      skip
      take (← string)
  | some _ => rejectValue wanted

def text : Reader String := stringValue "a string" pure

def nothing : Reader Unit := settle do
  match ← peekPart? with
  | none => failNext .endInValue
  | some 'n' => skip; word ['u', 'l', 'l']
  | some _ => rejectValue "unit"

def optional {α : Type} (value : Reader α) : Reader (Option α) := do
  match ← peekPart? with
  | some 'n' =>
      skip
      word ['u', 'l', 'l']
      return none
  | _ => return some (← value)

def colon : Reader Unit := do
  match ← peekPart? with
  | some ':' => skip
  | some _ => failNext .expectedColon
  | none => failNext .endInObject

def afterColon {α : Type} (value : Reader α) : Reader α := do
  colon
  value

def hasElement (first : Bool) : Reader Bool := do
  match ← peekPart? with
  | some ']' => return false
  | none => failNext .endInList
  | some ',' =>
      if first then return true
      skip
      match ← peekPart? with
      | some ']' => failNext .trailingComma
      | some _ => return true
      | none => failNext .endInValue
  | some _ => if first then return true else failNext .expectedCommaOrEndOfList

def endOfList : Reader Unit := do
  match ← peekPart? with
  | some ']' => skip
  | some ',' =>
      skip
      match ← peekPart? with
      | some ']' => failNext .trailingComma
      | _ => failNext .trailingCharacters
  | some _ => failNext .trailingCharacters
  | none => failNext .endInList

def hasMember (first : Bool) : Reader Bool := do
  match ← peekPart? with
  | some '\x7d' => return false
  | none => failNext .endInObject
  | some c =>
      if first then atKey (some c)
      else if c = ',' then
        skip
        atKey (← peekPart?)
      else failNext .expectedCommaOrEndOfObject
where
  /-- Whether a key starts here. -/
  atKey : Option Char -> Reader Bool
    | some '"' => return true
    | some '\x7d' => failNext .trailingComma
    | some _ => failNext .keyNotString
    | none => failNext .endInValue

def endOfObject : Reader Unit := do
  match ← peekPart? with
  | some '\x7d' => skip
  | some ',' => failNext .trailingComma
  | some _ => failNext .trailingCharacters
  | none => failNext .endInObject

def elementsLoop {α : Type} (element : Reader α) : Nat -> Bool -> List α -> Reader (List α)
  | 0, _, reversed => return reversed.reverse
  | fuel + 1, first, reversed => do
      if ← hasElement first then
        elementsLoop element fuel false ((← element) :: reversed)
      else
        return reversed.reverse

def list {α : Type} (element : Reader α) : Reader (List α) := settle do
  match ← peekPart? with
  | none => failNext .endInValue
  | some '[' =>
      skip
      let fuel := (← get).length + 1
      enclosed (elementsLoop element fuel true []) endOfList
  | some _ => rejectValue "a sequence"

/-- Reads the members of an object, one after another; `member` is given the key and reads on from
behind it. -/
def membersLoop {σ : Type} (member : String -> σ -> Reader σ) : Nat -> Bool -> σ -> Reader σ
  | 0, _, state => return state
  | fuel + 1, first, state => do
      if ← hasMember first then
        skip
        let key ← string
        membersLoop member fuel false (← member key state)
      else
        return state

/-- Reads a record: an object with named members, or a list of the members in order. -/
def record {α : Type} (wanted : String) (ofList ofObject : Reader α) : Reader α := settle do
  match ← peekPart? with
  | none => failNext .endInValue
  | some '[' =>
      skip
      enclosed ofList endOfList
  | some '\x7b' =>
      skip
      enclosed ofObject endOfObject
  | some _ => rejectValue wanted

def members {σ : Type} (member : String -> σ -> Reader σ) (state : σ) : Reader σ := do
  membersLoop member ((← get).length + 1) true state

/-- Reads a choice among names without content: the name alone, or an object with the name as its
only key and `null` as its value. -/
def choice {α : Type} (name : Reader α) : Reader α := do
  match ← peekPart? with
  | some '\x7b' =>
      skip
      let value ← name
      afterColon nothing
      match ← peekPart? with
      | some '\x7d' =>
          skip
          return value
      | some _ => fail .expectedValue
      | none => fail .endInObject
  | some '"' => name
  | some _ => failNext .expectedValue
  | none => failNext .endInValue

end Reader

def readWhole {α : Type} (reader : Reader α) (text : List Char) : Except Fault α :=
  let whole : Reader α := do
    let value ← reader
    match ← Reader.peekPart? with
    | none => return value
    | some _ => Reader.failNext .trailingCharacters
  (whole text).1

end Json
end HangulConsole
