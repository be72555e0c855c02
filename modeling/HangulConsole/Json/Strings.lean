import HangulConsole.Json.Reader

/-!
# Words and strings of documents

Strings are read with their escapes, or passed over with fewer checks when
nobody wants them.
-/

namespace HangulConsole
namespace Json
namespace Reader

def word : List Char -> Reader Unit
  | [] => return ()
  | expected :: more => do
      match ← next? with
      | none => fail .endInValue
      | some c => if c = expected then word more else fail .expectedIdent

def hexValue? (c : Char) : Option Nat :=
  if c.isDigit then some (c.toNat - '0'.toNat)
  else if 'a' ≤ c && c ≤ 'f' then some (c.toNat - 'a'.toNat + 10)
  else if 'A' ≤ c && c ≤ 'F' then some (c.toNat - 'A'.toNat + 10)
  else none

def hexNumber? (a b c d : Char) : Option Nat := do
  return ((← hexValue? a) * 16 + (← hexValue? b)) * 256 + (← hexValue? c) * 16 + (← hexValue? d)

def hexStart? : List Char -> Option (Nat × List Char)
  | a :: b :: c :: d :: rest => (hexNumber? a b c d).map fun n => (n, rest)
  | _ => none

def hexUnit : Reader Nat := do
  let rest ← get
  match hexStart? rest with
  | some (n, after) =>
      set after
      return n
  | none =>
      if 4 ≤ Text.byteCount rest then
        throw ⟨.invalidEscape, some ⟨Text.byteCount rest - 4, false⟩⟩
      else
        set ([] : List Char)
        fail .endInString

def peekInString : Reader Char := do
  match ← peek? with
  | some c => return c
  | none => fail .endInString

/-- Reads what follows the letter of a code unit escape: one unit, or two units that make up one
character. -/
def unicodeEscape : Reader Char := do
  let first ← hexUnit
  if 0xdc00 ≤ first && first ≤ 0xdfff then
    fail .loneSurrogate
  else if first < 0xd800 || 0xdbff < first then
    return Char.ofNat first
  else
    if (← peekInString) != '\\' then
      skip
      fail .endOfHexEscape
    skip
    if (← peekInString) != 'u' then
      skip
      fail .endOfHexEscape
    skip
    let second ← hexUnit
    if second < 0xdc00 || 0xdfff < second then
      fail .loneSurrogate
    return Char.ofNat ((first - 0xd800) * 1024 + (second - 0xdc00) + 0x10000)

def simpleEscape? (c : Char) : Option Char :=
  match c with
  | '"' => some '"'
  | '\\' => some '\\'
  | '/' => some '/'
  | 'b' => some '\x08'
  | 'f' => some '\x0c'
  | 'n' => some '\n'
  | 'r' => some '\r'
  | 't' => some '\t'
  | _ => none

def escape : Reader Char := do
  match ← next? with
  | none => fail .endInString
  | some 'u' => unicodeEscape
  | some c =>
      match simpleEscape? c with
      | some meant => return meant
      | none => fail .invalidEscape

def stringLoop : Nat -> List Char -> Reader (List Char)
  | 0, _ => fail .endInString
  | fuel + 1, reversed => do
      match ← next? with
      | none => fail .endInString
      | some '"' => return reversed.reverse
      | some '\\' => stringLoop fuel ((← escape) :: reversed)
      | some c =>
          if c.toNat < 32 then fail .controlCharacter
          else stringLoop fuel (c :: reversed)

def string : Reader String := do
  let fuel := (← get).length + 1
  return String.ofList (← stringLoop fuel [])

def skipStringLoop : Nat -> Reader Unit
  | 0 => fail .endInString
  | fuel + 1 => do
      match ← peek? with
      | none => fail .endInString
      | some '"' => skip
      | some '\\' =>
          skip
          match ← next? with
          | none => fail .endInString
          | some 'u' =>
              let _ ← hexUnit
              skipStringLoop fuel
          | some c =>
              if (simpleEscape? c).isSome then skipStringLoop fuel else fail .invalidEscape
      | some c =>
          if c.toNat < 32 then fail .controlCharacter
          else
            skip
            skipStringLoop fuel

def skipString : Reader Unit := do
  skipStringLoop ((← get).length + 1)

end Reader
end Json
end HangulConsole
