import HangulConsole.Json.Number
import HangulConsole.Text.Quoted
import HangulConsole.Text.Utf8

/-!
# Faults of documents

Why a document could not be read, and where.  A fault remembers its place as the
amount of text that was left, and whether the reader had only looked at the next
character.
-/

namespace HangulConsole
namespace Json

inductive Found where
  | null
  | boolean (value : Bool)
  | number (value : Number)
  | text (value : String)
  | sequence
  | map

def Found.message : Found -> String
  | null => "null"
  | boolean value => "boolean `" ++ (if value then "true" else "false") ++ "`"
  | number (.integer value) => "integer `" ++ toString value ++ "`"
  | number (.floating value) => "floating point `" ++ floatText value ++ "`"
  | text value => "string " ++ Text.quote value
  | sequence => "sequence"
  | map => "map"

inductive Reason where
  | endInList
  | endInObject
  | endInString
  | endInValue
  | expectedColon
  | expectedCommaOrEndOfList
  | expectedCommaOrEndOfObject
  | expectedIdent
  | expectedValue
  | invalidEscape
  | invalidNumber
  | numberOutOfRange
  | controlCharacter
  | keyNotString
  | loneSurrogate
  | trailingComma
  | trailingCharacters
  | endOfHexEscape
  | invalidType (found : Found) (wanted : String)
  | unknownVariant (name wanted : String)
  | invalidLength (length : Nat) (wanted : String)
  | missingField (name : String)
  | duplicateField (name : String)

def Reason.message : Reason -> String
  | endInList => "EOF while parsing a list"
  | endInObject => "EOF while parsing an object"
  | endInString => "EOF while parsing a string"
  | endInValue => "EOF while parsing a value"
  | expectedColon => "expected `:`"
  | expectedCommaOrEndOfList => "expected `,` or `]`"
  | expectedCommaOrEndOfObject => "expected `,` or `\x7d`"
  | expectedIdent => "expected ident"
  | expectedValue => "expected value"
  | invalidEscape => "invalid escape"
  | invalidNumber => "invalid number"
  | numberOutOfRange => "number out of range"
  | controlCharacter => "control character (\\u0000-\\u001F) found while parsing a string"
  | keyNotString => "key must be a string"
  | loneSurrogate => "lone leading surrogate in hex escape"
  | trailingComma => "trailing comma"
  | trailingCharacters => "trailing characters"
  | endOfHexEscape => "unexpected end of hex escape"
  | invalidType found wanted => "invalid type: " ++ found.message ++ ", expected " ++ wanted
  | unknownVariant name wanted => "unknown variant `" ++ name ++ "`, expected " ++ wanted
  | invalidLength length wanted =>
      "invalid length " ++ toString length ++ ", expected " ++ wanted
  | missingField name => "missing field `" ++ name ++ "`"
  | duplicateField name => "duplicate field `" ++ name ++ "`"

structure Place where
  left : Nat
  /-- Whether the next byte had been looked at. -/
  looked : Bool
deriving Repr, DecidableEq

/-- A reason, and the place where it arose once that is settled. -/
structure Fault where
  reason : Reason
  /-- Where. -/
  place? : Option Place

def passOver (bytes line column : Nat) : List Char -> Nat × Nat
  | [] => (line, column)
  | c :: rest =>
      if bytes < c.utf8Size then (line, column + bytes)
      else if c = '\n' then passOver (bytes - 1) (line + 1) 0 rest
      else passOver (bytes - c.utf8Size) line (column + c.utf8Size) rest

def lineAndColumn (text : List Char) (place : Place) : Nat × Nat :=
  let passed := Text.byteCount text - place.left
  passOver (if place.looked then min (passed + 1) (Text.byteCount text) else passed) 1 0 text

def Fault.message (text : List Char) (fault : Fault) : String :=
  match fault.place? with
  | none => fault.reason.message
  | some place =>
      let (line, column) := lineAndColumn text place
      fault.reason.message ++ s!" at line {line} column {column}"

end Json
end HangulConsole
