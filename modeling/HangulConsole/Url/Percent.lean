import HangulConsole.Text.Quoted
import HangulConsole.Text.Utf8

/-!
# Percent encoding

A character that may not stand in a part of an address is written as its bytes,
each after a percent sign.  Which characters these are depends on the part.
-/

namespace HangulConsole
namespace Url

def isAlwaysEncoded (c : Char) : Bool :=
  c.toNat < 0x20 || 0x7f ≤ c.toNat

def encodeByte (byte : UInt8) : List Char :=
  '%' :: (Text.hexPadded 2 byte.toNat).map Char.toUpper

def encodeChar (others : List Char) (c : Char) : List Char :=
  if isAlwaysEncoded c || others.contains c then
    (Text.encode (String.singleton c)).flatMap encodeByte
  else [c]

def percentEncode (others text : List Char) : List Char :=
  text.flatMap (encodeChar others)

def fragmentOthers : List Char := [' ', '"', '<', '>', '\x60']

def pathOthers : List Char := fragmentOthers ++ ['#', '?', '\x7b', '\x7d']

def queryOthers : List Char := [' ', '"', '<', '>', '#', '\'']

def userOthers : List Char := pathOthers ++ ['/', ':', ';', '=', '@', '[', '\\', ']', '^', '|']

def hexValue? (c : Char) : Option Nat :=
  if c.isDigit then some (c.toNat - '0'.toNat)
  else if 'a' ≤ c && c ≤ 'f' then some (c.toNat - 'a'.toNat + 10)
  else if 'A' ≤ c && c ≤ 'F' then some (c.toNat - 'A'.toNat + 10)
  else none

/-- The bytes that a text stands for; a percent sign without two hexadecimal digits is itself. -/
def percentDecode : List Char -> List UInt8
  | [] => []
  | '%' :: high :: low :: rest =>
      match hexValue? high, hexValue? low with
      | some h, some l => UInt8.ofNat (h * 16 + l) :: percentDecode rest
      | _, _ => Text.encode "%" ++ percentDecode (high :: low :: rest)
  | c :: rest => Text.encode (String.singleton c) ++ percentDecode rest

end Url
end HangulConsole
