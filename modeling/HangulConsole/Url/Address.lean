import HangulConsole.Text.Lines
import HangulConsole.Url.Percent

/-!
# Numeric addresses

A host can be given as a number: one of 32 bits, in up to four parts divided by
dots, or one of 128 bits, in brackets, in groups divided by colons.
-/

namespace HangulConsole
namespace Url

/-! # Addresses of 32 bits -/

def numeral (part : List Char) : Nat × List Char :=
  match part with
  | '0' :: 'x' :: digits => (16, digits)
  | '0' :: 'X' :: digits => (16, digits)
  | '0' :: digit :: digits => (8, digit :: digits)
  | digits => (10, digits)

def digitsValue? (base : Nat) (digits : List Char) : Option Nat :=
  digits.foldlM (fun value c => do
    let digit ← hexValue? c
    if digit < base then return value * base + digit else none) 0

def partValue? (part : List Char) : Option Nat :=
  if part.isEmpty then none
  else digitsValue? (numeral part).1 (numeral part).2

def dottedParts (host : List Char) : List (List Char) :=
  let parts := Text.splitAt '.' host
  if 1 < parts.length && parts.getLast?.any List.isEmpty then parts.dropLast else parts

/-- Whether a host can only be an address: its last part is a number. -/
def endsInNumber (host : List Char) : Bool :=
  (dottedParts host).getLast?.any fun last =>
    (!last.isEmpty && last.all Char.isDigit) || (partValue? last).isSome

/-- The value of the parts of an address: the last one fills the bytes that the others leave. -/
def partsValue? (values : List Nat) : Option Nat :=
  match values.getLast? with
  | none => none
  | some last =>
      let front := values.dropLast
      if 4 < values.length || front.any (255 < ·) || Nat.pow 256 (4 - front.length) ≤ last then none
      else
        let sum := front.foldl (fun sum byte => sum * 256 + byte) 0
        some (sum * Nat.pow 256 (4 - front.length) + last)

def shortAddress? (host : List Char) : Option Nat := do
  partsValue? (← (dottedParts host).mapM partValue?)

def writeShort (address : Nat) : List Char :=
  Text.joinWith '.' <| [3, 2, 1, 0].map fun place =>
    Nat.toDigits 10 (address / Nat.pow 256 place % 256)

/-! # Addresses of 128 bits -/

def byteValue? (digits : List Char) : Option Nat :=
  if digits.isEmpty || (digits.length != 1 && digits.head? == some '0') then none
  else (digitsValue? 10 digits).filter (· < 256)

def embedded? (field : List Char) : Option (List Nat) := do
  match ← (Text.splitAt '.' field).mapM byteValue? with
  | [a, b, c, d] => return [a * 256 + b, c * 256 + d]
  | _ => none

def groupValue? (digits : List Char) : Option Nat :=
  if digits.isEmpty || 4 < digits.length then none else digitsValue? 16 digits

/-- The groups of the fields of an address; the last field may be four decimal bytes if `last`. -/
def groups? (last : Bool) : List (List Char) -> Option (List Nat)
  | [] => some []
  | [field] =>
      if last && field.contains '.' then embedded? field else (groupValue? field).map ([·])
  | field :: fields => do return (← groupValue? field) :: (← groups? last fields)

def groupsOf? (last : Bool) (text : List Char) : Option (List Nat) :=
  if text.isEmpty then some [] else groups? last (Text.splitAt ':' text)

def cutAtColons : List Char -> Option (List Char × List Char)
  | ':' :: ':' :: rest => some ([], rest)
  | c :: rest => (cutAtColons rest).map fun cut => (c :: cut.1, cut.2)
  | [] => none

/-- The eight groups of an address; a pair of colons stands for at least one group of zeros. -/
def longAddress? (text : List Char) : Option (List Nat) :=
  match cutAtColons text with
  | none => (groupsOf? true text).filter fun groups => groups.length = 8
  | some (front, back) => do
      let front ← groupsOf? false front
      let back ← groupsOf? true back
      let known := front.length + back.length
      if 8 ≤ known then none
      else return front ++ List.replicate (8 - known) 0 ++ back

def longestZeros (groups : List Nat) : Nat × Nat :=
  (List.range groups.length).foldl
    (fun best start =>
      let length := ((groups.drop start).takeWhile (· = 0)).length
      if best.2 < length then (start, length) else best)
    (0, 0)

def writeGroups (groups : List Nat) : List Char :=
  Text.joinWith ':' (groups.map Text.hexDigits)

/-- An address of 128 bits; the first longest run of two or more groups of zeros becomes a pair of
colons. -/
def writeLong (groups : List Nat) : List Char :=
  let (start, length) := longestZeros groups
  if length < 2 then writeGroups groups
  else writeGroups (groups.take start) ++ [':', ':'] ++ writeGroups (groups.drop (start + length))

end Url
end HangulConsole
