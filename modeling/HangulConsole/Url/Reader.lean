import HangulConsole.Keywords.Source
import HangulConsole.Url.Basic

/-!
# Reading addresses

An address is read as the users of browsers write it: slashes may lean backwards,
characters that may not stand in a part are encoded, and dots in the path are
followed.
-/

namespace HangulConsole
namespace Url

/-! # Parts of a text -/

def endsServer (c : Char) : Bool :=
  c = '/' || c = '\\' || c = '?' || c = '#'

def upTo (stop : Char -> Bool) (text : List Char) : List Char × List Char :=
  (text.takeWhile fun c => !stop c, text.dropWhile fun c => !stop c)

def cutAtLast? (mark : Char) (text : List Char) : Option (List Char × List Char) :=
  if text.contains mark then
    let behind := (text.reverse.takeWhile (· != mark)).reverse
    some (text.take (text.length - behind.length - 1), behind)
  else none

def userOf (text : List Char) : List Char × List Char :=
  match Text.cutAtFirst (· = ':') text with
  | none => (percentEncode userOthers text, [])
  | some (user, password) => (percentEncode userOthers user, percentEncode userOthers password)

def hostLength (inside : Bool) : List Char -> Nat
  | [] => 0
  | c :: rest =>
      if c = ':' && !inside then 0
      else hostLength (if c = '[' then true else if c = ']' then false else inside) rest + 1

def greatestPort : Nat := 65535

def portOf (secure : Bool) (text : List Char) : Except AddressFault (Option Nat) :=
  if !text.all Char.isDigit then .error .invalidPort
  else
    let port := text.foldl (fun n c => n * 10 + (c.toNat - '0'.toNat)) 0
    if greatestPort < port then .error .invalidPort
    else if text.isEmpty || port = usualPort secure then .ok none
    else .ok (some port)

/-! # The path -/

def isDot (segment : List Char) : Bool :=
  segment = ['.'] || segment.map Char.toLower = ['%', '2', 'e']

def isDoubleDot (segment : List Char) : Bool :=
  (List.range segment.length).any fun length =>
    isDot (segment.take length) && isDot (segment.drop length)

def isDrive : List Char -> Bool
  | [letter, mark] => letter.isAlpha && (mark = ':' || mark = '|')
  | _ => false

def above (path : List (List Char)) : List (List Char) :=
  if path.getLast?.any isDrive then path else path.dropLast

def follow (path : List (List Char)) : List (List Char) -> List (List Char)
  | [] => path
  | segment :: rest =>
      let ending := if rest.isEmpty then [[]] else []
      if isDoubleDot segment then follow (above path ++ ending) rest
      else if isDot segment then follow (path ++ ending) rest
      else follow (path ++ [segment]) rest

def pathOf (text : List Char) : List (List Char) :=
  let straight := text.map fun c => if c = '\\' then '/' else c
  follow [] ((Text.splitAt '/' straight).map (percentEncode pathOthers))

/-! # The whole address -/

/-- A character that is dropped wherever it stands. -/
def isDropped (c : Char) : Bool := c = '\t' || c = '\n' || c = '\r'

def isPadding (c : Char) : Bool := decide (c.toNat ≤ 0x20)

def clean (text : List Char) : List Char :=
  (((text.dropWhile isPadding).reverse.dropWhile isPadding).reverse).filter fun c => !isDropped c

def serverOf (secure : Bool) (text : List Char) :
    Except AddressFault (List Char × List Char × Host × Option Nat) := do
  let (owner, place) := (cutAtLast? '@' text).getD ([], text)
  let (user, password) := userOf owner
  let length := hostLength false place
  if length = 0 then throw .emptyHost
  let host ← Host.parse (place.take length)
  let port? ← portOf secure (place.drop (length + 1))
  return (user, password, host, port?)

def parseAfter (secure : Bool) (text : List Char) : Except AddressFault Url := do
  let (server, rest) := upTo endsServer (text.dropWhile fun c => c = '/' || c = '\\')
  let (user, password, host, port?) ← serverOf secure server
  let (path, rest) := upTo (fun c => c = '?' || c = '#') rest
  let (query, fragment) := upTo (· = '#') rest
  return {
    secure, user, password, host, port?
    path := pathOf (path.drop 1)
    query? := if query.isEmpty then none else some (percentEncode queryOthers (query.drop 1))
    fragment? :=
      if fragment.isEmpty then none else some (percentEncode fragmentOthers (fragment.drop 1)) }

/-- Reads an address that starts with the name of its protocol in small letters. -/
def parse (text : List Char) : Except AddressFault Url :=
  let secure := (protocol true).isPrefixOf text
  parseAfter secure ((clean text).drop (protocol secure).length)

instance : Keywords.AddressReader where
  read text :=
    match parse text.toList with
    | .ok url => .ok ⟨url.text⟩
    | .error fault => .error fault.message

end Url
end HangulConsole
