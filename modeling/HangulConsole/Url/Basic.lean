import HangulConsole.Domain.Name
import HangulConsole.Url.Address

/-!
# Addresses of scripts

The address of a script on a web server, part by part, in its normal form, and
how it is written.
-/

namespace HangulConsole
namespace Url

inductive AddressFault where
  | emptyHost
  | invalidDomain
  | invalidShortAddress
  | invalidLongAddress
  | invalidPort
deriving Repr, DecidableEq

def AddressFault.message : AddressFault -> String
  | emptyHost => "empty host"
  | invalidDomain => "invalid international domain name"
  | invalidShortAddress => "invalid IPv4 address"
  | invalidLongAddress => "invalid IPv6 address"
  | invalidPort => "invalid port number"

inductive Host where
  /-- A domain name in ASCII form. -/
  | domain (name : List Char)
  | short (address : Nat)
  /-- An address of 128 bits, in eight groups. -/
  | long (groups : List Nat)
deriving Repr, DecidableEq

def Host.write : Host -> List Char
  | domain name => name
  | short address => writeShort address
  | long groups => '[' :: writeLong groups ++ [']']

def isForbiddenInDomain (c : Char) : Bool :=
  c.toNat ≤ 0x20 || c.toNat = 0x7f ||
    ['%', '#', '/', ':', '<', '>', '?', '@', '[', '\\', ']', '^', '|'].contains c

def Host.parse (text : List Char) : Except AddressFault Host :=
  match text with
  | '[' :: inner =>
      if inner.getLast? = some ']' then
        match longAddress? inner.dropLast with
        | some groups => .ok (.long groups)
        | none => .error .invalidLongAddress
      else .error .invalidLongAddress
  | _ =>
      match Domain.toAscii? (Text.decodeLossyChars (percentDecode text)) with
      | none => .error .invalidDomain
      | some name =>
          if name.any isForbiddenInDomain then .error .invalidDomain
          else if name.isEmpty then .error .emptyHost
          else if endsInNumber name then
            match shortAddress? name with
            | some address => .ok (.short address)
            | none => .error .invalidShortAddress
          else .ok (.domain name)

end Url

structure Url where
  secure : Bool
  user : List Char
  password : List Char
  host : Url.Host
  port? : Option Nat
  path : List (List Char)
  query? : Option (List Char)
  fragment? : Option (List Char)
deriving Repr, DecidableEq

namespace Url

def protocol (secure : Bool) : List Char :=
  if secure then ['h', 't', 't', 'p', 's', ':', '/', '/'] else ['h', 't', 't', 'p', ':', '/', '/']

def usualPort (secure : Bool) : Nat := if secure then 443 else 80

def writeUser (user password : List Char) : List Char :=
  if user.isEmpty && password.isEmpty then []
  else user ++ (if password.isEmpty then [] else ':' :: password) ++ ['@']

def write (url : Url) : List Char :=
  protocol url.secure ++ writeUser url.user url.password ++ url.host.write ++
    (url.port?.elim [] fun port => ':' :: Nat.toDigits 10 port) ++
    url.path.flatMap ('/' :: ·) ++
    (url.query?.elim [] ('?' :: ·)) ++
    (url.fragment?.elim [] ('#' :: ·))

def text (url : Url) : String := String.ofList url.write

end Url
end HangulConsole
