import HangulConsole.Failure
import HangulConsole.Files.Disk
import HangulConsole.Keywords.Script
import HangulConsole.Settings.Basic
import HangulConsole.Text.Blank
import HangulConsole.Text.Utf8

/-!
# Where the keyword script comes from

The script is the one of the built-in table, the content of a file, or the
answer of a web server.  How the address of a server is read is left open.
-/

namespace HangulConsole
namespace Keywords

structure Address where
  text : String
deriving Repr, DecidableEq

/-- Reads an address in its normal form, or tells why a text is none. -/
class AddressReader where
  read : String -> Except String Address

abbrev AddressReader.none : AddressReader where
  read _ := .error "not an address"

inductive Source where
  | builtin
  | file (path : String)
  | web (address : Address)
deriving Repr, DecidableEq

namespace Source

/-- The source that a text names: the word `builtin` in any case, an address, or else a path. -/
def parse [AddressReader] (text : String) : Except Failure Source :=
  let name := Text.trim text
  if Text.asciiLower name = "builtin" then
    .ok .builtin
  else if name.startsWith "http://" || name.startsWith "https://" then
    match AddressReader.read name with
    | .ok address => .ok (.web address)
    | .error reason => .error (.settings s!"invalid keyword url {name}: {reason}")
  else
    .ok (.file name)

/-! # Loading -/

structure Response where
  /-- The status, from 200 to 299 for success. -/
  status : Nat
  body : List UInt8
deriving Repr, DecidableEq

structure Network (m : Type -> Type) where
  /-- Asks a server for the content of an address. -/
  fetch : Address -> m (Except String Response)

def Network.unreachable {m : Type -> Type} [Monad m] : Network m where
  fetch address := return .error s!"error sending request for url ({address.text})"

/-- The script that an answer carries; an answer without success carries none. -/
def scriptOfAnswer (address : Address) : Except String Response -> Except Failure String
  | .error reason => .error (.fetch address.text reason)
  | .ok response =>
      if 200 ≤ response.status && response.status < 300 then
        .ok (Text.decodeLossy response.body)
      else
        .error (.fetch address.text s!"status {response.status}")

variable {m : Type -> Type} [Monad m]

def load (disk : Files.Disk m) (network : Network m) : Source -> m (Except Failure String)
  | builtin => return .ok builtinScript
  | file path => return (← disk.readText path).mapError .file
  | web address => return scriptOfAnswer address (← network.fetch address)

end Source

end Keywords

namespace Settings

def keywordSource [Keywords.AddressReader] (settings : Settings) :
    Except Failure Keywords.Source :=
  match settings.keywords? with
  | none => .ok .builtin
  | some text => Keywords.Source.parse text

end Settings
end HangulConsole
