import HangulConsole.Files.Fault
import HangulConsole.Text.Utf8

/-!
# Reading and writing files

What the console asks of a file system, whatever stands behind it.
-/

namespace HangulConsole
namespace Files

structure Disk (m : Type -> Type) where
  read : String -> m (Except Fault (List UInt8))
  write : String -> List UInt8 -> m (Except Fault Unit)

def textOf (bytes : Except Fault (List UInt8)) : Except Fault String :=
  match bytes with
  | .error fault => .error fault
  | .ok bytes =>
      match Text.decode? bytes with
      | some text => .ok text
      | none => .error .notText

namespace Disk

variable {m : Type -> Type} [Monad m]

def readText (disk : Disk m) (path : String) : m (Except Fault String) :=
  textOf <$> disk.read path

def writeText (disk : Disk m) (path text : String) : m (Except Fault Unit) :=
  disk.write path (Text.encode text)

end Disk

end Files
end HangulConsole
