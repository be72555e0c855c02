import HangulConsole.Files.Disk
import HangulConsole.Settings.Basic

/-!
# Settings documents

Settings are loaded from a document, whose notation is left open, and then overridden by the
environment.
-/

namespace HangulConsole
namespace Settings

/-- Reads the settings of a document, or tells why it has none. -/
class DocumentReader where
  read : String -> Except String Settings

def parse [DocumentReader] (document : String) : Except Failure Settings := do
  match DocumentReader.read document with
  | .error reason => throw (.settings reason)
  | .ok settings =>
      settings.check
      return settings

def load [DocumentReader] {m : Type -> Type} [Monad m] (disk : Files.Disk m) (path? : Option String)
    (lookup : String -> Option String) : m (Except Failure Settings) := do
  match path? with
  | none => return finish (.ok standard)
  | some path =>
      match ← disk.readText path with
      | .error fault => return .error (.file fault)
      | .ok document => return finish (parse document)
where
  finish : Except Failure Settings -> Except Failure Settings
    | .error failure => .error failure
    | .ok settings =>
        match settings.withEnvironment lookup with
        | (settings, .ok ()) => .ok settings
        | (_, .error failure) => .error failure

end Settings
end HangulConsole
