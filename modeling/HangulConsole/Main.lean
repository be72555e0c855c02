import Std.Time.Zoned
import HangulConsole.Script.Execution
import HangulConsole.Terminal.Dialogue

/-!
# The program

A terminal on the standard input and output, with the files and the clock of the
system around it.
-/

namespace HangulConsole
namespace System

/-! # Files and clock -/

/-- The fault of an error number; some errors carry the negated number. -/
def systemFault (code : UInt32) : Files.Fault :=
  .system (code.toInt32.toInt.natAbs)

def faultOf : IO.Error -> Files.Fault
  | .alreadyExists _ code _ => systemFault code
  | .otherError code _ => systemFault code
  | .resourceBusy code _ => systemFault code
  | .resourceVanished code _ => systemFault code
  | .unsupportedOperation code _ => systemFault code
  | .hardwareFault code _ => systemFault code
  | .unsatisfiedConstraints code _ => systemFault code
  | .illegalOperation code _ => systemFault code
  | .protocolError code _ => systemFault code
  | .timeExpired code _ => systemFault code
  | .interrupted _ code _ => systemFault code
  | .noFileOrDirectory _ code _ => systemFault code
  | .invalidArgument _ code _ => systemFault code
  | .permissionDenied _ code _ => systemFault code
  | .resourceExhausted _ code _ => systemFault code
  | .inappropriateType _ code _ => systemFault code
  | .noSuchThing _ code _ => systemFault code
  | .unexpectedEof => .other "unexpected end of file"
  | .userError reason => .other reason

/-- Does something with the file at a path; no file has a NUL character in its name. -/
def attempt {α : Type} (path : String) (act : IO α) : IO (Except Files.Fault α) := do
  if path.toList.contains '\x00' then return .error .nulInName
  try
    return .ok (← act)
  catch fault =>
    return .error (faultOf fault)

def disk : Files.Disk IO where
  read path := attempt path do return (← IO.FS.readBinFile path).toList
  write path bytes := attempt path (IO.FS.writeBinFile path ⟨bytes.toArray⟩)

def localOffset (now : Std.Time.Timestamp) : IO Int := do
  try
    let rules ← Std.Time.Database.defaultGetLocalZoneRules
    return (rules.findLocalTimeTypeForTimestamp now).getTimeZone.offset.second.val
  catch _ =>
    return 0

def thisMinute : IO Calendar.Minute := do
  let now ← Std.Time.Timestamp.now
  return .ofSeconds (now.toSecondsSinceUnixEpoch.val + (← localOffset now))

def surroundings : Surroundings IO where
  disk := disk
  network := Keywords.Source.Network.unreachable
  networkWaits := false
  now := thisMinute

def environment : IO (String -> Option String) := do
  let names := [Settings.fileVariable, Settings.keywordsVariable, Settings.languageVariable]
  let values ← names.mapM fun name => return (name, ← IO.getEnv name)
  return fun name => (values.lookup name).join

/-! # The terminal -/

abbrev Console := Terminal Script.Workspace

def refresh (before : Screen) (terminal : Console) : IO Unit := do
  let output ← IO.getStdout
  output.putStr (terminal.screen.writtenSince before)
  output.flush

def withoutEnd (line : String) : String :=
  let chars := line.toList
  if chars.getLast? = some '\n' then String.ofList (Text.dropReturn chars.dropLast) else line

/-- Takes lines until the terminal is closed. -/
partial def converse (input : IO.FS.Stream) (terminal : Console) : IO Console := do
  if terminal.isClosed then return terminal
  let waiting := terminal.idle
  refresh terminal.screen waiting
  let line ← input.getLine
  let next ←
    if line.isEmpty then pure waiting.takeEnd
    else waiting.take surroundings ⟨withoutEnd line, true⟩
  refresh waiting.screen next
  if line.isEmpty then return next else converse input next

def complain (complaint : Complaint) : IO UInt32 := do
  (← IO.getStderr).putStrLn ("Error: " ++ complaint.message)
  return 1

def exitCode : Mode -> IO UInt32
  | .closed .success => return 0
  | .closed (.complaint complaint) => complain complaint
  | _ => return 1

end System
end HangulConsole

open HangulConsole in
def main (arguments : List String) : IO UInt32 := do
  let launched ← Terminal.launch System.surroundings Script.Workspace.abilities (.ok .empty)
    (← System.environment) arguments
  match launched with
  | .error complaint => System.complain complaint
  | .ok terminal =>
      System.refresh .empty terminal
      let terminal ← System.converse (← IO.getStdin) terminal
      System.exitCode terminal.mode
