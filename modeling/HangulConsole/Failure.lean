import HangulConsole.Files.Fault

/-!
# Failures

Every way in which an operation of the console can fail, and the words for it.
-/

namespace HangulConsole

inductive Failure where
  | boot (reason : String)
  | notReady
  | alreadyBooted
  | guest (message : String)
  | inputBusy
  | inputAbandoned
  | notProgramFile (path : String)
  | fetch (url reason : String)
  | settings (reason : String)
  | file (fault : Files.Fault)
  /-- The host side of the guest failed: the engine, a host function, or the receiver of its
  output. -/
  | host (reason : String)
deriving Repr, DecidableEq, Inhabited

namespace Failure

def message : Failure -> String
  | boot reason => s!"boot failed: {reason}"
  | notReady => "runtime is not ready"
  | alreadyBooted => "session already booted"
  | guest message => message
  | inputBusy => "input requested while another request is pending"
  | inputAbandoned => "input request abandoned"
  | notProgramFile path => s!"not a .kpy file: {path}"
  | fetch url reason => s!"failed to fetch {url}: {reason}"
  | settings reason => s!"invalid config: {reason}"
  | file fault => fault.message
  | host reason => s!"runtime error: {reason}"

def isGuest : Failure -> Bool
  | guest _ => true
  | _ => false

end Failure

end HangulConsole
