import HangulConsole.Text.Quoted

/-!
# The status of a session

A session boots in stages, one after the other, and ends up ready or failed.
-/

namespace HangulConsole

inductive BootStage where
  | loadingRuntime
  | fetchingKeywords
  /-- The line input of the host is being put into the guest. -/
  | injectingBridges
  | loadingKeywords
deriving Repr, DecidableEq, Inhabited

namespace BootStage

def label : BootStage -> String
  | loadingRuntime => "Loading runtime…"
  | fetchingKeywords => "Fetching keywords…"
  | injectingBridges => "Injecting bridges…"
  | loadingKeywords => "Loading keywords…"

def name : BootStage -> String
  | loadingRuntime => "LoadingRuntime"
  | fetchingKeywords => "FetchingKeywords"
  | injectingBridges => "InjectingBridges"
  | loadingKeywords => "LoadingKeywords"

end BootStage

inductive Status where
  | idle
  | booting (stage : BootStage)
  | ready
  /-- The session could not boot, for this reason. -/
  | failed (reason : String)
deriving Repr, DecidableEq, Inhabited

namespace Status

def label : Status -> String
  | idle => "Idle"
  | booting stage => stage.label
  | ready => "Ready"
  | failed _ => "Failed"

def summary : Status -> String
  | idle => "Idle"
  | booting stage => "Booting(" ++ stage.name ++ ")"
  | ready => "Ready"
  | failed reason => "Failed(" ++ Text.quote reason ++ ")"

end Status

end HangulConsole
