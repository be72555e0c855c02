/-!
# Message catalogs

The annotations that the console itself writes into a transcript, in the
languages that come with it.
-/

namespace HangulConsole

inductive Language where
  | korean
  | english
deriving Repr, DecidableEq, Inhabited

structure Messages where
  /-- The line in front of a run. -/
  runSeparator : String
  executionError : String
  notReady : String
  stderrMarker : String
  bootError : String
  saved : String
  loaded : String
deriving Repr, DecidableEq, Inhabited

namespace Messages

def korean : Messages where
  runSeparator := "\n----- 실행 -----"
  executionError := "[실행 오류]"
  notReady := "[실행 불가] 아직 준비되지 않았습니다"
  stderrMarker := "[에러] "
  bootError := "[초기화 오류]"
  saved := "[저장됨]"
  loaded := "[불러옴]"

def english : Messages where
  runSeparator := "\n----- run -----"
  executionError := "[execution error]"
  notReady := "[not ready] the runtime is still booting"
  stderrMarker := "[stderr] "
  bootError := "[boot error]"
  saved := "[saved]"
  loaded := "[loaded]"

def ofLanguage : Language -> Messages
  | .korean => korean
  | .english => english

def standard : Messages := korean

end Messages

end HangulConsole
