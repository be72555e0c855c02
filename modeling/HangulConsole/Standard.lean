import HangulConsole.Calendar
import HangulConsole.Json.Settings
import HangulConsole.Script.Definition
import HangulConsole.Terminal.Screen
import HangulConsole.Url.Reader

/-!
# The standard console

What the console is put together with: addresses of the web, settings in JSON, the names of its
script language, a screen that shows whatever there is when the console waits, and clocks whose
zone may be unknown.
-/

namespace HangulConsole

instance : Pace := .prompt

namespace Calendar

/-- The local minute of a clock; without a zone that it knows it shows the time of Greenwich. -/
def localMinute? (seconds offset : Int) : Option Minute :=
  minuteAt? seconds (if offset.natAbs < 86400 then offset else 0)

end Calendar
end HangulConsole
