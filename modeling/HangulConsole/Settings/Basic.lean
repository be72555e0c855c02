import HangulConsole.Failure
import HangulConsole.Settings.Messages
import HangulConsole.Text.Blank

/-!
# Settings

What can be chosen about a session, and the environment variables that override
the choice.
-/

namespace HangulConsole

structure Settings where
  /-- Where the keyword script comes from; the built-in table if nothing is said. -/
  keywords? : Option String
  language : Language
  /-- A catalog that replaces the one of the language. -/
  ownMessages? : Option Messages
  /-- The names whose calls ask for a line. -/
  inputNames : List String
  entryPoint : String
  /-- The guest's name for the host function that asks for a line. -/
  bridge : String
  indent : String
deriving Repr, DecidableEq

namespace Settings

def standard : Settings where
  keywords? := none
  language := .korean
  ownMessages? := none
  inputNames := ["입력", "input"]
  entryPoint := "__hangpy_main__"
  bridge := "__hangpy_request_line__"
  indent := "  "

def messages (settings : Settings) : Messages :=
  settings.ownMessages?.getD (.ofLanguage settings.language)

/-- Refuses choices that cannot work: no input name at all, or an empty name. -/
def check (settings : Settings) : Except Failure Unit :=
  if settings.inputNames.isEmpty then
    .error (.settings "input_names must not be empty")
  else if settings.entryPoint.isEmpty || settings.bridge.isEmpty then
    .error (.settings "entry_point and bridge_function must be set")
  else
    .ok ()

/-! # The environment -/

def fileVariable : String := "HANGPY_CONFIG"

def keywordsVariable : String := "HANGPY_KEYWORDS"

def languageVariable : String := "HANGPY_LANG"

end Settings

/-- The language that a text names; the case of ASCII letters and blanks around it do not matter. -/
def Language.parse (text : String) : Except Failure Language :=
  let name := Text.asciiLower (Text.trim text)
  if name ∈ ["ko", "kr", "korean"] then .ok .korean
  else if name ∈ ["en", "english"] then .ok .english
  else .error (.settings s!"unknown language: {name}")

namespace Settings

def override? (lookup : String -> Option String) (name : String) : Option String :=
  (lookup name).filter fun value => !Text.isBlankText value

def withKeywords (settings : Settings) (lookup : String -> Option String) : Settings :=
  match override? lookup keywordsVariable with
  | some keywords => { settings with keywords? := some keywords }
  | none => settings

/-- The settings under an environment.  The keyword override comes first and stays when the language
override fails. -/
def withEnvironment (settings : Settings) (lookup : String -> Option String) :
    Settings × Except Failure Unit :=
  let settings := settings.withKeywords lookup
  match override? lookup languageVariable with
  | none => (settings, .ok ())
  | some text =>
      match Language.parse text with
      | .ok language => ({ settings with language }, .ok ())
      | .error failure => (settings, .error failure)

end Settings

end HangulConsole
