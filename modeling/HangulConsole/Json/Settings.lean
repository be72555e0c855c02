import HangulConsole.Json.Values
import HangulConsole.Settings.Document

/-!
# Settings in JSON

Settings are written as a JSON object; members that are missing keep their
standard values and unknown members are passed over.  A list of the values in
order is read as well.
-/

namespace HangulConsole
namespace Settings

open Json

/-! # The message catalog -/

def messageNames : List String :=
  ["run_separator", "execution_error", "not_ready", "stderr_marker", "boot_error", "saved",
    "loaded"]

def messagesKind : String := "struct Messages"

def messagesOf? : List String -> Option Messages
  | [runSeparator, executionError, notReady, stderrMarker, bootError, saved, loaded] =>
      some { runSeparator, executionError, notReady, stderrMarker, bootError, saved, loaded }
  | _ => none

def messageMember (name : String) (seen : List (String × String)) :
    Reader (List (String × String)) := do
  if name ∈ messageNames then
    if seen.any fun entry => entry.1 == name then
      Reader.reject (.duplicateField name)
    else
      return seen ++ [(name, ← Reader.afterColon Reader.text)]
  else
    Reader.afterColon Reader.skipValue
    return seen

def messageTexts (seen : List (String × String)) : List String -> Reader (List String)
  | [] => return []
  | name :: names => do
      match seen.find? fun entry => entry.1 == name with
      | some entry => return entry.2 :: (← messageTexts seen names)
      | none => Reader.reject (.missingField name)

def messageElements (count : Nat) : Nat -> Reader (List String)
  | 0 => return []
  | left + 1 => do
      if ← Reader.hasElement (count == left + 1) then
        return (← Reader.text) :: (← messageElements count left)
      else
        Reader.reject (.invalidLength (count - (left + 1)) s!"{messagesKind} with 7 elements")

def messagesOfTexts (texts : List String) : Reader Messages :=
  match messagesOf? texts with
  | some messages => return messages
  | none => Reader.reject (.invalidLength texts.length s!"{messagesKind} with 7 elements")

def readMessages : Reader Messages :=
  Reader.record messagesKind
    (do messagesOfTexts (← messageElements messageNames.length messageNames.length))
    (do messagesOfTexts (← messageTexts (← Reader.members messageMember []) messageNames))

/-! # The settings -/

def readLanguage : Reader Language :=
  Reader.choice <| Reader.stringValue "variant identifier" fun name =>
    if name = "ko" then return .korean
    else if name = "en" then return .english
    else Reader.reject (.unknownVariant name "`ko` or `en`")

inductive Member where
  | keywords
  | language
  | messages
  | inputNames
  | entryPoint
  | bridge
  | indent
deriving Repr, DecidableEq

def Member.all : List Member :=
  [keywords, language, messages, inputNames, entryPoint, bridge, indent]

def Member.name : Member -> String
  | keywords => "keywords"
  | language => "lang"
  | messages => "messages"
  | inputNames => "input_names"
  | entryPoint => "entry_point"
  | bridge => "bridge_function"
  | indent => "indent"

def Member.read (settings : Settings) : Member -> Reader Settings
  | keywords => return { settings with keywords? := ← Reader.optional Reader.text }
  | language => return { settings with language := ← readLanguage }
  | messages => return { settings with ownMessages? := ← Reader.optional readMessages }
  | inputNames => return { settings with inputNames := ← Reader.list Reader.text }
  | entryPoint => return { settings with entryPoint := ← Reader.text }
  | bridge => return { settings with bridge := ← Reader.text }
  | indent => return { settings with indent := ← Reader.text }

def readMember (name : String) (state : Settings × List Member) :
    Reader (Settings × List Member) := do
  match Member.all.find? fun member => member.name == name with
  | none =>
      Reader.afterColon Reader.skipValue
      return state
  | some member =>
      if member ∈ state.2 then
        Reader.reject (.duplicateField name)
      else
        return (← Reader.afterColon (member.read state.1), member :: state.2)

def readElements (settings : Settings) (first : Bool) : List Member -> Reader Settings
  | [] => return settings
  | member :: members => do
      if ← Reader.hasElement first then
        readElements (← member.read settings) false members
      else
        return settings

def reader : Reader Settings :=
  Reader.record "struct Config" (readElements standard true Member.all)
    (return (← Reader.members readMember (standard, [])).1)

instance : DocumentReader where
  read document :=
    let text := document.toList
    (readWhole reader text).mapError fun fault => fault.message text

end Settings
end HangulConsole
