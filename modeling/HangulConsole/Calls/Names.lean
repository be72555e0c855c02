import HangulConsole.Failure
import HangulConsole.Text.Alphanumeric
import HangulConsole.Text.Quoted

/-!
# Call names

The names whose calls suspend the program.  A call name is one identifier: at
least one character, and identifier characters only.
-/

namespace HangulConsole
namespace Calls

def isCallName (name : List Char) : Bool :=
  !name.isEmpty && name.all Text.isIdentifierChar

structure Names where
  names : List (List Char)
  /-- Each of them is a call name. -/
  valid : ∀ name ∈ names, isCallName name = true

namespace Names

def empty : Names := ⟨[], by simp⟩

def cons (name : List Char) (names : Names) (valid : isCallName name = true) : Names :=
  ⟨name :: names.names, by
    intro other mem
    rcases List.mem_cons.1 mem with rfl | mem
    · exact valid
    · exact names.valid other mem⟩

def ofStrings? : List String -> Except Failure Names
  | [] => .ok empty
  | name :: rest =>
      if valid : isCallName name.toList = true then
        (ofStrings? rest).map fun names => cons name.toList names valid
      else
        .error (.settings s!"invalid call name: {Text.quote name}")

def standard : Names :=
  ⟨[['입', '력'], ['i', 'n', 'p', 'u', 't']], by decide +kernel⟩

theorem names_of_ofStrings? {strings : List String} {names : Names}
    (accepted : ofStrings? strings = .ok names) : names.names = strings.map String.toList := by
  induction strings generalizing names with
  | nil =>
      simp only [ofStrings?, Except.ok.injEq] at accepted
      simp [← accepted, empty]
  | cons name rest ih =>
      rw [ofStrings?] at accepted
      split at accepted
      · cases tail : ofStrings? rest with
        | error failure => simp [tail, Except.map] at accepted
        | ok others =>
            simp only [tail, Except.map, Except.ok.injEq] at accepted
            simp [← accepted, cons, ih tail]
      · simp at accepted

end Names

end Calls
end HangulConsole
