import HangulConsole.Calls.Occurrence
import HangulConsole.Text.Lines

/-!
# The entry point of a run

Only an asynchronous function may suspend, so a program runs inside one: as the
body of a `try` whose `finally` publishes the names that the program bound.
Each line of the program is indented by two levels.  `unwrap?` reads the
program back out of its entry point.
-/

namespace HangulConsole
namespace EntryPoint

def publishLocals : String := "globals().update(locals())"

/-- The statement that keeps the body from being empty. -/
def filler : List Char := "pass".toList

def header (name indent : List Char) : List Char :=
  "async def ".toList ++ name ++ "():\n".toList ++ indent ++ "try:\n".toList

def footer (name indent : List Char) : List Char :=
  indent ++ indent ++ filler ++ ['\n'] ++ indent ++ "finally:\n".toList ++
    indent ++ indent ++ publishLocals.toList ++ "\nawait ".toList ++ name ++ "()\n".toList

def bodyChars (margin : List Char) (lines : List (List Char)) : List Char :=
  lines.flatMap fun line => margin ++ line ++ ['\n']

def wrapChars (source name indent : List Char) : List Char :=
  header name indent ++ bodyChars (indent ++ indent) (Text.splitAt '\n' source) ++
    footer name indent

def wrap (source name indent : String) : String :=
  String.ofList (wrapChars source.toList name.toList indent.toList)

/-! # Reading a program back -/

theorem length_lt_of_cutAtFirst {separator : Char -> Bool} {text front rest : List Char}
    (cut : Text.cutAtFirst separator text = some (front, rest)) : rest.length < text.length := by
  induction text generalizing front with
  | nil => simp [Text.cutAtFirst] at cut
  | cons c text ih =>
      rw [Text.cutAtFirst] at cut
      split at cut
      · simp only [Option.some.injEq, Prod.mk.injEq] at cut
        simp [← cut.2]
      · rcases Option.map_eq_some_iff.1 cut with ⟨inner, inner_eq, pair⟩
        simp only [Prod.mk.injEq] at pair
        have shorter : Text.cutAtFirst separator text = some (inner.1, rest) := by
          rw [inner_eq, ← pair.2]
        have := ih shorter
        simp only [List.length_cons]
        omega

def bodyLines? (margin text : List Char) : Option (List (List Char)) :=
  if text.isEmpty then
    some []
  else
    match _start : Calls.dropStart? margin text with
    | none => none
    | some rest =>
        match _cut : Text.cutAtFirst (· == '\n') rest with
        | none => none
        | some (line, more) => (bodyLines? margin more).map (line :: ·)
  termination_by text.length
  decreasing_by
    have := length_lt_of_cutAtFirst _cut
    have whole := Calls.eq_append_of_dropStart? _start
    rw [whole, List.length_append]
    omega

def dropEnding? (ending text : List Char) : Option (List Char) :=
  (Calls.dropStart? ending.reverse text.reverse).map List.reverse

def unwrap? (wrapped name indent : List Char) : Option (List Char) := do
  let rest ← Calls.dropStart? (header name indent) wrapped
  let body ← dropEnding? (footer name indent) rest
  let lines ← bodyLines? (indent ++ indent) body
  return Text.joinWith '\n' lines

end EntryPoint
end HangulConsole
