import HangulConsole.Calls.Names
import HangulConsole.Calls.Occurrence

/-!
# Marking calls in one pass

What marking means, said without sentinels: walk through the source once, and
write the marker and a space in front of every call that stands on its own and
is not marked already.
-/

namespace HangulConsole
namespace Calls

def startsCall (names : List (List Char)) (text : List Char) : Bool :=
  names.any fun name => (callAt? name text).isSome

/-- Whether the text in front, given from its end, ends in the marker and at least one blank. -/
def endsMarked (before : List Char) : Bool :=
  !(before.takeWhile Text.isBlank).isEmpty &&
    (dropStart? marker.reverse (Text.dropBlanks before)).isSome

def endsAtBoundary (before : List Char) : Bool :=
  !before.head?.any Text.isIdentifierChar

/-- Whether the marker belongs between `before`, given from its end, and `text`. -/
def wantsMarker (names : List (List Char)) (before text : List Char) : Bool :=
  startsCall names text && endsAtBoundary before && !endsMarked before

def markOnceFrom (names : List (List Char)) (before : List Char) : List Char -> List Char
  | [] => []
  | c :: rest =>
      (if wantsMarker names before (c :: rest) then marker ++ [' '] else []) ++
        c :: markOnceFrom names (c :: before) rest

def markOnce (names : List (List Char)) (source : List Char) : List Char :=
  markOnceFrom names [] source

theorem startsCall_congr {names others : List (List Char)}
    (same : ∀ name, name ∈ names ↔ name ∈ others) (text : List Char) :
    startsCall names text = startsCall others text := by
  rw [Bool.eq_iff_iff]
  simp [startsCall, same]

end Calls
end HangulConsole
