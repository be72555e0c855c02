import HangulConsole.Text.Lines
import HangulConsole.Text.Utf8

/-!
# Incoming lines

The input of a terminal arrives in blocks of bytes.  A line is at hand when the
block that holds its line end has arrived; otherwise the terminal waits for more.
-/

namespace HangulConsole

structure IncomingLine where
  /-- The line, without its line end. -/
  text : String
  /-- Whether the terminal waits for more input before it has the line. -/
  waited : Bool
deriving Repr, DecidableEq, Inhabited

namespace IncomingLine

def blockSize : Nat := 8192

def arrivedFor (needed : Nat) : Nat :=
  (needed + blockSize - 1) / blockSize * blockSize

/-- The lines of the pieces between line feeds, when `used` bytes are used up and `arrived` bytes
have arrived.  What stands behind the last line feed is a line only when the input has ended, and
the terminal waits for that. -/
def ofPieces (used arrived : Nat) : List (List Char) -> List IncomingLine
  | [] => []
  | [last] => if last.isEmpty then [] else [⟨String.ofList last, true⟩]
  | piece :: next :: pieces =>
      let used := used + Text.byteCount piece + 1
      let waited := decide (arrived < used)
      ⟨String.ofList (Text.dropReturn piece), waited⟩ ::
        ofPieces used (if waited then arrivedFor used else arrived) (next :: pieces)

def ofText (text : String) : List IncomingLine :=
  ofPieces 0 0 (Text.splitAt '\n' text.toList)

/-! # The lines are those of the text -/

theorem map_text_ofPieces (pieces : List (List Char)) (used arrived : Nat) :
    (ofPieces used arrived pieces).map text =
      (pieces.dropLast.map Text.dropReturn ++
        (if (pieces.getLast?.getD []).isEmpty then []
          else [pieces.getLast?.getD []])).map String.ofList := by
  induction pieces generalizing used arrived with
  | nil => rfl
  | cons piece rest ih =>
      cases rest with
      | nil =>
          by_cases empty : piece = [] <;> simp [ofPieces, empty]
      | cons next pieces =>
          simp only [ofPieces, List.map_cons, ih, List.dropLast_cons_cons, List.cons_append,
            List.getLast?_cons_cons]

theorem map_text_ofText (input : String) :
    (ofText input).map text = Text.lines input :=
  map_text_ofPieces _ _ _

end IncomingLine

end HangulConsole
