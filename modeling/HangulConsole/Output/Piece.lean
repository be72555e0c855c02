/-!
# Pieces of guest output

What a guest writes reaches its receiver in pieces: complete lines, and texts
that were written without a line end before the guest suspended.
-/

namespace HangulConsole

inductive OutputStream where
  | stdout
  | stderr
deriving Repr, DecidableEq, Inhabited

structure Piece where
  stream : OutputStream
  /-- The text, without the line feed of a complete line. -/
  text : String
  /-- Whether the guest ended the line. -/
  complete : Bool
deriving Repr, DecidableEq, Inhabited

namespace Piece

def written (piece : Piece) : String :=
  if piece.complete then piece.text ++ "\n" else piece.text

def writtenTo (stream : OutputStream) (pieces : List Piece) : String :=
  String.join ((pieces.filter fun piece => piece.stream = stream).map written)

end Piece

/-- A receiver of guest output that keeps a state `σ`; it may refuse a piece. -/
structure Receiver (σ : Type) where
  line : OutputStream -> String -> σ -> Except String σ
  /-- Receives text without a line end. -/
  fragment : OutputStream -> String -> σ -> Except String σ

namespace Receiver

/-- A receiver that treats text without a line end as if it were a line. -/
def ofLines {σ : Type} (line : OutputStream -> String -> σ -> Except String σ) : Receiver σ where
  line := line
  fragment := line

def receive {σ : Type} (receiver : Receiver σ) (piece : Piece) (state : σ) : Except String σ :=
  if piece.complete then receiver.line piece.stream piece.text state
  else receiver.fragment piece.stream piece.text state

end Receiver

end HangulConsole
