import HangulConsole.Output.Piece

/-!
# The queue of guest output

What a guest writes is cut into lines at once.  Complete lines queue up in the
order in which they were ended, whichever stream they belong to; the unfinished
end of each stream stays apart until the queue is taken.  No character is lost or
moved within its stream.
-/

namespace HangulConsole

structure OutputQueue where
  lines : List Piece
  /-- What was written to the standard output since its last line feed. -/
  stdoutTail : String
  /-- What was written to the error output since its last line feed. -/
  stderrTail : String
deriving Repr, DecidableEq

namespace OutputQueue

def empty : OutputQueue := ⟨[], "", ""⟩

def tail (queue : OutputQueue) : OutputStream -> String
  | .stdout => queue.stdoutTail
  | .stderr => queue.stderrTail

def setTail (queue : OutputQueue) (text : String) : OutputStream -> OutputQueue
  | .stdout => { queue with stdoutTail := text }
  | .stderr => { queue with stderrTail := text }

/-! # Writing -/

def endLine (queue : OutputQueue) (stream : OutputStream) : OutputQueue :=
  let lines := queue.lines ++ [Piece.mk stream (queue.tail stream) true]
  { queue with lines }.setTail "" stream

def push (queue : OutputQueue) (stream : OutputStream) (text : List Char) : OutputQueue :=
  queue.setTail (queue.tail stream ++ String.ofList text) stream

theorem length_lt_of_dropWhile {goesOn : Char -> Bool} {text rest : List Char} {c : Char}
    (behind : text.dropWhile goesOn = c :: rest) : rest.length < text.length := by
  have at_most := (List.dropWhile_sublist (l := text) goesOn).length_le
  rw [behind] at at_most
  exact at_most

/-- Writes a text line by line: the characters in front of its first line feed end a line, and what
is behind that line feed is written next. -/
def writeLines (queue : OutputQueue) (stream : OutputStream) (text : List Char) : OutputQueue :=
  match _ : text.dropWhile (· != '\n') with
  | [] => queue.push stream text
  | _ :: rest =>
      ((queue.push stream (text.takeWhile (· != '\n'))).endLine stream).writeLines stream rest
termination_by text.length
decreasing_by exact length_lt_of_dropWhile ‹_›

def write (queue : OutputQueue) (stream : OutputStream) (text : String) : OutputQueue :=
  queue.writeLines stream text.toList

/-! # Taking -/

/-- The unfinished end of a stream as a piece; nothing if it is empty. -/
def fragment (queue : OutputQueue) (stream : OutputStream) : List Piece :=
  if (queue.tail stream).isEmpty then [] else [⟨stream, queue.tail stream, false⟩]

def pieces (queue : OutputQueue) : List Piece :=
  queue.lines ++ queue.fragment .stdout ++ queue.fragment .stderr

def take (queue : OutputQueue) : List Piece × OutputQueue :=
  (queue.pieces, empty)

@[simp] theorem take_snd (queue : OutputQueue) : queue.take.2 = empty := rfl

/-! # What is in the queue -/

def unread (queue : OutputQueue) (stream : OutputStream) : String :=
  Piece.writtenTo stream queue.lines ++ queue.tail stream

@[simp] theorem unread_empty (stream : OutputStream) : empty.unread stream = "" := by
  cases stream <;> rfl

end OutputQueue

end HangulConsole
