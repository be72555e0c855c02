import HangulConsole.Output.Queue

/-!
# Nothing is lost in the queue

What a stream has in the queue is what was written to it since the queue was taken: a
text that is written comes behind it, and all of it is in the pieces that are taken.
-/

namespace HangulConsole

namespace Piece

theorem writtenTo_append (stream : OutputStream) (first second : List Piece) :
    writtenTo stream (first ++ second) = writtenTo stream first ++ writtenTo stream second := by
  simp [writtenTo]

theorem writtenTo_singleton (stream : OutputStream) (piece : Piece) :
    writtenTo stream [piece] = if piece.stream = stream then piece.written else "" := by
  by_cases same : piece.stream = stream
  · simp [writtenTo, same]
  · simp [writtenTo, same]

end Piece

namespace OutputQueue

variable (queue : OutputQueue) (stream other : OutputStream)

theorem tail_setTail (text : String) :
    (queue.setTail text stream).tail other = if other = stream then text else queue.tail other := by
  cases stream with
  | stdout => cases other <;> rfl
  | stderr => cases other <;> rfl

theorem lines_setTail (text : String) : (queue.setTail text stream).lines = queue.lines := by
  cases stream with
  | stdout => rfl
  | stderr => rfl

/-!
# Writing
-/

theorem unread_endLine :
    (queue.endLine stream).unread other =
      if other = stream then queue.unread other ++ "\n" else queue.unread other := by
  have tail : (queue.endLine stream).tail other =
      if other = stream then "" else queue.tail other := by
    rw [endLine, tail_setTail]
    cases other with
    | stdout => rfl
    | stderr => rfl
  have lines :
      (queue.endLine stream).lines = queue.lines ++ [⟨stream, queue.tail stream, true⟩] := by
    rw [endLine, lines_setTail]
  rw [unread, unread, tail, lines, Piece.writtenTo_append, Piece.writtenTo_singleton]
  by_cases same : other = stream
  · rw [if_pos same, if_pos same.symm, if_pos same, same, Piece.written, if_pos rfl,
      String.append_empty, String.append_assoc]
  · rw [if_neg same, if_neg (Ne.symm same), if_neg same, String.append_empty]

theorem unread_setTail (text : String) :
    (queue.setTail (queue.tail stream ++ text) stream).unread other =
      if other = stream then queue.unread other ++ text else queue.unread other := by
  rw [unread, unread, lines_setTail, tail_setTail]
  by_cases same : other = stream
  · rw [if_pos same, if_pos same, same, String.append_assoc]
  · rw [if_neg same, if_neg same]

/-!
# Writing character by character
-/

def writeChar (stream : OutputStream) (queue : OutputQueue) (c : Char) : OutputQueue :=
  if c = '\n' then queue.endLine stream else queue.setTail ((queue.tail stream).push c) stream

def writeChars (queue : OutputQueue) (stream : OutputStream) (text : List Char) : OutputQueue :=
  text.foldl (writeChar stream) queue

theorem writeChars_cons (c : Char) (text : List Char) :
    queue.writeChars stream (c :: text) = (writeChar stream queue c).writeChars stream text := rfl

theorem writeChars_append (first second : List Char) :
    queue.writeChars stream (first ++ second) =
      (queue.writeChars stream first).writeChars stream second :=
  List.foldl_append

theorem setTail_setTail (first second : String) :
    (queue.setTail first stream).setTail second stream = queue.setTail second stream := by
  cases stream with
  | stdout => rfl
  | stderr => rfl

theorem setTail_tail : queue.setTail (queue.tail stream) stream = queue := by
  cases stream with
  | stdout => rfl
  | stderr => rfl

theorem writeChars_of_unbroken {text : List Char} (unbroken : ∀ c ∈ text, c ≠ '\n') :
    queue.writeChars stream text = queue.push stream text := by
  induction text generalizing queue with
  | nil => rw [push, String.ofList_nil, String.append_empty, setTail_tail]; rfl
  | cons c text ih =>
      have inside := unbroken c List.mem_cons_self
      have tail : (queue.setTail ((queue.tail stream).push c) stream).tail stream =
          queue.tail stream ++ String.singleton c := by
        rw [tail_setTail, if_pos rfl, String.push_eq_append]
      rw [writeChars_cons, ih _ fun other mem => unbroken other (List.mem_cons_of_mem _ mem),
        writeChar, if_neg inside, push, push, tail, setTail_setTail, String.ofList_cons,
        String.append_assoc]

/-- It makes no difference whether a text is written line by line or character by character. -/
theorem writeLines_eq_writeChars (text : List Char) :
    queue.writeLines stream text = queue.writeChars stream text := by
  have inside (front : List Char) :
      ∀ c ∈ front.takeWhile (· != '\n'), c ≠ '\n' := by
    intro c mem
    simpa using List.all_eq_true.1 (List.all_takeWhile (l := front)) c mem
  -- The induction is on the lines; a line is put in at once, which is the same as by characters.
  fun_induction writeLines queue stream text with
  | case1 queue text behind =>
      have whole := List.takeWhile_append_dropWhile (p := (· != '\n')) (l := text)
      rw [behind, List.append_nil] at whole
      rw [writeChars_of_unbroken]
      rw [← whole]
      exact inside text
  | case2 queue text c rest behind ih =>
      have whole := List.takeWhile_append_dropWhile (p := (· != '\n')) (l := text)
      have ends : c = '\n' := by
        have stops := List.head?_dropWhile_not (· != '\n') text
        rw [behind] at stops
        simpa using stops
      rw [behind] at whole
      have first := writeChars_of_unbroken queue stream (inside text)
      rw [ih, ← first]
      calc
        _ = (queue.writeChars stream (text.takeWhile (· != '\n'))).writeChars stream
              (c :: rest) := by
          rw [writeChars_cons, writeChar, if_pos ends]
        _ = queue.writeChars stream text := by rw [← writeChars_append, whole]

theorem write_eq_writeChars (text : String) :
    queue.write stream text = queue.writeChars stream text.toList :=
  writeLines_eq_writeChars queue stream text.toList

theorem write_write (first second : String) :
    (queue.write stream first).write stream second = queue.write stream (first ++ second) := by
  rw [write_eq_writeChars, write_eq_writeChars, write_eq_writeChars, String.toList_append,
    writeChars_append]

/-!
# What is written is there
-/

theorem unread_writeChar (c : Char) :
    (writeChar stream queue c).unread other =
      if other = stream then queue.unread other ++ String.singleton c else queue.unread other := by
  rw [writeChar]
  by_cases ends : c = '\n'
  · rw [if_pos ends, ends]
    exact unread_endLine queue stream other
  · rw [if_neg ends, String.push_eq_append]
    exact unread_setTail queue stream other (String.singleton c)

theorem unread_writeChars (text : List Char) :
    (queue.writeChars stream text).unread other =
      if other = stream then queue.unread other ++ String.ofList text else queue.unread other := by
  induction text generalizing queue with
  | nil => simp [writeChars]
  | cons c text ih =>
      rw [writeChars_cons, ih, unread_writeChar]
      by_cases same : other = stream
      · rw [if_pos same, if_pos same, if_pos same, String.ofList_cons, String.append_assoc]
      · rw [if_neg same, if_neg same, if_neg same]

theorem unread_write (text : String) :
    (queue.write stream text).unread other =
      if other = stream then queue.unread other ++ text else queue.unread other := by
  rw [write_eq_writeChars, unread_writeChars, String.ofList_toList]

/-!
# Taking
-/

theorem writtenTo_fragment :
    Piece.writtenTo other (queue.fragment stream) =
      if stream = other then queue.tail stream else "" := by
  rw [fragment]
  by_cases none : (queue.tail stream).isEmpty = true
  · have empty : queue.tail stream = "" := by simpa using none
    rw [if_pos none, empty, ite_self]
    rfl
  · rw [if_neg none, Piece.writtenTo_singleton]
    rfl

theorem writtenTo_pieces : Piece.writtenTo stream queue.pieces = queue.unread stream := by
  rw [pieces, Piece.writtenTo_append, Piece.writtenTo_append, writtenTo_fragment,
    writtenTo_fragment, unread]
  cases stream with
  | stdout => simp
  | stderr => simp

end OutputQueue

end HangulConsole
