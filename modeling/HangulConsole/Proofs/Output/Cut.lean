import HangulConsole.Proofs.Output.Queue

/-!
# Where output is cut

Output is cut at line feeds and where the queue is taken, and nowhere else: no piece holds a line
feed, and no piece is empty but for an empty line.
-/

namespace HangulConsole

structure Piece.WellCut (piece : Piece) : Prop where
  unbroken : '\n' ∉ piece.text.toList
  nonempty : piece.complete = false -> piece.text ≠ ""

theorem Piece.toList_written (piece : Piece) :
    piece.written.toList = piece.text.toList ++ if piece.complete then ['\n'] else [] := by
  rw [written]
  split
  · rw [String.toList_append]
    rfl
  · rw [List.append_nil]

theorem Piece.WellCut.written_ne_nil {piece : Piece} (wellCut : piece.WellCut) :
    piece.written.toList ≠ [] := by
  rw [piece.toList_written]
  cases complete : piece.complete with
  | true => simp
  | false => simpa using wellCut.nonempty complete

namespace OutputQueue

/-- No line feed is left within a line or an unfinished end. -/
structure WellCut (queue : OutputQueue) : Prop where
  lines : ∀ piece ∈ queue.lines, piece.complete = true ∧ '\n' ∉ piece.text.toList
  tails : ∀ stream, '\n' ∉ (queue.tail stream).toList

variable {queue : OutputQueue}

theorem wellCut_empty : empty.WellCut where
  lines := by intro piece mem; cases mem
  tails := by
    intro stream
    cases stream with
    | stdout => exact List.not_mem_nil
    | stderr => exact List.not_mem_nil

namespace WellCut

theorem setTail (wellCut : queue.WellCut) (stream : OutputStream) {text : String}
    (unbroken : '\n' ∉ text.toList) : (queue.setTail text stream).WellCut where
  lines := by
    rw [lines_setTail]
    exact wellCut.lines
  tails := by
    intro other
    rw [tail_setTail]
    split
    · exact unbroken
    · exact wellCut.tails other

theorem endLine (wellCut : queue.WellCut) (stream : OutputStream) :
    (queue.endLine stream).WellCut := by
  have ended :
      WellCut { queue with lines := queue.lines ++ [⟨stream, queue.tail stream, true⟩] } := by
    refine ⟨fun piece mem => ?_, wellCut.tails⟩
    rcases List.mem_append.1 mem with old | new
    · exact wellCut.lines piece old
    · rw [List.mem_singleton.1 new]
      exact ⟨rfl, wellCut.tails stream⟩
  have nothing : '\n' ∉ "".toList := by simp
  exact ended.setTail stream nothing

theorem writeChar (wellCut : queue.WellCut) (stream : OutputStream) (c : Char) :
    (writeChar stream queue c).WellCut := by
  rw [OutputQueue.writeChar]
  split
  · exact wellCut.endLine stream
  · rename_i inside
    refine wellCut.setTail stream ?_
    rw [String.toList_push, List.mem_append, List.mem_singleton]
    rintro (there | same)
    · exact wellCut.tails stream there
    · exact inside same.symm

theorem write (wellCut : queue.WellCut) (stream : OutputStream) (text : String) :
    (queue.write stream text).WellCut := by
  rw [write_eq_writeChars]
  generalize text.toList = chars
  induction chars generalizing queue with
  | nil => exact wellCut
  | cons c rest ih => exact ih (wellCut.writeChar stream c)

theorem fragment (wellCut : queue.WellCut) (stream : OutputStream) :
    ∀ piece ∈ queue.fragment stream, piece.WellCut := by
  intro piece mem
  rw [OutputQueue.fragment] at mem
  split at mem
  · cases mem
  · rename_i filled
    rw [List.mem_singleton.1 mem]
    refine ⟨wellCut.tails stream, fun _ nothing => ?_⟩
    exact filled (String.isEmpty_iff.2 nothing)

theorem pieces (wellCut : queue.WellCut) : ∀ piece ∈ queue.pieces, piece.WellCut := by
  intro piece mem
  rw [OutputQueue.pieces, List.mem_append, List.mem_append] at mem
  rcases mem with (line | stdout) | stderr
  · rcases wellCut.lines piece line with ⟨complete, unbroken⟩
    refine ⟨unbroken, fun unfinished => ?_⟩
    rw [complete] at unfinished
    cases unfinished
  · exact wellCut.fragment .stdout piece stdout
  · exact wellCut.fragment .stderr piece stderr

end WellCut

end OutputQueue

end HangulConsole
