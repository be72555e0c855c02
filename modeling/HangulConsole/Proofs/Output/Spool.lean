import HangulConsole.Proofs.Output.Cut
import Mathlib.Data.List.Induction

/-!
# Output that is written and taken

However writing and taking alternate, what was taken and what is queued makes up what was
written, stream by stream; lines come in the order in which they were ended, whichever stream
they belong to; and only the end of what is taken at once may be unfinished.
-/

namespace HangulConsole

/-- A queue with all that was taken from it, one list each time. -/
structure Spool where
  taken : List (List Piece)
  queue : OutputQueue

namespace Spool

inductive Move where
  | write (stream : OutputStream) (text : String)
  | take

def empty : Spool := ⟨[], .empty⟩

def step (spool : Spool) : Move -> Spool
  | .write stream text => { spool with queue := spool.queue.write stream text }
  | .take => ⟨spool.taken ++ [spool.queue.take.1], spool.queue.take.2⟩

def after (moves : List Move) : Spool :=
  moves.foldl step empty

def lines (spool : Spool) : List Piece :=
  (spool.taken.flatten ++ spool.queue.lines).filter Piece.complete

def Move.textFor (stream : OutputStream) : Move -> String
  | .write other text => if other = stream then text else ""
  | .take => ""

def written (stream : OutputStream) (moves : List Move) : String :=
  String.join (moves.map (Move.textFor stream))

/-- The streams to which a move writes its line feeds, once for each. -/
def Move.lineEnds : Move -> List OutputStream
  | .write stream text => List.replicate (text.toList.count '\n') stream
  | .take => []

end Spool

namespace OutputQueue

variable {queue : OutputQueue} (stream : OutputStream)

/-!
# Writing and taking
-/

theorem lines_endLine (queue : OutputQueue) :
    (queue.endLine stream).lines = queue.lines ++ [⟨stream, queue.tail stream, true⟩] := by
  rw [endLine, lines_setTail]

theorem streams_writeChars (queue : OutputQueue) (text : List Char) :
    (queue.writeChars stream text).lines.map Piece.stream =
      queue.lines.map Piece.stream ++ List.replicate (text.count '\n') stream := by
  induction text generalizing queue with
  | nil => simp [writeChars]
  | cons c text ih =>
      rw [writeChars_cons, ih, writeChar]
      by_cases ends : c = '\n'
      · rw [if_pos ends, lines_endLine, ends, List.count_cons_self, List.map_append,
          List.map_singleton, List.append_assoc, List.singleton_append, ← List.replicate_succ]
      · rw [if_neg ends, lines_setTail, List.count_cons_of_ne ends]

theorem streams_write (queue : OutputQueue) (text : String) :
    (queue.write stream text).lines.map Piece.stream =
      queue.lines.map Piece.stream ++ List.replicate (text.toList.count '\n') stream := by
  rw [write_eq_writeChars, streams_writeChars]

theorem streams_fragment (queue : OutputQueue) :
    List.Sublist ((queue.fragment stream).map Piece.stream) [stream] := by
  unfold fragment
  split
  · exact List.nil_sublist _
  · exact List.Sublist.refl _

theorem not_complete_of_mem_fragment {piece : Piece} (mem : piece ∈ queue.fragment stream) :
    piece.complete = false := by
  unfold fragment at mem
  split at mem
  · cases mem
  · rw [List.mem_singleton.1 mem]

theorem WellCut.filter_lines (wellCut : queue.WellCut) :
    queue.lines.filter Piece.complete = queue.lines :=
  List.filter_eq_self.2 fun piece mem => (wellCut.lines piece mem).1

theorem WellCut.filter_pieces (wellCut : queue.WellCut) :
    queue.pieces.filter Piece.complete = queue.lines := by
  have unfinished (stream : OutputStream) :
      (queue.fragment stream).filter Piece.complete = [] := by
    rw [List.filter_eq_nil_iff]
    intro piece mem
    simp [not_complete_of_mem_fragment stream mem]
  unfold OutputQueue.pieces
  rw [List.filter_append, List.filter_append, wellCut.filter_lines, unfinished .stdout,
    unfinished .stderr, List.append_nil, List.append_nil]

end OutputQueue

namespace Spool

open OutputQueue

variable {moves : List Move} {spool : Spool}

/-!
# What is taken at once
-/

/-- Lines, and behind them at most one unfinished text of each stream, that of the standard output
first. -/
def Orderly (pieces : List Piece) : Prop :=
  ∃ lines ends, pieces = lines ++ ends ∧ (∀ piece ∈ lines, piece.complete = true) ∧
    List.Sublist (ends.map Piece.stream) [.stdout, .stderr] ∧
    ∀ piece ∈ ends, piece.complete = false ∧ piece.text ≠ ""

theorem orderly_pieces {queue : OutputQueue} (wellCut : queue.WellCut) : Orderly queue.pieces := by
  refine ⟨queue.lines, queue.fragment .stdout ++ queue.fragment .stderr, ?_, ?_, ?_, ?_⟩
  · exact List.append_assoc _ _ _
  · exact fun piece mem => (wellCut.lines piece mem).1
  · rw [List.map_append]
    exact (streams_fragment .stdout queue).append (streams_fragment .stderr queue)
  · intro piece mem
    rcases List.mem_append.1 mem with out | err
    · have unfinished := not_complete_of_mem_fragment .stdout out
      exact ⟨unfinished, (wellCut.fragment .stdout piece out).nonempty unfinished⟩
    · have unfinished := not_complete_of_mem_fragment .stderr err
      exact ⟨unfinished, (wellCut.fragment .stderr piece err).nonempty unfinished⟩

/-!
# All that was written
-/

/-- What is in a spool after some moves. -/
structure Holds (moves : List Move) (spool : Spool) : Prop where
  /-- Taken, queued and unfinished text of a stream is what was written to it. -/
  text : ∀ stream, Piece.writtenTo stream spool.taken.flatten ++ spool.queue.unread stream =
    written stream moves
  /-- The lines of both streams are in the order of their line feeds. -/
  order : spool.lines.map Piece.stream = moves.flatMap Move.lineEnds
  taken : ∀ pieces ∈ spool.taken, Orderly pieces ∧ ∀ piece ∈ pieces, piece.WellCut
  queued : spool.queue.WellCut

theorem written_concat (stream : OutputStream) (moves : List Move) (move : Move) :
    written stream (moves ++ [move]) = written stream moves ++ move.textFor stream := by
  simp [written]

theorem after_concat (moves : List Move) (move : Move) :
    after (moves ++ [move]) = (after moves).step move := by
  simp [after]

theorem holds_empty : Holds [] empty where
  text := by
    intro stream
    cases stream with
    | stdout => rfl
    | stderr => rfl
  order := rfl
  taken := fun _ mem => nomatch mem
  queued := wellCut_empty

theorem lines_eq (queued : spool.queue.WellCut) :
    spool.lines = spool.taken.flatten.filter Piece.complete ++ spool.queue.lines := by
  rw [lines, List.filter_append, queued.filter_lines]

theorem Holds.write (holds : Holds moves spool) (stream : OutputStream) (text : String) :
    Holds (moves ++ [.write stream text]) (spool.step (.write stream text)) where
  text := by
    intro other
    rw [written_concat, ← holds.text other]
    unfold step Move.textFor
    dsimp only
    rw [unread_write]
    by_cases same : other = stream
    · rw [if_pos same, if_pos same.symm, String.append_assoc]
    · rw [if_neg same, if_neg (Ne.symm same), String.append_empty]
  order := by
    have queued : (spool.step (.write stream text)).queue.WellCut :=
      holds.queued.write stream text
    rw [lines_eq queued, List.map_append, List.flatMap_append, List.flatMap_singleton,
      ← holds.order, lines_eq holds.queued, List.map_append, List.append_assoc]
    congr 1
    exact streams_write stream spool.queue text
  taken := holds.taken
  queued := holds.queued.write stream text

theorem Holds.take (holds : Holds moves spool) :
    Holds (moves ++ [.take]) (spool.step .take) where
  text := by
    intro stream
    rw [written_concat, ← holds.text stream]
    unfold step Move.textFor
    dsimp only
    rw [List.flatten_concat, Piece.writtenTo_append, OutputQueue.take, writtenTo_pieces,
      unread_empty]
  order := by
    have same : (spool.step .take).lines = spool.lines := by
      rw [lines_eq wellCut_empty, lines_eq holds.queued]
      unfold step
      dsimp only
      rw [List.flatten_concat, List.filter_append, OutputQueue.take, holds.queued.filter_pieces]
      exact List.append_nil _
    rw [same, holds.order, List.flatMap_append, List.flatMap_singleton, Move.lineEnds,
      List.append_nil]
  taken := by
    intro pieces mem
    rcases List.mem_append.1 mem with before | now
    · exact holds.taken pieces before
    · rw [List.mem_singleton.1 now]
      exact ⟨orderly_pieces holds.queued, holds.queued.pieces⟩
  queued := wellCut_empty

theorem holds_after (moves : List Move) : Holds moves (after moves) := by
  induction moves using List.reverseRecOn with
  | nil => exact holds_empty
  | append_singleton moves move ih =>
      rw [after_concat]
      cases move with
      | write stream text => exact ih.write stream text
      | take => exact ih.take

/-- The queue splits all that is written into its lines: it makes no difference in how many texts
that comes, nothing is lost, moved or joined, and nothing stays behind when it is taken. -/
theorem splits_exactly :
    (∀ (queue : OutputQueue) (stream : OutputStream) (first second : String),
      (queue.write stream first).write stream second = queue.write stream (first ++ second)) ∧
      (∀ moves, Holds moves (after moves)) ∧
      ∀ queue : OutputQueue, queue.take.2.lines = [] ∧ ∀ stream, queue.take.2.tail stream = "" := by
  refine ⟨write_write, holds_after, ?_⟩
  intro queue
  refine ⟨rfl, fun stream => ?_⟩
  cases stream with
  | stdout => rfl
  | stderr => rfl

end Spool

end HangulConsole
