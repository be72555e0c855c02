import HangulConsole.Proofs.Output.Cut
import HangulConsole.Proofs.Transcript

/-!
# Markers at the beginning of lines

A transcript puts its marker in front of every piece of error output.  That is in front of every
line, as long as no line comes in several pieces.
-/

namespace HangulConsole

namespace Text

/-- Puts a marker in front of every line of a text that begins within a line, or at the start of
one. -/
def markLinesFrom (marker : List Char) : Bool -> List Char -> List Char
  | _, [] => []
  | atStart, c :: rest =>
      (if atStart then marker else []) ++ c :: markLinesFrom marker (c = '\n') rest

def markLines (marker text : String) : String :=
  String.ofList (markLinesFrom marker.toList true text.toList)

variable {marker line rest : List Char} {atStart : Bool}

theorem markLinesFrom_false_append (unbroken : '\n' ∉ line) (rest : List Char) :
    markLinesFrom marker false (line ++ rest) = line ++ markLinesFrom marker false rest := by
  induction line with
  | nil => rfl
  | cons c line ih =>
      rw [List.mem_cons, not_or] at unbroken
      have inside : decide (c = '\n') = false := decide_eq_false (Ne.symm unbroken.1)
      simp [markLinesFrom, inside, ih unbroken.2]

theorem markLinesFrom_append (unbroken : '\n' ∉ line) (nonempty : line ≠ []) (rest : List Char) :
    markLinesFrom marker atStart (line ++ rest) =
      (if atStart then marker else []) ++ line ++ markLinesFrom marker false rest := by
  cases line with
  | nil => exact absurd rfl nonempty
  | cons c line =>
      rw [List.mem_cons, not_or] at unbroken
      have inside : decide (c = '\n') = false := decide_eq_false (Ne.symm unbroken.1)
      simp [markLinesFrom, inside, markLinesFrom_false_append unbroken.2]

theorem markLinesFrom_nil (atStart : Bool) (text : List Char) :
    markLinesFrom [] atStart text = text := by
  induction text generalizing atStart with
  | nil => rfl
  | cons c rest ih => rw [markLinesFrom, ite_self, List.nil_append, ih]

theorem markLinesFrom_newline (rest : List Char) :
    markLinesFrom marker atStart ('\n' :: rest) =
      (if atStart then marker else []) ++ '\n' :: markLinesFrom marker true rest := by
  simp [markLinesFrom]

end Text

open Text

variable {marker : List Char} {atStart : Bool} {piece : Piece} {pieces : List Piece}

theorem Piece.WellCut.markLinesFrom_append (wellCut : piece.WellCut) (rest : List Char) :
    markLinesFrom marker atStart (piece.written.toList ++ rest) =
      (if atStart then marker else []) ++ piece.written.toList ++
        markLinesFrom marker piece.complete rest := by
  rw [piece.toList_written]
  cases complete : piece.complete with
  | false =>
      have nonempty : piece.text.toList ≠ [] := by simpa using wellCut.nonempty complete
      simpa using Text.markLinesFrom_append wellCut.unbroken nonempty rest
  | true =>
      by_cases nonempty : piece.text.toList = []
      · simp [nonempty, markLinesFrom_newline]
      · simp [Text.markLinesFrom_append wellCut.unbroken nonempty, markLinesFrom_newline]

namespace Piece

def allWritten (pieces : List Piece) : List Char :=
  pieces.flatMap fun piece => piece.written.toList

def allMarked (marker : List Char) (pieces : List Piece) : List Char :=
  pieces.flatMap fun piece => marker ++ piece.written.toList

theorem length_markLinesFrom_le (wellCut : ∀ piece ∈ pieces, piece.WellCut) (atStart : Bool) :
    (markLinesFrom marker atStart (allWritten pieces)).length ≤
      (allMarked marker pieces).length := by
  induction pieces generalizing atStart with
  | nil => exact Nat.le_refl 0
  | cons piece rest ih =>
      rw [List.forall_mem_cons] at wellCut
      have later := ih wellCut.2 piece.complete
      rw [allWritten, List.flatMap_cons, wellCut.1.markLinesFrom_append, allMarked,
        List.flatMap_cons]
      rw [allWritten, allMarked] at later
      cases atStart with
      | false =>
          simp only [List.length_append, Bool.false_eq_true, if_false, List.length_nil]
          omega
      | true =>
          simp only [List.length_append, if_true]
          omega

theorem markLinesFrom_false_eq_allMarked_iff
    (wellCut : ∀ other ∈ piece :: pieces, other.WellCut) :
    markLinesFrom marker false (allWritten (piece :: pieces)) = allMarked marker (piece :: pieces) ↔
      marker = [] := by
  constructor
  · -- The right side has a marker more in front of the first piece and no fewer behind it.
    intro same
    rw [List.forall_mem_cons] at wellCut
    have later : (markLinesFrom marker piece.complete (allWritten pieces)).length ≤
        (allMarked marker pieces).length := length_markLinesFrom_le wellCut.2 piece.complete
    rw [allWritten, List.flatMap_cons, wellCut.1.markLinesFrom_append, allMarked,
      List.flatMap_cons] at same
    have lengths := congrArg List.length same
    rw [allWritten, allMarked] at later
    simp only [List.length_append, Bool.false_eq_true, if_false, List.length_nil] at lengths
    rw [← List.length_eq_zero_iff]
    omega
  · rintro rfl
    exact markLinesFrom_nil false _

/-- Every line has its marker once if and only if no piece but the last one leaves its line
unfinished. -/
theorem markLinesFrom_eq_allMarked_iff (wellCut : ∀ piece ∈ pieces, piece.WellCut) :
    markLinesFrom marker true (allWritten pieces) = allMarked marker pieces ↔
      marker = [] ∨ ∀ piece ∈ pieces.dropLast, piece.complete = true := by
  induction pieces with
  | nil => exact iff_of_true rfl (.inr fun _ mem => nomatch mem)
  | cons piece rest ih =>
      rw [List.forall_mem_cons] at wellCut
      have head (marked : List Char) : markLinesFrom marker true (allWritten (piece :: rest)) =
          marker ++ piece.written.toList ++ marked ↔
          markLinesFrom marker piece.complete (allWritten rest) = marked := by
        rw [allWritten, List.flatMap_cons, wellCut.1.markLinesFrom_append, if_pos rfl,
          List.append_cancel_left_eq]
        rfl
      rw [allMarked, List.flatMap_cons, head]
      cases rest with
      | nil => exact iff_of_true rfl (.inr fun _ mem => nomatch mem)
      | cons next rest =>
          rw [List.dropLast_cons_cons, List.forall_mem_cons]
          cases complete : piece.complete with
          | true =>
              rw [← allMarked, ih wellCut.2]
              simp only [true_and]
          | false =>
              rw [← allMarked, markLinesFrom_false_eq_allMarked_iff wellCut.2]
              simp

/-!
# Pieces of one stream
-/

theorem toList_writtenTo {stream : OutputStream} (all : ∀ piece ∈ pieces, piece.stream = stream) :
    (writtenTo stream pieces).toList = allWritten pieces := by
  have kept : pieces.filter (fun piece => piece.stream = stream) = pieces :=
    List.filter_eq_self.2 fun piece mem => decide_eq_true (all piece mem)
  rw [writtenTo, kept, String.toList_join, List.flatMap_map]
  rfl

theorem stream_ne_of_writtenTo_eq_empty {stream : OutputStream}
    (wellCut : ∀ piece ∈ pieces, piece.WellCut) (nothing : writtenTo stream pieces = "") :
    ∀ piece ∈ pieces, piece.stream ≠ stream := by
  intro piece mem same
  have none : (writtenTo stream pieces).toList = [] := String.toList_eq_nil_iff.2 nothing
  rw [writtenTo, String.toList_join, List.flatMap_map, List.flatMap_eq_nil_iff] at none
  have kept : piece ∈ pieces.filter fun piece => piece.stream = stream :=
    List.mem_filter.2 ⟨mem, decide_eq_true same⟩
  exact (wellCut piece mem).written_ne_nil (none piece kept)

theorem shown_of_stderr (marker : String) (isError : piece.stream = .stderr) :
    piece.shown marker = marker ++ piece.written := by
  rw [shown, isError, written]
  cases piece.complete with
  | true => exact String.append_assoc
  | false => exact String.append_empty

end Piece

namespace Transcript

theorem toList_text_foldl_receive (marker : String) (transcript : Transcript)
    (errors : ∀ piece ∈ pieces, piece.stream = .stderr) :
    (pieces.foldl (receive marker) transcript).text.toList =
      transcript.text.toList ++ Piece.allMarked marker.toList pieces := by
  induction pieces generalizing transcript with
  | nil => exact (List.append_nil _).symm
  | cons piece rest ih =>
      rw [List.forall_mem_cons] at errors
      rw [List.foldl_cons, ih _ errors.2, text_receive, Piece.shown_of_stderr marker errors.1,
        Piece.allMarked, Piece.allMarked, List.flatMap_cons, String.toList_append,
        String.toList_append, List.append_assoc]

end Transcript

end HangulConsole
