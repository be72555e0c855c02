import HangulConsole.Proofs.Text.Lines

/-!
# Lines of a program text

To a compiler a line of a program ends at a line feed, at a carriage return, or at a carriage return
with a line feed behind it.  So a text is either one line, or a line, its end and a shorter text:
`sourceLines_induction`.
-/

namespace HangulConsole
namespace Text

def unifyLineEnds : List Char -> List Char
  | [] => []
  | '\r' :: '\n' :: rest => '\n' :: unifyLineEnds rest
  | '\r' :: rest => '\n' :: unifyLineEnds rest
  | c :: rest => c :: unifyLineEnds rest

/-- The lines of a program text, without their ends; what stands behind the last end is a line,
too. -/
def sourceLines (text : List Char) : List (List Char) :=
  splitAt '\n' (unifyLineEnds text)

structure Unbroken (line : List Char) : Prop where
  newline : '\n' ∉ line
  carriage : '\r' ∉ line

/-- What ends a line in front of the rest of a text. -/
inductive LineEnd : (ending rest : List Char) -> Prop where
  | newline {rest : List Char} : LineEnd ['\n'] rest
  | both {rest : List Char} : LineEnd ['\r', '\n'] rest
  | carriage {rest : List Char} : rest.head? ≠ some '\n' -> LineEnd ['\r'] rest

variable {line line' ending rest text : List Char}

theorem unbroken_nil : Unbroken [] where
  newline := List.not_mem_nil
  carriage := List.not_mem_nil

theorem Unbroken.append (unbroken : Unbroken line) (unbroken' : Unbroken line') :
    Unbroken (line ++ line') where
  newline := by simp [unbroken.newline, unbroken'.newline]
  carriage := by simp [unbroken.carriage, unbroken'.carriage]

/-!
# Line ends
-/

theorem unifyLineEnds_cons {c : Char} (inside : c ≠ '\r') (rest : List Char) :
    unifyLineEnds (c :: rest) = c :: unifyLineEnds rest := by
  rw [unifyLineEnds]
  · intro _ same
    exact absurd same inside
  · exact inside

theorem unifyLineEnds_append (unbroken : '\r' ∉ line) (rest : List Char) :
    unifyLineEnds (line ++ rest) = line ++ unifyLineEnds rest := by
  induction line with
  | nil => rfl
  | cons c line ih =>
      rw [List.mem_cons, not_or] at unbroken
      rw [List.cons_append, unifyLineEnds_cons (Ne.symm unbroken.1), ih unbroken.2]
      rfl

theorem LineEnd.unifyLineEnds_append (ends : LineEnd ending rest) :
    unifyLineEnds (ending ++ rest) = '\n' :: unifyLineEnds rest := by
  cases ends with
  | newline =>
      have inside : '\n' ≠ '\r' := by decide
      exact unifyLineEnds_cons inside rest
  | both => rfl
  | carriage apart =>
      rw [List.singleton_append, unifyLineEnds]
      rintro more rfl
      exact apart rfl

/-!
# Lines
-/

theorem sourceLines_of_unbroken (unbroken : Unbroken line) : sourceLines line = [line] := by
  have whole := unifyLineEnds_append unbroken.carriage []
  have nothing : splitAt '\n' [] = [[]] := rfl
  have pieces := splitAt_append_of_not_mem unbroken.newline nothing
  rw [List.append_nil] at whole pieces
  rw [sourceLines, whole, unifyLineEnds, List.append_nil]
  exact pieces

theorem sourceLines_append (unbroken : Unbroken line) (ends : LineEnd ending rest) :
    sourceLines (line ++ (ending ++ rest)) = line :: sourceLines rest := by
  unfold sourceLines
  rw [unifyLineEnds_append unbroken.carriage, ends.unifyLineEnds_append,
    splitAt_append_cons unbroken.newline]

theorem sourceLines_flatMap_append {lines : List (List Char)}
    (unbroken : ∀ line ∈ lines, Unbroken line) (rest : List Char) :
    sourceLines (lines.flatMap (· ++ ['\n']) ++ rest) = lines ++ sourceLines rest := by
  induction lines with
  | nil => rfl
  | cons line lines ih =>
      rw [List.forall_mem_cons] at unbroken
      rw [List.flatMap_cons, List.append_assoc, List.append_assoc,
        sourceLines_append unbroken.1 .newline, ih unbroken.2]
      rfl

theorem sourceLines_induction {motive : List Char -> Prop}
    (last : ∀ line, Unbroken line -> motive line)
    (ended : ∀ line ending rest, Unbroken line -> LineEnd ending rest -> motive rest ->
      motive (line ++ (ending ++ rest)))
    (text : List Char) : motive text := by
  -- What was read of the current line is carried along.
  suffices general : ∀ line, Unbroken line -> motive (line ++ text) from general [] unbroken_nil
  induction text using unifyLineEnds.induct with
  | case1 =>
      intro line unbroken
      rw [List.append_nil]
      exact last line unbroken
  | case2 rest ih =>
      intro line unbroken
      exact ended line ['\r', '\n'] rest unbroken .both (ih [] unbroken_nil)
  | case3 rest apart ih =>
      intro line unbroken
      refine ended line ['\r'] rest unbroken (.carriage ?_) (ih [] unbroken_nil)
      intro feed
      rcases List.head?_eq_some_iff.1 feed with ⟨more, rfl⟩
      exact apart more rfl
  | case4 c rest apart inside ih =>
      intro line unbroken
      by_cases feed : c = '\n'
      · rw [feed]
        exact ended line ['\n'] rest unbroken .newline (ih [] unbroken_nil)
      · have single : Unbroken [c] := by
          constructor
          · simpa [eq_comm] using feed
          · simpa [eq_comm] using inside
        have longer := ih (line ++ [c]) (unbroken.append single)
        rwa [List.append_assoc, List.singleton_append] at longer

end Text
end HangulConsole
