import HangulConsole.Text.Lines

/-!
# Lines of a growing text

What becomes of the lines of a text when something is added at its end: the first piece
of what is added continues the last piece of the text.
-/

namespace HangulConsole
namespace Text

variable {separator : Char} {text last line : List Char} {closed : List (List Char)}

/-!
# Pieces of a text
-/

theorem exists_splitAt_eq (separator : Char) (text : List Char) :
    ∃ closed last, splitAt separator text = closed ++ [last] := by
  rcases List.eq_nil_or_concat (splitAt separator text) with none | ⟨closed, last, eq⟩
  · exact absurd none (splitAt_ne_nil separator text)
  · exact ⟨closed, last, by rw [eq, List.concat_eq_append]⟩

theorem joinWith_concat (separator : Char) (closed : List (List Char)) (last : List Char) :
    joinWith separator (closed ++ [last]) = closed.flatMap (· ++ [separator]) ++ last := by
  induction closed with
  | nil => rfl
  | cons piece closed ih =>
      cases closed with
      | nil => simp [joinWith]
      | cons next closed =>
          rw [List.cons_append, List.cons_append, joinWith, ← List.cons_append, ih]
          simp

theorem eq_of_splitAt (pieces : splitAt separator text = closed ++ [last]) :
    text = closed.flatMap (· ++ [separator]) ++ last := by
  rw [← joinWith_concat, ← pieces, joinWith_splitAt]

theorem not_mem_of_pieces {piece : List Char} (pieces : splitAt separator text = closed ++ [last])
    (mem : piece ∈ closed ++ [last]) : separator ∉ piece := by
  rw [← pieces] at mem
  exact not_mem_of_mem_splitAt mem

theorem last_eq_nil_iff (pieces : splitAt separator text = closed ++ [last]) :
    last = [] ↔ ∀ c ∈ text.getLast?, c = separator := by
  have whole := eq_of_splitAt pieces
  have free := not_mem_of_pieces pieces List.mem_concat_self
  constructor
  · rintro rfl c ends
    rcases List.eq_nil_or_concat closed with rfl | ⟨others, piece, rfl⟩
    · rw [whole] at ends
      cases ends
    · rw [whole] at ends
      simpa [eq_comm] using ends
  · intro ends
    rcases List.eq_nil_or_concat last with none | ⟨front, c, rfl⟩
    · exact none
    · have at_end : c ∈ text.getLast? := by
        rw [whole]
        simp
      rw [ends c at_end] at free
      exact absurd (by simp) free

/-!
# Pieces of a longer text
-/

theorem splitAt_append_of_not_mem (free : separator ∉ text) {more first : List Char}
    {rest : List (List Char)} (pieces : splitAt separator more = first :: rest) :
    splitAt separator (text ++ more) = (text ++ first) :: rest := by
  induction text with
  | nil => exact pieces
  | cons c text ih =>
      have c_ne : ¬ c = separator := fun same => free (by simp [same])
      rw [List.cons_append, splitAt, if_neg c_ne, ih fun mem => free (List.mem_cons_of_mem c mem)]
      rfl

theorem splitAt_append_cons (free : separator ∉ text) (rest : List Char) :
    splitAt separator (text ++ separator :: rest) = text :: splitAt separator rest := by
  have pieces : splitAt separator (separator :: rest) = [] :: splitAt separator rest := if_pos rfl
  rw [splitAt_append_of_not_mem free pieces, List.append_nil]

theorem splitAt_flatMap_append (free : ∀ piece ∈ closed, separator ∉ piece) (rest : List Char) :
    splitAt separator (closed.flatMap (· ++ [separator]) ++ rest) =
      closed ++ splitAt separator rest := by
  induction closed with
  | nil => rfl
  | cons piece closed ih =>
      have others := ih fun other mem => free other (List.mem_cons_of_mem piece mem)
      rw [List.flatMap_cons, List.append_assoc, List.append_assoc, List.singleton_append,
        splitAt_append_cons (free piece List.mem_cons_self), others]
      rfl

theorem splitAt_append (pieces : splitAt separator text = closed ++ [last])
    {more first : List Char} {rest : List (List Char)}
    (added : splitAt separator more = first :: rest) :
    splitAt separator (text ++ more) = closed ++ (last ++ first) :: rest := by
  have closed_free (piece : List Char) (mem : piece ∈ closed) : separator ∉ piece :=
    not_mem_of_pieces pieces (List.mem_append_left _ mem)
  have last_free := not_mem_of_pieces pieces List.mem_concat_self
  rw [eq_of_splitAt pieces, List.append_assoc, splitAt_flatMap_append closed_free,
    splitAt_append_of_not_mem last_free added]

theorem splitAt_append_separator (separator : Char) (text rest : List Char) :
    splitAt separator (text ++ separator :: rest) =
      splitAt separator text ++ splitAt separator rest := by
  rcases exists_splitAt_eq separator text with ⟨closed, last, pieces⟩
  have added : splitAt separator (separator :: rest) = [] :: splitAt separator rest := if_pos rfl
  rw [splitAt_append pieces added, pieces]
  simp

/-!
# Lines of a longer text
-/

theorem lineChars_eq (pieces : splitAt '\n' text = closed ++ [last]) :
    lineChars text = closed.map dropReturn ++ (if last.isEmpty then [] else [last]) := by
  rw [lineChars, pieces]
  simp

theorem lineChars_append (pieces : splitAt '\n' text = closed ++ [last])
    {more first : List Char} {rest : List (List Char)}
    (added : splitAt '\n' more = first :: rest) :
    lineChars (text ++ more ++ ['\n']) =
      closed.map dropReturn ++ dropReturn (last ++ first) :: rest.map dropReturn := by
  rcases exists_splitAt_eq '\n' (text ++ more) with ⟨front, back, eq⟩
  have feed : splitAt '\n' ['\n'] = [[], []] := rfl
  have whole :
      splitAt '\n' (text ++ more ++ ['\n']) = closed ++ (last ++ first) :: rest ++ [[]] := by
    rw [splitAt_append eq feed, ← splitAt_append pieces added, eq]
    simp
  rw [lineChars_eq whole]
  simp

theorem lineChars_append_newline (text rest : List Char) :
    lineChars (text ++ '\n' :: rest) = (splitAt '\n' text).map dropReturn ++ lineChars rest := by
  rcases exists_splitAt_eq '\n' rest with ⟨closed, last, pieces⟩
  have whole : splitAt '\n' (text ++ '\n' :: rest) = (splitAt '\n' text ++ closed) ++ [last] := by
    rw [splitAt_append_separator, pieces, List.append_assoc]
  rw [lineChars_eq whole, lineChars_eq pieces, List.map_append, List.append_assoc]

theorem lineChars_concat_newline (text : List Char) :
    lineChars (text ++ ['\n']) = (splitAt '\n' text).map dropReturn := by
  rw [lineChars_append_newline]
  exact List.append_nil _

theorem mem_of_mem_dropReturn {c : Char} (mem : c ∈ dropReturn line) : c ∈ line := by
  rw [dropReturn] at mem
  split at mem
  · exact (List.dropLast_sublist line).subset mem
  · exact mem

theorem not_mem_of_mem_lineChars (mem : line ∈ lineChars text) : '\n' ∉ line := by
  rcases exists_splitAt_eq '\n' text with ⟨closed, last, pieces⟩
  rw [lineChars_eq pieces] at mem
  rcases List.mem_append.1 mem with old | new
  · rcases List.mem_map.1 old with ⟨piece, also, rfl⟩
    have free := not_mem_of_pieces pieces (List.mem_append_left _ also)
    exact fun found => free (mem_of_mem_dropReturn found)
  · split at new
    · cases new
    · rw [List.mem_singleton.1 new]
      exact not_mem_of_pieces pieces List.mem_concat_self

/-!
# One more line
-/

theorem prefix_dropReturn (marker : List Char) {rest : List Char} (more : rest ≠ []) :
    marker <+: dropReturn (marker ++ rest) := by
  rw [dropReturn]
  split
  · rw [List.dropLast_append_of_ne_nil more]
    exact List.prefix_append marker _
  · exact List.prefix_append marker rest

theorem dropReturn_append_ne {more : List Char} {c : Char} (mem : c ∈ more) (visible : c ≠ '\r') :
    dropReturn (line ++ more) ≠ line := by
  intro same
  have some_more : more ≠ [] := List.ne_nil_of_mem mem
  rw [dropReturn] at same
  split at same
  · rename_i ends
    rw [List.dropLast_append_of_ne_nil some_more, List.append_right_eq_self] at same
    rcases List.eq_nil_or_concat more with none | ⟨front, other, rfl⟩
    · exact some_more none
    · rw [List.concat_eq_append, List.dropLast_concat] at same
      rw [List.concat_eq_append, same, List.nil_append, List.mem_singleton] at mem
      rw [List.concat_eq_append, same, ← mem] at ends
      simp [visible] at ends
  · rw [List.append_right_eq_self] at same
    exact some_more same

/-- What is added makes one new line behind a marker exactly if the text was at the start of a line
and nothing that is added holds a line feed. -/
theorem lineChars_append_iff (text marker message : List Char) :
    (∃ line, lineChars (text ++ (marker ++ ' ' :: message) ++ ['\n']) = lineChars text ++ [line] ∧
        marker <+: line) ↔
      (∀ c ∈ text.getLast?, c = '\n') ∧ '\n' ∉ marker ∧ '\n' ∉ message := by
  rcases exists_splitAt_eq '\n' text with ⟨closed, last, pieces⟩
  rw [← last_eq_nil_iff pieces, lineChars_eq pieces]
  constructor
  · rintro ⟨line, lines, marked⟩
    have mem : line ∈ lineChars (text ++ (marker ++ ' ' :: message) ++ ['\n']) := by
      rw [lines]
      exact List.mem_concat_self
    have free := not_mem_of_mem_lineChars mem
    have marker_free : '\n' ∉ marker := fun mem => free (marked.subset mem)
    cases cut : splitAt '\n' message with
    | nil => exact absurd cut (splitAt_ne_nil _ _)
    | cons first rest =>
        have added :
            splitAt '\n' (marker ++ ' ' :: message) = (marker ++ ' ' :: first) :: rest := by
          have spaced : '\n' ∉ marker ++ [' '] := by simp [marker_free]
          have cut := splitAt_append_of_not_mem spaced cut
          simpa using cut
        rw [lineChars_append pieces added, List.append_assoc, List.append_cancel_left_eq] at lines
        by_cases fresh : last = []
        · refine ⟨fresh, marker_free, ?_⟩
          rw [fresh] at lines
          simp only [List.isEmpty_nil, if_true, List.nil_append, List.cons.injEq,
            List.map_eq_nil_iff] at lines
          rw [lines.2] at cut
          have whole : splitAt '\n' message = [] ++ [first] := cut
          have free := not_mem_of_pieces whole List.mem_concat_self
          rwa [eq_of_splitAt whole]
        -- An unfinished last line grows, so one of the old lines is gone.
        · simp only [List.isEmpty_iff, fresh, if_false, List.singleton_append,
            List.cons.injEq] at lines
          exact absurd lines.1 (dropReturn_append_ne (c := ' ') (by simp) (by decide))
  · rintro ⟨fresh, marker_free, message_free⟩
    have free : '\n' ∉ marker ++ ' ' :: message := by simp [marker_free, message_free]
    have none : splitAt '\n' [] = [[]] := rfl
    have added := splitAt_append_of_not_mem free none
    rw [List.append_nil] at added
    refine ⟨dropReturn (marker ++ ' ' :: message), ?_, prefix_dropReturn marker (by simp)⟩
    rw [lineChars_append pieces added, fresh]
    simp

end Text
end HangulConsole
