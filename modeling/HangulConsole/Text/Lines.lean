/-!
# Splitting texts

A text is cut at every occurrence of one separator character.  Cutting loses
nothing but the separators: `joinWith_splitAt`.
-/

namespace HangulConsole
namespace Text

/-- The pieces between the occurrences of `separator`; there is always at least one. -/
def splitAt (separator : Char) : List Char -> List (List Char)
  | [] => [[]]
  | c :: rest =>
      if c = separator then
        [] :: splitAt separator rest
      else
        match splitAt separator rest with
        | [] => [[c]]
        | piece :: pieces => (c :: piece) :: pieces

def joinWith (separator : Char) : List (List Char) -> List Char
  | [] => []
  | [piece] => piece
  | piece :: next :: pieces => piece ++ separator :: joinWith separator (next :: pieces)

theorem splitAt_ne_nil (separator : Char) (text : List Char) :
    splitAt separator text ≠ [] := by
  cases text with
  | nil => simp [splitAt]
  | cons c rest =>
      rw [splitAt]
      split
      · simp
      · split <;> simp

theorem joinWith_splitAt (separator : Char) (text : List Char) :
    joinWith separator (splitAt separator text) = text := by
  induction text with
  | nil => rfl
  | cons c rest ih =>
      rw [splitAt]
      cases pieces : splitAt separator rest with
      | nil => exact absurd pieces (splitAt_ne_nil separator rest)
      | cons piece others =>
          rw [pieces] at ih
          split
          · rename_i same
            subst same
            simp [joinWith, ih]
          · cases others with
            | nil => simpa [joinWith] using ih
            | cons next others => simpa [joinWith] using ih

theorem not_mem_of_mem_splitAt {separator : Char} {text piece : List Char}
    (mem : piece ∈ splitAt separator text) : separator ∉ piece := by
  induction text generalizing piece with
  | nil =>
      simp only [splitAt, List.mem_singleton] at mem
      simp [mem]
  | cons c rest ih =>
      rw [splitAt] at mem
      split at mem
      · rcases List.mem_cons.1 mem with rfl | mem
        · simp
        · exact ih mem
      · rename_i other
        split at mem
        · simp only [List.mem_singleton] at mem
          subst mem
          simpa using fun h => other h.symm
        · rename_i first others cut
          rcases List.mem_cons.1 mem with rfl | mem
          · have : separator ∉ first := ih (by simp [cut])
            simp only [List.mem_cons, not_or]
            exact ⟨fun h => other h.symm, this⟩
          · exact ih (by simp [cut, mem])

def fields (separator : Char) (text : String) : List String :=
  (splitAt separator text.toList).map String.ofList

def cutAtFirst (separator : Char -> Bool) : List Char -> Option (List Char × List Char)
  | [] => none
  | c :: rest =>
      if separator c then
        some ([], rest)
      else
        (cutAtFirst separator rest).map fun cut => (c :: cut.1, cut.2)

def dropReturn (line : List Char) : List Char :=
  if line.getLast? = some '\r' then line.dropLast else line

/-- The lines of a text whose line ends are LF or CR LF: each terminated piece without its line end,
and the rest after the last line feed unless it is empty. -/
def lineChars (text : List Char) : List (List Char) :=
  let pieces := splitAt '\n' text
  let last := pieces.getLast?.getD []
  pieces.dropLast.map dropReturn ++ (if last.isEmpty then [] else [last])

def lines (text : String) : List String :=
  (lineChars text.toList).map String.ofList

end Text
end HangulConsole
