import HangulConsole.Files.Tree
import HangulConsole.Proofs.Text.Lines

/-!
# Names behind a directory

The parts of a joined path are those of the directory and those of the name, so what is
decided by the end of a path is decided by the name alone.  The extension of a file name is
what stands behind its last dot, unless nothing stands in front of that dot.
-/

namespace HangulConsole
namespace Files

open Text

/-!
# Joined paths
-/

theorem toList_join (dir name : String) :
    (join dir name).toList = name.toList ∨
      ∃ front, (join dir name).toList = front ++ '/' :: name.toList := by
  unfold join
  split
  · exact Or.inl rfl
  · apply Or.inr
    split
    · rename_i closed
      rcases List.getLast?_eq_some_iff.1 (eq_of_beq closed) with ⟨front, dir_eq⟩
      refine ⟨front, ?_⟩
      rw [String.toList_append, dir_eq]
      simp
    · exact ⟨dir.toList, by simp [String.toList_append]⟩

theorem exists_splitAt_join (dir name : String) :
    ∃ front, splitAt '/' (join dir name).toList = front ++ splitAt '/' name.toList := by
  rcases toList_join dir name with same | ⟨front, behind⟩
  · exact ⟨[], by rw [same, List.nil_append]⟩
  · exact ⟨splitAt '/' front, by rw [behind, splitAt_append_separator]⟩

theorem asksDirectory_join (dir name : String) :
    Tree.asksDirectory (join dir name).toList = Tree.asksDirectory name.toList := by
  rcases exists_splitAt_join dir name with ⟨front, pieces⟩
  rcases exists_splitAt_eq '/' name.toList with ⟨closed, last, name_pieces⟩
  unfold Tree.asksDirectory
  rw [pieces, name_pieces, ← List.append_assoc, List.getLast?_concat, List.getLast?_concat]

theorem fileNameChars?_join (dir : String) {name : String} (named : pathParts name.toList ≠ []) :
    fileNameChars? (join dir name).toList = fileNameChars? name.toList := by
  rcases exists_splitAt_join dir name with ⟨front, pieces⟩
  have last_part : (pathParts (join dir name).toList).getLast? =
      (pathParts name.toList).getLast? := by
    unfold pathParts at named ⊢
    rw [pieces, List.filter_append, List.getLast?_append, Option.or_of_isSome]
    rw [List.getLast?_isSome]
    exact named
  unfold fileNameChars?
  rw [last_part]

/-!
# File names and extensions
-/

theorem fileNameChars?_of_last {path last : List Char} {closed : List (List Char)}
    (pieces : splitAt '/' path = closed ++ [last])
    (named : last ≠ [] ∧ last ≠ ['.'] ∧ last ≠ ['.', '.']) :
    pathParts path ≠ [] ∧ fileNameChars? path = some last := by
  have kept : [last].filter (fun part => !part.isEmpty && part != ['.']) = [last] := by
    simp [named.1, named.2.1]
  have parts : pathParts path =
      closed.filter (fun part => !part.isEmpty && part != ['.']) ++ [last] := by
    rw [pathParts, pieces, List.filter_append, kept]
  constructor
  · rw [parts]
    simp
  · rw [fileNameChars?, parts, List.getLast?_concat]
    exact if_neg named.2.2

theorem pathParts_ne_nil_of_fileNameChars? {path name : List Char}
    (found : fileNameChars? path = some name) : pathParts path ≠ [] := by
  intro empty
  rw [fileNameChars?, empty] at found
  cases found

theorem nameExtension?_append {ext : List Char} (undotted : '.' ∉ ext) (front : List Char) :
    nameExtension? (front ++ '.' :: ext) = if front = [] then none else some ext := by
  cases front with
  | nil => simp [nameExtension?, undotted]
  | cons c front =>
      have behind : ((c :: front ++ '.' :: ext).reverse.takeWhile (· != '.')) = ext.reverse := by
        have whole : (c :: front ++ '.' :: ext).reverse =
            ext.reverse ++ '.' :: (c :: front).reverse := by simp
        have free : ∀ d ∈ ext.reverse, (d != '.') = true := by
          intro d mem
          have other : d ≠ '.' := by
            intro same
            rw [same] at mem
            exact undotted (List.mem_reverse.1 mem)
          simpa using other
        rw [whole, List.takeWhile_append_of_pos free]
        simp
      rw [nameExtension?, behind]
      simp

end Files
end HangulConsole
