import HangulConsole.Program
import HangulConsole.Proofs.Files.Path
import HangulConsole.Proofs.Files.Tree

/-!
# Saved programs and how they are loaded

Saving decides about the extension by the given name, loading by the whole path.  They agree
on every name but one that names no file: with nothing in front of it, the added extension is
the name of the file, and a file of that name has no extension.
-/

namespace HangulConsole
namespace Program

open Text Files

variable {tree tree' : Tree} {dir name path text : String}

/-!
# Names of program files
-/

/-- A name that is empty or ends in a slash. -/
def NamesNoFile (name : String) : Prop :=
  ∀ c ∈ name.toList.getLast?, c = '/'

theorem namesNoFile_iff {closed : List (List Char)} {last : List Char}
    (pieces : splitAt '/' name.toList = closed ++ [last]) : NamesNoFile name ↔ last = [] :=
  (last_eq_nil_iff pieces).symm

theorem isProgramFile_of_fileNameChars? {file : List Char}
    (found : fileNameChars? path.toList = some file) :
    isProgramFile path = (nameExtension? file).any fun ext =>
      asciiLower (String.ofList ext) == extension := by
  unfold isProgramFile extension?
  rw [found, Option.bind_some]
  cases nameExtension? file <;> rfl

theorem fileNameChars?_of_isProgramFile (program : isProgramFile path = true) :
    ∃ file, fileNameChars? path.toList = some file := by
  unfold isProgramFile extension? at program
  cases found : fileNameChars? path.toList with
  | none => simp [found] at program
  | some file => exact ⟨file, rfl⟩

theorem isProgramFile_join (dir : String) (named : pathParts name.toList ≠ []) :
    isProgramFile (join dir name) = isProgramFile name := by
  unfold isProgramFile extension?
  rw [fileNameChars?_join dir named]

theorem fileNameChars?_append_extension {closed : List (List Char)} {last : List Char}
    (pieces : splitAt '/' name.toList = closed ++ [last]) :
    pathParts (name ++ "." ++ extension).toList ≠ [] ∧
      fileNameChars? (name ++ "." ++ extension).toList =
        some (last ++ '.' :: extension.toList) := by
  have text_eq : (name ++ "." ++ extension).toList = name.toList ++ '.' :: extension.toList := by
    simp [String.toList_append]
  have added : splitAt '/' ('.' :: extension.toList) = ['.' :: extension.toList] := by decide
  rw [text_eq]
  apply fileNameChars?_of_last (splitAt_append pieces added)
  have long : 2 < (last ++ '.' :: extension.toList).length := by
    rw [List.length_append]
    have : ('.' :: extension.toList).length = 4 := by decide
    omega
  -- It is longer than the names that lead nowhere.
  refine ⟨?_, ?_, ?_⟩ <;> intro same <;> rw [same] at long <;> simp at long

theorem isProgramFile_append_extension :
    isProgramFile (name ++ "." ++ extension) = true ↔ ¬NamesNoFile name := by
  rcases exists_splitAt_eq '/' name.toList with ⟨closed, last, pieces⟩
  have undotted : '.' ∉ extension.toList := by decide
  have own : (asciiLower (String.ofList extension.toList) == extension) = true := by decide
  rw [isProgramFile_of_fileNameChars? (fileNameChars?_append_extension pieces).2,
    nameExtension?_append undotted, namesNoFile_iff pieces]
  by_cases empty : last = []
  · simp [empty]
  · rw [if_neg empty, Option.any_some]
    exact iff_of_true own empty

theorem isProgramFile_join_withExtension
    (leads : Tree.asksDirectory (join dir (withExtension name)).toList = false) :
    isProgramFile (join dir (withExtension name)) = true ↔ ¬NamesNoFile name := by
  rcases exists_splitAt_eq '/' name.toList with ⟨closed, last, pieces⟩
  by_cases program : isProgramFile name = true
  · -- The extension is there, so nothing was added, and a path to a file does not end in a slash.
    have kept : withExtension name = name := if_pos program
    rcases fileNameChars?_of_isProgramFile program with ⟨file, found⟩
    rw [kept, asksDirectory_join, Tree.asksDirectory, pieces, List.getLast?_concat] at leads
    rw [kept, isProgramFile_join dir (pathParts_ne_nil_of_fileNameChars? found),
      namesNoFile_iff pieces]
    simp only [program, true_iff]
    rintro rfl
    simp at leads
  · have added : withExtension name = name ++ "." ++ extension := if_neg program
    rw [added, isProgramFile_join dir (fileNameChars?_append_extension pieces).1]
    exact isProgramFile_append_extension

/-!
# Saving and loading
-/

theorem run_save (tree : Tree) (dir name text : String) :
    (save Tree.disk dir name text).run tree =
      match tree.write (join dir (withExtension name)) (encode text) with
      | .error fault => (.error (.file fault), tree)
      | .ok tree' => (.ok (join dir (withExtension name)), tree') := by
  unfold save Disk.writeText Tree.disk
  cases written : tree.write (join dir (withExtension name)) (encode text) <;>
    simp [written] <;> rfl

theorem run_load (tree : Tree) (path : String) :
    (load Tree.disk path).run tree =
      (if isProgramFile path then (textOf (tree.read path)).mapError .file
        else .error (.notProgramFile path), tree) := by
  unfold load Disk.readText Tree.disk
  split
  · cases found : textOf (tree.read path) with
    | error fault =>
        simp [found]
        rfl
    | ok text =>
        simp [found]
        rfl
  · rfl

/-- A program that was saved is loaded as it was saved exactly if its name names a file; no other
file changes in either case. -/
theorem load_of_saved_iff
    (saved : (save Tree.disk dir name text).run tree = (.ok path, tree')) :
    ((load Tree.disk path).run tree' = (.ok text, tree') ↔ ¬NamesNoFile name) ∧
      (NamesNoFile name ->
        (load Tree.disk path).run tree' = (.error (.notProgramFile path), tree')) ∧
      ∃ place, tree'.resolve path.toList = .ok (.found place (.file (encode text))) ∧
        ∀ other, other ≠ place -> tree'.entryAt? other = tree.entryAt? other := by
  rw [run_save] at saved
  split at saved
  · cases saved
  · rename_i written
    cases saved
    rcases Tree.eq_put_of_write written with ⟨_, _, _, _, leads, _⟩
    have readable : textOf (tree'.read (join dir (withExtension name))) = .ok text := by
      rw [Tree.read_of_written written]
      simp only [textOf, decode?_encode]
    have program := isProgramFile_join_withExtension leads
    refine ⟨?_, ?_, Tree.resolve_of_written written⟩
    · rw [run_load, readable, ← program]
      by_cases is_program : isProgramFile (join dir (withExtension name)) = true
      · rw [if_pos is_program]
        exact iff_of_true rfl is_program
      · rw [if_neg is_program]
        refine iff_of_false ?_ is_program
        intro same
        cases same
    · intro unnamed
      rw [run_load, if_neg fun is_program => program.1 is_program unnamed]

theorem load_of_saved_iff_hello :
    ∃ tree', (save Tree.disk "." "hello" "입력()\n").run Tree.scratch = (.ok "./hello.kpy", tree') ∧
      (load Tree.disk "./hello.kpy").run tree' = (.ok "입력()\n", tree') := by
  have saved : (save Tree.disk "." "hello" "입력()\n").run Tree.scratch =
      (.ok "./hello.kpy", ((save Tree.disk "." "hello" "입력()\n").run Tree.scratch).2) := rfl
  refine ⟨_, saved, (load_of_saved_iff saved).1.2 ?_⟩
  intro unnamed
  exact absurd (unnamed 'o' rfl) (by decide)

/-- What is saved under the empty name cannot be loaded. -/
theorem not_load_of_saved_nameless :
    ∃ tree', (save Tree.disk "." "" "1").run Tree.scratch = (.ok "./.kpy", tree') ∧
      (load Tree.disk "./.kpy").run tree' ≠ (.ok "1", tree') := by
  refine ⟨((save Tree.disk "." "" "1").run Tree.scratch).2, rfl, ?_⟩
  intro loaded
  have refused : (load Tree.disk "./.kpy").run ((save Tree.disk "." "" "1").run Tree.scratch).2 =
      (.error (.notProgramFile "./.kpy"), ((save Tree.disk "." "" "1").run Tree.scratch).2) := rfl
  rw [refused] at loaded
  cases loaded

end Program
end HangulConsole
