import HangulConsole.Text.Blank

/-!
# Occurrences of calls

A call of a name is the name, any number of blanks, and an opening parenthesis.
A marked call has the suspension marker and at least one blank in front of it.
-/

namespace HangulConsole
namespace Calls

def marker : List Char := ['a', 'w', 'a', 'i', 't']

def dropStart? : (start text : List Char) -> Option (List Char)
  | [], text => some text
  | _ :: _, [] => none
  | s :: start, c :: text => if s = c then dropStart? start text else none

theorem eq_append_of_dropStart? {start text rest : List Char}
    (found : dropStart? start text = some rest) : text = start ++ rest := by
  induction start generalizing text with
  | nil => simpa [dropStart?] using found
  | cons s start ih =>
      cases text with
      | nil => simp [dropStart?] at found
      | cons c text =>
          rw [dropStart?] at found
          split at found
          · rename_i same
            simp [same, ih found]
          · simp at found

@[simp] theorem dropStart?_append (start rest : List Char) :
    dropStart? start (start ++ rest) = some rest := by
  induction start with
  | nil => rfl
  | cons s start ih => simp [dropStart?, ih]

def callAt? (name text : List Char) : Option (List Char × List Char) :=
  match dropStart? name text with
  | none => none
  | some rest =>
      match Text.dropBlanks rest with
      | '(' :: after => some (name ++ rest.takeWhile Text.isBlank ++ ['('], after)
      | _ => none

def markedCallAt? (name text : List Char) : Option (List Char × List Char) :=
  match dropStart? marker text with
  | none => none
  | some rest =>
      let blanks := rest.takeWhile Text.isBlank
      if blanks.isEmpty then
        none
      else
        match callAt? name (Text.dropBlanks rest) with
        | none => none
        | some (call, after) => some (marker ++ blanks ++ call, after)

theorem eq_append_of_callAt? {name text call after : List Char}
    (found : callAt? name text = some (call, after)) : text = call ++ after := by
  rw [callAt?] at found
  split at found
  · simp at found
  · rename_i rest start
    split at found
    · rename_i opened blanks
      simp only [Option.some.injEq, Prod.mk.injEq] at found
      rcases found with ⟨rfl, rfl⟩
      have whole : rest = rest.takeWhile Text.isBlank ++ Text.dropBlanks rest := by
        simp [Text.dropBlanks, List.takeWhile_append_dropWhile]
      have text_eq := eq_append_of_dropStart? start
      rw [blanks] at whole
      rw [text_eq]
      conv => lhs; rw [whole]
      simp
    · simp at found

theorem eq_append_of_markedCallAt? {name text call after : List Char}
    (found : markedCallAt? name text = some (call, after)) : text = call ++ after := by
  rw [markedCallAt?] at found
  split at found
  · simp at found
  · rename_i rest start
    dsimp only at found
    split at found
    · simp at found
    · split at found
      · simp at found
      · rename_i inner tail call_eq
        simp only [Option.some.injEq, Prod.mk.injEq] at found
        rcases found with ⟨rfl, rfl⟩
        have whole : rest = rest.takeWhile Text.isBlank ++ Text.dropBlanks rest := by
          simp [Text.dropBlanks, List.takeWhile_append_dropWhile]
        rw [eq_append_of_callAt? call_eq] at whole
        rw [eq_append_of_dropStart? start]
        conv => lhs; rw [whole]
        simp

theorem ne_nil_of_callAt? {name text call after : List Char}
    (found : callAt? name text = some (call, after)) : call ≠ [] := by
  rw [callAt?] at found
  split at found
  · simp at found
  · split at found
    · simp only [Option.some.injEq, Prod.mk.injEq] at found
      simp [← found.1]
    · simp at found

theorem length_lt_of_callAt? {name text call after : List Char}
    (found : callAt? name text = some (call, after)) : after.length < text.length := by
  have := List.length_pos_iff.2 (ne_nil_of_callAt? found)
  rw [eq_append_of_callAt? found, List.length_append]
  omega

theorem length_lt_of_markedCallAt? {name text call after : List Char}
    (found : markedCallAt? name text = some (call, after)) : after.length < text.length := by
  have whole := eq_append_of_markedCallAt? found
  rw [markedCallAt?] at found
  split at found
  · simp at found
  · dsimp only at found
    split at found
    · simp at found
    · split at found
      · simp at found
      · simp only [Option.some.injEq, Prod.mk.injEq] at found
        rw [whole, ← found.1]
        simp [marker]
        omega

end Calls
end HangulConsole
