import HangulConsole.Calls.Marking
import HangulConsole.Proofs.Text.Classes

/-!
# Where a call can stand

A call ends at the first opening parenthesis.  So in a text that is cut at a
parenthesis, or at any other character that no call holds, the cut says whether a
call begins in front of it, and a text without a parenthesis holds no call.
-/

namespace HangulConsole
namespace Calls

open Text

/-!
# Lists that are cut at a character
-/

theorem append_cons_inj_of_not_mem {α : Type _} {x y : α} :
    ∀ {us vs rest after : List α},
      y ∉ us -> x ∉ vs -> us ++ x :: rest = vs ++ y :: after ->
      us = vs ∧ x = y ∧ rest = after
  | [], [], _, _, _, _, h => by
      injection h with same others
      exact ⟨rfl, same, others⟩
  | [], v :: vs, _, _, _, x_not_mem, h => by
      injection h with same _
      exact absurd (List.mem_cons.2 (Or.inl same)) x_not_mem
  | u :: us, [], _, _, y_not_mem, _, h => by
      injection h with same _
      exact absurd (List.mem_cons.2 (Or.inl same.symm)) y_not_mem
  | u :: us, v :: vs, _, _, y_not_mem, x_not_mem, h => by
      injection h with same others
      have tails := append_cons_inj_of_not_mem (fun mem => y_not_mem (List.mem_cons_of_mem _ mem))
        (fun mem => x_not_mem (List.mem_cons_of_mem _ mem)) others
      exact ⟨by rw [same, tails.1], tails.2⟩

/-!
# Call names
-/

theorem isCallName_iff {name : List Char} :
    isCallName name = true ↔ name ≠ [] ∧ ∀ c ∈ name, isIdentifierChar c = true := by
  simp [isCallName]

theorem ne_nil_of_isCallName {name : List Char} (valid : isCallName name = true) : name ≠ [] :=
  (isCallName_iff.1 valid).1

theorem isIdentifierChar_of_isCallName {name : List Char} (valid : isCallName name = true)
    {c : Char} (mem : c ∈ name) : isIdentifierChar c = true :=
  (isCallName_iff.1 valid).2 c mem

/-!
# The shape of a call

`NameAndBlanks name text` says that the text is the name with any number of blanks
behind it; a call is such a text with an opening parenthesis.
-/

def AllBlank (text : List Char) : Prop :=
  ∀ c ∈ text, isBlank c = true

def NameAndBlanks (name text : List Char) : Prop :=
  ∃ blanks, AllBlank blanks ∧ text = name ++ blanks

def MarkedNameAndBlanks (name text : List Char) : Prop :=
  ∃ gap rest, gap ≠ [] ∧ AllBlank gap ∧ NameAndBlanks name rest ∧ text = marker ++ gap ++ rest

theorem dropBlanks_eq_of_allBlank {blanks rest : List Char} {c : Char} (blank : AllBlank blanks)
    (stop : isBlank c = false) : dropBlanks (blanks ++ c :: rest) = c :: rest := by
  rw [dropBlanks, List.dropWhile_append_of_pos blank, List.dropWhile_cons_of_neg (by simp [stop])]

theorem takeWhile_eq_of_allBlank {blanks rest : List Char} {c : Char} (blank : AllBlank blanks)
    (stop : isBlank c = false) : (blanks ++ c :: rest).takeWhile isBlank = blanks := by
  rw [List.takeWhile_append_of_pos blank, List.takeWhile_cons_of_neg (by simp [stop]),
    List.append_nil]

theorem allBlank_takeWhile (text : List Char) : AllBlank (text.takeWhile isBlank) := by
  have all := List.all_takeWhile (l := text) (p := isBlank)
  exact List.all_eq_true.1 all

theorem callAt?_eq_some_iff {name text call after : List Char} :
    callAt? name text = some (call, after) ↔
      ∃ body, NameAndBlanks name body ∧ call = body ++ ['('] ∧ text = call ++ after := by
  constructor
  · intro found
    have whole := eq_append_of_callAt? found
    rw [callAt?] at found
    split at found
    · simp at found
    · rename_i rest _
      split at found
      · simp only [Option.some.injEq, Prod.mk.injEq] at found
        refine ⟨name ++ rest.takeWhile isBlank, ?_, found.1.symm, whole⟩
        exact ⟨_, allBlank_takeWhile rest, rfl⟩
      · simp at found
  · rintro ⟨_, ⟨blanks, blank, rfl⟩, rfl, rfl⟩
    have opened : dropBlanks (blanks ++ '(' :: after) = '(' :: after :=
      dropBlanks_eq_of_allBlank blank isBlank_paren
    have spaced : (blanks ++ '(' :: after).takeWhile isBlank = blanks :=
      takeWhile_eq_of_allBlank blank isBlank_paren
    simp [callAt?, List.append_assoc, opened, spaced]

theorem markedCallAt?_eq_some_iff {name text call after : List Char}
    (valid : isCallName name = true) :
    markedCallAt? name text = some (call, after) ↔
      ∃ body, MarkedNameAndBlanks name body ∧ call = body ++ ['('] ∧ text = call ++ after := by
  constructor
  · intro found
    have whole := eq_append_of_markedCallAt? found
    rw [markedCallAt?] at found
    split at found
    · simp at found
    · rename_i rest _
      dsimp only at found
      split at found
      · simp at found
      · rename_i gap
        split at found
        · simp at found
        · rename_i _ inner _ call_eq
          simp only [Option.some.injEq, Prod.mk.injEq] at found
          rcases callAt?_eq_some_iff.1 call_eq with ⟨body, shape, rfl, _⟩
          refine ⟨marker ++ rest.takeWhile isBlank ++ body, ?_, by simp [← found.1], whole⟩
          exact ⟨_, body, by simpa using gap, allBlank_takeWhile rest, shape, rfl⟩
  · rintro ⟨_, ⟨gap, body, gap_ne, gapBlank, shape, rfl⟩, rfl, rfl⟩
    have found : callAt? name (body ++ ['('] ++ after) = some (body ++ ['('], after) :=
      callAt?_eq_some_iff.2 ⟨body, shape, rfl, rfl⟩
    rcases shape with ⟨blanks, _, rfl⟩
    rcases List.exists_cons_of_ne_nil (ne_nil_of_isCallName valid) with ⟨c, name, rfl⟩
    have stop : isBlank c = false :=
      isBlank_of_isIdentifierChar (isIdentifierChar_of_isCallName valid (by simp))
    have behind : dropBlanks (gap ++ (c :: name ++ blanks ++ ['('] ++ after)) =
        c :: name ++ blanks ++ ['('] ++ after :=
      dropBlanks_eq_of_allBlank gapBlank stop
    have spaced : (gap ++ (c :: name ++ blanks ++ ['('] ++ after)).takeWhile isBlank = gap :=
      takeWhile_eq_of_allBlank gapBlank stop
    rw [show marker ++ gap ++ (c :: name ++ blanks) ++ ['('] ++ after =
      marker ++ (gap ++ (c :: name ++ blanks ++ ['('] ++ after)) by simp]
    simp only [markedCallAt?, dropStart?_append, spaced, behind, found]
    simp [gap_ne]

/-!
# The characters of a call

In front of its parenthesis a call holds nothing but identifier characters and blanks.
-/

def Plain (text : List Char) : Prop :=
  ∀ c ∈ text, isIdentifierChar c = true ∨ isBlank c = true

theorem plain_append {first second : List Char} (plain : Plain first) (plain' : Plain second) :
    Plain (first ++ second) := by
  intro c mem
  cases List.mem_append.1 mem with
  | inl mem => exact plain c mem
  | inr mem => exact plain' c mem

theorem plain_of_allBlank {text : List Char} (blank : AllBlank text) : Plain text :=
  fun c mem => Or.inr (blank c mem)

theorem plain_marker : Plain marker := by
  intro c mem
  have all : ∀ d ∈ marker, isIdentifierChar d = true := by
    simp [marker, isIdentifierChar_of_ascii]
  exact Or.inl (all c mem)

theorem plain_of_nameAndBlanks {name text : List Char} (valid : isCallName name = true)
    (shape : NameAndBlanks name text) : Plain text := by
  rcases shape with ⟨blanks, blank, rfl⟩
  exact plain_append (fun c mem => Or.inl (isIdentifierChar_of_isCallName valid mem))
    (plain_of_allBlank blank)

theorem plain_of_markedNameAndBlanks {name text : List Char} (valid : isCallName name = true)
    (shape : MarkedNameAndBlanks name text) : Plain text := by
  rcases shape with ⟨gap, rest, _, blank, shape, rfl⟩
  exact plain_append (plain_append plain_marker (plain_of_allBlank blank))
    (plain_of_nameAndBlanks valid shape)

structure Stops (x : Char) : Prop where
  not_identifier : isIdentifierChar x = false
  not_blank : isBlank x = false

theorem stops_paren : Stops '(' :=
  ⟨isIdentifierChar_paren, isBlank_paren⟩

theorem Stops.not_mem {x : Char} (stops : Stops x) {text : List Char} (plain : Plain text) :
    x ∉ text := by
  intro mem
  cases plain x mem with
  | inl inside =>
      rw [stops.not_identifier] at inside
      exact absurd inside Bool.noConfusion
  | inr inside =>
      rw [stops.not_blank] at inside
      exact absurd inside Bool.noConfusion

end Calls
end HangulConsole
