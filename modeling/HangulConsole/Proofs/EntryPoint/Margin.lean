import HangulConsole.Proofs.EntryPoint
import HangulConsole.Proofs.Text.SourceLines

/-!
# Programs behind their margin

The margin of an entry point is put in front of the program and behind each of its line feeds.
A line of the program that begins behind a carriage return gets none, so such a line is inside
the entry point only if it brings the margin along.
-/

namespace HangulConsole
namespace EntryPoint

open Text

variable {margin lead source tail front rest : List Char} {c : Char}
  {lines wholes : List (List Char)} {line whole : List Char} {name indent : String}

/-!
# The margin in a text
-/

def indentRest (margin text : List Char) : List Char :=
  text.flatMap fun c => if c = '\n' then '\n' :: margin else [c]

theorem indentRest_append (margin text more : List Char) :
    indentRest margin (text ++ more) = indentRest margin text ++ indentRest margin more :=
  List.flatMap_append

theorem indentRest_newline (margin rest : List Char) :
    indentRest margin ('\n' :: rest) = '\n' :: (margin ++ indentRest margin rest) := by
  simp [indentRest]

theorem indentRest_cons_of_ne (inside : c ≠ '\n') (rest : List Char) :
    indentRest margin (c :: rest) = c :: indentRest margin rest := by
  simp [indentRest, inside]

theorem indentRest_of_not_mem (unbroken : '\n' ∉ line) : indentRest margin line = line := by
  induction line with
  | nil => rfl
  | cons c line ih =>
      rw [List.mem_cons, not_or] at unbroken
      rw [indentRest_cons_of_ne (Ne.symm unbroken.1), ih unbroken.2]

theorem bodyChars_splitAt (margin source : List Char) :
    bodyChars margin (splitAt '\n' source) = margin ++ (indentRest margin source ++ ['\n']) := by
  induction source with
  | nil => simp [splitAt, bodyChars, indentRest]
  | cons c source ih =>
      rw [splitAt]
      split
      · rename_i feed
        rw [bodyChars_cons, ih, feed, indentRest_newline, List.nil_append, List.cons_append,
          List.append_assoc]
      · rename_i inside
        cases pieces : splitAt '\n' source with
        | nil => exact absurd pieces (splitAt_ne_nil '\n' source)
        | cons piece others =>
            rw [pieces, bodyChars_cons, List.append_cancel_left_eq] at ih
            dsimp only
            rw [bodyChars_cons, List.cons_append, ih, indentRest_cons_of_ne inside]
            rfl

/-!
# Lines behind the margin
-/

/-- Each of the lines stands on the one of the same place, and that begins with the margin. -/
def StandInside (margin : List Char) (lines wholes : List (List Char)) : Prop :=
  ∀ (index : Nat) (line : List Char), lines[index]? = some line ->
    ∃ whole, wholes[index]? = some whole ∧ margin <+: whole ∧ line <:+ whole

theorem standInside_nil (margin : List Char) (wholes : List (List Char)) :
    StandInside margin [] wholes := by
  intro index line found
  cases found

theorem standInside_cons :
    StandInside margin (line :: lines) (whole :: wholes) ↔
      (margin <+: whole ∧ line <:+ whole) ∧ StandInside margin lines wholes := by
  constructor
  · intro inside
    constructor
    · rcases inside 0 line rfl with ⟨first, found, stands⟩
      cases found
      exact stands
    · intro index other found
      exact inside (index + 1) other found
  · rintro ⟨first, others⟩ index other found
    cases index with
    | zero =>
        cases found
        exact ⟨whole, rfl, first⟩
    | succ index => exact others index other found

/-- What follows a carriage return is a line feed, the margin, or nothing. -/
def ReturnsIndented (margin source : List Char) : Prop :=
  ∀ front rest, source = front ++ '\r' :: rest ->
    rest = [] ∨ rest.head? = some '\n' ∨ margin <+: rest

theorem returnsIndented_cons :
    ReturnsIndented margin (c :: rest) ↔
      (c = '\r' -> rest = [] ∨ rest.head? = some '\n' ∨ margin <+: rest) ∧
        ReturnsIndented margin rest := by
  constructor
  · intro indented
    constructor
    · rintro rfl
      exact indented [] rest rfl
    · rintro front more rfl
      exact indented (c :: front) more rfl
  · rintro ⟨first, later⟩ front more whole
    cases front with
    | nil =>
        rw [List.nil_append, List.cons.injEq] at whole
        rw [← whole.2]
        exact first whole.1
    | cons d front =>
        rw [List.cons_append, List.cons.injEq] at whole
        exact later front more whole.2

theorem returnsIndented_of_not_mem (unbroken : '\r' ∉ line) : ReturnsIndented margin line := by
  rintro front rest rfl
  simp at unbroken

instance decidableReturnsIndented (margin : List Char) :
    (source : List Char) -> Decidable (ReturnsIndented margin source)
  | [] => isTrue (returnsIndented_of_not_mem List.not_mem_nil)
  | _ :: rest =>
      have := decidableReturnsIndented margin rest
      decidable_of_iff _ returnsIndented_cons.symm

theorem returnsIndented_append (unbroken : '\r' ∉ line) :
    ReturnsIndented margin (line ++ rest) ↔ ReturnsIndented margin rest := by
  induction line with
  | nil => rfl
  | cons c line ih =>
      rw [List.mem_cons, not_or] at unbroken
      have inside : ¬ c = '\r' := Ne.symm unbroken.1
      rw [List.cons_append, returnsIndented_cons, ih unbroken.2]
      simp only [inside, false_implies, true_and]

theorem prefix_append_cons_iff (free : c ∉ margin) :
    margin <+: front ++ c :: rest ↔ margin <+: front := by
  constructor
  · intro starts
    rcases List.prefix_or_prefix_of_prefix starts (List.prefix_append front (c :: rest)) with
      short | ⟨more, rfl⟩
    · exact short
    · rw [List.prefix_append_right_inj, List.prefix_cons_iff] at starts
      rcases starts with rfl | ⟨later, rfl, _⟩
      · simp
      · simp at free
  · intro starts
    exact starts.trans (List.prefix_append front (c :: rest))

theorem prefix_append_ending_iff {ending : List Char} (free : Unbroken margin)
    (ends : LineEnd ending rest) : margin <+: front ++ (ending ++ rest) ↔ margin <+: front := by
  cases ends with
  | newline => exact prefix_append_cons_iff free.newline
  | both => exact prefix_append_cons_iff free.carriage
  | carriage _ => exact prefix_append_cons_iff free.carriage

/-!
# Line after line
-/

theorem sourceLines_newline (unbroken : Unbroken line) (rest : List Char) :
    sourceLines (line ++ (indentRest margin (['\n'] ++ rest) ++ '\n' :: tail)) =
      line :: sourceLines (margin ++ (indentRest margin rest ++ '\n' :: tail)) := by
  rw [List.singleton_append, indentRest_newline, List.cons_append, List.append_assoc]
  exact sourceLines_append unbroken .newline

theorem sourceLines_both (unbroken : Unbroken line) (rest : List Char) :
    sourceLines (line ++ (indentRest margin (['\r', '\n'] ++ rest) ++ '\n' :: tail)) =
      line :: sourceLines (margin ++ (indentRest margin rest ++ '\n' :: tail)) := by
  have inside : '\r' ≠ '\n' := by decide
  rw [List.cons_append, List.singleton_append, indentRest_cons_of_ne inside, indentRest_newline,
    List.cons_append, List.cons_append, List.append_assoc]
  exact sourceLines_append unbroken .both

theorem sourceLines_carriage (unbroken : Unbroken line) (apart : rest.head? ≠ some '\n')
    (filled : rest ≠ []) :
    sourceLines (line ++ (indentRest margin (['\r'] ++ rest) ++ '\n' :: tail)) =
      line :: sourceLines (indentRest margin rest ++ '\n' :: tail) := by
  have inside : '\r' ≠ '\n' := by decide
  have ends : LineEnd ['\r'] (indentRest margin rest ++ '\n' :: tail) := by
    cases rest with
    | nil => exact absurd rfl filled
    | cons c rest =>
        have other : c ≠ '\n' := fun feed => apart (congrArg some feed)
        rw [indentRest_cons_of_ne other]
        exact .carriage apart
  rw [List.singleton_append, indentRest_cons_of_ne inside, List.cons_append]
  exact sourceLines_append unbroken ends

theorem sourceLines_last_carriage (unbroken : Unbroken line) :
    sourceLines (line ++ (indentRest margin (['\r'] ++ []) ++ '\n' :: tail)) =
      line :: sourceLines tail :=
  sourceLines_append unbroken .both

theorem exists_sourceLines_eq {text : List Char} (free : Unbroken margin)
    (starts : margin <+: text) :
    ∃ first others, sourceLines text = first :: others ∧ margin <+: first := by
  rcases starts with ⟨more, rfl⟩
  unfold sourceLines
  rw [unifyLineEnds_append free.carriage]
  cases pieces : splitAt '\n' (unifyLineEnds more) with
  | nil => exact absurd pieces (splitAt_ne_nil '\n' (unifyLineEnds more))
  | cons first others =>
      exact ⟨margin ++ first, others, splitAt_append_of_not_mem free.newline pieces,
        List.prefix_append margin first⟩

theorem standInside_sourceLines_iff (free : Unbroken margin) (closed : margin <+: tail)
    (free_lead : Unbroken lead) :
    StandInside margin (sourceLines source)
        (sourceLines (lead ++ (indentRest margin source ++ '\n' :: tail))) ↔
      margin <+: lead ++ source ∧ ReturnsIndented margin source := by
  induction source using sourceLines_induction generalizing lead with
  | last line unbroken =>
      have whole : sourceLines (lead ++ (indentRest margin line ++ '\n' :: tail)) =
          (lead ++ line) :: sourceLines tail := by
        rw [indentRest_of_not_mem unbroken.newline, ← List.append_assoc]
        exact sourceLines_append (free_lead.append unbroken) .newline
      rw [whole, sourceLines_of_unbroken unbroken, standInside_cons]
      simp only [List.suffix_append, and_true, standInside_nil,
        returnsIndented_of_not_mem unbroken.carriage]
  | ended line ending rest unbroken ends ih =>
      have first := free_lead.append unbroken
      have whole : lead ++ (indentRest margin (line ++ (ending ++ rest)) ++ '\n' :: tail) =
          (lead ++ line) ++ (indentRest margin (ending ++ rest) ++ '\n' :: tail) := by
        rw [indentRest_append, indentRest_of_not_mem unbroken.newline]
        simp only [List.append_assoc]
      rw [sourceLines_append unbroken ends, whole, ← List.append_assoc lead line,
        prefix_append_ending_iff free ends, returnsIndented_append unbroken.carriage]
      cases ends with
      | newline =>
          rw [sourceLines_newline first, standInside_cons, ih free, List.singleton_append,
            returnsIndented_cons]
          simp
      | both =>
          rw [sourceLines_both first, standInside_cons, ih free, List.cons_append,
            List.singleton_append, returnsIndented_cons, returnsIndented_cons]
          simp
      | carriage apart =>
          by_cases ended : rest = []
          · rcases exists_sourceLines_eq free closed with ⟨next, others, lines_tail, starts⟩
            rw [ended, sourceLines_last_carriage first, lines_tail,
              sourceLines_of_unbroken unbroken_nil, standInside_cons, standInside_cons]
            simp [starts, standInside_nil, returnsIndented_cons, returnsIndented_of_not_mem]
          · have later := ih unbroken_nil
            rw [List.nil_append, List.nil_append] at later
            rw [sourceLines_carriage first apart ended, standInside_cons, later,
              List.singleton_append, returnsIndented_cons]
            simp [apart, ended]

/-!
# Programs in their entry points
-/

theorem unbroken_headerLines {name indent : List Char} (free_name : Unbroken name)
    (free_indent : Unbroken indent) : ∀ line ∈ headerLines name indent, Unbroken line := by
  have definition : Unbroken "async def ".toList := by constructor <;> decide
  have arguments : Unbroken "():".toList := by constructor <;> decide
  have guard : Unbroken "try:".toList := by constructor <;> decide
  unfold headerLines
  simpa only [List.forall_mem_cons] using ⟨(definition.append free_name).append arguments,
    free_indent.append guard, List.forall_mem_nil _⟩

theorem sourceLines_wrapChars (source : List Char) {name indent : List Char}
    (free_name : Unbroken name) (free_indent : Unbroken indent) :
    sourceLines (wrapChars source name indent) =
      headerLines name indent ++ sourceLines (indent ++ indent ++
        (indentRest (indent ++ indent) source ++ '\n' :: footer name indent)) := by
  unfold wrapChars
  rw [header_eq, List.append_assoc,
    sourceLines_flatMap_append (unbroken_headerLines free_name free_indent), bodyChars_splitAt]
  simp only [List.append_assoc, List.singleton_append]

/-- Every line of a program, as a compiler divides it, stands two lines further down in its entry
point, on a line that begins with two levels of indentation. -/
def KeepsInside (source name indent : String) : Prop :=
  ∀ (index : Nat) (line : List Char), (sourceLines source.toList)[index]? = some line ->
    ∃ whole, (sourceLines (wrap source name indent).toList)[index + 2]? = some whole ∧
      (indent ++ indent).toList <+: whole ∧ line <:+ whole

theorem keepsInside_eq (source : String) (free_name : Unbroken name.toList)
    (free_indent : Unbroken indent.toList) :
    KeepsInside source name indent =
      StandInside (indent ++ indent).toList (sourceLines source.toList)
        (sourceLines ((indent ++ indent).toList ++
          (indentRest (indent ++ indent).toList source.toList ++
            '\n' :: footer name.toList indent.toList))) := by
  have two : (headerLines name.toList indent.toList).length = 2 := rfl
  unfold KeepsInside StandInside
  simp only [toList_wrap, sourceLines_wrapChars source.toList free_name free_indent,
    String.toList_append, List.getElem?_append_right, two, Nat.le_add_left, Nat.add_sub_cancel]

/-- A program is all inside its entry point exactly if nothing follows a carriage return but a
line feed, two levels of indentation, or the end of the program. -/
theorem keepsInside_iff (source : String) (free_name : Unbroken name.toList)
    (free_indent : Unbroken indent.toList) :
    KeepsInside source name indent ↔ ReturnsIndented (indent ++ indent).toList source.toList := by
  have free : Unbroken (indent ++ indent).toList := by
    rw [String.toList_append]
    exact free_indent.append free_indent
  have closed : (indent ++ indent).toList <+: footer name.toList indent.toList := by
    unfold footer
    rw [String.toList_append]
    simp only [List.append_assoc]
    exact ⟨_, List.append_assoc _ _ _⟩
  have first : (indent ++ indent).toList <+: (indent ++ indent).toList ++ source.toList :=
    List.prefix_append _ _
  rw [keepsInside_eq source free_name free_indent, standInside_sourceLines_iff free closed free]
  simp only [first, true_and]

theorem keepsInside_iff_mixedEnds :
    Unbroken "main".toList ∧ Unbroken "  ".toList ∧
      KeepsInside "if x:\r\n  y\r    z\r" "main" "  " := by
  have free_name : Unbroken "main".toList := by constructor <;> decide
  have free_indent : Unbroken "  ".toList := by constructor <;> decide
  exact ⟨free_name, free_indent, (keepsInside_iff _ free_name free_indent).2 (by decide)⟩

/-- What follows a lone carriage return is outside. -/
theorem not_keepsInside_of_carriage : ¬KeepsInside "x = 1\rprint(x)" "main" "  " := by
  intro inside
  have second : (sourceLines "x = 1\rprint(x)".toList)[1]? = some "print(x)".toList := by decide
  rcases inside 1 _ second with ⟨whole, found, starts, _⟩
  have outside : (sourceLines (wrap "x = 1\rprint(x)" "main" "  ").toList)[1 + 2]? =
      some "print(x)".toList := by decide +kernel
  rw [outside, Option.some.injEq] at found
  rw [← found] at starts
  exact absurd starts (by decide)

end EntryPoint
end HangulConsole
