import HangulConsole.Calls.Occurrence
import HangulConsole.Keywords.Script
import HangulConsole.Proofs.Text.Lines
import Mathlib.Data.List.Forall2

/-!
# Reading the keyword script

A string literal is closed by its last quote and holds no line feed, whatever text it stands
for.  So every row of the table has one line of the script for itself, and its name and its
origin can be read back from there.
-/

namespace HangulConsole
namespace Keywords

open Text Calls

variable {text rest : List Char} {keyword : Keyword} {keywords : List Keyword}

/-!
# String literals
-/

def insideChars (text : List Char) : List Char :=
  text.flatMap literalChar ++ ['"']

theorem literalChars_eq (text : List Char) : literalChars text = '"' :: insideChars text := rfl

theorem insideChars_cons_append (c : Char) (text rest : List Char) :
    insideChars (c :: text) ++ rest = literalChar c ++ (insideChars text ++ rest) := by
  simp [insideChars]

theorem readLiteral?_insideChars (text rest : List Char) :
    readLiteral? (insideChars text ++ rest) = some (text, rest) := by
  induction text with
  | nil => rfl
  | cons c text ih =>
      rw [insideChars_cons_append, readLiteral?_literalChar_append, ih]
      rfl

theorem readLiteral?_flatMap (text : List Char) :
    readLiteral? (text.flatMap literalChar) = none := by
  induction text with
  | nil => rfl
  | cons c text ih =>
      rw [List.flatMap_cons, readLiteral?_literalChar_append, ih]
      rfl

theorem newline_not_mem_literalChar (c : Char) : '\n' ∉ literalChar c := by
  unfold literalChar
  split
  · decide
  · split
    · decide
    · split
      · decide
      · rename_i inside
        rw [List.mem_singleton]
        exact Ne.symm inside

theorem newline_not_mem_literalChars (text : List Char) : '\n' ∉ literalChars text := by
  have apart : '\n' ≠ '"' := by decide
  simp [literalChars, apart, newline_not_mem_literalChar]

/-- A literal stands for its text and is closed by its last character. -/
structure StandsFor (literal : List Char) (text : List Char) : Prop where
  opens : literal.head? = some '"'
  /-- Whatever follows the literal. -/
  reads : ∀ rest, readLiteral? (literal.tail ++ rest) = some (text, rest)
  closes : readLiteral? literal.tail.dropLast = none
  unbroken : '\n' ∉ literal

theorem standsFor_literalChars (text : List Char) : StandsFor (literalChars text) text where
  opens := rfl
  reads := readLiteral?_insideChars text
  closes := by
    rw [literalChars_eq, List.tail_cons, insideChars, List.dropLast_concat]
    exact readLiteral?_flatMap text
  unbroken := newline_not_mem_literalChars text

/-!
# Rows of the table
-/

def rowChars (keyword : Keyword) : List Char :=
  "    ".toList ++ literalChars keyword.name.toList ++ ": (".toList ++ keyword.expr.toList ++
    ", ".toList ++ literalChars keyword.origin.toList ++ "),".toList

def readRow? (expr line : List Char) : Option (List Char × List Char) := do
  let rest ← dropStart? "    \"".toList line
  let (name, rest) ← readLiteral? rest
  let rest ← dropStart? (": (".toList ++ expr ++ ", \"".toList) rest
  let (origin, rest) ← readLiteral? rest
  if rest = "),".toList then some (name, origin) else none

theorem toList_row (keyword : Keyword) : (row keyword).toList = rowChars keyword ++ ['\n'] := by
  have ending : "),\n".toList = "),".toList ++ ['\n'] := rfl
  unfold row rowChars literal
  rw [String.toList_append, ending]
  simp only [String.toList_append, String.toList_ofList, List.append_assoc]

theorem newline_not_mem_rowChars (unbroken : '\n' ∉ keyword.expr.toList) :
    '\n' ∉ rowChars keyword := by
  unfold rowChars
  simp only [List.mem_append, unbroken, newline_not_mem_literalChars]
  decide

theorem getLast?_rowChars (keyword : Keyword) : (rowChars keyword).getLast? = some ',' := by
  unfold rowChars
  rw [List.getLast?_append]
  rfl

theorem readRow?_rowChars (keyword : Keyword) :
    readRow? keyword.expr.toList (rowChars keyword) =
      some (keyword.name.toList, keyword.origin.toList) := by
  have margin : "    \"".toList = "    ".toList ++ ['"'] := rfl
  have between : ", \"".toList = ", ".toList ++ ['"'] := rfl
  have line : rowChars keyword = "    \"".toList ++ (insideChars keyword.name.toList ++
      (": (".toList ++ keyword.expr.toList ++ ", \"".toList ++
        (insideChars keyword.origin.toList ++ "),".toList))) := by
    unfold rowChars
    rw [literalChars_eq, literalChars_eq, margin, between]
    simp only [List.append_assoc, List.cons_append, List.nil_append]
  unfold readRow?
  rw [line, dropStart?_append]
  dsimp only [Option.bind_eq_bind, Option.bind_some]
  rw [readLiteral?_insideChars]
  dsimp only [Option.bind_some]
  rw [dropStart?_append]
  dsimp only [Option.bind_some]
  rw [readLiteral?_insideChars]
  rfl

/-!
# Lines of the script
-/

theorem lineChars_row_append (unbroken : '\n' ∉ keyword.expr.toList) (rest : List Char) :
    lineChars ((row keyword).toList ++ rest) = rowChars keyword :: lineChars rest := by
  have nothing : splitAt '\n' [] = [[]] := rfl
  have alone := splitAt_append_of_not_mem (newline_not_mem_rowChars unbroken) nothing
  have closed : dropReturn (rowChars keyword) = rowChars keyword := by
    unfold dropReturn
    rw [getLast?_rowChars]
    rfl
  rw [List.append_nil] at alone
  rw [toList_row, List.append_assoc, List.singleton_append, lineChars_append_newline, alone,
    List.map_singleton, closed, List.singleton_append]

theorem lineChars_rows_append (unbroken : ∀ keyword ∈ keywords, '\n' ∉ keyword.expr.toList)
    (rest : List Char) :
    lineChars ((keywords.map row).flatMap String.toList ++ rest) =
      keywords.map rowChars ++ lineChars rest := by
  induction keywords with
  | nil => rfl
  | cons keyword keywords ih =>
      rw [List.forall_mem_cons] at unbroken
      rw [List.map_cons, List.flatMap_cons, List.append_assoc, lineChars_row_append unbroken.1,
        ih unbroken.2]
      rfl

def openingLine : String := "_HANGPY_KEYWORDS = \x7b"

def closingLine : String := "\x7d"

theorem exists_toList_scriptHead :
    ∃ front, scriptHead.toList = (front ++ '\n' :: openingLine.toList) ++ ['\n'] := by
  have ending : "import time\n\n_HANGPY_KEYWORDS = \x7b\n".toList =
      ("import time\n".toList ++ '\n' :: openingLine.toList) ++ ['\n'] := rfl
  unfold scriptHead
  rw [String.toList_append, ending, ← List.append_assoc, ← List.append_assoc]
  exact ⟨_, rfl⟩

theorem exists_toList_scriptTail :
    ∃ rest, scriptTail.toList = closingLine.toList ++ '\n' :: rest := by
  have closing : "\x7d\n".toList = closingLine.toList ++ ['\n'] := rfl
  unfold scriptTail
  simp only [String.toList_append, List.append_assoc]
  rw [closing, List.append_assoc, List.singleton_append]
  exact ⟨_, rfl⟩

theorem lines_script (unbroken : ∀ keyword ∈ keywords, '\n' ∉ keyword.expr.toList) :
    lines (script keywords) =
      lines scriptHead ++ (keywords.map rowChars).map String.ofList ++ lines scriptTail := by
  rcases exists_toList_scriptHead with ⟨front, head⟩
  unfold lines script
  rw [String.toList_append, String.toList_append, String.toList_join, head,
    lineChars_concat_newline, List.append_assoc, List.append_assoc, List.singleton_append,
    lineChars_append_newline, lineChars_rows_append unbroken, List.map_append, List.map_append,
    List.append_assoc]

theorem getLast?_lines_scriptHead : (lines scriptHead).getLast? = some openingLine := by
  rcases exists_toList_scriptHead with ⟨front, head⟩
  have last : (splitAt '\n' openingLine.toList).map dropReturn = [openingLine.toList] := by
    decide +kernel
  unfold lines
  rw [head, lineChars_concat_newline, splitAt_append_separator, List.map_append, last,
    List.map_append, List.map_singleton, String.ofList_toList]
  exact List.getLast?_concat

theorem head?_lines_scriptTail : (lines scriptTail).head? = some closingLine := by
  rcases exists_toList_scriptTail with ⟨rest, tail⟩
  have first : (splitAt '\n' closingLine.toList).map dropReturn = [closingLine.toList] := by
    decide +kernel
  unfold lines
  rw [tail, lineChars_append_newline, first, List.singleton_append, List.map_cons,
    String.ofList_toList]
  rfl

/-!
# Whole tables
-/

/-- Each row of a table is on one line of its own, in the order of the table, and its name and its
origin are read back from that line. -/
def Legible (keywords : List Keyword) : Prop :=
  ∃ rows : List String, lines (script keywords) = lines scriptHead ++ rows ++ lines scriptTail ∧
    List.Forall₂ (fun keyword row => readRow? keyword.expr.toList row.toList =
      some (keyword.name.toList, keyword.origin.toList)) keywords rows

theorem legible (unbroken : ∀ keyword ∈ keywords, '\n' ∉ keyword.expr.toList) :
    Legible keywords := by
  refine ⟨_, lines_script unbroken, ?_⟩
  rw [List.map_map, List.forall₂_map_right_iff, List.forall₂_same]
  intro keyword _
  rw [Function.comp_apply, String.toList_ofList]
  exact readRow?_rowChars keyword

/-- Every text survives in its literal, and with it every row in the script, between the line that
opens the table and the one that closes it. -/
theorem texts_survive_rendering :
    (∀ text : String, StandsFor (literal text).toList text.toList) ∧
      (lines scriptHead).getLast? = some openingLine ∧ (lines scriptTail).head? = some closingLine ∧
      ∀ keywords : List Keyword,
        (∀ keyword ∈ keywords, '\n' ∉ keyword.expr.toList) -> Legible keywords := by
  refine ⟨fun text => ?_, getLast?_lines_scriptHead, head?_lines_scriptTail, fun _ => legible⟩
  rw [literal, String.toList_ofList]
  exact standsFor_literalChars text.toList

def awkwardTable : List Keyword :=
  [⟨"\\\"", "lambda s: \"\\n\"", "\n"⟩, ⟨"", "print", "\"), \"\\"⟩, ⟨"\\n", "input", "\\\\n"⟩]

theorem texts_survive_rendering_awkwardTable :
    (∀ keyword ∈ awkwardTable, '\n' ∉ keyword.expr.toList) ∧ Legible awkwardTable := by
  have unbroken : ∀ keyword ∈ awkwardTable, '\n' ∉ keyword.expr.toList := by decide
  exact ⟨unbroken, texts_survive_rendering.2.2.2 awkwardTable unbroken⟩

end Keywords
end HangulConsole
