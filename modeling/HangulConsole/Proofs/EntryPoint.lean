import HangulConsole.EntryPoint
import HangulConsole.Proofs.Calls.Deletion
import HangulConsole.Proofs.Text.Lines
import Mathlib.Data.List.Forall2

/-!
# Programs in their entry points

An entry point holds its program line by line, each behind the same margin, between a header and
a footer that depend on nothing but the name and the indentation.  So it can be taken apart
again, whatever the program, the name and the indentation hold; and if neither of the last two
holds a line feed, the program starts on the third line, also when its calls were marked before.
-/

namespace HangulConsole

namespace Text

variable {line more : List Char}

theorem cutAtFirst_line (free : '\n' ∉ line) :
    cutAtFirst (· == '\n') (line ++ '\n' :: more) = some (line, more) := by
  induction line with
  | nil => rfl
  | cons c line ih =>
      rw [List.mem_cons, not_or] at free
      have inside : ¬(c == '\n') = true := fun same => free.1 (beq_iff_eq.1 same).symm
      rw [List.cons_append, cutAtFirst, if_neg inside, ih free.2]
      rfl

end Text

namespace EntryPoint

open Text Calls

variable {margin source name indent : List Char} {lines : List (List Char)}

/-!
# Reading a program back
-/

@[simp] theorem bodyChars_nil : bodyChars margin [] = [] := rfl

theorem bodyChars_cons (line : List Char) :
    bodyChars margin (line :: lines) = margin ++ (line ++ '\n' :: bodyChars margin lines) := by
  simp [bodyChars]

/-- The margin may hold line feeds too, since it is dropped before a line is looked for. -/
theorem bodyLines?_bodyChars (free : ∀ line ∈ lines, '\n' ∉ line) :
    bodyLines? margin (bodyChars margin lines) = some lines := by
  induction lines with
  | nil =>
      rw [bodyChars_nil, bodyLines?]
      rfl
  | cons line lines ih =>
      rw [List.forall_mem_cons] at free
      have filled : ¬(margin ++ (line ++ '\n' :: bodyChars margin lines)).isEmpty = true := by
        simp
      rw [bodyChars_cons, bodyLines?, if_neg filled]
      split
      · rename_i start
        rw [dropStart?_append] at start
        cases start
      · rename_i start
        rw [dropStart?_append, Option.some.injEq] at start
        subst start
        split
        · rename_i cut
          rw [cutAtFirst_line free.1] at cut
          cases cut
        · rename_i cut
          rw [cutAtFirst_line free.1, Option.some.injEq, Prod.mk.injEq] at cut
          rw [← cut.1, ← cut.2, ih free.2]
          rfl

@[simp] theorem dropEnding?_append (text ending : List Char) :
    dropEnding? ending (text ++ ending) = some text := by
  simp [dropEnding?]

theorem unwrap?_wrapChars (source name indent : List Char) :
    unwrap? (wrapChars source name indent) name indent = some source := by
  have free : ∀ line ∈ splitAt '\n' source, '\n' ∉ line := fun _ => not_mem_of_mem_splitAt
  rw [unwrap?, wrapChars, List.append_assoc, dropStart?_append]
  dsimp only [Option.bind_eq_bind, Option.bind_some]
  rw [dropEnding?_append]
  dsimp only [Option.bind_some]
  rw [bodyLines?_bodyChars free]
  dsimp only [Option.bind_some]
  rw [joinWith_splitAt]
  rfl

/-!
# The lines of an entry point
-/

def headerLines (name indent : List Char) : List (List Char) :=
  ["async def ".toList ++ name ++ "():".toList, indent ++ "try:".toList]

def footerLines (name indent : List Char) : List (List Char) :=
  [indent ++ indent ++ filler, indent ++ "finally:".toList,
    indent ++ indent ++ publishLocals.toList, "await ".toList ++ name ++ "()".toList]

theorem header_eq (name indent : List Char) :
    header name indent = (headerLines name indent).flatMap (· ++ ['\n']) := by
  have signature : "():\n".toList = "():".toList ++ ['\n'] := rfl
  have start : "try:\n".toList = "try:".toList ++ ['\n'] := rfl
  unfold header headerLines
  rw [signature, start]
  simp only [List.flatMap_cons, List.flatMap_nil, List.append_assoc, List.append_nil]

theorem footer_eq (name indent : List Char) :
    footer name indent = (footerLines name indent).flatMap (· ++ ['\n']) := by
  have ending : "finally:\n".toList = "finally:".toList ++ ['\n'] := rfl
  have await : "\nawait ".toList = ['\n'] ++ "await ".toList := rfl
  have call : "()\n".toList = "()".toList ++ ['\n'] := rfl
  unfold footer footerLines
  rw [ending, await, call]
  simp only [List.flatMap_cons, List.flatMap_nil, List.append_assoc, List.append_nil]

theorem bodyChars_eq (margin : List Char) (lines : List (List Char)) :
    bodyChars margin lines = (lines.map (margin ++ ·)).flatMap (· ++ ['\n']) := by
  rw [bodyChars, List.flatMap_map]

theorem free_headerLines (free_name : '\n' ∉ name) (free_indent : '\n' ∉ indent) :
    ∀ line ∈ headerLines name indent, '\n' ∉ line := by
  have definition : '\n' ∉ "async def ".toList ++ name ++ "():".toList := by simp [free_name]
  have guard : '\n' ∉ indent ++ "try:".toList := by simp [free_indent]
  unfold headerLines
  simpa only [List.forall_mem_cons] using ⟨definition, guard, List.forall_mem_nil _⟩

theorem free_footerLines (free_name : '\n' ∉ name) (free_indent : '\n' ∉ indent) :
    ∀ line ∈ footerLines name indent, '\n' ∉ line := by
  have fills : '\n' ∉ indent ++ indent ++ filler := by simp [free_indent, filler]
  have guard : '\n' ∉ indent ++ "finally:".toList := by simp [free_indent]
  have publishes : '\n' ∉ indent ++ indent ++ publishLocals.toList := by
    simp [free_indent, publishLocals]
  have call : '\n' ∉ "await ".toList ++ name ++ "()".toList := by simp [free_name]
  unfold footerLines
  simpa only [List.forall_mem_cons] using
    ⟨fills, guard, publishes, call, List.forall_mem_nil _⟩

theorem splitAt_wrapChars (source : List Char) (free_name : '\n' ∉ name)
    (free_indent : '\n' ∉ indent) :
    splitAt '\n' (wrapChars source name indent) =
      headerLines name indent ++
        ((splitAt '\n' source).map (indent ++ indent ++ ·) ++
          (footerLines name indent ++ [[]])) := by
  have whole : wrapChars source name indent =
      (headerLines name indent ++ ((splitAt '\n' source).map (indent ++ indent ++ ·) ++
        footerLines name indent)).flatMap (· ++ ['\n']) ++ [] := by
    rw [wrapChars, header_eq, footer_eq, bodyChars_eq, List.flatMap_append, List.flatMap_append,
      List.append_nil, List.append_assoc]
  have free : ∀ line ∈ headerLines name indent ++
      ((splitAt '\n' source).map (indent ++ indent ++ ·) ++ footerLines name indent),
      '\n' ∉ line := by
    intro line mem
    rcases List.mem_append.1 mem with front | more
    · exact free_headerLines free_name free_indent line front
    · rcases List.mem_append.1 more with body | behind
      · rcases List.mem_map.1 body with ⟨piece, inside, rfl⟩
        simp [free_indent, not_mem_of_mem_splitAt inside]
      · exact free_footerLines free_name free_indent line behind
  have nothing : splitAt '\n' [] = [[]] := rfl
  rw [whole, splitAt_flatMap_append free, nothing, List.append_assoc, List.append_assoc]

theorem getElem?_splitAt_wrapChars (free_name : '\n' ∉ name) (free_indent : '\n' ∉ indent)
    {index : Nat} {line : List Char} (found : (splitAt '\n' source)[index]? = some line) :
    (splitAt '\n' (wrapChars source name indent))[index + 2]? =
      some (indent ++ indent ++ line) := by
  have within : index < ((splitAt '\n' source).map (indent ++ indent ++ ·)).length := by
    rw [List.length_map]
    exact (List.getElem?_eq_some_iff.1 found).1
  have two : (headerLines name indent).length = 2 := rfl
  rw [splitAt_wrapChars source free_name free_indent, List.getElem?_append_right (by omega), two,
    Nat.add_sub_cancel, List.getElem?_append_left within, List.getElem?_map, found]
  rfl

/-!
# Marked programs
-/

theorem deletesTo_lines_append {front front' marked : List Char} (free : '\n' ∉ front)
    (free' : '\n' ∉ front') (deletes : DeletesTo front front')
    (lines : List.Forall₂ DeletesTo (splitAt '\n' marked) (splitAt '\n' source)) :
    List.Forall₂ DeletesTo (splitAt '\n' (front ++ marked)) (splitAt '\n' (front' ++ source)) := by
  cases first : splitAt '\n' marked with
  | nil => exact absurd first (splitAt_ne_nil _ _)
  | cons line others =>
      cases second : splitAt '\n' source with
      | nil => exact absurd second (splitAt_ne_nil _ _)
      | cons line' others' =>
          rw [first, second] at lines
          rw [splitAt_append_of_not_mem free first, splitAt_append_of_not_mem free' second]
          rcases List.forall₂_cons.1 lines with ⟨same, rest⟩
          exact .cons (deletes.append same) rest

theorem deletesTo_lines {marked : List Char} (deletes : DeletesTo marked source) :
    List.Forall₂ DeletesTo (splitAt '\n' marked) (splitAt '\n' source) := by
  induction deletes with
  | nil => exact .cons .nil .nil
  | keep c _ ih =>
      by_cases ends : c = '\n'
      · rw [splitAt, splitAt, if_pos ends, if_pos ends]
        exact .cons .nil ih
      · have inside : '\n' ∉ [c] := by simpa [eq_comm] using ends
        exact deletesTo_lines_append inside inside (.refl [c]) ih
  | @delete text source _ ih =>
      have inside : '\n' ∉ marker ++ [' '] := by decide
      have whole : marker ++ ' ' :: text = (marker ++ [' ']) ++ text := by
        rw [List.append_assoc, List.singleton_append]
      rw [whole]
      exact deletesTo_lines_append inside List.not_mem_nil (.delete .nil) ih

theorem deletesTo_markChars {names : Names} (absent : pickSentinel source ∉ source) :
    DeletesTo (names.markChars source) source := by
  rw [markChars_eq_mapStretches_of_absent absent]
  exact DeletesTo.mapStretches (DeletesTo.settle names.names) source

/-!
# Whole texts
-/

theorem getElem?_fields {text line : String} {index : Nat} :
    (fields '\n' text)[index]? = some line ↔
      (splitAt '\n' text.toList)[index]? = some line.toList := by
  rw [fields, List.getElem?_map, Option.map_eq_some_iff]
  constructor
  · rintro ⟨chars, found, rfl⟩
    rw [found, String.toList_ofList]
  · intro found
    exact ⟨line.toList, found, String.ofList_toList⟩

theorem getElem?_of_forall₂ {α β : Type} {related : α -> β -> Prop} {xs : List α} {ys : List β}
    (all : List.Forall₂ related xs ys) {index : Nat} {y : β} (found : ys[index]? = some y) :
    ∃ x, related x y ∧ xs[index]? = some x := by
  rcases List.getElem?_eq_some_iff.1 found with ⟨within, rfl⟩
  have also : index < xs.length := by
    rw [all.length_eq]
    exact within
  exact ⟨xs[index], all.get also within, List.getElem?_eq_getElem also⟩

/-- An entry point of a name and an indentation keeps all of its program. -/
structure KeepsPrograms (name indent : String) : Prop where
  /-- The program is read back when header, footer and margins are dropped. -/
  unwraps : ∀ source : String,
    unwrap? (wrap source name indent).toList name.toList indent.toList = some source.toList
  injective : Function.Injective fun source => wrap source name indent
  /-- Each line of the program stands two lines further down behind two levels of indentation. -/
  line : '\n' ∉ name.toList -> '\n' ∉ indent.toList -> ∀ source index line,
    (fields '\n' source)[index]? = some line ->
    (fields '\n' (wrap source name indent))[index + 2]? = some (indent ++ indent ++ line)
  /-- So does each line of a program whose calls were marked before, which adds no line and
  nothing but markers to a line. -/
  markedLine : '\n' ∉ name.toList -> '\n' ∉ indent.toList -> ∀ (names : Names) source,
    pickSentinel source.toList ∉ source.toList ->
    (fields '\n' (names.mark source)).length = (fields '\n' source).length ∧
      ∀ index line, (fields '\n' source)[index]? = some line ->
        ∃ marked : String, DeletesTo marked.toList line.toList ∧
          (fields '\n' (names.mark source))[index]? = some marked ∧
          (fields '\n' (wrap (names.mark source) name indent))[index + 2]? =
            some (indent ++ indent ++ marked)

theorem toList_wrap (source name indent : String) :
    (wrap source name indent).toList = wrapChars source.toList name.toList indent.toList :=
  String.toList_ofList

theorem unwrap?_wrap (source name indent : String) :
    unwrap? (wrap source name indent).toList name.toList indent.toList = some source.toList := by
  rw [toList_wrap, unwrap?_wrapChars]

theorem getElem?_fields_wrap {source name indent line : String} {index : Nat}
    (free_name : '\n' ∉ name.toList) (free_indent : '\n' ∉ indent.toList)
    (found : (fields '\n' source)[index]? = some line) :
    (fields '\n' (wrap source name indent))[index + 2]? = some (indent ++ indent ++ line) := by
  rw [getElem?_fields] at found ⊢
  rw [toList_wrap, getElem?_splitAt_wrapChars free_name free_indent found, String.toList_append,
    String.toList_append]

theorem keepsPrograms (name indent : String) : KeepsPrograms name indent where
  unwraps source := unwrap?_wrap source name indent
  injective := by
    intro first second same
    have read : some first.toList = some second.toList := by
      rw [← unwrap?_wrap first name indent, ← unwrap?_wrap second name indent]
      exact congrArg (fun wrapped : String => unwrap? wrapped.toList name.toList indent.toList) same
    exact String.toList_inj.1 (Option.some.inj read)
  line free_name free_indent _ _ _ found := getElem?_fields_wrap free_name free_indent found
  markedLine := by
    intro free_name free_indent names source absent
    have lines : List.Forall₂ DeletesTo (splitAt '\n' (names.mark source).toList)
        (splitAt '\n' source.toList) := by
      rw [Names.mark, String.toList_ofList]
      exact deletesTo_lines (deletesTo_markChars absent)
    refine ⟨?_, fun index line found => ?_⟩
    · rw [fields, fields, List.length_map, List.length_map, lines.length_eq]
    · rcases getElem?_of_forall₂ lines (getElem?_fields.1 found) with ⟨marked, deletes, there⟩
      have of_mark : (fields '\n' (names.mark source))[index]? = some (String.ofList marked) := by
        rw [getElem?_fields, String.toList_ofList, there]
      refine ⟨String.ofList marked, ?_, of_mark, getElem?_fields_wrap free_name free_indent of_mark⟩
      rw [String.toList_ofList]
      exact deletes

/-- A call that goes over a line end, behind a line that looks like the footer. -/
def brokenCall : String := "pass\n\ninput\n(1)\r\n"

theorem keepsPrograms_brokenCall :
    unwrap? (wrap brokenCall "main" "\n\t").toList "main".toList "\n\t".toList =
        some brokenCall.toList ∧
      '\n' ∉ "main".toList ∧ '\n' ∉ "  ".toList ∧
      pickSentinel brokenCall.toList ∉ brokenCall.toList ∧
      (fields '\n' brokenCall)[2]? = some "input" ∧
      (fields '\n' (wrap brokenCall "main" "  "))[4]? = some ("  " ++ "  " ++ "input") ∧
      (fields '\n' (Names.standard.mark brokenCall)).length = (fields '\n' brokenCall).length := by
  have free_name : '\n' ∉ "main".toList := by decide
  have free_indent : '\n' ∉ "  ".toList := by decide
  have absent : pickSentinel brokenCall.toList ∉ brokenCall.toList := by decide +kernel
  have found : (fields '\n' brokenCall)[2]? = some "input" := by decide
  exact ⟨(keepsPrograms "main" "\n\t").unwraps brokenCall, free_name, free_indent, absent, found,
    (keepsPrograms "main" "  ").line free_name free_indent _ _ _ found,
    ((keepsPrograms "main" "  ").markedLine free_name free_indent Names.standard _ absent).1⟩

end EntryPoint
end HangulConsole
