import HangulConsole.Keywords.Table
import HangulConsole.Text.Blank

/-!
# The program editor

The text of the program under work.  A run takes a snapshot of it.
-/

namespace HangulConsole

def exampleProgram : String :=
  "출력(\"HangPy 준비 완료!\")\n이름 = 입력(\"이름: \")\n출력(\"안녕,\", 이름)\n"

structure Editor where
  text : String
deriving Repr, DecidableEq

namespace Editor

def empty : Editor := ⟨""⟩

def withExample : Editor := ⟨exampleProgram⟩

def setText (_ : Editor) (text : String) : Editor := ⟨text⟩

def clear (_ : Editor) : Editor := empty

def endsLine (editor : Editor) : Bool :=
  match editor.text.toList.getLast? with
  | none => true
  | some c => c == '\n'

def appendSnippet (editor : Editor) (snippet : String) : Editor :=
  ⟨(if editor.endsLine then editor.text else editor.text ++ "\n") ++ snippet⟩

def insertHelpCall (editor : Editor) : Editor :=
  editor.appendSnippet (Keywords.helpFunction ++ "()\n")

def insertExample (editor : Editor) : Editor :=
  editor.appendSnippet exampleProgram

/-- The number of lines shown beside the text: one more than the line feeds. -/
def lineCount (editor : Editor) : Nat :=
  editor.text.toList.count '\n' + 1

def isBlank (editor : Editor) : Bool :=
  Text.isBlankText editor.text

end Editor
end HangulConsole
