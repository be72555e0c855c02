import HangulConsole.Keywords.Table

/-!
# The guest scripts of the keyword table

The script that binds the localized names in the guest, and the one that puts
the host's line input in place of the guest's own.  Texts of the table appear in
them as string literals, which `readLiteral?` reads back.
-/

namespace HangulConsole
namespace Keywords

/-! # String literals -/

def literalChar (c : Char) : List Char :=
  if c = '"' then ['\\', '"']
  else if c = '\\' then ['\\', '\\']
  else if c = '\n' then ['\\', 'n']
  else [c]

def literalChars (text : List Char) : List Char :=
  '"' :: text.flatMap literalChar ++ ['"']

def literal (text : String) : String :=
  String.ofList (literalChars text.toList)

/-- Reads the inside of a string literal up to its closing quote: the text it stands for, and what
follows the quote. -/
def readLiteral? : List Char -> Option (List Char × List Char)
  | [] => none
  | '"' :: rest => some ([], rest)
  | '\\' :: '"' :: rest => (readLiteral? rest).map fun read => ('"' :: read.1, read.2)
  | '\\' :: '\\' :: rest => (readLiteral? rest).map fun read => ('\\' :: read.1, read.2)
  | '\\' :: 'n' :: rest => (readLiteral? rest).map fun read => ('\n' :: read.1, read.2)
  | '\\' :: _ => none
  | c :: rest => (readLiteral? rest).map fun read => (c :: read.1, read.2)

theorem readLiteral?_literalChar_append (c : Char) (rest : List Char) :
    readLiteral? (literalChar c ++ rest) =
      (readLiteral? rest).map fun read => (c :: read.1, read.2) := by
  unfold literalChar
  split
  · rename_i same
    simp [same, readLiteral?]
  · split
    · rename_i same
      simp [same, readLiteral?]
    · split
      · rename_i same
        simp [same, readLiteral?]
      · rename_i quoteNe slashNe lineNe
        rw [List.cons_append, List.nil_append, readLiteral?] <;> simp_all

/-! # The keyword script -/

def row (keyword : Keyword) : String :=
  "    " ++ literal keyword.name ++ ": (" ++ keyword.expr ++ ", " ++ literal keyword.origin ++
    "),\n"

def scriptHead : String :=
  "import builtins\nimport datetime\nimport math\nimport os\nimport random\nimport sys\n" ++
    "import time\n\n_HANGPY_KEYWORDS = \x7b\n"

/-- The script after the last row: a name is bound unless the guest has it already, and the help
function lists all of them. -/
def scriptTail : String :=
  "\x7d\n" ++
  "for _name, (_value, _origin) in _HANGPY_KEYWORDS.items():\n" ++
  "    if not hasattr(builtins, _name) and _name not in globals():\n" ++
  "        globals()[_name] = _value\n\n" ++
  "def " ++ helpFunction ++ "():\n" ++
  "    print(\"사용 가능한 한글 명령어:\")\n" ++
  "    for _name in sorted(_HANGPY_KEYWORDS):\n" ++
  "        print(f\"· \x7b_name:<10\x7d → \x7b_HANGPY_KEYWORDS[_name][1]\x7d\")\n"

def script (keywords : List Keyword) : String :=
  scriptHead ++ String.join (keywords.map row) ++ scriptTail

def builtinScript : String := script builtin

/-- The guest script that puts an asynchronous function over the guest's own line input; it asks the
host through the function bound as `bridge`.  It runs before the keyword script, so that a localized
name of the input is a name of the same function. -/
def inputOverride (bridge : String) : String :=
  "async def _hangpy_input(prompt=\"\"):\n    return await " ++ bridge ++
    "(str(prompt))\n\ninput = _hangpy_input\n"

end Keywords
end HangulConsole
