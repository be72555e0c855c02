/-!
# Blank characters

The white-space characters of Unicode (property `White_Space`), and texts with
the blanks at their ends removed.
-/

namespace HangulConsole
namespace Text

/-- A character with the property `White_Space`. -/
def isBlank (c : Char) : Bool :=
  let code := c.toNat
  (9 ≤ code && code ≤ 13) || code == 32 || code == 0x85 || code == 0xa0 ||
    code == 0x1680 || (0x2000 ≤ code && code ≤ 0x200a) || code == 0x2028 ||
    code == 0x2029 || code == 0x202f || code == 0x205f || code == 0x3000

def dropBlanks (text : List Char) : List Char :=
  text.dropWhile isBlank

def trimChars (text : List Char) : List Char :=
  (dropBlanks (dropBlanks text).reverse).reverse

def trim (text : String) : String :=
  String.ofList (trimChars text.toList)

def isBlankText (text : String) : Bool :=
  text.toList.all isBlank

/-- Lower case for the ASCII letters; every other character stays. -/
def asciiLower (text : String) : String :=
  String.ofList (text.toList.map Char.toLower)

end Text
end HangulConsole
