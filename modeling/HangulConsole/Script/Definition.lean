import HangulConsole.Domain.Direction
import HangulConsole.Guest.Definition
import HangulConsole.Text.Printable

/-!
# Names in scripts

The names that a script can define.  Not every identifier will do: some words have a meaning of
their own, and some letters and digits do not stand in names.
-/

namespace HangulConsole
namespace Script

def reservedWords : List String :=
  ["False", "None", "True", "and", "as", "assert", "async", "await", "break", "class", "continue",
    "def", "del", "elif", "else", "except", "finally", "for", "from", "global", "if", "import",
    "in", "is", "lambda", "nonlocal", "not", "or", "pass", "raise", "return", "try", "while",
    "with", "yield"]

def constantName : String := "__debug__"

def outsideNameRanges : List (Nat × Nat) :=
  [
    (0xb2, 0xb3), (0xb9, 0xb9), (0xbc, 0xbe), (0x37a, 0x37a), (0x88f, 0x88f), (0x897, 0x897),
    (0x9f4, 0x9f9), (0xb72, 0xb77), (0xbf0, 0xbf2), (0xc5c, 0xc5c), (0xc78, 0xc7e),
    (0xcdc, 0xcdc), (0xd58, 0xd5e), (0xd70, 0xd78), (0xf2a, 0xf33), (0x1372, 0x137c),
    (0x17f0, 0x17f9), (0x1c89, 0x1c8a), (0x2070, 0x2070), (0x2074, 0x2079), (0x2080, 0x2089),
    (0x2150, 0x215f), (0x2189, 0x2189), (0x2460, 0x249b), (0x24b6, 0x24ff), (0x2776, 0x2793),
    (0x2cfd, 0x2cfd), (0x2e2f, 0x2e2f), (0x3192, 0x3195), (0x3220, 0x3229), (0x3248, 0x324f),
    (0x3251, 0x325f), (0x3280, 0x3289), (0x32b1, 0x32bf), (0xa7cb, 0xa7cf), (0xa7d2, 0xa7d2),
    (0xa7d4, 0xa7d4), (0xa7da, 0xa7dc), (0xa7f1, 0xa7f1), (0xa830, 0xa835), (0xfc5e, 0xfc63),
    (0xfdfa, 0xfdfb), (0xfe70, 0xfe70), (0xfe72, 0xfe72), (0xfe74, 0xfe74), (0xfe76, 0xfe76),
    (0xfe78, 0xfe78), (0xfe7a, 0xfe7a), (0xfe7c, 0xfe7c), (0xfe7e, 0xfe7e), (0x10107, 0x10133),
    (0x10175, 0x10178), (0x1018a, 0x1018b), (0x102e1, 0x102fb), (0x10320, 0x10323),
    (0x105c0, 0x105f3), (0x10858, 0x1085f), (0x10879, 0x1087f), (0x108a7, 0x108af),
    (0x108fb, 0x108ff), (0x10916, 0x1091b), (0x10940, 0x10959), (0x109bc, 0x109bd),
    (0x109c0, 0x109cf), (0x109d2, 0x109ff), (0x10a40, 0x10a48), (0x10a7d, 0x10a7e),
    (0x10a9d, 0x10a9f), (0x10aeb, 0x10aef), (0x10b58, 0x10b5f), (0x10b78, 0x10b7f),
    (0x10ba9, 0x10baf), (0x10cfa, 0x10cff), (0x10d40, 0x10d65), (0x10d69, 0x10d69),
    (0x10d6f, 0x10d85), (0x10e60, 0x10e7e), (0x10ec2, 0x10ec7), (0x10efa, 0x10efc),
    (0x10f1d, 0x10f26), (0x10f51, 0x10f54), (0x10fc5, 0x10fcb), (0x11052, 0x11065),
    (0x111e1, 0x111f4), (0x11380, 0x11389), (0x1138b, 0x1138b), (0x1138e, 0x1138e),
    (0x11390, 0x113b5), (0x113b7, 0x113c0), (0x113c2, 0x113c2), (0x113c5, 0x113c5),
    (0x113c7, 0x113ca), (0x113cc, 0x113cd), (0x113d1, 0x113d1), (0x113d3, 0x113d3),
    (0x116d0, 0x116e3), (0x1173a, 0x1173b), (0x118ea, 0x118f2), (0x11b60, 0x11b67),
    (0x11bc0, 0x11be0), (0x11bf0, 0x11bf9), (0x11c5a, 0x11c6c), (0x11db0, 0x11ddb),
    (0x11de0, 0x11de9), (0x11fc0, 0x11fd4), (0x13460, 0x143fa), (0x16100, 0x1612e),
    (0x16130, 0x16139), (0x16b5b, 0x16b61), (0x16d40, 0x16d6c), (0x16d70, 0x16d79),
    (0x16e80, 0x16e96), (0x16ea0, 0x16eb8), (0x16ebb, 0x16ed3), (0x16ff2, 0x16ff6),
    (0x187f8, 0x187ff), (0x18cff, 0x18cff), (0x18d09, 0x18d1e), (0x18d80, 0x18df2),
    (0x1ccf0, 0x1ccf9), (0x1d2c0, 0x1d2d3), (0x1d2e0, 0x1d2f3), (0x1d360, 0x1d378),
    (0x1e5d0, 0x1e5ed), (0x1e5f0, 0x1e5fa), (0x1e6c0, 0x1e6de), (0x1e6e0, 0x1e6f5),
    (0x1e6fe, 0x1e6ff), (0x1e8c7, 0x1e8cf), (0x1ec71, 0x1ecab), (0x1ecad, 0x1ecaf),
    (0x1ecb1, 0x1ecb4), (0x1ed01, 0x1ed2d), (0x1ed2f, 0x1ed3d), (0x1f100, 0x1f10c),
    (0x1f130, 0x1f149), (0x1f150, 0x1f169), (0x1f170, 0x1f189), (0x2b73a, 0x2b73f),
    (0x2cea2, 0x2cead), (0x2ebf0, 0x2ee5d), (0x323b0, 0x33479)
  ]

/-- Letters that start no name although they are no marks. -/
def outsideStart : List Nat := [0xe33, 0xeb3, 0xff9e, 0xff9f]

def continuesName (c : Char) : Bool := !Text.inRanges outsideNameRanges c

def startsName (c : Char) : Bool :=
  continuesName c && !Domain.isMark c && !outsideStart.contains c.toNat

def misplaced? : List Char -> Option Char
  | [] => none
  | first :: rest =>
      if startsName first then rest.find? fun c => !continuesName c else some first

def codePoint (c : Char) : String :=
  "U+" ++ String.ofList ((Text.hexPadded 4 c.toNat).map Char.toUpper)

def definitionFault? (name : String) : Option String :=
  if reservedWords.contains name then some "invalid syntax"
  else if name = constantName then some "cannot assign to __debug__"
  else
    (misplaced? name.toList).map fun c =>
      if Text.isPrintable c then
        "invalid character '" ++ String.singleton c ++ "' (" ++ codePoint c ++ ")"
      else
        "invalid non-printable character " ++ codePoint c

/-- A name that can be defined is the global that its definition sets. -/
instance : Guest.Compiler where
  define name :=
    match definitionFault? name with
    | some reason => .error (.malformed reason 1)
    | none => .ok name

end Script
end HangulConsole
