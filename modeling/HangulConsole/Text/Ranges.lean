/-!
# Character classes given by code point ranges

A class of a character standard is a list of closed ranges of code points.
-/

namespace HangulConsole
namespace Text

def inRanges (ranges : List (Nat × Nat)) (c : Char) : Bool :=
  ranges.any fun range => range.1 ≤ c.toNat && c.toNat ≤ range.2

end Text
end HangulConsole
