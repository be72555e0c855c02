import HangulConsole.Guest.Exception
import HangulConsole.Text.Alphanumeric

/-!
# Names that a guest can define

A function of the host becomes known to the guest under a name.  The host checks the name first;
then the guest compiles the definition of a function of that name, and what its compiler says of
it is left open.
-/

namespace HangulConsole
namespace Guest

/-- Whether a host may choose a name: identifier characters only, and no number in front. -/
def isBindable (name : String) : Bool :=
  match name.toList with
  | [] => false
  | first :: rest => !Text.isNumeric first && (first :: rest).all Text.isIdentifierChar

/-- What the guest makes of the definition of a function under a name: the global that it sets,
which may be spelled in another way, or the exception that it raises. -/
class Compiler where
  define : String -> Except Exception String

end Guest
end HangulConsole
