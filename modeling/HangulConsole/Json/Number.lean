import HangulConsole.Decimal.Shortest

/-!
# Numbers in reports

How a number that a document holds in the wrong place is shown: an integer in
its digits, any other number as its shortest decimal with a point, written with
an exponent when it is very large or very small.
-/

namespace HangulConsole
namespace Json

inductive Number where
  /-- An integer of at most 64 bits. -/
  | integer (value : Int)
  | floating (value : Float)

def positional (digits : List Char) (whole : Int) : List Char :=
  let count : Int := digits.length
  if count ≤ whole then
    digits ++ List.replicate (whole - count).toNat '0' ++ ['.', '0']
  else if 0 < whole then
    digits.take whole.toNat ++ '.' :: digits.drop whole.toNat
  else
    ['0', '.'] ++ List.replicate (-whole).toNat '0' ++ digits

def scientific (digits : List Char) (exponent : Int) : List Char :=
  let head := digits.take 1 ++ (if digits.length ≤ 1 then [] else '.' :: digits.drop 1)
  head ++ 'e' :: (if exponent < 0 then '-' else '+') :: Nat.toDigits 10 exponent.natAbs

def signBit : Nat := 9223372036854775808

/-- The decimal of a double: positional from 0.00001 up to 16 digits before the point. -/
def floatText (value : Float) : String :=
  let bits := value.toBits.toNat
  let magnitude := bits % signBit
  let sign := if signBit ≤ bits then "-" else ""
  if magnitude = 0 then sign ++ "0.0"
  else
    let decimal := Decimal.shortest (.ofBits magnitude)
    let all := Nat.toDigits 10 decimal.digits
    let digits := (all.reverse.dropWhile (· == '0')).reverse
    let whole : Int := all.length + decimal.exponent
    let text := if -5 < whole && whole ≤ 16 then positional digits whole
      else scientific digits (whole - 1)
    sign ++ String.ofList text

end Json
end HangulConsole
