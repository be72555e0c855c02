/-!
# The shortest decimal of a binary number

A double stands for every real number that rounds to it.  Its shortest decimal
has the fewest digits among the decimals in that interval, and is the nearest to
the double among those.  All arithmetic is on whole numbers.
-/

namespace HangulConsole
namespace Decimal

/-- A positive double: `mantissa * 2 ^ exponent`, and whether the gap to its lower neighbour is half
as wide as the gap to its upper one. -/
structure Binary where
  mantissa : Nat
  exponent : Int
  /-- Whether the double below is nearer than the one above. -/
  narrowBelow : Bool
deriving Repr, DecidableEq

def hiddenBit : Nat := 4503599627370496

def Binary.ofBits (bits : Nat) : Binary :=
  let exponentField : Nat := bits / hiddenBit % 2048
  let fraction := bits % hiddenBit
  if exponentField = 0 then ⟨fraction, -1074, false⟩
  else
    { mantissa := fraction + hiddenBit
      exponent := (exponentField : Int) - 1075
      narrowBelow := fraction == 0 && 1 < exponentField }

structure Digits where
  digits : Nat
  /-- The power of ten of the last digit. -/
  exponent : Int
deriving Repr, DecidableEq

def scale (two ten : Int) : Nat × Nat :=
  (Nat.pow 2 two.toNat * Nat.pow 10 (-ten).toNat, Nat.pow 2 (-two).toNat * Nat.pow 10 ten.toNat)

/-- The greatest power of ten that is not above `quarters * 2 ^ two`, looked for downwards from
`start`. -/
def magnitude (quarters : Nat) (two start : Int) : Nat -> Int
  | 0 => start
  | fuel + 1 =>
      let (num, den) := scale two start
      if den ≤ quarters * num then start else magnitude quarters two (start - 1) fuel

/-- The decimal with `count` digits next to the double, if one lies in its interval. -/
def withDigits? (b : Binary) (top : Int) (count : Nat) : Option Digits :=
  let ten := top - count + 1
  let (num, den) := scale (b.exponent - 2) ten
  let value := 4 * b.mantissa * num
  let lower := (4 * b.mantissa - if b.narrowBelow then 1 else 2) * num
  let upper := (4 * b.mantissa + 2) * num
  let inside := fun d : Nat =>
    if b.mantissa % 2 = 0 then lower ≤ d * den && d * den ≤ upper
    else lower < d * den && d * den < upper
  let below := value / den
  let above := below + 1
  let first := if value - below * den ≤ above * den - value then below else above
  let second := if first = below then above else below
  if inside first then some ⟨first, ten⟩
  else if inside second then some ⟨second, ten⟩
  else none

def shortest (b : Binary) : Digits :=
  let top := magnitude (4 * b.mantissa) (b.exponent - 2) 309 700
  ((List.range 17).findSome? fun n => withDigits? b top (n + 1)).getD ⟨b.mantissa, 0⟩

end Decimal
end HangulConsole
