import HangulConsole.Json.Reader

/-!
# Numbers of documents

A number is an integer while it fits in 64 bits.  Any other number is a double,
computed from as many digits as fit in 64 bits and one scaling after another.
-/

namespace HangulConsole
namespace Json
namespace Reader

def leastExact : Nat := 9223372036854775808

def digits : Reader (List Char) := do
  let rest ← get
  set (rest.dropWhile Char.isDigit)
  return rest.takeWhile Char.isDigit

def greatestExact : Nat := 18446744073709551615

/-- Adds digits to a number while it stays exact: the number, and how many digits were used. -/
def takeExact (n used : Nat) : List Char -> Nat × Nat
  | [] => (n, used)
  | c :: rest =>
      let more := n * 10 + (c.toNat - '0'.toNat)
      if greatestExact < more then (n, used) else takeExact more (used + 1) rest

def powerOfTen (n : Nat) : Float := Float.ofScientific 1 false n

def scaleFloat : Nat -> Float -> Int -> Option Float
  | 0, value, _ => some value
  | fuel + 1, value, exponent =>
      if exponent.natAbs ≤ 308 then
        if 0 ≤ exponent then
          let scaled := value * powerOfTen exponent.natAbs
          if scaled.isInf then none else some scaled
        else
          some (value / powerOfTen exponent.natAbs)
      else if value == 0.0 then some value
      else if 0 ≤ exponent then none
      else scaleFloat fuel (value / powerOfTen 308) (exponent + 308)

def floating (negative : Bool) (significand : Nat) (exponent : Int) : Reader Float := do
  match scaleFloat 64 significand.toUInt64.toFloat (max exponent (-10000)) with
  | none => fail .numberOutOfRange
  | some value => return if negative then -value else value

def greatestExponent : Nat := 2147483647

def exponentPart (negative : Bool) (significand : Nat) (start : Int) : Reader Float := do
  skip
  let sign ← peek?
  if sign == some '+' || sign == some '-' then skip
  match ← next? with
  | none => fail .endInValue
  | some c =>
      if !c.isDigit then fail .invalidNumber
      let rest ← get
      let more := rest.takeWhile Char.isDigit
      let step := fun (n, used) (c : Char) =>
        let next := n * 10 + (c.toNat - '0'.toNat)
        if greatestExponent < n then (n, used) else (next, used + 1)
      let (value, used) := more.foldl step (c.toNat - '0'.toNat, 0)
      if greatestExponent < value then
        set (rest.drop used)
        if significand != 0 && sign != some '-' then fail .numberOutOfRange
        let _ ← digits
        return if negative then -0.0 else 0.0
      else
        set (rest.drop used)
        floating negative significand (if sign == some '-' then start - value else start + value)

def afterDigits (negative : Bool) (significand : Nat) (exponent : Int) : Reader Float := do
  match ← peek? with
  | some 'e' | some 'E' => exponentPart negative significand exponent
  | _ => floating negative significand exponent

def decimalPart (negative : Bool) (significand : Nat) (start : Int) : Reader Float := do
  skip
  let places ← digits
  if places.isEmpty then
    if (← peek?).isSome then failNext .invalidNumber else failNext .endInValue
  let (value, used) := takeExact significand 0 places
  afterDigits negative value (start - used)

def number (negative : Bool) : Reader Number := do
  match ← next? with
  | none => fail .endInValue
  | some '0' =>
      if (← peek?).any Char.isDigit then failNext .invalidNumber
      else rest 0
  | some c =>
      if !c.isDigit then fail .invalidNumber
      let more ← digits
      let (value, used) := takeExact (c.toNat - '0'.toNat) 0 more
      if used = more.length then rest value
      else
        let exponent : Int := more.length - used
        match ← peek? with
        | some '.' => return .floating (← decimalPart negative value exponent)
        | _ => return .floating (← afterDigits negative value exponent)
where
  /-- Reads what follows whole digits that are kept exactly. -/
  rest (value : Nat) : Reader Number := do
    match ← peek? with
    | some '.' => return .floating (← decimalPart negative value 0)
    | some 'e' | some 'E' => return .floating (← exponentPart negative value 0)
    | _ =>
        if !negative then return .integer value
        else if value = 0 || leastExact < value then return .floating (-value.toUInt64.toFloat)
        else return .integer (-value)

def skipNumber : Reader Unit := do
  match ← next? with
  | some '0' => if (← peek?).any Char.isDigit then failNext .invalidNumber
  | some c =>
      if !c.isDigit then fail .invalidNumber
      let _ ← digits
  | none => fail .invalidNumber
  match ← peek? with
  | some '.' =>
      skip
      if (← digits).isEmpty then failNext .invalidNumber
      match ← peek? with
      | some 'e' | some 'E' => skipExponent
      | _ => return ()
  | some 'e' | some 'E' => skipExponent
  | _ => return ()
where
  /-- Passes over an exponent, from its letter on. -/
  skipExponent : Reader Unit := do
    skip
    let sign ← peek?
    if sign == some '+' || sign == some '-' then skip
    match ← next? with
    | some c => if !c.isDigit then fail .invalidNumber
    | none => fail .invalidNumber
    let _ ← digits

end Reader
end Json
end HangulConsole
