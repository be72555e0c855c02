/-!
# Punycode

A label is written with ASCII characters only: first its ASCII characters, then,
after a hyphen, where its other characters belong.  These are inserted in the
order of their code points, and each insertion is a number: the distance from
the insertion before it.  Numbers are written with 36 digits and a bias that
follows the sizes seen so far.
-/

namespace HangulConsole
namespace Domain

/-! # Digits -/

def digitChar (value : Nat) : Char :=
  if value < 26 then Char.ofNat ('a'.toNat + value) else Char.ofNat ('0'.toNat + (value - 26))

def digitValue? (c : Char) : Option Nat :=
  if c.isLower then some (c.toNat - 'a'.toNat)
  else if c.isUpper then some (c.toNat - 'A'.toNat)
  else if c.isDigit then some (c.toNat - '0'.toNat + 26)
  else none

/-- The least value at which a digit is not the last one of its number; `position` grows by 36 with
each digit. -/
def threshold (position bias : Nat) : Nat :=
  if position ≤ bias then 1 else min 26 (position - bias)

theorem threshold_pos (position bias : Nat) : 0 < threshold position bias := by
  unfold threshold
  split <;> omega

/-- The bias after a distance: it brings the expected length of the next number near that of this
one. -/
def adapted (distance points : Nat) (first : Bool) : Nat :=
  let scaled := if first then distance / 700 else distance / 2
  settle (scaled + scaled / points) 0
where
  /-- Divides until the distance is small. -/
  settle (distance divided : Nat) : Nat :=
    if 455 < distance then settle (distance / 35) (divided + 36)
    else divided + 36 * distance / (distance + 38)
  termination_by distance
  decreasing_by exact Nat.div_lt_self (by omega) (by omega)

/-! # Writing -/

def numberDigits (bias position number : Nat) : List Char :=
  let least := threshold position bias
  if number < least then [digitChar number]
  else
    digitChar (least + (number - least) % (36 - least)) ::
      numberDigits bias (position + 36) ((number - least) / (36 - least))
  termination_by number
  decreasing_by
    have := threshold_pos position bias
    exact Nat.lt_of_le_of_lt (Nat.div_le_self _ _) (by omega)

structure Writing where
  written : List Char
  distance : Nat
  bias : Nat
  /-- How many characters stand in their place. -/
  placed : Nat

def Writing.pass (basics code : Nat) (state : Writing) (c : Char) : Writing :=
  if c.toNat < code then
    { state with distance := state.distance + 1 }
  else if c.toNat = code then
    { written := state.written ++ numberDigits state.bias 36 state.distance
      distance := 0
      bias := adapted state.distance (state.placed + 1) (state.placed == basics)
      placed := state.placed + 1 }
  else
    state

def Writing.insertAll (label : List Char) (basics : Nat) :
    Writing -> (previous : Nat) -> List Nat -> Writing
  | state, _, [] => state
  | state, previous, code :: codes =>
      let start := { state with
        distance := state.distance + (code - previous) * (state.placed + 1) }
      let done := label.foldl (Writing.pass basics code) start
      insertAll label basics { done with distance := done.distance + 1 } (code + 1) codes

def isAscii (c : Char) : Bool := decide (c.toNat < 128)

def foreignCodes (label : List Char) : List Nat :=
  (((label.filter fun c => !isAscii c).map Char.toNat).mergeSort).eraseReps

def toPunycode (label : List Char) : List Char :=
  let basics := label.filter isAscii
  let start : Writing := ⟨[], 0, 72, basics.length⟩
  basics ++ (if basics.isEmpty then [] else ['-']) ++
    (start.insertAll label basics.length 128 (foreignCodes label)).written

/-! # Reading -/

/-- Reads one number and adds it, times `weight`, to `total`: the sum, and what follows. -/
def readNumber? (bias position weight total : Nat) : List Char -> Option (Nat × List Char)
  | [] => none
  | c :: rest => do
      let digit ← digitValue? c
      let least := threshold position bias
      let total := total + digit * weight
      if digit < least then return (total, rest)
      else readNumber? bias (position + 36) (weight * (36 - least)) total rest

theorem length_lt_of_readNumber? {bias position weight total number : Nat}
    {text rest : List Char}
    (read : readNumber? bias position weight total text = some (number, rest)) :
    rest.length < text.length := by
  induction text generalizing position weight total with
  | nil => simp [readNumber?] at read
  | cons c text ih =>
      rw [readNumber?] at read
      cases value : digitValue? c with
      | none => simp [value] at read
      | some digit =>
          simp only [value, Option.bind_eq_bind, Option.bind_some] at read
          split at read
          · simp only [pure, Option.some.injEq, Prod.mk.injEq] at read
            simp [read.2]
          · have := ih read
            simp only [List.length_cons]
            omega

def numberLimit : Nat := 4294967296

/-- Inserts the characters that the rest of the input tells into those placed so far; `code` and
`place` are where the last insertion ended. -/
def insertRead? (bias code place : Nat) (placed : List Char) : List Char -> Option (List Char)
  | [] => some placed
  | c :: rest =>
      match _read : readNumber? bias 36 1 place (c :: rest) with
      | none => none
      | some (total, after) =>
          let points := placed.length + 1
          let next := code + total / points
          let spot := total % points
          if total < numberLimit && (next < 0xd800 || (0xdfff < next && next < 0x110000)) then
            insertRead? (adapted (total - place) points (place == 0)) next (spot + 1)
              (placed.insertIdx spot (Char.ofNat next)) after
          else
            none
  termination_by text => text.length
  decreasing_by
    have := length_lt_of_readNumber? _read
    simpa using this

def ofPunycode? (text : List Char) : Option (List Char) :=
  let tail := (text.reverse.takeWhile (· != '-')).reverse
  let basics := text.take (text.length - tail.length - 1)
  if basics.all isAscii then insertRead? 72 128 0 basics tail else none

end Domain
end HangulConsole
