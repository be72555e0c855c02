import HangulConsole.Proofs.Text.Lines
import HangulConsole.Proofs.Calls.OnePass

/-!
# Texts with place holders

While marked calls are set aside, a program text is a list of parts: stretches that
end in a parenthesis or in the place holder of a call.  Each of the three passes
does something with every part and nothing across parts.
-/

namespace HangulConsole
namespace Calls

open Text

/-- A stretch up to its parenthesis, or up to the place holder of the call that followed. -/
structure Part where
  text : List Char
  /-- The number of the call that was set aside. -/
  held? : Option Nat
deriving DecidableEq

namespace Part

def code (sentinel : Char) (part : Part) : List Char :=
  match part.held? with
  | none => part.text ++ ['(']
  | some index => part.text ++ placeHolder sentinel index

def restored (aside : List (List Char)) (part : Part) : List Char :=
  match part.held? with
  | none => part.text ++ ['(']
  | some index => part.text ++ aside[index]?.getD []

def mark (names : List (List Char)) (part : Part) : Part :=
  match part.held? with
  | none => { part with text := markStretch names part.text }
  | some _ => part

end Part

def codeOf (sentinel : Char) (parts : List Part) (tail : List Char) : List Char :=
  parts.flatMap (Part.code sentinel) ++ tail

def restoredOf (aside : List (List Char)) (parts : List Part) (tail : List Char) : List Char :=
  parts.flatMap (Part.restored aside) ++ tail

@[simp] theorem codeOf_nil (sentinel : Char) (tail : List Char) : codeOf sentinel [] tail = tail :=
  rfl

theorem codeOf_cons (sentinel : Char) (part : Part) (parts : List Part) (tail : List Char) :
    codeOf sentinel (part :: parts) tail = part.code sentinel ++ codeOf sentinel parts tail := by
  simp [codeOf]

@[simp] theorem restoredOf_nil (aside : List (List Char)) (tail : List Char) :
    restoredOf aside [] tail = tail :=
  rfl

theorem restoredOf_cons (aside : List (List Char)) (part : Part) (parts : List Part)
    (tail : List Char) :
    restoredOf aside (part :: parts) tail =
      part.restored aside ++ restoredOf aside parts tail := by
  simp [restoredOf]

/-!
# Sentinels and place holders
-/

theorem isPrivate_of_mem_sentinelCandidates {c : Char} (mem : c ∈ sentinelCandidates) :
    isPrivate c = true := by
  rw [sentinelCandidates, List.mem_map] at mem
  rcases mem with ⟨offset, within, rfl⟩
  have below := List.mem_range.1 within
  have valid : (0xe000 + offset).isValidChar := Or.inr ⟨by omega, by omega⟩
  rw [isPrivate, toNat_ofNat_of_isValidChar valid, Bool.or_eq_true, Bool.and_eq_true,
    decide_eq_true_eq, decide_eq_true_eq]
  exact Or.inl ⟨by omega, by omega⟩

theorem isPrivate_pickSentinel (source : List Char) : isPrivate (pickSentinel source) = true := by
  rw [pickSentinel]
  cases found : sentinelCandidates.find? fun c => !source.contains c with
  | none => decide
  | some c => exact isPrivate_of_mem_sentinelCandidates (List.mem_of_find?_eq_some found)

theorem not_mem_marker_of_isPrivate {c : Char} (secluded : isPrivate c = true) :
    c ∉ marker ++ [' '] := by
  intro inside
  have none_secluded : ∀ d ∈ marker ++ [' '], isPrivate d = false := by
    simp [marker, isPrivate]
  rw [none_secluded c inside] at secluded
  exact Bool.noConfusion secluded

theorem stops_of_isPrivate {c : Char} (secluded : isPrivate c = true) : Stops c :=
  ⟨isIdentifierChar_of_isPrivate secluded, isBlank_of_isPrivate secluded⟩

theorem isIdentifierChar_of_isDigit {c : Char} (digit : c.isDigit = true) :
    isIdentifierChar c = true := by
  have ascii : c.toNat < 128 := by
    simp only [Char.isDigit, Bool.and_eq_true, decide_eq_true_eq] at digit
    have upper : c.val.toNat ≤ 57 := UInt32.le_iff_toNat_le.1 digit.2
    rw [Char.toNat]
    omega
  rw [isIdentifierChar_of_ascii ascii]
  simp [Char.isAlphanum, digit]

theorem plain_toDigits (index : Nat) : Plain (Nat.toDigits 10 index) := by
  intro c mem
  have digit : c.isDigit = true :=
    Nat.isDigit_of_mem_toDigits (by decide) (by decide) mem
  exact Or.inl (isIdentifierChar_of_isDigit digit)

theorem append_placeHolder (text : List Char) (sentinel : Char) (index : Nat) :
    text ++ placeHolder sentinel index =
      text ++ sentinel :: Nat.toDigits 10 index ++ [sentinel] := by
  simp [placeHolder]

theorem paren_not_mem_placeHolder {sentinel : Char} (secluded : isPrivate sentinel = true)
    {text : List Char} (closed : '(' ∉ text) (index : Nat) :
    '(' ∉ text ++ sentinel :: Nat.toDigits 10 index := by
  have digits := stops_paren.not_mem (plain_toDigits index)
  have paren_ne := ne_paren_of_isPrivate secluded
  simp [closed, digits, paren_ne.symm]

theorem dropPlus_of_isDigit {text : List Char} (digits : ∀ c ∈ text, c.isDigit = true) :
    dropPlus text = text := by
  rw [dropPlus.eq_def]
  split
  · exact absurd (digits '+' (List.mem_cons_self ..)) (by decide)
  · rfl

theorem indexOf?_toDigits (index : Nat) : indexOf? (Nat.toDigits 10 index) = some index := by
  have digits : ∀ c ∈ Nat.toDigits 10 index, c.isDigit = true :=
    fun c mem => Nat.isDigit_of_mem_toDigits (by decide) (by decide) mem
  have all : (Nat.toDigits 10 index).all Char.isDigit = true := List.all_eq_true.2 digits
  rw [indexOf?, dropPlus_of_isDigit digits]
  simp [Nat.toDigits_ne_nil, all, Nat.ofDigitChars_ten_toDigits]

/-!
# Putting back
-/

theorem putBackPieces_append {sentinel : Char} {aside : List (List Char)} {text : List Char}
    (free : sentinel ∉ text) (rest : List Char) :
    putBackPieces aside false (splitAt sentinel (text ++ rest)) =
      text ++ putBackPieces aside false (splitAt sentinel rest) := by
  induction text with
  | nil => rfl
  | cons c text ih =>
      have c_ne : c ≠ sentinel := fun same => free (by simp [same])
      have tail := ih fun mem => free (List.mem_cons_of_mem c mem)
      rw [List.cons_append, splitAt, if_neg c_ne]
      cases pieces : splitAt sentinel (text ++ rest) with
      | nil => exact absurd pieces (splitAt_ne_nil _ _)
      | cons piece pieces' =>
          rw [pieces] at tail
          simpa [putBackPieces] using tail

theorem putBackPieces_placeHolder {sentinel : Char} (secluded : isPrivate sentinel = true)
    {aside : List (List Char)} {index : Nat} {call : List Char}
    (held : aside[index]? = some call) (rest : List Char) :
    putBackPieces aside false (splitAt sentinel (placeHolder sentinel index ++ rest)) =
      call ++ putBackPieces aside false (splitAt sentinel rest) := by
  have free : sentinel ∉ Nat.toDigits 10 index :=
    (stops_of_isPrivate secluded).not_mem (plain_toDigits index)
  have text_eq : placeHolder sentinel index ++ rest =
      sentinel :: (Nat.toDigits 10 index ++ sentinel :: rest) := by
    simp [placeHolder]
  rw [text_eq, splitAt, if_pos rfl, splitAt_append_cons free, putBackPieces, putBackPieces]
  simp [putBackPiece, indexOf?_toDigits, held]

end Calls
end HangulConsole
