import HangulConsole.Text.Alphanumeric
import HangulConsole.Text.Blank

/-!
# Character classes that lie apart

Blanks are no identifier characters, and the private-use characters of the basic
plane are neither.  Together with the opening parenthesis this is all that the
passes over program texts need to know about characters.
-/

namespace HangulConsole
namespace Text

/-!
# Ranges
-/

theorem inRanges_eq_false_of_apart {ranges : List (Nat × Nat)} {first last : Nat} {c : Char}
    (apart : ranges.all (fun range => range.2 < first || last < range.1) = true)
    (above : first ≤ c.toNat) (below : c.toNat ≤ last) : inRanges ranges c = false := by
  rw [inRanges, List.any_eq_false]
  intro range mem inside
  have away := List.all_eq_true.1 apart range mem
  simp only [Bool.or_eq_true, Bool.and_eq_true, decide_eq_true_eq] at away inside
  omega

theorem toNat_ofNat_of_isValidChar {n : Nat} (valid : n.isValidChar) :
    (Char.ofNat n).toNat = n := by
  rw [Char.ofNat, dif_pos valid]
  rfl

/-!
# Blanks
-/

def blankCodes : List Nat :=
  [9, 10, 11, 12, 13, 32, 0x85, 0xa0, 0x1680, 0x2000, 0x2001, 0x2002, 0x2003, 0x2004, 0x2005,
    0x2006, 0x2007, 0x2008, 0x2009, 0x200a, 0x2028, 0x2029, 0x202f, 0x205f, 0x3000]

theorem toNat_mem_blankCodes {c : Char} (blank : isBlank c = true) : c.toNat ∈ blankCodes := by
  simp only [isBlank, Bool.or_eq_true, Bool.and_eq_true, decide_eq_true_eq, beq_iff_eq] at blank
  simp only [blankCodes, List.mem_cons, List.not_mem_nil, or_false]
  omega

theorem isIdentifierChar_ofNat_of_mem_blankCodes :
    ∀ code ∈ blankCodes, isIdentifierChar (Char.ofNat code) = false := by
  decide +kernel

theorem isIdentifierChar_of_isBlank {c : Char} (blank : isBlank c = true) :
    isIdentifierChar c = false := by
  rw [← Char.ofNat_toNat c]
  exact isIdentifierChar_ofNat_of_mem_blankCodes c.toNat (toNat_mem_blankCodes blank)

theorem isBlank_of_isIdentifierChar {c : Char} (identifier : isIdentifierChar c = true) :
    isBlank c = false := by
  cases blank : isBlank c with
  | false => rfl
  | true =>
      rw [isIdentifierChar_of_isBlank blank] at identifier
      exact absurd identifier Bool.false_ne_true

@[simp] theorem isBlank_paren : isBlank '(' = false := by decide

@[simp] theorem isIdentifierChar_paren : isIdentifierChar '(' = false := by decide +kernel

/-!
# Private use
-/

def isPrivate (c : Char) : Bool :=
  (0xe000 ≤ c.toNat && c.toNat ≤ 0xf8ff) || c.toNat == 0xffff

theorem isBlank_of_isPrivate {c : Char} (secluded : isPrivate c = true) : isBlank c = false := by
  simp only [isPrivate, Bool.or_eq_true, Bool.and_eq_true, decide_eq_true_eq, beq_iff_eq]
    at secluded
  rw [Bool.eq_false_iff]
  intro blank
  have code := toNat_mem_blankCodes blank
  simp only [blankCodes, List.mem_cons, List.not_mem_nil, or_false] at code
  omega

theorem isAlphanumeric_of_isPrivate {c : Char} (secluded : isPrivate c = true) :
    isAlphanumeric c = false := by
  simp only [isPrivate, Bool.or_eq_true, Bool.and_eq_true, decide_eq_true_eq, beq_iff_eq]
    at secluded
  have beyondAscii : ¬c.toNat < 128 := by omega
  rw [isAlphanumeric, if_neg beyondAscii]
  cases secluded with
  | inl inside =>
      have apart :
          alphanumericRanges.all (fun range => range.2 < 0xe000 || 0xf8ff < range.1) = true := by
        decide +kernel
      exact inRanges_eq_false_of_apart apart inside.1 inside.2
  | inr last =>
      have apart :
          alphanumericRanges.all (fun range => range.2 < 0xffff || 0xffff < range.1) = true := by
        decide +kernel
      exact inRanges_eq_false_of_apart apart (by omega) (by omega)

theorem isIdentifierChar_of_isPrivate {c : Char} (secluded : isPrivate c = true) :
    isIdentifierChar c = false := by
  rw [isIdentifierChar, isAlphanumeric_of_isPrivate secluded, Bool.or_false]
  rw [beq_eq_false_iff_ne]
  intro underscore
  rw [underscore] at secluded
  exact absurd secluded (by decide)

theorem ne_paren_of_isPrivate {c : Char} (secluded : isPrivate c = true) : c ≠ '(' := by
  intro paren
  rw [paren] at secluded
  exact absurd secluded (by decide)

end Text
end HangulConsole
