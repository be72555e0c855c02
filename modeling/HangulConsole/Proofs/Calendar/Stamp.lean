import HangulConsole.Proofs.Calendar.Minutes
import HangulConsole.Text.Utf8

/-!
# Stamps of minutes

Behind the year every part of a stamp has two digits, and what is in front of them is a year of
four digits or one with a sign.  So a stamp can be read in one way only, and with years of four
digits the bytes of stamps are in the order of the minutes.
-/

namespace HangulConsole
namespace Calendar

open Text

/-!
# Padded numbers
-/

variable {width n n' : Nat}

theorem toList_padded (width n : Nat) :
    (padded width n).toList =
      List.replicate (width - (Nat.toDigits 10 n).length) '0' ++ Nat.toDigits 10 n := by
  unfold padded
  rw [String.toList_ofList]

theorem isDigit_of_mem_padded {c : Char} (mem : c ∈ (padded width n).toList) :
    c.isDigit = true := by
  rw [toList_padded, List.mem_append] at mem
  rcases mem with zero | digit
  · rw [List.eq_of_mem_replicate zero]
    decide
  · exact Nat.isDigit_of_mem_toDigits (by decide) (by decide) digit

theorem ofDigitChars_replicate_zero (count : Nat) (rest : List Char) :
    Nat.ofDigitChars 10 (List.replicate count '0' ++ rest) 0 = Nat.ofDigitChars 10 rest 0 := by
  induction count with
  | zero => rfl
  | succ count ih => exact ih

theorem ofDigitChars_padded (width n : Nat) :
    Nat.ofDigitChars 10 (padded width n).toList 0 = n := by
  rw [toList_padded, ofDigitChars_replicate_zero, Nat.ofDigitChars_toDigits (by decide) (by decide)]

theorem padded_inj : padded width n = padded width n' ↔ n = n' := by
  constructor
  · intro same
    rw [← ofDigitChars_padded width n, same, ofDigitChars_padded]
  · intro same
    rw [same]

theorem length_padded (positive : 0 < width) (fits : n < 10 ^ width) :
    (padded width n).toList.length = width := by
  have short := (Nat.length_toDigits_le_iff (by decide) positive).2 fits
  rw [toList_padded, List.length_append, List.length_replicate]
  omega

theorem toList_padded_succ (positive : 0 < width) (n : Nat) :
    (padded (width + 1) n).toList = (padded width (n / 10)).toList ++ [(n % 10).digitChar] := by
  rw [toList_padded, toList_padded]
  rcases Nat.lt_or_ge n 10 with digit | long
  · obtain ⟨others, rfl⟩ := Nat.exists_eq_succ_of_ne_zero positive.ne'
    have first : n / 10 = 0 := Nat.div_eq_of_lt digit
    rw [first, Nat.mod_eq_of_lt digit, Nat.toDigits_of_lt_base digit, Nat.toDigits_zero]
    dsimp only [List.length_singleton, Nat.succ_eq_add_one]
    rw [Nat.add_sub_cancel, Nat.add_sub_cancel, List.replicate_succ']
  · rw [Nat.toDigits_of_base_le (by decide) long, List.length_append, List.length_singleton,
      Nat.add_sub_add_right, List.append_assoc]

theorem append_inj_of_length {front front' rest rest' : String}
    (length : rest.toList.length = rest'.toList.length) (same : front ++ rest = front' ++ rest') :
    front = front' ∧ rest = rest' := by
  have chars := congrArg String.toList same
  rw [String.toList_append, String.toList_append] at chars
  rcases List.append_inj' chars length with ⟨fronts, rests⟩
  exact ⟨String.toList_inj.1 fronts, String.toList_inj.1 rests⟩

theorem append_padded_inj {front front' : String} (positive : 0 < width) (fits : n < 10 ^ width)
    (fits' : n' < 10 ^ width) (same : front ++ padded width n = front' ++ padded width n') :
    front = front' ∧ n = n' := by
  have length : (padded width n).toList.length = (padded width n').toList.length := by
    rw [length_padded positive fits, length_padded positive fits']
  rcases append_inj_of_length length same with ⟨fronts, numbers⟩
  exact ⟨fronts, padded_inj.1 numbers⟩

/-!
# Bytes
-/

theorem utf8EncodeChar_digitChar :
    ∀ digit < 10, String.utf8EncodeChar digit.digitChar = [UInt8.ofNat (48 + digit)] := by
  decide

theorem digitByte_lt_iff :
    ∀ digit < 10, ∀ digit' < 10,
      UInt8.ofNat (48 + digit) < UInt8.ofNat (48 + digit') ↔ digit < digit' := by
  decide

theorem encode_padded_succ (positive : 0 < width) (n : Nat) :
    encode (padded (width + 1) n) =
      encode (padded width (n / 10)) ++ [UInt8.ofNat (48 + n % 10)] := by
  rw [encode_eq_flatMap, toList_padded_succ positive, List.flatMap_append, ← encode_eq_flatMap,
    List.flatMap_singleton, utf8EncodeChar_digitChar _ (Nat.mod_lt _ (by decide))]

theorem encode_padded_one (digit : n < 10) :
    encode (padded 1 n) = [UInt8.ofNat (48 + n)] := by
  rw [encode_eq_flatMap, toList_padded, Nat.toDigits_of_lt_base digit]
  exact (List.flatMap_singleton ..).trans (utf8EncodeChar_digitChar n digit)

theorem length_encode_padded (positive : 0 < width) (fits : n < 10 ^ width) :
    (encode (padded width n)).length = width := by
  induction width, positive using Nat.le_induction generalizing n with
  | base => rw [encode_padded_one fits, List.length_singleton]
  | succ width positive ih =>
      rw [encode_padded_succ positive, List.length_append, List.length_singleton,
        ih (Nat.div_lt_of_lt_mul (by rwa [Nat.pow_succ'] at fits))]

theorem encode_padded_lt_iff (positive : 0 < width) (fits : n < 10 ^ width)
    (fits' : n' < 10 ^ width) :
    encode (padded width n) < encode (padded width n') ↔ n < n' := by
  induction width, positive using Nat.le_induction generalizing n n' with
  | base =>
      rw [encode_padded_one fits, encode_padded_one fits', List.cons_lt_cons_iff,
        digitByte_lt_iff _ fits _ fits']
      simp
  | succ width positive ih =>
      have front : n / 10 < 10 ^ width := Nat.div_lt_of_lt_mul (by rwa [Nat.pow_succ'] at fits)
      have front' : n' / 10 < 10 ^ width := Nat.div_lt_of_lt_mul (by rwa [Nat.pow_succ'] at fits')
      have same : (encode (padded width (n / 10))).length =
          (encode (padded width (n' / 10))).length := by
        rw [length_encode_padded positive front, length_encode_padded positive front']
      rw [encode_padded_succ positive, encode_padded_succ positive, append_lt_append_iff same,
        ih front front', encode_inj, padded_inj, List.cons_lt_cons_iff,
        digitByte_lt_iff _ (Nat.mod_lt _ (by decide)) _ (Nat.mod_lt _ (by decide))]
      simp only [List.lt_irrefl, and_false, or_false]
      omega

theorem encode_padded_append_lt_iff {rest rest' : String} (positive : 0 < width)
    (fits : n < 10 ^ width) (fits' : n' < 10 ^ width) :
    encode (padded width n ++ rest) < encode (padded width n' ++ rest') ↔
      n < n' ∨ n = n' ∧ encode rest < encode rest' := by
  have same : (encode (padded width n)).length = (encode (padded width n')).length := by
    rw [length_encode_padded positive fits, length_encode_padded positive fits']
  rw [encode_append, encode_append, append_lt_append_iff same,
    encode_padded_lt_iff positive fits fits', encode_inj, padded_inj]

/-!
# Years
-/

variable {year year' : Int}

theorem yearText_of_short (positive : 0 ≤ year) (short : year < 10000) :
    yearText year = padded 4 year.toNat := by
  unfold yearText
  rw [if_pos (by simp [positive, short])]

theorem yearText_of_signed (signed : ¬(0 ≤ year ∧ year < 10000)) :
    yearText year = (if year < 0 then "-" else "+") ++ padded 4 year.natAbs := by
  unfold yearText
  rw [if_neg (by simpa using signed)]

theorem padded_ne_sign {width' : Nat} :
    padded width n ≠ (if year < 0 then "-" else "+") ++ padded width' n' := by
  intro same
  have sign : ∃ c ∈ (padded width n).toList, c = '-' ∨ c = '+' := by
    rw [same, String.toList_append]
    split
    · exact ⟨'-', List.mem_append_left _ (by decide), Or.inl rfl⟩
    · exact ⟨'+', List.mem_append_left _ (by decide), Or.inr rfl⟩
  rcases sign with ⟨c, mem, rfl | rfl⟩
  · exact absurd (isDigit_of_mem_padded mem) (by decide)
  · exact absurd (isDigit_of_mem_padded mem) (by decide)

theorem signed_inj (same : (if year < 0 then "-" else "+") ++ padded width year.natAbs =
      (if year' < 0 then "-" else "+") ++ padded width year'.natAbs) : year = year' := by
  have chars := congrArg String.toList same
  rw [String.toList_append, String.toList_append] at chars
  have signs : ((if year < 0 then "-" else "+" : String).toList).length =
      ((if year' < 0 then "-" else "+" : String).toList).length := by
    split <;> split <;> rfl
  rcases List.append_inj chars signs with ⟨sign, digits⟩
  have amount := padded_inj.1 (String.toList_inj.1 digits)
  have side : year < 0 ↔ year' < 0 := by
    by_cases negative : year < 0 <;> by_cases negative' : year' < 0
    · exact iff_of_true negative negative'
    · rw [if_pos negative, if_neg negative'] at sign
      exact absurd sign (by decide)
    · rw [if_neg negative, if_pos negative'] at sign
      exact absurd sign (by decide)
    · exact iff_of_false negative negative'
  omega

theorem yearText_inj : yearText year = yearText year' ↔ year = year' := by
  refine ⟨fun same => ?_, fun same => by rw [same]⟩
  by_cases short : 0 ≤ year ∧ year < 10000
  · rw [yearText_of_short short.1 short.2] at same
    by_cases short' : 0 ≤ year' ∧ year' < 10000
    · rw [yearText_of_short short'.1 short'.2, padded_inj] at same
      omega
    · rw [yearText_of_signed short'] at same
      exact absurd same padded_ne_sign
  · rw [yearText_of_signed short] at same
    by_cases short' : 0 ≤ year' ∧ year' < 10000
    · rw [yearText_of_short short'.1 short'.2] at same
      exact absurd same.symm padded_ne_sign
    · rw [yearText_of_signed short'] at same
      exact signed_inj same

/-!
# Stamps
-/

namespace Minute

variable {m m' : Minute}

theorem InCalendar.two_digits (proper : m.InCalendar) :
    m.month < 10 ^ 2 ∧ m.day < 10 ^ 2 ∧ m.hour < 10 ^ 2 ∧ m.minute < 10 ^ 2 := by
  rcases proper with ⟨⟨_, month, _, day⟩, hour, minute⟩
  have length := monthLength_le m.year m.month
  omega

/-- A stamp is read from the right: the year is what is left over. -/
theorem stamp_inj (proper : m.InCalendar) (proper' : m'.InCalendar) :
    m.stamp = m'.stamp ↔ m = m' := by
  refine ⟨fun same => ?_, fun same => by rw [same]⟩
  rcases proper.two_digits with ⟨month, day, hour, minute⟩
  rcases proper'.two_digits with ⟨month', day', hour', minute'⟩
  unfold stamp at same
  rcases append_padded_inj (by decide) minute minute' same with ⟨same, minutes⟩
  rcases append_padded_inj (by decide) hour hour' same with ⟨same, hours⟩
  rcases append_inj_of_length rfl same with ⟨same, _⟩
  rcases append_padded_inj (by decide) day day' same with ⟨same, days⟩
  rcases append_padded_inj (by decide) month month' same with ⟨years, months⟩
  cases m
  cases m'
  rw [Minute.mk.injEq]
  exact ⟨yearText_inj.1 years, months, days, hours, minutes⟩

theorem encode_stamp_append_lt_iff (proper : m.InCalendar) (proper' : m'.InCalendar)
    (years : 0 ≤ m.year ∧ m.year < 10000) (years' : 0 ≤ m'.year ∧ m'.year < 10000)
    (rest : String) :
    encode (m.stamp ++ rest) < encode (m'.stamp ++ rest) ↔ m.parts < m'.parts := by
  rcases proper.two_digits with ⟨month, day, hour, minute⟩
  rcases proper'.two_digits with ⟨month', day', hour', minute'⟩
  have year : m.year.toNat < 10 ^ 4 := by omega
  have year' : m'.year.toNat < 10 ^ 4 := by omega
  unfold stamp parts
  rw [yearText_of_short years.1 years.2, yearText_of_short years'.1 years'.2]
  simp only [String.append_assoc]
  rw [encode_padded_append_lt_iff (by decide) year year',
    encode_padded_append_lt_iff (by decide) month month',
    encode_padded_append_lt_iff (by decide) day day', encode_append, encode_append "_",
    append_lt_append_iff rfl,
    encode_padded_append_lt_iff (by decide) hour hour',
    encode_padded_append_lt_iff (by decide) minute minute']
  have year_lt : m.year.toNat < m'.year.toNat ↔ m.year < m'.year := by omega
  have year_eq : m.year.toNat = m'.year.toNat ↔ m.year = m'.year := by omega
  simp only [List.cons_lt_cons_iff, year_lt, year_eq, List.lt_irrefl, Int.ofNat_lt, Int.ofNat_inj,
    and_false, or_false, false_or, true_and]

end Minute
end Calendar
end HangulConsole
