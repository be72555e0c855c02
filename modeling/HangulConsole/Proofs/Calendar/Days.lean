import HangulConsole.Calendar
import Mathlib.Data.List.Lex
import Mathlib.Order.Monotone.Basic
import Mathlib.Order.Lattice.Nat

/-!
# Days of the calendar

Every day has the date that comes after that of the day before, by the lengths of the months and the
leap years.  So dates grow from day to day.
-/

namespace HangulConsole
namespace Calendar

/-!
# Months and leap years
-/

def IsLeap (year : Int) : Prop :=
  year % 4 = 0 ∧ (year % 100 ≠ 0 ∨ year % 400 = 0)

instance (year : Int) : Decidable (IsLeap year) :=
  inferInstanceAs (Decidable (_ ∧ _))

def monthLength (year : Int) (month : Nat) : Nat :=
  if month = 2 then
    if IsLeap year then 29 else 28
  else if month = 4 ∨ month = 6 ∨ month = 9 ∨ month = 11 then 30 else 31

theorem monthLength_one_le (year : Int) (month : Nat) :
    monthLength 1 month ≤ monthLength year month := by
  unfold monthLength
  have common : ¬IsLeap 1 := by decide
  rw [if_neg common]
  split_ifs <;> omega

theorem monthLength_one (year : Int) {month : Nat} (other : month ≠ 2) :
    monthLength 1 month = monthLength year month := by
  unfold monthLength
  rw [if_neg other, if_neg other]

theorem monthLength_february_of_leap {year : Int} (leap : IsLeap year) :
    monthLength year 2 = 29 := by
  unfold monthLength
  rw [if_pos rfl, if_pos leap]

theorem monthLength_february_of_not_leap {year : Int} (common : ¬IsLeap year) :
    monthLength year 2 = 28 := by
  unfold monthLength
  rw [if_pos rfl, if_neg common]

theorem monthLength_le (year : Int) (month : Nat) : monthLength year month ≤ 31 := by
  unfold monthLength
  split_ifs <;> decide

def dayAfter : Int × Nat × Nat -> Int × Nat × Nat
  | (year, month, day) =>
      if day < monthLength year month then (year, month, day + 1)
      else if month < 12 then (year, month + 1, 1) else (year + 1, 1, 1)

/-!
# Years that begin in March
-/

/-- The days from 0000-03-01 to the March of a year. -/
def daysBefore (year : Int) : Int :=
  365 * year + year / 4 - year / 100 + year / 400

theorem daysBefore_succ (year : Int) :
    daysBefore (year + 1) = daysBefore year + if IsLeap (year + 1) then 366 else 365 := by
  have fourth : (year + 1) / 4 = year / 4 + if (year + 1) % 4 = 0 then 1 else 0 := by
    split <;> omega
  have hundredth : (year + 1) / 100 = year / 100 + if (year + 1) % 100 = 0 then 1 else 0 := by
    split <;> omega
  have fourHundredth : (year + 1) / 400 = year / 400 + if (year + 1) % 400 = 0 then 1 else 0 := by
    split <;> omega
  unfold daysBefore IsLeap
  rw [fourth, hundredth, fourHundredth]
  split_ifs <;> omega

def monthOf (day : Nat) : Nat :=
  if (5 * day + 2) / 153 < 10 then (5 * day + 2) / 153 + 3 else (5 * day + 2) / 153 - 9

def dayOfMonth (day : Nat) : Nat :=
  day - (153 * ((5 * day + 2) / 153) + 2) / 5 + 1

theorem first_of_march : monthOf 0 = 3 ∧ dayOfMonth 0 = 1 := ⟨rfl, rfl⟩

theorem february_28 : monthOf 364 = 2 ∧ dayOfMonth 364 = 28 := ⟨rfl, rfl⟩

theorem february_29 : monthOf 365 = 2 ∧ dayOfMonth 365 = 29 := ⟨rfl, rfl⟩

theorem month_succ :
    ∀ day < 364,
      (dayOfMonth day < monthLength 1 (monthOf day) ∧
        monthOf (day + 1) = monthOf day ∧ dayOfMonth (day + 1) = dayOfMonth day + 1) ∨
      (dayOfMonth day = monthLength 1 (monthOf day) ∧ dayOfMonth (day + 1) = 1 ∧
        monthOf day ≠ 2 ∧
        (monthOf day < 12 ∧ monthOf (day + 1) = monthOf day + 1 ∨
          monthOf day = 12 ∧ monthOf (day + 1) = 1)) := by
  decide +kernel

/-- A day of a year that begins in March. -/
structure YearDay where
  year : Int
  day : Nat
  within : daysBefore year + day < daysBefore (year + 1)

namespace YearDay

def days (place : YearDay) : Int :=
  daysBefore place.year + place.day

theorem day_le (place : YearDay) :
    place.day < 365 ∨ place.day = 365 ∧ IsLeap (place.year + 1) := by
  have within := place.within
  rw [daysBefore_succ] at within
  split at within
  · rename_i leap
    by_cases last : place.day = 365
    · exact Or.inr ⟨last, leap⟩
    · exact Or.inl (by omega)
  · exact Or.inl (by omega)

theorem exists_next (place : YearDay) : ∃ next : YearDay, next.days = place.days + 1 ∧
    (next.year = place.year ∧ next.day = place.day + 1 ∨
      next.year = place.year + 1 ∧ next.day = 0 ∧
        place.day = if IsLeap (place.year + 1) then 365 else 364) := by
  have within := place.within
  have length := daysBefore_succ place.year
  by_cases inside : daysBefore place.year + (place.day + 1 : Nat) < daysBefore (place.year + 1)
  · refine ⟨⟨place.year, place.day + 1, inside⟩, ?_, Or.inl ⟨rfl, rfl⟩⟩
    unfold days
    push_cast
    omega
  · have filled := daysBefore_succ (place.year + 1)
    have first : daysBefore (place.year + 1) + (0 : Nat) < daysBefore (place.year + 1 + 1) := by
      rw [filled]
      split <;> omega
    refine ⟨⟨place.year + 1, 0, first⟩, ?_, Or.inr ⟨rfl, rfl, ?_⟩⟩
    · unfold days
      dsimp only
      omega
    · by_cases leap : IsLeap (place.year + 1)
      · rw [if_pos leap] at length ⊢
        omega
      · rw [if_neg leap] at length ⊢
        omega

theorem exists_previous (place : YearDay) :
    ∃ previous : YearDay, previous.days = place.days - 1 := by
  have within := place.within
  cases day : place.day with
  | zero =>
      have length := daysBefore_succ (place.year - 1)
      rw [Int.sub_add_cancel] at length
      have last : daysBefore (place.year - 1) + (if IsLeap place.year then 365 else 364 : Nat) <
          daysBefore (place.year - 1 + 1) := by
        rw [Int.sub_add_cancel, length]
        split <;> omega
      refine ⟨⟨place.year - 1, _, last⟩, ?_⟩
      unfold days
      dsimp only
      rw [day, length]
      split <;> omega
  | succ day' =>
      have inside : daysBefore place.year + day' < daysBefore (place.year + 1) := by omega
      refine ⟨⟨place.year, day', inside⟩, ?_⟩
      unfold days
      rw [day]
      push_cast
      omega

theorem exists_days_eq (days : Int) : ∃ place : YearDay, place.days = days := by
  induction days using Int.induction_on with
  | zero =>
      have first : daysBefore 0 + (0 : Nat) < daysBefore (0 + 1) := by decide
      exact ⟨⟨0, 0, first⟩, rfl⟩
  | succ days ih =>
      rcases ih with ⟨place, eq⟩
      rcases place.exists_next with ⟨next, later, _⟩
      exact ⟨next, by rw [later, eq]⟩
  | pred days ih =>
      rcases ih with ⟨place, eq⟩
      rcases place.exists_previous with ⟨previous, earlier⟩
      exact ⟨previous, by rw [earlier, eq]⟩

/-!
# Dates
-/

def date (place : YearDay) : Int × Nat × Nat :=
  (place.year + if monthOf place.day ≤ 2 then 1 else 0, monthOf place.day, dayOfMonth place.day)

/-- An era of 400 years has four centuries, a century has cycles of four years; only the last year
of a cycle may have a leap day, and the last cycle of a century has one only in the last
century. -/
theorem exists_parts (place : YearDay) :
    ∃ (era : Int) (century cycle year : Nat),
      place.year = 400 * era + (100 * century + 4 * cycle + year : Nat) ∧
      century ≤ 3 ∧ cycle ≤ 24 ∧ year ≤ 3 ∧
      (place.day < 365 ∨ place.day = 365 ∧ year = 3 ∧ (cycle < 24 ∨ century = 3)) := by
  obtain ⟨era, ofEra, eq, within⟩ : ∃ (era : Int) (ofEra : Nat),
      place.year = 400 * era + ofEra ∧ ofEra < 400 :=
    ⟨place.year / 400, (place.year % 400).toNat, by omega⟩
  refine ⟨era, ofEra / 100, ofEra % 100 / 4, ofEra % 4, by omega, by omega, by omega, by omega, ?_⟩
  rcases place.day_le with inside | ⟨last, leap⟩
  · exact Or.inl inside
  · unfold IsLeap at leap
    rw [eq] at leap
    have cycleEnds : ofEra % 4 = 3 := by omega
    have centuryGoesOn : (ofEra + 1) % 100 ≠ 0 ∨ ofEra + 1 = 400 := by omega
    exact Or.inr ⟨last, cycleEnds, by omega⟩

end YearDay

theorem daysBefore_parts (era : Int) {century cycle year : Nat} (century_le : century ≤ 3)
    (cycle_le : cycle ≤ 24) (year_le : year ≤ 3) :
    daysBefore (400 * era + (100 * century + 4 * cycle + year : Nat)) =
      146097 * era + (36524 * century + 1461 * cycle + 365 * year : Nat) := by
  have fourth : (400 * era + (100 * century + 4 * cycle + year : Nat)) / 4 =
      100 * era + 25 * century + cycle := by omega
  have hundredth : (400 * era + (100 * century + 4 * cycle + year : Nat)) / 100 =
      4 * era + century := by omega
  have fourHundredth : (400 * era + (100 * century + 4 * cycle + year : Nat)) / 400 = era := by
    omega
  unfold daysBefore
  omega

theorem yearOfEra_eq {century cycle year day dayOfEra : Nat} (century_le : century ≤ 3)
    (cycle_le : cycle ≤ 24) (year_le : year ≤ 3)
    (within : day < 365 ∨ day = 365 ∧ year = 3 ∧ (cycle < 24 ∨ century = 3))
    (eq : dayOfEra = 36524 * century + 1461 * cycle + 365 * year + day) :
    (dayOfEra - dayOfEra / 1460 + dayOfEra / 36524 - dayOfEra / 146096) / 365 =
      100 * century + 4 * cycle + year := by
  have carry_le : (24 * century + cycle + 365 * year + day) / 1460 ≤ day ∧
      day ≤ (24 * century + cycle + 365 * year + day) / 1460 + 364 := by omega
  have leaps : dayOfEra / 1460 =
      25 * century + cycle + (24 * century + cycle + 365 * year + day) / 1460 := by omega
  have centuries : dayOfEra / 36524 = century + dayOfEra / 146096 := by
    by_cases last : dayOfEra = 146096
    · rw [last]
      omega
    · have early : dayOfEra / 146096 = 0 := by omega
      have same : dayOfEra / 36524 = century := by omega
      omega
  rw [leaps, centuries]
  generalize (24 * century + cycle + 365 * year + day) / 1460 = carry at carry_le
  generalize dayOfEra / 146096 = last
  have years : dayOfEra - (25 * century + cycle + carry) + (century + last) - last =
      365 * (100 * century + 4 * cycle + year) + (day - carry) := by omega
  omega

theorem dateOfDays_eq (place : YearDay) : dateOfDays (place.days - epochDays) = place.date := by
  rcases place.exists_parts with
    ⟨era, century, cycle, year, whole, century_le, cycle_le, year_le, within⟩
  obtain ⟨dayOfEra, ofEra⟩ : ∃ dayOfEra : Nat,
      dayOfEra = 36524 * century + 1461 * cycle + 365 * year + place.day := ⟨_, rfl⟩
  have shifted : place.days - epochDays + epochDays = dayOfEra + era * 146097 := by
    rw [Int.sub_add_cancel, YearDay.days, whole, daysBefore_parts era century_le cycle_le year_le,
      ofEra]
    omega
  have short : dayOfEra < 146097 := by omega
  have eraEq : Int.fdiv (dayOfEra + era * 146097) 146097 = era := by
    rw [Int.fdiv_eq_ediv_of_nonneg _ (by decide), Int.add_mul_ediv_right _ _ (by decide)]
    omega
  have rest : (Int.fmod (dayOfEra + era * 146097) 146097).toNat = dayOfEra := by
    rw [Int.fmod_eq_emod_of_nonneg _ (by decide), Int.add_mul_emod_self_right]
    omega
  have yearEq := yearOfEra_eq century_le cycle_le year_le within ofEra
  have dayEq : dayOfEra - (365 * (100 * century + 4 * cycle + year) +
      (100 * century + 4 * cycle + year) / 4 - (100 * century + 4 * cycle + year) / 100) =
        place.day := by
    have fourth : (100 * century + 4 * cycle + year) / 4 = 25 * century + cycle := by omega
    have hundredth : (100 * century + 4 * cycle + year) / 100 = century := by omega
    rw [fourth, hundredth]
    omega
  unfold dateOfDays
  dsimp only
  rw [shifted, eraEq, rest, yearEq, dayEq]
  unfold YearDay.date monthOf dayOfMonth
  rw [whole, add_comm (400 * era), mul_comm 400]

namespace YearDay

variable {place next : YearDay}

theorem dayAfter_date_of_same_year (year : next.year = place.year)
    (day : next.day = place.day + 1) : dayAfter place.date = next.date := by
  unfold date dayAfter
  dsimp only
  rw [year, day]
  by_cases early : place.day < 364
  · rcases month_succ place.day early with
      ⟨inside, month, dayOf⟩ | ⟨last, first, other, month⟩
    · rw [if_pos (lt_of_lt_of_le inside (monthLength_one_le _ _)), month, dayOf]
    · rw [if_neg (by rw [last, monthLength_one _ other]; exact lt_irrefl _), first]
      rcases month with ⟨before, month⟩ | ⟨december, january⟩
      · have sameSide : monthOf place.day + 1 ≤ 2 ↔ monthOf place.day ≤ 2 := by omega
        rw [if_pos before, month]
        simp only [sameSide]
      · rw [december, january]
        simp
  · -- The day after the 28th of February is in the same year.
    rcases next.day_le with inside | ⟨last, leap⟩
    · omega
    · have feb28 : place.day = 364 := by omega
      rw [year] at leap
      rw [feb28, february_28.1, february_28.2, february_29.1, february_29.2, if_pos (le_refl 2),
        monthLength_february_of_leap leap]
      rfl

theorem dayAfter_date_of_next_year (year : next.year = place.year + 1) (first : next.day = 0)
    (last : place.day = if IsLeap (place.year + 1) then 365 else 364) :
    dayAfter place.date = next.date := by
  unfold date dayAfter
  dsimp only
  rw [year, first, first_of_march.1, first_of_march.2]
  by_cases leap : IsLeap (place.year + 1)
  · rw [if_pos leap] at last
    rw [last, february_29.1, february_29.2, if_pos (le_refl 2), monthLength_february_of_leap leap]
    simp
  · rw [if_neg leap] at last
    rw [last, february_28.1, february_28.2, if_pos (le_refl 2),
      monthLength_february_of_not_leap leap]
    simp

end YearDay

theorem exists_date_eq (days : Int) :
    ∃ place : YearDay, place.days = days + epochDays ∧ dateOfDays days = place.date := by
  rcases YearDay.exists_days_eq (days + epochDays) with ⟨place, here⟩
  refine ⟨place, here, ?_⟩
  rw [← dateOfDays_eq, here, Int.add_sub_cancel]

theorem dateOfDays_succ (days : Int) : dateOfDays (days + 1) = dayAfter (dateOfDays days) := by
  rcases exists_date_eq days with ⟨place, here, today⟩
  rcases place.exists_next with ⟨next, later, follows⟩
  have tomorrow : dateOfDays (days + 1) = next.date := by
    rw [← dateOfDays_eq, later, here, Int.add_right_comm, Int.add_sub_cancel]
  rw [today, tomorrow]
  rcases follows with ⟨year, day⟩ | ⟨year, first, last⟩
  · exact (YearDay.dayAfter_date_of_same_year year day).symm
  · exact (YearDay.dayAfter_date_of_next_year year first last).symm

example : dateOfDays 0 = (1970, 1, 1) := by decide

def IsDate : Int × Nat × Nat -> Prop
  | (year, month, day) =>
      0 < month ∧ month ≤ 12 ∧ 0 < day ∧ day ≤ monthLength year month

theorem isDate_dateOfDays (days : Int) : IsDate (dateOfDays days) := by
  have common : ∀ day < 365, 0 < monthOf day ∧ monthOf day ≤ 12 ∧ 0 < dayOfMonth day ∧
      dayOfMonth day ≤ monthLength 1 (monthOf day) := by decide +kernel
  rcases exists_date_eq days with ⟨place, _, today⟩
  rw [today]
  unfold YearDay.date IsDate
  dsimp only
  rcases place.day_le with inside | ⟨last, leap⟩
  · rcases common place.day inside with ⟨month_pos, month_le, day_pos, day_le⟩
    exact ⟨month_pos, month_le, day_pos, le_trans day_le (monthLength_one_le _ _)⟩
  · rw [last, february_29.1, february_29.2, if_pos (le_refl 2), monthLength_february_of_leap leap]
    decide

/-!
# Order
-/

def dateParts : Int × Nat × Nat -> List Int
  | (year, month, day) => [year, month, day]

theorem dateParts_lt_dayAfter (date : Int × Nat × Nat) :
    dateParts date < dateParts (dayAfter date) := by
  rcases date with ⟨year, month, day⟩
  unfold dayAfter
  dsimp only
  split_ifs <;> simp [dateParts, List.cons_lt_cons_iff]

theorem dateParts_dateOfDays_lt {days days' : Int} (before : days < days') :
    dateParts (dateOfDays days) < dateParts (dateOfDays days') := by
  have grows : StrictMono fun days => dateParts (dateOfDays days) := by
    apply strictMono_int_of_lt_succ
    intro day
    rw [dateOfDays_succ]
    exact dateParts_lt_dayAfter _
  exact grows before

end Calendar
end HangulConsole
