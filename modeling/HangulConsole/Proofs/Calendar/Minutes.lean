import HangulConsole.Proofs.Calendar.Days

/-!
# Minutes of the calendar

A minute of the calendar is found from the number of minutes alone, and a later one has later parts.
-/

namespace HangulConsole
namespace Calendar

theorem append_lt_append_iff {α : Type} [LT α] {front front' rest rest' : List α}
    (same : front.length = front'.length) :
    front ++ rest < front' ++ rest' ↔ front < front' ∨ front = front' ∧ rest < rest' := by
  induction front generalizing front' with
  | nil =>
      rw [List.eq_nil_of_length_eq_zero same.symm]
      simp
  | cons a front ih =>
      cases front' with
      | nil => cases same
      | cons a' front' =>
          rw [List.cons_append, List.cons_append, List.cons_lt_cons_iff, List.cons_lt_cons_iff,
            ih (Nat.succ.inj same), List.cons.injEq]
          tauto

namespace Minute

variable {seconds seconds' : Int}

/-!
# Parts
-/

def parts (m : Minute) : List Int :=
  [m.year, m.month, m.day, m.hour, m.minute]

theorem eq_of_parts_eq {m m' : Minute} (same : m.parts = m'.parts) : m = m' := by
  cases m
  cases m'
  simpa [parts, Int.ofNat_inj] using same

theorem ofSeconds_parts (seconds : Int) :
    (ofSeconds seconds).parts = dateParts (dateOfDays (seconds / 60 / 1440)) ++
      [seconds / 60 % 1440 / 60, seconds / 60 % 60] := by
  have days : Int.fdiv seconds 86400 = seconds / 60 / 1440 := by
    rw [Int.fdiv_eq_ediv_of_nonneg _ (by decide)]
    omega
  have hour : (((Int.fmod seconds 86400).toNat / 3600 : Nat) : Int) = seconds / 60 % 1440 / 60 := by
    rw [Int.fmod_eq_emod_of_nonneg _ (by decide)]
    omega
  have minute : (((Int.fmod seconds 86400).toNat / 60 % 60 : Nat) : Int) = seconds / 60 % 60 := by
    rw [Int.fmod_eq_emod_of_nonneg _ (by decide)]
    omega
  unfold ofSeconds parts dateParts
  dsimp only
  rw [days, hour, minute]
  rfl

def InCalendar (m : Minute) : Prop :=
  IsDate (m.year, m.month, m.day) ∧ m.hour < 24 ∧ m.minute < 60

theorem inCalendar_ofSeconds (seconds : Int) : (ofSeconds seconds).InCalendar := by
  have short : (Int.fmod seconds 86400).toNat < 86400 := by
    rw [Int.fmod_eq_emod_of_nonneg _ (by decide)]
    omega
  unfold InCalendar ofSeconds
  dsimp only
  exact ⟨isDate_dateOfDays _, by omega, by omega⟩

/-!
# Order
-/

theorem ofSeconds_parts_lt (before : seconds / 60 < seconds' / 60) :
    (ofSeconds seconds).parts < (ofSeconds seconds').parts := by
  rw [ofSeconds_parts, ofSeconds_parts, append_lt_append_iff (by rfl)]
  rcases lt_trichotomy (seconds / 60 / 1440) (seconds' / 60 / 1440) with earlier | same | later
  · exact Or.inl (dateParts_dateOfDays_lt earlier)
  · refine Or.inr ⟨by rw [same], ?_⟩
    rw [List.cons_lt_cons_iff, List.cons_lt_cons_iff]
    omega
  · omega

theorem ofSeconds_parts_lt_iff :
    (ofSeconds seconds).parts < (ofSeconds seconds').parts ↔ seconds / 60 < seconds' / 60 := by
  refine ⟨fun less => ?_, ofSeconds_parts_lt⟩
  rcases lt_trichotomy (seconds / 60) (seconds' / 60) with earlier | equal | later
  · exact earlier
  · rw [ofSeconds_parts, ofSeconds_parts, equal] at less
    exact absurd less (lt_irrefl _)
  · exact absurd less (lt_asymm (ofSeconds_parts_lt later))

theorem ofSeconds_eq_iff :
    ofSeconds seconds = ofSeconds seconds' ↔ seconds / 60 = seconds' / 60 := by
  constructor
  · intro same
    rcases lt_trichotomy (seconds / 60) (seconds' / 60) with earlier | equal | later
    · exact absurd (congrArg parts same) (ofSeconds_parts_lt earlier).ne
    · exact equal
    · exact absurd (congrArg parts same) (ofSeconds_parts_lt later).ne'
  · intro equal
    apply eq_of_parts_eq
    rw [ofSeconds_parts, ofSeconds_parts, equal]

end Minute
end Calendar
end HangulConsole
