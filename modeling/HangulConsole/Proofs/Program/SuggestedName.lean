import HangulConsole.Proofs.Calendar.Stamp
import HangulConsole.Proofs.Program

/-!
# Suggested names

The name that is offered for a program tells the local minute, and nothing else.
-/

namespace HangulConsole
namespace Program

open Text Calendar

/-!
# The extension
-/

theorem not_namesNoFile_stamp (now : Minute) : ¬NamesNoFile ("hangpy_" ++ now.stamp) := by
  intro unnamed
  have written : (padded 2 now.minute).toList ≠ [] := by
    rw [toList_padded]
    exact List.append_ne_nil_of_right_ne_nil _ Nat.toDigits_ne_nil
  rcases List.eq_nil_or_concat' (padded 2 now.minute).toList with empty | ⟨front, digit, digits⟩
  · exact written empty
  · have isDigit := isDigit_of_mem_padded (digits ▸ List.mem_concat_self : digit ∈ _)
    have last : ("hangpy_" ++ now.stamp).toList.getLast? = some digit := by
      unfold Minute.stamp
      rw [String.toList_append, String.toList_append, digits, ← List.append_assoc,
        ← List.append_assoc, List.getLast?_concat]
    rw [unnamed digit last] at isDigit
    exact absurd isDigit (by decide)

theorem isProgramFile_suggestedName (now : Minute) : isProgramFile (suggestedName now) = true :=
  isProgramFile_append_extension.2 (not_namesNoFile_stamp now)

theorem withExtension_suggestedName (now : Minute) :
    withExtension (suggestedName now) = suggestedName now :=
  if_pos (isProgramFile_suggestedName now)

/-!
# The minute
-/

variable {now now' : Minute}

theorem suggestedName_inj (proper : now.InCalendar) (proper' : now'.InCalendar) :
    suggestedName now = suggestedName now' ↔ now = now' := by
  rw [← Minute.stamp_inj proper proper']
  unfold suggestedName
  rw [String.append_left_inj, String.append_left_inj, String.append_right_inj]

theorem encode_suggestedName_lt_iff (proper : now.InCalendar) (proper' : now'.InCalendar)
    (years : 0 ≤ now.year ∧ now.year < 10000) (years' : 0 ≤ now'.year ∧ now'.year < 10000) :
    encode (suggestedName now) < encode (suggestedName now') ↔ now.parts < now'.parts := by
  unfold suggestedName
  simp only [String.append_assoc]
  rw [encode_append, encode_append "hangpy_", append_lt_append_iff rfl,
    Minute.encode_stamp_append_lt_iff proper proper' years years']
  simp only [List.lt_irrefl, false_or, true_and]

/-- A time that the clock can show, and an offset of less than a day. -/
structure Shown (seconds offset : Int) : Prop where
  first_le : firstSecond ≤ seconds
  le_last : seconds ≤ lastSecond
  offset_lt : offset.natAbs < 86400

theorem minuteAt?_of_shown {seconds offset : Int} (shown : Shown seconds offset) :
    minuteAt? seconds offset = some (.ofSeconds (seconds + offset)) := by
  unfold minuteAt?
  rw [if_pos (by simp [shown.first_le, shown.le_last, shown.offset_lt])]

/-- Suggested names are equal exactly in the same local minute; with years of four digits their
bytes are in the order of the local minutes; and they are names of program files as they are. -/
theorem suggestedName_tells_minute {seconds offset seconds' offset' : Int}
    (shown : Shown seconds offset) (shown' : Shown seconds' offset') :
    ∃ now now',
      minuteAt? seconds offset = some now ∧ minuteAt? seconds' offset' = some now' ∧
      (suggestedName now = suggestedName now' ↔ now = now') ∧
      (now = now' ↔ Int.fdiv (seconds + offset) 60 = Int.fdiv (seconds' + offset') 60) ∧
      (0 ≤ now.year ∧ now.year ≤ 9999 -> 0 ≤ now'.year ∧ now'.year ≤ 9999 ->
        (encode (suggestedName now) < encode (suggestedName now') ↔
          Int.fdiv (seconds + offset) 60 < Int.fdiv (seconds' + offset') 60)) ∧
      isProgramFile (suggestedName now) = true ∧
      withExtension (suggestedName now) = suggestedName now := by
  have proper := Minute.inCalendar_ofSeconds (seconds + offset)
  have proper' := Minute.inCalendar_ofSeconds (seconds' + offset')
  rw [Int.fdiv_eq_ediv_of_nonneg _ (by decide), Int.fdiv_eq_ediv_of_nonneg _ (by decide)]
  refine ⟨_, _, minuteAt?_of_shown shown, minuteAt?_of_shown shown',
    suggestedName_inj proper proper', Minute.ofSeconds_eq_iff, ?_,
    isProgramFile_suggestedName _, withExtension_suggestedName _⟩
  intro years years'
  rw [encode_suggestedName_lt_iff proper proper' ⟨years.1, by omega⟩ ⟨years'.1, by omega⟩]
  exact Minute.ofSeconds_parts_lt_iff

theorem suggestedName_tells_minute_newYear :
    Shown (-1) 0 ∧ Shown 0 0 ∧
      encode (suggestedName ⟨1969, 12, 31, 23, 59⟩) < encode (suggestedName ⟨1970, 1, 1, 0, 0⟩) ∧
      suggestedName ⟨1969, 12, 31, 23, 59⟩ ≠ suggestedName ⟨1970, 1, 1, 0, 0⟩ := by
  have before : Shown (-1) 0 := ⟨by decide, by decide, by decide⟩
  have after : Shown 0 0 := ⟨by decide, by decide, by decide⟩
  rcases suggestedName_tells_minute before after with
    ⟨now, now', shown, shown', same, minutes, order, _⟩
  have old : now = ⟨1969, 12, 31, 23, 59⟩ := Option.some.inj (shown.symm.trans (by decide))
  have new : now' = ⟨1970, 1, 1, 0, 0⟩ := Option.some.inj (shown'.symm.trans (by decide))
  rw [old, new] at same minutes order
  refine ⟨before, after, (order (by decide) (by decide)).2 (by decide), ?_⟩
  intro equal
  exact absurd (minutes.1 (same.1 equal)) (by decide)

example : suggestedName ⟨2024, 3, 9, 7, 5⟩ = "hangpy_20240309_0705.kpy" := by decide

end Program
end HangulConsole
