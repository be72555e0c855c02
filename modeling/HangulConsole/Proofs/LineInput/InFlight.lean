import HangulConsole.Proofs.LineInput.Sound

/-!
# Lines on their way

Between its submission and its delivery a line is kept for the one call that made the
request.  Nothing but that call's own next step, or its end, takes the line away.
-/

namespace HangulConsole
namespace CallTable

open LineInput

variable {table after : CallTable} {slot number : Nat} {line : String}
  {operation : Operation} {outcome : Outcome}

def Waits (table : CallTable) (slot : Nat) : Prop :=
  ∃ request, table.input.waiting? = some request ∧ table.Holds slot request.number

/-- A line was submitted for the call in a slot, and the call has not collected it. -/
def Ready (table : CallTable) (slot : Nat) (line : String) : Prop :=
  ∃ number, table.Holds slot number ∧ table.input.answer? number = some line

def Over (table : CallTable) (slot : Nat) : Prop :=
  table.slots[slot]? = some .closed

theorem Sound.waits_unique (sound : table.Sound) {other : Nat} (waits : table.Waits slot)
    (again : table.Waits other) : slot = other := by
  rcases waits with ⟨request, waiting, held⟩
  rcases again with ⟨found, eq, holds⟩
  rw [waiting] at eq
  cases eq
  exact sound.slot_eq held holds

theorem Sound.not_waits_of_ready (sound : table.Sound) (ready : table.Ready slot line) :
    ¬ table.Waits slot := by
  rintro ⟨request, waiting, held⟩
  rcases ready with ⟨number, holds, answered⟩
  have ended := sound.waitsFor_of_some holds answered
  rw [← held.number_eq holds, waitsFor_iff.2 ⟨request, waiting, rfl⟩] at ended
  cases ended

theorem not_waits_of_over (ended : table.Over slot) : ¬ table.Waits slot := by
  rintro ⟨request, _, held⟩
  rw [Holds, ended] at held
  cases held

/-!
# Steps of other calls

A step of one call leaves all other calls and their lines as they are.
-/

structure Unaffected (table after : CallTable) (slot : Nat) : Prop where
  slots : after.slots[slot]? = table.slots[slot]?
  answer? : ∀ number, table.Holds slot number ->
    after.input.answer? number = table.input.answer? number

namespace Unaffected

theorem ready_iff (unaffected : Unaffected table after slot) :
    after.Ready slot line ↔ table.Ready slot line := by
  constructor
  · rintro ⟨number, held, answered⟩
    rw [Holds, unaffected.slots] at held
    rw [unaffected.answer? number held] at answered
    exact ⟨number, held, answered⟩
  · rintro ⟨number, held, answered⟩
    refine ⟨number, unaffected.slots.trans held, ?_⟩
    rw [unaffected.answer? number held]
    exact answered

theorem refl (table : CallTable) (slot : Nat) : Unaffected table table slot :=
  ⟨rfl, fun _ _ => rfl⟩

theorem of_set {input : LineInput} {other : Nat} {ticket : Ticket} (distinct : other ≠ slot)
    (answers : ∀ number, table.Holds slot number ->
      input.answer? number = table.input.answer? number) :
    Unaffected table ⟨input, table.slots.set other ticket⟩ slot :=
  ⟨List.getElem?_set_ne distinct, answers⟩

end Unaffected

theorem Sound.unaffected_of_polled (sound : table.Sound) {other : Nat} {progress : Progress}
    (effect : PollEffect table other after progress) (distinct : other ≠ slot) :
    Unaffected table after slot := by
  cases effect with
  | missing _ => exact Unaffected.refl table slot
  | ended _ => exact Unaffected.refl table slot
  | refused _ _ => exact Unaffected.of_set distinct fun _ _ => rfl
  | asked _ asked =>
      refine Unaffected.of_set distinct fun number _ => ?_
      rw [answer?, answer?, asked.answers]
  | answered holds _ =>
      refine Unaffected.of_set distinct fun number held => ?_
      exact answer?_forget_of_ne (sound.others_of_forget holds distinct held)
  | waits _ _ _ => exact Unaffected.refl table slot
  | abandoned _ _ _ => exact Unaffected.of_set distinct fun _ _ => rfl

theorem Sound.unaffected_of_dropped (sound : table.Sound) {other : Nat}
    (effect : DropEffect table other after) (distinct : other ≠ slot) :
    Unaffected table after slot := by
  cases effect with
  | missing _ => exact Unaffected.refl table slot
  | ended _ => exact Unaffected.refl table slot
  | unmade _ => exact Unaffected.of_set distinct fun _ _ => rfl
  | withdrawn holds withdrawn =>
      refine Unaffected.of_set distinct fun number held => ?_
      rw [answer?, withdrawn.answers]
      exact answer?_forget_of_ne (sound.others_of_forget holds distinct held)
  | discarded holds _ =>
      refine Unaffected.of_set distinct fun number held => ?_
      exact answer?_forget_of_ne (sound.others_of_forget holds distinct held)

theorem unaffected_of_created (prompt : String) (within : slot < table.slots.length) :
    Unaffected table { table with slots := table.slots ++ [.prepared prompt] } slot :=
  ⟨List.getElem?_append_left within, fun _ _ => rfl⟩

theorem Ready.slot_lt (ready : table.Ready slot line) : slot < table.slots.length := by
  rcases ready with ⟨number, held, _⟩
  exact (List.getElem?_eq_some_iff.1 held).1

/-!
# A call that is over stays over
-/

theorem Over.of_set_closed {input : LineInput} {other : Nat} (ended : table.Over slot) :
    Over ⟨input, table.slots.set other .closed⟩ slot := by
  rw [Over, List.getElem?_set]
  by_cases same : other = slot
  · rw [if_pos same]
    have within := (List.getElem?_eq_some_iff.1 ended).1
    rw [same, if_pos within]
  · rw [if_neg same]
    exact ended

theorem over_set_closed {input : LineInput} {ticket : Ticket}
    (found : table.slots[slot]? = some ticket) :
    Over ⟨input, table.slots.set slot .closed⟩ slot := by
  rw [Over, List.getElem?_set_self (List.getElem?_eq_some_iff.1 found).1]

theorem Over.created (ended : table.Over slot) (prompt : String) :
    Over { table with slots := table.slots ++ [.prepared prompt] } slot := by
  rw [Over, List.getElem?_append_left (List.getElem?_eq_some_iff.1 ended).1]
  exact ended

theorem Over.of_polled {other : Nat} {progress : Progress} (ended : table.Over slot)
    (effect : PollEffect table other after progress) : after.Over slot := by
  cases effect with
  | missing _ => exact ended
  | ended _ => exact ended
  | refused _ _ => exact ended.of_set_closed
  | asked found _ =>
      have distinct : other ≠ slot := by
        intro same
        rw [same, ended] at found
        cases found
      rw [Over, List.getElem?_set_ne distinct]
      exact ended
  | answered _ _ => exact ended.of_set_closed
  | waits _ _ _ => exact ended
  | abandoned _ _ _ => exact ended.of_set_closed

theorem Over.of_dropped {other : Nat} (ended : table.Over slot)
    (effect : DropEffect table other after) : after.Over slot := by
  cases effect with
  | missing _ => exact ended
  | ended _ => exact ended
  | unmade _ => exact ended.of_set_closed
  | withdrawn _ _ => exact ended.of_set_closed
  | discarded _ _ => exact ended.of_set_closed

theorem Over.of_step (ended : table.Over slot) (effect : StepEffect table operation after outcome) :
    after.Over slot := by
  cases effect with
  | create => exact ended.created _
  | request effect => exact (ended.created _).of_polled effect
  | poll effect => exact ended.of_polled effect
  | drop effect => exact ended.of_dropped effect
  | host _ effect =>
      cases effect with
      | rests _ _ => exact ended
      | submits _ _ => exact ended

/-!
# The way of one line

A submission makes the line ready for the call that waited, and the next step of that
call collects it.  There is no other way for a line to become ready.
-/

theorem ready_of_submitted {request : Request} {input : LineInput} (sound : table.Sound)
    (submitted : Submitted table.input request line input) (waits : table.Waits slot) :
    Ready { table with input } slot line := by
  rcases waits with ⟨found, waiting, held⟩
  rw [submitted.before] at waiting
  cases waiting
  have unanswered := sound.answer?_of_waitsFor held (waitsFor_iff.2 ⟨_, submitted.before, rfl⟩)
  refine ⟨request.number, held, ?_⟩
  rw [submitted.answer?, unanswered, if_pos rfl, Option.none_or]

theorem Ready.polled (ready : table.Ready slot line) {progress : Progress}
    (effect : PollEffect table slot after progress) :
    progress = .answered line ∧ after.Over slot := by
  rcases ready with ⟨number, held, answered⟩
  cases effect with
  | missing found => rw [held] at found; cases found
  | ended found => rw [held] at found; cases found
  | refused found _ => rw [held] at found; cases found
  | asked found _ => rw [held] at found; cases found
  | answered holds found =>
      rw [← held.number_eq holds, answered] at found
      cases found
      exact ⟨rfl, over_set_closed held⟩
  | waits holds unanswered _ =>
      rw [← held.number_eq holds, answered] at unanswered
      cases unanswered
  | abandoned holds unanswered _ =>
      rw [← held.number_eq holds, answered] at unanswered
      cases unanswered

theorem ready_of_hosted (effect : HostEffect table operation after outcome)
    (ready : table.Ready slot line) : after.Ready slot line := by
  rcases ready with ⟨number, held, answered⟩
  cases effect with
  | rests same _ =>
      refine ⟨number, held, ?_⟩
      rw [same.answer?]
      exact answered
  | submits _ submitted => exact ⟨number, held, submitted.answer?_of_eq_some answered⟩

theorem Sound.ready_of_step (sound : table.Sound)
    (effect : StepEffect table operation after outcome)
    (elsewhere : operation.touches slot = false) (ready : table.Ready slot line) :
    after.Ready slot line := by
  cases effect with
  | @create prompt => exact (unaffected_of_created prompt ready.slot_lt).ready_iff.2 ready
  | @request prompt _ _ effect =>
      have made := (unaffected_of_created prompt ready.slot_lt).ready_iff.2 ready
      have distinct := Nat.ne_of_gt ready.slot_lt
      exact ((sound.created _).unaffected_of_polled effect distinct).ready_iff.2 made
  | poll effect =>
      have distinct := by simpa [Operation.touches] using elsewhere
      exact (sound.unaffected_of_polled effect distinct).ready_iff.2 ready
  | drop effect =>
      have distinct := by simpa [Operation.touches] using elsewhere
      exact (sound.unaffected_of_dropped effect distinct).ready_iff.2 ready
  | host _ effect => exact ready_of_hosted effect ready

theorem Sound.not_ready_of_asked {prompt : String} {input : LineInput} (sound : table.Sound)
    (asked : Asked table.input prompt input) :
    ¬ Ready ⟨input, table.slots.set slot (.waiting table.input.nextNumber)⟩ slot line := by
  rintro ⟨number, held, answered⟩
  rcases holds_set_waiting held with ⟨_, rfl⟩ | ⟨distinct, _⟩
  · have unanswered := sound.answer?_next
    rw [answer?] at answered unanswered
    rw [asked.answers, unanswered] at answered
    cases answered
  · exact distinct rfl

theorem not_ready_of_over (ended : table.Over slot) : ¬ table.Ready slot line := by
  rintro ⟨number, held, _⟩
  rw [Holds, ended] at held
  cases held

theorem not_ready_of_missing (missing : table.slots[slot]? = none) : ¬ table.Ready slot line := by
  rintro ⟨number, held, _⟩
  rw [Holds, missing] at held
  cases held

theorem Sound.not_ready_of_polled (sound : table.Sound) {progress : Progress}
    (effect : PollEffect table slot after progress) : ¬ after.Ready slot line := by
  cases effect with
  | missing missing => exact not_ready_of_missing missing
  | ended ended => exact not_ready_of_over ended
  | refused found _ => exact not_ready_of_over (over_set_closed found)
  | asked _ asked => exact sound.not_ready_of_asked asked
  | answered held _ => exact not_ready_of_over (over_set_closed held)
  | waits held unanswered _ =>
      rintro ⟨number, holds, answered⟩
      rw [← held.number_eq holds, unanswered] at answered
      cases answered
  | abandoned held _ _ => exact not_ready_of_over (over_set_closed held)

theorem not_ready_of_dropped (effect : DropEffect table slot after) : ¬ after.Ready slot line := by
  cases effect with
  | missing missing => exact not_ready_of_missing missing
  | ended ended => exact not_ready_of_over ended
  | unmade found => exact not_ready_of_over (over_set_closed found)
  | withdrawn held _ => exact not_ready_of_over (over_set_closed held)
  | discarded held _ => exact not_ready_of_over (over_set_closed held)

theorem Sound.ready_before_hosted (sound : table.Sound)
    (effect : HostEffect table operation after outcome) (ready : after.Ready slot line) :
    table.Ready slot line ∨
      table.Waits slot ∧ operation.line? table.input.control.content = some line ∧
        outcome = .done true := by
  rcases ready with ⟨number, held, answered⟩
  cases effect with
  | rests same _ =>
      rw [same.answer?] at answered
      exact Or.inl ⟨number, held, answered⟩
  | @submits request _ _ submits submitted =>
      rcases sound.waits_or_answered held with ⟨waits, unanswered⟩ | ⟨_, old, before⟩
      · rcases waitsFor_iff.1 waits with ⟨found, waiting, same⟩
        rw [submitted.before] at waiting
        cases waiting
        rw [submitted.answer?, unanswered, if_pos same, Option.none_or] at answered
        cases answered
        refine Or.inr ⟨⟨request, submitted.before, ?_⟩, submits, rfl⟩
        rw [same]
        exact held
      · rw [submitted.answer?_of_eq_some before] at answered
        cases answered
        exact Or.inl ⟨number, held, before⟩

theorem Sound.ready_before (sound : table.Sound) (effect : StepEffect table operation after outcome)
    (ready : after.Ready slot line) :
    operation.touches slot = false ∧
      (table.Ready slot line ∨
        table.Waits slot ∧ operation.line? table.input.control.content = some line ∧
          outcome = .done true) := by
  cases effect with
  | create =>
      rcases ready with ⟨number, held, answered⟩
      exact ⟨rfl, Or.inl ⟨number, holds_append_prepared held, answered⟩⟩
  | @request prompt _ _ effect =>
      have made := sound.created prompt
      have distinct : table.slots.length ≠ slot := by
        intro same
        rw [same] at effect
        exact made.not_ready_of_polled effect ready
      obtain ⟨number, held, answered⟩ :=
        (made.unaffected_of_polled effect distinct).ready_iff.1 ready
      exact ⟨rfl, Or.inl ⟨number, holds_append_prepared held, answered⟩⟩
  | @poll other _ _ effect =>
      have distinct : other ≠ slot := by
        intro same
        rw [same] at effect
        exact sound.not_ready_of_polled effect ready
      have before := (sound.unaffected_of_polled effect distinct).ready_iff.1 ready
      exact ⟨by simpa [Operation.touches] using distinct, Or.inl before⟩
  | @drop other _ _ effect =>
      have distinct : other ≠ slot := by
        intro same
        rw [same] at effect
        exact not_ready_of_dropped effect ready
      have before := (sound.unaffected_of_dropped effect distinct).ready_iff.1 ready
      exact ⟨by simpa [Operation.touches] using distinct, Or.inl before⟩
  | host hosts effect =>
      have elsewhere : operation.touches slot = false := by
        cases operation with
        | poll _ => cases hosts
        | drop _ => cases hosts
        | _ => rfl
      exact ⟨elsewhere, sound.ready_before_hosted effect ready⟩

def Served (table : CallTable) (slot : Nat) : Prop :=
  (∃ line, table.Ready slot line) ∨ table.Over slot

theorem over_of_dropped_ready (effect : DropEffect table slot after)
    (ready : table.Ready slot line) : after.Over slot := by
  rcases ready with ⟨number, held, _⟩
  cases effect with
  | missing found => rw [held] at found; cases found
  | ended found => rw [held] at found; cases found
  | unmade found => exact over_set_closed found
  | withdrawn held _ => exact over_set_closed held
  | discarded held _ => exact over_set_closed held

theorem Sound.served_of_step (sound : table.Sound)
    (effect : StepEffect table operation after outcome) (served : table.Served slot) :
    after.Served slot := by
  rcases served with ⟨line, ready⟩ | ended
  · cases touched : operation.touches slot with
    | false => exact Or.inl ⟨line, sound.ready_of_step effect touched ready⟩
    | true =>
        cases effect with
        | create => cases touched
        | request _ => cases touched
        | poll effect =>
            have same := by simpa [Operation.touches] using touched
            rw [same] at effect
            exact Or.inr (ready.polled effect).2
        | drop effect =>
            have same := by simpa [Operation.touches] using touched
            rw [same] at effect
            exact Or.inr (over_of_dropped_ready effect ready)
        | host _ effect => exact Or.inl ⟨line, ready_of_hosted effect ready⟩
  · exact Or.inr (ended.of_step effect)

theorem Sound.not_waits_of_served (sound : table.Sound) (served : table.Served slot) :
    ¬ table.Waits slot := by
  rcases served with ⟨line, ready⟩ | ended
  · exact sound.not_waits_of_ready ready
  · exact not_waits_of_over ended

/-!
# Submissions and results
-/

theorem Sound.hostEffect_of_line? (effect : StepEffect table operation after outcome)
    (submits : operation.line? table.input.control.content = some line) :
    HostEffect table operation after outcome := by
  cases effect with
  | create => cases submits
  | request _ => cases submits
  | poll _ => cases submits
  | drop _ => cases submits
  | host _ effect => exact effect

theorem Sound.submission (sound : table.Sound)
    (effect : StepEffect table operation after (.done true))
    (submits : operation.line? table.input.control.content = some line) :
    ∃ slot, table.Waits slot ∧ after.Ready slot line := by
  cases Sound.hostEffect_of_line? effect submits with
  | rests _ idle => exact absurd rfl idle
  | submits again submitted =>
      rw [submits] at again
      cases again
      rcases sound.holder submitted.before with ⟨slot, held⟩
      have waits : table.Waits slot := ⟨_, submitted.before, held⟩
      exact ⟨slot, waits, ready_of_submitted sound submitted waits⟩

def isResult : Progress -> Bool
  | .answered _ | .refused _ => true
  | .waiting | .gone => false

theorem over_of_result {progress : Progress} (effect : PollEffect table slot after progress)
    (result : isResult progress = true) : after.Over slot := by
  cases effect with
  | missing _ => cases result
  | ended _ => cases result
  | refused found _ => exact over_set_closed found
  | asked _ _ => cases result
  | answered held _ => exact over_set_closed held
  | waits _ _ _ => cases result
  | abandoned held _ _ => exact over_set_closed held

theorem Over.polled {progress : Progress} (ended : table.Over slot)
    (effect : PollEffect table slot after progress) : progress = .gone := by
  cases effect with
  | missing _ => rfl
  | ended _ => rfl
  | refused found _ => rw [ended] at found; cases found
  | asked found _ => rw [ended] at found; cases found
  | answered held _ => rw [Holds, ended] at held; cases held
  | waits held _ _ => rw [Holds, ended] at held; cases held
  | abandoned held _ _ => rw [Holds, ended] at held; cases held

theorem ready_of_answered (effect : PollEffect table slot after (.answered line)) :
    table.Ready slot line := by
  cases effect with
  | answered held answered => exact ⟨_, held, answered⟩

end CallTable
end HangulConsole
