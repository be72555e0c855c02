import HangulConsole.Proofs.LineInput.Effects

/-!
# Sound tables

In a sound table every request belongs to one call, and the call of every request
either waits or has its line.  An empty table is sound, and no operation makes a
sound table unsound.
-/

namespace HangulConsole
namespace CallTable

open LineInput

variable {table : CallTable} {slot number : Nat} {line : String}

/-- Every request belongs to one call, which waits for it or has its line. -/
structure Sound (table : CallTable) : Prop where
  /-- No number is used twice. -/
  number_lt : ∀ {slot number}, table.Holds slot number -> number < table.input.nextNumber
  answers_lt : ∀ answer ∈ table.input.answers, answer.1 < table.input.nextNumber
  /-- No two calls share a request. -/
  slot_eq : ∀ {slot other number}, table.Holds slot number -> table.Holds other number ->
    slot = other
  /-- The request that waits was made by a call that is not over. -/
  holder : ∀ {request}, table.input.waiting? = some request ->
    ∃ slot, table.Holds slot request.number
  /-- A call either waits or has its line. -/
  waits_or_answered : ∀ {slot number}, table.Holds slot number ->
    (table.input.waitsFor number = true ∧ table.input.answer? number = none) ∨
      (table.input.waitsFor number = false ∧ ∃ line, table.input.answer? number = some line)

theorem sound_empty : Sound empty where
  number_lt := by intro slot number held; simp [Holds, empty] at held
  answers_lt := by intro answer mem; simp [empty, LineInput.empty, ofTranscript] at mem
  slot_eq := by intro slot other number held; simp [Holds, empty] at held
  holder := by intro request waits; simp [empty, LineInput.empty, ofTranscript] at waits
  waits_or_answered := by intro slot number held; simp [Holds, empty] at held

namespace Sound

theorem waitsFor_of_none (sound : table.Sound) (held : table.Holds slot number)
    (unanswered : table.input.answer? number = none) : table.input.waitsFor number = true := by
  rcases sound.waits_or_answered held with ⟨waits, _⟩ | ⟨_, line, answered⟩
  · exact waits
  · rw [unanswered] at answered
    cases answered

theorem waitsFor_of_some (sound : table.Sound) (held : table.Holds slot number)
    (answered : table.input.answer? number = some line) :
    table.input.waitsFor number = false := by
  rcases sound.waits_or_answered held with ⟨_, unanswered⟩ | ⟨ended, _⟩
  · rw [unanswered] at answered
    cases answered
  · exact ended

theorem answer?_of_waitsFor (sound : table.Sound) (held : table.Holds slot number)
    (waits : table.input.waitsFor number = true) : table.input.answer? number = none := by
  rcases sound.waits_or_answered held with ⟨_, unanswered⟩ | ⟨ended, _⟩
  · exact unanswered
  · rw [waits] at ended
    cases ended

theorem answer?_next (sound : table.Sound) :
    table.input.answer? table.input.nextNumber = none :=
  answer?_eq_none_of_lt sound.answers_lt

end Sound

/-!
# No operation makes a sound table unsound
-/

namespace Sound

theorem closed (sound : table.Sound) {input : LineInput}
    (later : table.input.nextNumber ≤ input.nextNumber)
    (fewer : ∀ answer ∈ input.answers, answer ∈ table.input.answers)
    (waiting : ∀ request, input.waiting? = some request ->
      table.input.waiting? = some request ∧ ¬ table.Holds slot request.number)
    (others : ∀ other number, slot ≠ other -> table.Holds other number ->
      input.waitsFor number = table.input.waitsFor number ∧
        input.answer? number = table.input.answer? number) :
    Sound ⟨input, table.slots.set slot .closed⟩ where
  number_lt := by
    intro other number held
    have less := sound.number_lt (holds_set_closed held).2
    exact Nat.lt_of_lt_of_le less later
  answers_lt := by
    intro answer mem
    exact Nat.lt_of_lt_of_le (sound.answers_lt answer (fewer answer mem)) later
  slot_eq := by
    intro first second number held again
    exact sound.slot_eq (holds_set_closed held).2 (holds_set_closed again).2
  holder := by
    intro request waits
    rcases waiting request waits with ⟨before, free⟩
    rcases sound.holder before with ⟨other, held⟩
    refine ⟨other, ?_⟩
    by_cases same : slot = other
    · rw [same] at free
      exact absurd held free
    · rw [Holds, List.getElem?_set_ne same]
      exact held
  waits_or_answered := by
    intro other number held
    rcases holds_set_closed held with ⟨distinct, before⟩
    rcases others other number distinct before with ⟨waits, answer⟩
    rw [waits, answer]
    exact sound.waits_or_answered before

theorem created (sound : table.Sound) (prompt : String) :
    Sound { table with slots := table.slots ++ [.prepared prompt] } where
  number_lt := by
    intro slot number held
    exact sound.number_lt (holds_append_prepared held)
  answers_lt := sound.answers_lt
  slot_eq := by
    intro slot other number held again
    exact sound.slot_eq (holds_append_prepared held) (holds_append_prepared again)
  holder := by
    intro request waits
    rcases sound.holder waits with ⟨slot, held⟩
    exact ⟨slot, holds_append held⟩
  waits_or_answered := by
    intro slot number held
    exact sound.waits_or_answered (holds_append_prepared held)

theorem asked (sound : table.Sound) {prompt : String} {input : LineInput}
    (prepared : table.slots[slot]? = some (.prepared prompt))
    (asked : Asked table.input prompt input) :
    Sound ⟨input, table.slots.set slot (.waiting table.input.nextNumber)⟩ where
  number_lt := by
    intro other number held
    rw [asked.nextNumber]
    rcases holds_set_waiting held with ⟨_, same⟩ | ⟨_, before⟩
    · omega
    · exact Nat.lt_succ_of_lt (sound.number_lt before)
  answers_lt := by
    intro answer mem
    rw [asked.answers] at mem
    rw [asked.nextNumber]
    exact Nat.lt_succ_of_lt (sound.answers_lt answer mem)
  slot_eq := by
    intro first second number held again
    rcases holds_set_waiting held with ⟨same, new⟩ | ⟨_, before⟩
    · rcases holds_set_waiting again with ⟨other, _⟩ | ⟨_, before⟩
      · exact same.symm.trans other
      · have less := sound.number_lt before
        omega
    · rcases holds_set_waiting again with ⟨_, new⟩ | ⟨_, second⟩
      · have less := sound.number_lt before
        omega
      · exact sound.slot_eq before second
  holder := by
    intro request waits
    rw [asked.waiting?] at waits
    cases waits
    exact ⟨slot, holds_set_waiting_self prepared⟩
  waits_or_answered := by
    intro other number held
    have answer : input.answer? number = table.input.answer? number := by
      rw [answer?, answer?, asked.answers]
    rw [answer]
    rcases holds_set_waiting held with ⟨_, rfl⟩ | ⟨_, before⟩
    · exact Or.inl ⟨waitsFor_iff.2 ⟨_, asked.waiting?, rfl⟩, sound.answer?_next⟩
    · have idle : table.input.waitsFor number = false := waitsFor_of_idle asked.before
      have less := sound.number_lt before
      have ended : input.waitsFor number = false :=
        waitsFor_eq_false_of_ne (waitsFor_iff.2 ⟨_, asked.waiting?, rfl⟩) (Nat.ne_of_gt less)
      rcases sound.waits_or_answered before with ⟨waits, _⟩ | ⟨_, answered⟩
      · rw [idle] at waits
        cases waits
      · exact Or.inr ⟨ended, answered⟩

theorem rested (sound : table.Sound) {input : LineInput}
    (same : SameRequests table.input input) : Sound { table with input } where
  number_lt := by
    intro slot number held
    rw [same.nextNumber]
    exact sound.number_lt held
  answers_lt := by
    intro answer mem
    rw [same.answers] at mem
    rw [same.nextNumber]
    exact sound.answers_lt answer mem
  slot_eq := sound.slot_eq
  holder := by
    intro request waits
    rw [same.waiting?] at waits
    exact sound.holder waits
  waits_or_answered := by
    intro slot number held
    rw [same.waitsFor, same.answer?]
    exact sound.waits_or_answered held

theorem submitted (sound : table.Sound) {request : Request} {input : LineInput}
    (submitted : Submitted table.input request line input) : Sound { table with input } where
  number_lt := by
    intro slot number held
    rw [submitted.nextNumber]
    exact sound.number_lt held
  answers_lt := by
    intro answer mem
    rw [submitted.nextNumber]
    rw [submitted.answers, List.mem_append, List.mem_singleton] at mem
    rcases mem with old | rfl
    · exact sound.answers_lt answer old
    · rcases sound.holder submitted.before with ⟨slot, held⟩
      exact sound.number_lt held
  slot_eq := sound.slot_eq
  holder := by
    intro other waits
    rw [submitted.waiting?] at waits
    cases waits
  waits_or_answered := by
    intro slot number held
    refine Or.inr ⟨waitsFor_of_idle submitted.waiting?, ?_⟩
    rw [submitted.answer?]
    rcases sound.waits_or_answered held with ⟨waits, unanswered⟩ | ⟨_, other, answered⟩
    · rcases waitsFor_iff.1 waits with ⟨found, eq, same⟩
      rw [submitted.before] at eq
      cases eq
      exact ⟨line, by rw [unanswered, if_pos same, Option.none_or]⟩
    · exact ⟨other, by rw [answered, Option.some_or]⟩

/-!
Collecting the line of a request, giving the request up and having it withdrawn all close
the call that made it.
-/

theorem others_of_forget (sound : table.Sound) (held : table.Holds slot number) {other later : Nat}
    (distinct : slot ≠ other) (again : table.Holds other later) : number ≠ later := by
  intro same
  rw [same] at held
  exact distinct (sound.slot_eq held again)

theorem forgot (sound : table.Sound) (held : table.Holds slot number)
    (ended : table.input.waitsFor number = false) :
    Sound ⟨table.input.forget number, table.slots.set slot .closed⟩ := by
  refine sound.closed (Nat.le_refl _) (fun _ => mem_answers_of_mem_forget) ?_ ?_
  · intro request waits
    refine ⟨waits, fun again => ?_⟩
    have same := held.number_eq again
    have waitsFor := waitsFor_iff.2 ⟨request, waits, rfl⟩
    rw [← same, waitsFor_forget, ended] at waitsFor
    cases waitsFor
  · intro other later distinct again
    exact ⟨rfl, answer?_forget_of_ne (sound.others_of_forget held distinct again)⟩

theorem withdrawn (sound : table.Sound) {input : LineInput} (held : table.Holds slot number)
    (withdrawn : Withdrawn table.input number input) :
    Sound ⟨input, table.slots.set slot .closed⟩ := by
  refine sound.closed (Nat.le_of_eq withdrawn.nextNumber.symm) ?_ ?_ ?_
  · intro answer mem
    rw [withdrawn.answers] at mem
    exact mem_answers_of_mem_forget mem
  · intro request waits
    rw [withdrawn.waiting?] at waits
    cases waits
  · intro other later distinct again
    have apart := sound.others_of_forget held distinct again
    constructor
    · rw [waitsFor_of_idle withdrawn.waiting?, waitsFor_eq_false_of_ne withdrawn.before apart]
    · rw [answer?, withdrawn.answers]
      exact answer?_forget_of_ne apart

theorem unmade (sound : table.Sound) {ticket : Ticket} (found : table.slots[slot]? = some ticket)
    (number_ne : ∀ number, ticket ≠ .waiting number) {input : LineInput}
    (later : table.input.nextNumber ≤ input.nextNumber)
    (answers : input.answers = table.input.answers)
    (waiting : input.waiting? = table.input.waiting?) :
    Sound ⟨input, table.slots.set slot .closed⟩ := by
  refine sound.closed later ?_ ?_ ?_
  · intro answer mem
    rw [answers] at mem
    exact mem
  · intro request waits
    rw [waiting] at waits
    refine ⟨waits, fun held => ?_⟩
    rw [Holds, found] at held
    cases held
    exact number_ne _ rfl
  · intro other number _ _
    rw [waitsFor, waitsFor, answer?, answer?, answers, waiting]
    exact ⟨rfl, rfl⟩

theorem polled (sound : table.Sound) {after : CallTable} {progress : Progress}
    (effect : PollEffect table slot after progress) : Sound after := by
  cases effect with
  | missing _ => exact sound
  | ended _ => exact sound
  | refused found _ =>
      exact sound.unmade found (fun _ same => by cases same) (Nat.le_succ _) rfl rfl
  | asked found asked => exact sound.asked found asked
  | answered held answered =>
      exact sound.forgot held (sound.waitsFor_of_some held answered)
  | waits _ _ _ => exact sound
  | abandoned held unanswered ended =>
      rw [sound.waitsFor_of_none held unanswered] at ended
      cases ended

theorem dropped (sound : table.Sound) {after : CallTable}
    (effect : DropEffect table slot after) : Sound after := by
  cases effect with
  | missing _ => exact sound
  | ended _ => exact sound
  | unmade found =>
      exact sound.unmade found (fun _ same => by cases same) (Nat.le_refl _) rfl rfl
  | withdrawn held withdrawn => exact sound.withdrawn held withdrawn
  | discarded held ended => exact sound.forgot held ended

theorem hosted (sound : table.Sound) {operation : Operation} {after : CallTable}
    {outcome : Outcome} (effect : HostEffect table operation after outcome) : Sound after := by
  cases effect with
  | rests same _ => exact sound.rested same
  | submits _ submitted => exact sound.submitted submitted

theorem stepped (sound : table.Sound) {operation : Operation} {after : CallTable}
    {outcome : Outcome} (effect : StepEffect table operation after outcome) : Sound after := by
  cases effect with
  | create => exact sound.created _
  | request effect => exact (sound.created _).polled effect
  | poll effect => exact sound.polled effect
  | drop effect => exact sound.dropped effect
  | host _ effect => exact sound.hosted effect

theorem step (sound : table.Sound) (operation : Operation) : Sound (table.step operation).1 :=
  sound.stepped (stepEffect table operation)

theorem run (sound : table.Sound) (operations : List Operation) : Sound (table.run operations) := by
  induction operations generalizing table with
  | nil => exact sound
  | cons operation rest ih => exact ih (sound.step operation)

theorem busy_of_refused (sound : table.Sound) {after : CallTable} {failure : Failure}
    (effect : PollEffect table slot after (.refused failure)) :
    failure = .inputBusy ∧ ∃ other request, other ≠ slot ∧
      table.input.waiting? = some request ∧ table.Holds other request.number := by
  cases effect with
  | refused prepared waiting =>
      rcases sound.holder waiting with ⟨other, held⟩
      refine ⟨rfl, other, _, ?_, waiting, held⟩
      rintro rfl
      rw [Holds, prepared] at held
      cases held
  | abandoned held unanswered ended =>
      rw [sound.waitsFor_of_none held unanswered] at ended
      cases ended

end Sound

end CallTable
end HangulConsole
