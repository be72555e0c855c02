import HangulConsole.Proofs.LineInput.Change
import HangulConsole.Proofs.LineInput.Delivery
import Mathlib.Logic.Basic

/-!
# Whose request waits

A call is alive from the step in which its request was accepted until it has a result or
is dropped.  After any operations on a new line input, the request that waits is the one of
exactly one call that is alive, the control is on for it, and every other call that is alive
has its line already.
-/

namespace HangulConsole
namespace CallTable

open LineInput

def ofTranscript (transcript : Transcript) : CallTable := ⟨.ofTranscript transcript, []⟩

def Operation.prompt? : Operation -> Option String
  | .create prompt | .request prompt => some prompt
  | _ => none

def prompts (operations : List Operation) : List String :=
  operations.filterMap Operation.prompt?

/-- The call in a slot was taken a step further before a place and had to wait; since then it
neither had a result nor was dropped. -/
def Live (operations : List Operation) (place slot : Nat) : Prop :=
  ∃ first, first < place ∧ PollsAt operations first slot .waiting ∧
    ∀ later, first < later -> later < place ->
      operations[later]? ≠ some (.drop slot) ∧
        ∀ progress, PollsAt operations later slot progress -> isResult progress = false

variable {table after other : CallTable} {operations : List Operation} {operation : Operation}
  {outcome : Outcome} {place slot number : Nat} {progress : Progress} {asked : List String}

/-!
# Calls that are alive
-/

def Held (table : CallTable) (slot : Nat) : Prop :=
  ∃ number, table.Holds slot number

theorem held_of_slot_eq (same : after.slots[slot]? = table.slots[slot]?) :
    after.Held slot ↔ table.Held slot := by
  simp only [Held, Holds, same]

theorem not_held_of_over (ended : table.Over slot) : ¬ table.Held slot := by
  rintro ⟨number, held⟩
  rw [Holds, ended] at held
  cases held

theorem not_held_of_missing (missing : table.slots[slot]? = none) : ¬ table.Held slot := by
  rintro ⟨number, held⟩
  rw [Holds, missing] at held
  cases held

theorem not_held_new (table : CallTable) : ¬ table.Held table.slots.length :=
  not_held_of_missing (List.getElem?_eq_none (Nat.le_refl _))

theorem held_created (prompt : String) :
    Held { table with slots := table.slots ++ [.prepared prompt] } slot ↔ table.Held slot := by
  constructor
  · rintro ⟨number, held⟩
    exact ⟨number, holds_append_prepared held⟩
  · rintro ⟨number, held⟩
    exact ⟨number, holds_append held⟩

theorem held_polled_iff (effect : PollEffect table slot after progress) :
    after.Held slot ↔ progress = .waiting := by
  cases effect with
  | missing missing => exact iff_of_false (not_held_of_missing missing) (by simp)
  | ended ended => exact iff_of_false (not_held_of_over ended) (by simp)
  | refused found _ => exact iff_of_false (not_held_of_over (over_set_closed found)) (by simp)
  | asked found _ => exact iff_of_true ⟨_, holds_set_waiting_self found⟩ rfl
  | answered held _ => exact iff_of_false (not_held_of_over (over_set_closed held)) (by simp)
  | waits held _ _ => exact iff_of_true ⟨_, held⟩ rfl
  | abandoned held _ _ => exact iff_of_false (not_held_of_over (over_set_closed held)) (by simp)

theorem not_gone_of_held (effect : PollEffect table slot after progress) (held : table.Held slot) :
    progress ≠ .gone := by
  cases effect with
  | missing missing => exact absurd held (not_held_of_missing missing)
  | ended ended => exact absurd held (not_held_of_over ended)
  | _ => simp

theorem slots_polled_of_ne {changed : Nat} (effect : PollEffect table changed after progress)
    (distinct : changed ≠ slot) : after.slots[slot]? = table.slots[slot]? := by
  cases effect with
  | missing _ => rfl
  | ended _ => rfl
  | waits _ _ _ => rfl
  | _ => exact List.getElem?_set_ne distinct

theorem slots_dropped_of_ne {changed : Nat} (effect : DropEffect table changed after)
    (distinct : changed ≠ slot) : after.slots[slot]? = table.slots[slot]? := by
  cases effect with
  | missing _ => rfl
  | ended _ => rfl
  | _ => exact List.getElem?_set_ne distinct

theorem not_held_dropped (effect : DropEffect table slot after) : ¬ after.Held slot := by
  cases effect with
  | missing missing => exact not_held_of_missing missing
  | ended ended => exact not_held_of_over ended
  | unmade found => exact not_held_of_over (over_set_closed found)
  | withdrawn held _ => exact not_held_of_over (over_set_closed held)
  | discarded held _ => exact not_held_of_over (over_set_closed held)

def Polls (table : CallTable) (operation : Operation) (slot : Nat) : Prop :=
  operation = .poll slot ∨ ∃ prompt, operation = .request prompt ∧ slot = table.slots.length

theorem held_step_iff (effect : StepEffect table operation after outcome) :
    after.Held slot ↔
      (table.Polls operation slot ∧ outcome = .progress .waiting) ∨
        (table.Held slot ∧ operation.touches slot = false) := by
  have unpolled (apart : ¬ table.Polls operation slot) (same : after.Held slot ↔ table.Held slot)
      (elsewhere : operation.touches slot = false) : after.Held slot ↔
        (table.Polls operation slot ∧ outcome = .progress .waiting) ∨
          (table.Held slot ∧ operation.touches slot = false) := by
    rw [same]
    exact ⟨fun held => .inr ⟨held, elsewhere⟩,
      fun either => either.elim (fun polls => absurd polls.1 apart) And.left⟩
  cases effect with
  | create => exact unpolled (by simp [Polls]) (held_created _) rfl
  | @request prompt after progress effect =>
      by_cases new : slot = table.slots.length
      · have fresh : ¬ table.Held slot := by
          rw [new]
          exact table.not_held_new
        have polls : table.Polls (.request prompt) slot := .inr ⟨prompt, rfl, new⟩
        rw [← new] at effect
        simp [held_polled_iff effect, polls, fresh]
      · have same := slots_polled_of_ne effect (Ne.symm new)
        exact unpolled (by simp [Polls, new])
          ((held_of_slot_eq same).trans (held_created prompt)) rfl
  | @poll changed after progress effect =>
      by_cases same : changed = slot
      · rw [same] at effect ⊢
        have polls : table.Polls (.poll slot) slot := .inl rfl
        simp [held_polled_iff effect, polls, Operation.touches]
      · have kept := held_of_slot_eq (slots_polled_of_ne effect same)
        exact unpolled (by simp [Polls, same]) kept (by simpa [Operation.touches] using same)
  | @drop changed after existed effect =>
      by_cases same : changed = slot
      · rw [same] at effect ⊢
        have dropped := not_held_dropped effect
        simp [dropped, Polls, Operation.touches]
      · have kept := held_of_slot_eq (slots_dropped_of_ne effect same)
        exact unpolled (by simp [Polls]) kept (by simpa [Operation.touches] using same)
  | host hosts effect =>
      have apart : ¬ table.Polls operation slot := by
        rintro (rfl | ⟨prompt, rfl, _⟩)
        · cases hosts
        · cases hosts
      have elsewhere : operation.touches slot = false := by
        cases operation with
        | poll _ => cases hosts
        | drop _ => cases hosts
        | _ => rfl
      refine unpolled apart ?_ elsewhere
      cases effect with
      | rests _ _ => exact Iff.rfl
      | submits _ _ => exact Iff.rfl

/-!
# Alive in the course of operations
-/

theorem pollsAt_iff (found : operations[place]? = some operation) :
    PollsAt operations place slot progress ↔
      (before operations place).Polls operation slot ∧
        ((before operations place).step operation).2 = .progress progress := by
  constructor
  · rintro ⟨found', there, polls, outcome⟩
    rw [found] at there
    cases there
    exact ⟨polls, outcome⟩
  · rintro ⟨polls, outcome⟩
    exact ⟨operation, found, polls, outcome⟩

theorem live_succ_iff :
    Live operations (place + 1) slot ↔
      PollsAt operations place slot .waiting ∨
        (Live operations place slot ∧ operations[place]? ≠ some (.drop slot) ∧
          ∀ progress, PollsAt operations place slot progress -> isResult progress = false) := by
  constructor
  · rintro ⟨first, less, polls, quiet⟩
    rcases Nat.lt_succ_iff_lt_or_eq.1 less with earlier | rfl
    · refine .inr ⟨⟨first, earlier, polls, fun later after before => ?_⟩, ?_⟩
      · exact quiet later after (Nat.lt_succ_of_lt before)
      · exact quiet place earlier (Nat.lt_succ_self place)
    · exact .inl polls
  · rintro (polls | ⟨⟨first, less, polls, quiet⟩, undropped, unended⟩)
    · refine ⟨place, Nat.lt_succ_self place, polls, fun later after before => ?_⟩
      omega
    · refine ⟨first, Nat.lt_succ_of_lt less, polls, fun later after before => ?_⟩
      rcases Nat.lt_succ_iff_lt_or_eq.1 before with earlier | rfl
      · exact quiet later after earlier
      · exact ⟨undropped, unended⟩

theorem waits_of_polled (polls : PollsAt operations place slot progress)
    (held : (before operations place).Held slot) (unended : isResult progress = false) :
    progress = .waiting := by
  rcases polls with ⟨operation, found, polled | ⟨prompt, _, rfl⟩, outcome⟩
  · have effect := (before operations place).pollEffect slot
    have same : ((before operations place).pollSlot slot).2 = progress := by
      rw [polled] at outcome
      exact Outcome.progress.inj outcome
    rw [same] at effect
    have there := not_gone_of_held effect held
    cases progress with
    | waiting => rfl
    | gone => exact absurd rfl there
    | _ => cases unended
  · exact absurd held (not_held_new _)

theorem untouched_iff (found : operations[place]? = some operation)
    (held : (before operations place).Held slot)
    (unwaiting : ¬ ((before operations place).Polls operation slot ∧
      ((before operations place).step operation).2 = .progress .waiting)) :
    (operation ≠ .drop slot ∧
        ∀ progress, PollsAt operations place slot progress -> isResult progress = false) ↔
      operation.touches slot = false := by
  constructor
  · rintro ⟨undropped, unended⟩
    cases operation with
    | poll changed =>
        rw [Operation.touches, beq_eq_false_iff_ne]
        rintro rfl
        have polls : PollsAt operations place changed _ := ⟨_, found, .inl rfl, rfl⟩
        have waits := waits_of_polled polls held (unended _ polls)
        exact unwaiting ⟨.inl rfl, congrArg Outcome.progress waits⟩
    | drop changed =>
        rw [Operation.touches, beq_eq_false_iff_ne]
        rintro rfl
        exact undropped rfl
    | _ => rfl
  · intro elsewhere
    constructor
    · rintro rfl
      simp [Operation.touches] at elsewhere
    · rintro progress ⟨_, there, polls | ⟨prompt, _, rfl⟩, _⟩
      · rw [found] at there
        cases there
        rw [polls] at elsewhere
        simp [Operation.touches] at elsewhere
      · exact absurd held (not_held_new _)

theorem live_iff_held : Live operations place slot ↔ (before operations place).Held slot := by
  induction place with
  | zero =>
      have fresh : ¬ (before operations 0).Held slot :=
        not_held_of_missing (by simp [before, empty])
      refine iff_of_false ?_ fresh
      rintro ⟨first, less, _⟩
      exact Nat.not_lt_zero first less
  | succ place ih =>
      rw [live_succ_iff, ih]
      cases found : operations[place]? with
      | none =>
          have unpolled (progress : Progress) : ¬ PollsAt operations place slot progress := by
            rintro ⟨operation, there, _⟩
            rw [found] at there
            cases there
          rw [before_succ_of_none found]
          exact ⟨fun either => either.elim (fun polls => absurd polls (unpolled _)) And.left,
            fun held =>
              .inr ⟨held, by simp, fun progress polls => absurd polls (unpolled progress)⟩⟩
      | some operation =>
          rw [held_step_iff (stepEffect_at found), pollsAt_iff found]
          refine or_congr_right' fun unwaiting => and_congr_right fun held => ?_
          rw [← untouched_iff found held unwaiting, ne_eq, Option.some_inj]

/-!
# Prompts
-/

structure Prompted (prompts : List String) (table : CallTable) : Prop where
  length_eq : table.slots.length = prompts.length
  prepared : ∀ {slot : Nat} {prompt : String}, table.slots[slot]? = some (.prepared prompt) ->
    prompts[slot]? = some prompt
  waiting : ∀ {slot : Nat} {request : Request}, table.input.waiting? = some request ->
    table.Holds slot request.number -> prompts[slot]? = some request.prompt

namespace Prompted

theorem empty : Prompted [] CallTable.empty where
  length_eq := rfl
  prepared := by intro slot prompt found; simp [CallTable.empty] at found
  waiting := by intro slot request waits; cases waits

theorem created (prompted : Prompted asked table) (prompt : String) :
    Prompted (asked ++ [prompt]) { table with slots := table.slots ++ [.prepared prompt] } where
  length_eq := by simp [prompted.length_eq]
  prepared := by
    intro slot other found
    rw [List.getElem?_append] at found ⊢
    rw [← prompted.length_eq]
    split at found
    · rename_i within
      rw [if_pos within]
      exact prompted.prepared found
    · rename_i beyond
      rw [if_neg beyond]
      rw [List.getElem?_singleton] at found ⊢
      split at found
      · rename_i first
        cases found
        rw [if_pos first]
      · cases found
  waiting := by
    intro slot request waits held
    have known := prompted.waiting waits (holds_append_prepared held)
    rw [List.getElem?_append_left (List.getElem?_eq_some_iff.1 known).1]
    exact known

theorem closed (prompted : Prompted asked table) {input : LineInput}
    (waiting : ∀ request, input.waiting? = some request -> table.input.waiting? = some request) :
    Prompted asked ⟨input, table.slots.set slot .closed⟩ where
  length_eq := by
    rw [List.length_set]
    exact prompted.length_eq
  prepared := by
    intro other prompt found
    rw [List.getElem?_set] at found
    split at found
    · split at found
      · cases found
      · cases found
    · exact prompted.prepared found
  waiting := by
    intro other request waits held
    exact prompted.waiting (waiting request waits) (holds_set_closed held).2

theorem rested (prompted : Prompted asked table) {input : LineInput}
    (waiting : ∀ request, input.waiting? = some request -> table.input.waiting? = some request) :
    Prompted asked { table with input } where
  length_eq := prompted.length_eq
  prepared := prompted.prepared
  waiting := by
    intro slot request waits held
    exact prompted.waiting (waiting request waits) held

theorem accepted (prompted : Prompted asked table) (sound : table.Sound) {prompt : String}
    {input : LineInput} (found : table.slots[slot]? = some (.prepared prompt))
    (accepted : Asked table.input prompt input) :
    Prompted asked ⟨input, table.slots.set slot (.waiting table.input.nextNumber)⟩ where
  length_eq := by
    rw [List.length_set]
    exact prompted.length_eq
  prepared := by
    intro other later again
    rw [List.getElem?_set] at again
    split at again
    · split at again
      · cases again
      · cases again
    · exact prompted.prepared again
  waiting := by
    intro other request waits held
    rw [accepted.waiting?] at waits
    cases waits
    rcases holds_set_waiting held with ⟨rfl, _⟩ | ⟨_, before⟩
    · exact prompted.prepared found
    · exact absurd (sound.number_lt before) (Nat.lt_irrefl _)

theorem polled (prompted : Prompted asked table) (sound : table.Sound)
    (effect : PollEffect table slot after progress) : Prompted asked after := by
  cases effect with
  | missing _ => exact prompted
  | ended _ => exact prompted
  | refused _ _ => exact prompted.closed fun _ waits => waits
  | asked found asked => exact prompted.accepted sound found asked
  | answered _ _ => exact prompted.closed fun _ waits => waits
  | waits _ _ _ => exact prompted
  | abandoned _ _ _ => exact prompted.closed fun _ waits => waits

theorem dropped (prompted : Prompted asked table) (effect : DropEffect table slot after) :
    Prompted asked after := by
  cases effect with
  | missing _ => exact prompted
  | ended _ => exact prompted
  | unmade _ => exact prompted.closed fun _ waits => waits
  | discarded _ _ => exact prompted.closed fun _ waits => waits
  | withdrawn _ withdrawn =>
      refine prompted.closed fun request waits => ?_
      rw [withdrawn.waiting?] at waits
      cases waits

theorem stepped (prompted : Prompted asked table) (sound : table.Sound)
    (effect : StepEffect table operation after outcome) :
    Prompted (asked ++ operation.prompt?.toList) after := by
  have nothing (hosts : operation.isHosts = true) : operation.prompt? = none := by
    cases operation with
    | create _ => cases hosts
    | request _ => cases hosts
    | _ => rfl
  cases effect with
  | create => exact prompted.created _
  | request effect => exact (prompted.created _).polled (sound.created _) effect
  | @poll slot _ _ effect =>
      have silent : (Operation.poll slot).prompt? = none := rfl
      rw [silent, Option.toList_none, List.append_nil]
      exact prompted.polled sound effect
  | @drop slot _ _ effect =>
      have silent : (Operation.drop slot).prompt? = none := rfl
      rw [silent, Option.toList_none, List.append_nil]
      exact prompted.dropped effect
  | host hosts effect =>
      rw [nothing hosts, Option.toList_none, List.append_nil]
      cases effect with
      | rests same _ =>
          refine prompted.rested fun request waits => ?_
          rw [← same.waiting?]
          exact waits
      | submits _ submitted =>
          refine prompted.rested fun request waits => ?_
          rw [submitted.waiting?] at waits
          cases waits

theorem run (prompted : Prompted asked table) (sound : table.Sound) (operations : List Operation) :
    Prompted (asked ++ prompts operations) (table.run operations) := by
  induction operations generalizing table asked with
  | nil => simpa [prompts] using prompted
  | cons operation rest ih =>
      have later := ih (prompted.stepped sound (stepEffect table operation)) (sound.step operation)
      have split : prompts (operation :: rest) = operation.prompt?.toList ++ prompts rest := by
        rw [prompts, List.filterMap_cons]
        cases operation.prompt? with
        | none => rfl
        | some prompt => rfl
      rw [run_cons, split, ← List.append_assoc]
      exact later

end Prompted

/-!
# The control
-/

theorem controlled_pollSlot (controlled : table.input.Controlled) (slot : Nat) :
    (table.pollSlot slot).1.input.Controlled := by
  rw [pollSlot]
  split
  · exact controlled
  · exact controlled.poll _

theorem controlled_step (controlled : table.input.Controlled) (operation : Operation) :
    (table.step operation).1.input.Controlled := by
  cases operation with
  | create prompt => exact controlled
  | request prompt =>
      have made : (CallTable.mk table.input (table.slots ++ [.prepared prompt])).input.Controlled :=
        controlled
      exact controlled_pollSlot made _
  | poll slot => exact controlled_pollSlot controlled slot
  | drop slot =>
      rw [step]
      split
      · exact controlled
      · exact controlled.abandon _
  | submit => exact controlled.submit
  | submitLine text => exact controlled.submitLine text
  | press key => exact controlled.change (.press key)
  | type text => exact controlled.change (.type text)
  | setContent text => exact controlled.change (.setContent text)

theorem controlled_run (controlled : table.input.Controlled) (operations : List Operation) :
    (table.run operations).input.Controlled := by
  induction operations generalizing table with
  | nil => exact controlled
  | cons operation rest ih => exact ih (controlled_step controlled operation)

/-!
# Whatever is in the transcript

What stands in the transcript matters to no call and to no operation of the host.
-/

def SameBut (input other : LineInput) : Prop :=
  ∃ transcript, other = { input with transcript }

structure Alike (table other : CallTable) : Prop where
  input : SameBut table.input other.input
  slots : other.slots = table.slots

variable {input other : LineInput}

theorem SameBut.poll (same : SameBut input other) (ticket : Ticket) :
    SameBut (input.poll ticket).1 (other.poll ticket).1 ∧
      (other.poll ticket).2 = (input.poll ticket).2 := by
  rcases same with ⟨transcript, rfl⟩
  cases ticket with
  | closed => exact ⟨⟨transcript, rfl⟩, rfl⟩
  | prepared prompt =>
      by_cases busy : input.isWaiting = true
      · have asks : input.poll (.prepared prompt) = _ := if_pos busy
        have asksToo : { input with transcript }.poll (.prepared prompt) = _ := if_pos busy
        rw [asks, asksToo]
        exact ⟨⟨transcript, rfl⟩, rfl⟩
      · have asks : input.poll (.prepared prompt) = _ := if_neg busy
        have asksToo : { input with transcript }.poll (.prepared prompt) = _ := if_neg busy
        rw [asks, asksToo]
        exact ⟨⟨_, rfl⟩, rfl⟩
  | waiting number =>
      have answers : { input with transcript }.answer? number = input.answer? number := rfl
      have waits : { input with transcript }.waitsFor number = input.waitsFor number := rfl
      rw [LineInput.poll, LineInput.poll, answers, waits]
      cases input.answer? number with
      | some line => exact ⟨⟨transcript, rfl⟩, rfl⟩
      | none =>
          cases input.waitsFor number with
          | true => exact ⟨⟨transcript, rfl⟩, rfl⟩
          | false => exact ⟨⟨transcript, rfl⟩, rfl⟩

theorem SameBut.abandon (same : SameBut input other) (ticket : Ticket) :
    SameBut (input.abandon ticket) (other.abandon ticket) := by
  rcases same with ⟨transcript, rfl⟩
  cases ticket with
  | closed => exact ⟨transcript, rfl⟩
  | prepared prompt => exact ⟨transcript, rfl⟩
  | waiting number =>
      have waits : ({ input with transcript }.forget number).waitsFor number =
          (input.forget number).waitsFor number := rfl
      simp only [LineInput.abandon, waits]
      cases (input.forget number).waitsFor number with
      | true => exact ⟨transcript, rfl⟩
      | false => exact ⟨transcript, rfl⟩

theorem SameBut.submit (same : SameBut input other) :
    SameBut input.submit.1 other.submit.1 ∧ other.submit.2 = input.submit.2 := by
  rcases same with ⟨transcript, rfl⟩
  rcases input with ⟨_, waiting?, _, _, _, _⟩
  cases waiting? with
  | none => exact ⟨⟨transcript, rfl⟩, rfl⟩
  | some request => exact ⟨⟨_, rfl⟩, rfl⟩

theorem SameBut.setContent (same : SameBut input other) (text : String) :
    SameBut (input.setContent text) (other.setContent text) := by
  rcases same with ⟨transcript, rfl⟩
  exact ⟨transcript, rfl⟩

theorem SameBut.submitLine (same : SameBut input other) (text : String) :
    SameBut (input.submitLine text).1 (other.submitLine text).1 ∧
      (other.submitLine text).2 = (input.submitLine text).2 := by
  have placed := (same.setContent text).submit
  rcases same with ⟨transcript, rfl⟩
  have waits : { input with transcript }.isWaiting = input.isWaiting := rfl
  rw [LineInput.submitLine, LineInput.submitLine, waits]
  cases input.isWaiting with
  | true => exact placed
  | false => exact ⟨⟨transcript, rfl⟩, rfl⟩

namespace Alike

variable {table other : CallTable}

theorem pollSlot (alike : Alike table other) (slot : Nat) :
    Alike (table.pollSlot slot).1 (other.pollSlot slot).1 ∧
      (other.pollSlot slot).2 = (table.pollSlot slot).2 := by
  rw [CallTable.pollSlot, CallTable.pollSlot, alike.slots]
  cases table.slots[slot]? with
  | none => exact ⟨alike, rfl⟩
  | some ticket =>
      rcases alike.input.poll ticket with ⟨same, answers⟩
      have ticket_eq := congrArg Prod.fst answers
      have progress_eq := congrArg Prod.snd answers
      refine ⟨⟨same, ?_⟩, progress_eq⟩
      exact congrArg (table.slots.set slot) ticket_eq

theorem step (alike : Alike table other) (operation : Operation) :
    Alike (table.step operation).1 (other.step operation).1 ∧
      (other.step operation).2 = (table.step operation).2 := by
  have slots := alike.slots
  have created (prompt : String) :
      Alike ⟨table.input, table.slots ++ [.prepared prompt]⟩
        ⟨other.input, other.slots ++ [.prepared prompt]⟩ :=
    ⟨alike.input, by rw [slots]⟩
  cases operation with
  | create prompt => exact ⟨created prompt, rfl⟩
  | request prompt =>
      have polled := (created prompt).pollSlot table.slots.length
      refine ⟨?_, ?_⟩
      · rw [CallTable.step, CallTable.step, slots]
        rw [slots] at polled
        exact polled.1
      · rw [CallTable.step, CallTable.step, slots]
        rw [slots] at polled
        exact congrArg Outcome.progress polled.2
  | poll slot =>
      have polled := alike.pollSlot slot
      exact ⟨polled.1, congrArg Outcome.progress polled.2⟩
  | drop slot =>
      rw [CallTable.step, CallTable.step, slots]
      cases table.slots[slot]? with
      | none => exact ⟨alike, rfl⟩
      | some ticket => exact ⟨⟨alike.input.abandon ticket, rfl⟩, rfl⟩
  | submit =>
      have submitted := alike.input.submit
      exact ⟨⟨submitted.1, slots⟩, congrArg Outcome.done submitted.2⟩
  | submitLine text =>
      have submitted := alike.input.submitLine text
      exact ⟨⟨submitted.1, slots⟩, congrArg Outcome.done submitted.2⟩
  | press key =>
      cases key with
      | enter =>
          have submitted := alike.input.submit
          exact ⟨⟨submitted.1, slots⟩, congrArg Outcome.done submitted.2⟩
      | other => exact ⟨⟨alike.input, slots⟩, rfl⟩
  | type text =>
      rcases alike.input with ⟨transcript, same⟩
      exact ⟨⟨⟨transcript, by rw [CallTable.step, CallTable.step, same]; rfl⟩, slots⟩, rfl⟩
  | setContent text => exact ⟨⟨alike.input.setContent text, slots⟩, rfl⟩

theorem run (alike : Alike table other) (operations : List Operation) :
    Alike (table.run operations) (other.run operations) := by
  induction operations generalizing table other with
  | nil => exact alike
  | cons operation rest ih => exact ih (alike.step operation).1

theorem holds_iff (alike : Alike table other) {slot number : Nat} :
    other.Holds slot number ↔ table.Holds slot number := by
  rw [Holds, Holds, alike.slots]

theorem waits_iff (alike : Alike table other) {slot : Nat} :
    other.Waits slot ↔ table.Waits slot := by
  rcases alike.input with ⟨transcript, same⟩
  simp only [Waits, alike.holds_iff, same]

theorem ready_iff (alike : Alike table other) {slot : Nat} {line : String} :
    other.Ready slot line ↔ table.Ready slot line := by
  rcases alike.input with ⟨transcript, same⟩
  simp only [Ready, alike.holds_iff, same]
  exact Iff.rfl

end Alike

theorem alike_ofTranscript (transcript : Transcript) : Alike empty (ofTranscript transcript) where
  input := ⟨transcript, rfl⟩
  slots := rfl

/-!
# The owner of the request that waits
-/

/-- After these operations on a new line input, the table has a request that waits only for one call
that is alive, and the other calls that are alive have their lines. -/
structure Owned (operations : List Operation) (table : CallTable) : Prop where
  enabled : table.input.control.enabled = table.input.isWaiting
  focused : table.input.control.focused = table.input.isWaiting
  /-- The request that waits is that of exactly one call, which is alive, and shows its prompt. -/
  owner : table.input.isWaiting = true ->
    ∃ slot, Live operations operations.length slot ∧ table.Waits slot ∧
      table.input.prompt? = (prompts operations)[slot]? ∧
      ∀ other, Live operations operations.length other -> table.Waits other -> other = slot
  /-- A call that is alive without a request that waits has a line, which was submitted while its
  request waited and which it has not collected since. -/
  served : ∀ slot, Live operations operations.length slot -> ¬ table.Waits slot ->
    ∃ place line, SubmitsAt operations place line ∧ (before operations place).Waits slot ∧
      Untouched operations slot place operations.length ∧ table.Ready slot line

theorem before_length (operations : List Operation) :
    before operations operations.length = empty.run operations := by
  rw [before, List.take_length]

theorem Sound.owner (sound : table.Sound) (waits : table.input.isWaiting = true) :
    ∃ slot request, table.input.waiting? = some request ∧ table.Holds slot request.number := by
  rw [LineInput.isWaiting, Option.isSome_iff_exists] at waits
  rcases waits with ⟨request, waiting⟩
  rcases sound.holder waiting with ⟨slot, held⟩
  exact ⟨slot, request, waiting, held⟩

theorem Sound.ready_of_held (sound : table.Sound) (held : table.Held slot)
    (unasked : ¬ table.Waits slot) : ∃ line, table.Ready slot line := by
  rcases held with ⟨number, held⟩
  rcases sound.waits_or_answered held with ⟨waits, _⟩ | ⟨_, line, answered⟩
  · rcases waitsFor_iff.1 waits with ⟨request, waiting, rfl⟩
    exact absurd ⟨request, waiting, held⟩ unasked
  · exact ⟨line, number, held, answered⟩

theorem outcome_ofTranscript (transcript : Transcript) (operations : List Operation) (place : Nat)
    (operation : Operation) :
    (((ofTranscript transcript).run (operations.take place)).step operation).2 =
      ((before operations place).step operation).2 :=
  (((alike_ofTranscript transcript).run _).step operation).2

/-- The operations answer the same whatever was in the transcript, so that the same calls are alive;
and the request that waits in the end has one owner among these. -/
theorem pending_request_has_one_owner (transcript : Transcript) (operations : List Operation) :
    (∀ place operation,
      (((ofTranscript transcript).run (operations.take place)).step operation).2 =
        ((before operations place).step operation).2) ∧
      Owned operations ((ofTranscript transcript).run operations) := by
  refine ⟨outcome_ofTranscript transcript operations, ?_⟩
  have sound : (empty.run operations).Sound := sound_empty.run operations
  have prompted := Prompted.empty.run sound_empty operations
  have alike := (alike_ofTranscript transcript).run operations
  have controlled : (ofTranscript transcript).input.Controlled := ⟨rfl, rfl⟩
  have alive (slot : Nat) :
      Live operations operations.length slot ↔ (empty.run operations).Held slot := by
    rw [live_iff_held, before_length]
  refine ⟨(controlled_run controlled operations).enabled,
    (controlled_run controlled operations).focused, fun waits => ?_, fun slot live unasked => ?_⟩
  · rcases alike.input with ⟨now, same⟩
    rw [same] at waits
    rcases sound.owner waits with ⟨slot, request, waiting, held⟩
    have asks : (empty.run operations).Waits slot := ⟨request, waiting, held⟩
    refine ⟨slot, (alive slot).2 ⟨_, held⟩, alike.waits_iff.2 asks, ?_, fun other _ again => ?_⟩
    · have shown := prompted.waiting waiting held
      rw [List.nil_append] at shown
      rw [same, LineInput.prompt?, shown]
      exact congrArg (Option.map Request.prompt) waiting
    · exact sound.waits_unique (alike.waits_iff.1 again) asks
  · rw [alike.waits_iff] at unasked
    rcases sound.ready_of_held ((alive slot).1 live) unasked with ⟨line, ready⟩
    have there := ready
    rw [← before_length] at there
    rcases submitsAt_of_ready there with ⟨place, _, submits, waits, untouched⟩
    exact ⟨place, line, submits, waits, untouched, alike.ready_iff.2 ready⟩

end CallTable
end HangulConsole
