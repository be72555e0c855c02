import HangulConsole.LineInput.Table
import HangulConsole.Proofs.LineInput.Requests

/-!
# What the operations do

Every operation is one of the host's, or makes a call, or takes one call further, or
gives one up; making a call with its first step does two of these in a row.
-/

namespace HangulConsole
namespace CallTable

open LineInput

variable {table : CallTable} {slot number : Nat} {line : String}

/-- The call in a slot made the request of a number and is not over. -/
def Holds (table : CallTable) (slot number : Nat) : Prop :=
  table.slots[slot]? = some (.waiting number)

theorem set_eq_self {ticket : Ticket} (found : table.slots[slot]? = some ticket) :
    table.slots.set slot ticket = table.slots := by
  rcases List.getElem?_eq_some_iff.1 found with ⟨within, same⟩
  rw [← same, List.set_getElem_self]

theorem holds_set_closed {input : LineInput} {other : Nat}
    (held : Holds ⟨input, table.slots.set slot .closed⟩ other number) :
    slot ≠ other ∧ table.Holds other number := by
  rw [Holds, List.getElem?_set] at held
  by_cases same : slot = other
  · rw [if_pos same] at held
    split at held
    · cases held
    · cases held
  · rw [if_neg same] at held
    exact ⟨same, held⟩

theorem holds_append_prepared {prompt : String}
    (held : Holds { table with slots := table.slots ++ [.prepared prompt] } slot number) :
    table.Holds slot number := by
  rw [Holds, List.getElem?_append] at held
  split at held
  · exact held
  · rw [List.getElem?_singleton] at held
    split at held
    · cases held
    · cases held

theorem holds_append (held : table.Holds slot number) {slots : List Ticket} :
    (table.slots ++ slots)[slot]? = some (.waiting number) := by
  rcases List.getElem?_eq_some_iff.1 held with ⟨within, _⟩
  rw [List.getElem?_append_left within]
  exact held

theorem holds_set_waiting {input : LineInput} {other later : Nat}
    (held : Holds ⟨input, table.slots.set slot (.waiting number)⟩ other later) :
    (slot = other ∧ number = later) ∨ (slot ≠ other ∧ table.Holds other later) := by
  rw [Holds, List.getElem?_set] at held
  by_cases same : slot = other
  · rw [if_pos same] at held
    split at held
    · cases held
      exact Or.inl ⟨same, rfl⟩
    · cases held
  · rw [if_neg same] at held
    exact Or.inr ⟨same, held⟩

theorem holds_set_waiting_self {input : LineInput} {ticket : Ticket}
    (found : table.slots[slot]? = some ticket) :
    Holds ⟨input, table.slots.set slot (.waiting number)⟩ slot number := by
  rcases List.getElem?_eq_some_iff.1 found with ⟨within, _⟩
  rw [Holds, List.getElem?_set_self within]

theorem Holds.number_eq {other : Nat} (held : table.Holds slot number)
    (again : table.Holds slot other) : number = other := by
  rw [Holds] at held again
  rw [held] at again
  cases again
  rfl

namespace Operation

def line? : Operation -> String -> Option String
  | .submit, content => some content
  | .press .enter, content => some content
  | .submitLine text, _ => some text
  | _, _ => none

def touches : Operation -> Nat -> Bool
  | .poll slot, other => slot == other
  | .drop slot, other => slot == other
  | _, _ => false

def isHosts : Operation -> Bool
  | .create _ | .request _ | .poll _ | .drop _ => false
  | _ => true

end Operation

inductive PollEffect (table : CallTable) (slot : Nat) : CallTable -> Progress -> Prop where
  | missing : table.slots[slot]? = none -> PollEffect table slot table .gone
  | ended : table.slots[slot]? = some .closed -> PollEffect table slot table .gone
  | refused {prompt : String} {request : Request} :
      table.slots[slot]? = some (.prepared prompt) -> table.input.waiting? = some request ->
      PollEffect table slot
        ⟨{ table.input with nextNumber := table.input.nextNumber + 1 },
          table.slots.set slot .closed⟩
        (.refused .inputBusy)
  | asked {prompt : String} {input : LineInput} :
      table.slots[slot]? = some (.prepared prompt) -> Asked table.input prompt input ->
      PollEffect table slot
        ⟨input, table.slots.set slot (.waiting table.input.nextNumber)⟩ .waiting
  | answered {number : Nat} {line : String} :
      table.Holds slot number -> table.input.answer? number = some line ->
      PollEffect table slot
        ⟨table.input.forget number, table.slots.set slot .closed⟩ (.answered line)
  | waits {number : Nat} :
      table.Holds slot number -> table.input.answer? number = none ->
      table.input.waitsFor number = true ->
      PollEffect table slot table .waiting
  | abandoned {number : Nat} :
      table.Holds slot number -> table.input.answer? number = none ->
      table.input.waitsFor number = false ->
      PollEffect table slot ⟨table.input, table.slots.set slot .closed⟩ (.refused .inputAbandoned)

theorem pollEffect (table : CallTable) (slot : Nat) :
    PollEffect table slot (table.pollSlot slot).1 (table.pollSlot slot).2 := by
  rw [pollSlot]
  cases found : table.slots[slot]? with
  | none => exact .missing found
  | some ticket =>
      cases ticket with
      | closed =>
          simp only [poll, set_eq_self found]
          exact .ended found
      | prepared prompt =>
          cases waiting : table.input.waiting? with
          | none =>
              rcases ask_of_idle waiting prompt with ⟨after, asks, asked⟩
              simp only [poll, asks]
              exact .asked found asked
          | some request =>
              simp only [poll, ask_of_waiting? waiting]
              exact .refused found waiting
      | waiting number =>
          cases answer : table.input.answer? number with
          | some line =>
              simp only [poll, answer]
              exact .answered found answer
          | none =>
              cases waits : table.input.waitsFor number with
              | true =>
                  simp only [poll, answer, waits, if_pos, set_eq_self found]
                  exact .waits found answer waits
              | false =>
                  simp only [poll, answer, waits]
                  exact .abandoned found answer waits

inductive DropEffect (table : CallTable) (slot : Nat) : CallTable -> Prop where
  | missing : table.slots[slot]? = none -> DropEffect table slot table
  | ended : table.slots[slot]? = some .closed -> DropEffect table slot table
  | unmade {prompt : String} :
      table.slots[slot]? = some (.prepared prompt) ->
      DropEffect table slot ⟨table.input, table.slots.set slot .closed⟩
  | withdrawn {number : Nat} {input : LineInput} :
      table.Holds slot number -> Withdrawn table.input number input ->
      DropEffect table slot ⟨input, table.slots.set slot .closed⟩
  | discarded {number : Nat} :
      table.Holds slot number -> table.input.waitsFor number = false ->
      DropEffect table slot ⟨table.input.forget number, table.slots.set slot .closed⟩

theorem dropEffect (table : CallTable) (slot : Nat) :
    DropEffect table slot (table.step (.drop slot)).1 := by
  rw [step]
  cases found : table.slots[slot]? with
  | none => exact .missing found
  | some ticket =>
      cases ticket with
      | closed =>
          simp only [abandon, set_eq_self found]
          exact .ended found
      | prepared prompt => exact .unmade found
      | waiting number =>
          cases waits : table.input.waitsFor number with
          | true => exact .withdrawn found (abandon_of_waitsFor waits)
          | false =>
              simp only [abandon_of_not_waitsFor waits]
              exact .discarded found waits

inductive HostEffect (table : CallTable) (operation : Operation) :
    CallTable -> Outcome -> Prop where
  | rests {input : LineInput} {outcome : Outcome} :
      SameRequests table.input input -> outcome ≠ .done true ->
      HostEffect table operation { table with input } outcome
  | submits {request : Request} {line : String} {input : LineInput} :
      operation.line? table.input.control.content = some line ->
      Submitted table.input request line input ->
      HostEffect table operation { table with input } (.done true)

theorem hostEffect_submit {operation : Operation}
    (line : operation.line? table.input.control.content = some table.input.control.content) :
    HostEffect table operation { table with input := table.input.submit.1 }
      (.done table.input.submit.2) := by
  cases waiting : table.input.waiting? with
  | none =>
      rw [submit_of_idle waiting]
      exact .rests (SameRequests.refl _) (by simp)
  | some request =>
      rcases submit_of_waiting? waiting with ⟨submitted, done⟩
      rw [done]
      exact .submits line submitted

theorem hostEffect_submitLine (table : CallTable) (text : String) :
    HostEffect table (.submitLine text) { table with input := (table.input.submitLine text).1 }
      (.done (table.input.submitLine text).2) := by
  cases waiting : table.input.waiting? with
  | none =>
      rw [submitLine_of_idle waiting]
      exact .rests (SameRequests.refl _) (by simp)
  | some request =>
      rcases submitLine_of_waiting? waiting text with ⟨submitted, done⟩
      rw [done]
      exact .submits rfl submitted

inductive StepEffect (table : CallTable) : Operation -> CallTable -> Outcome -> Prop where
  | create {prompt : String} :
      StepEffect table (.create prompt) { table with slots := table.slots ++ [.prepared prompt] }
        .created
  | request {prompt : String} {after : CallTable} {progress : Progress} :
      PollEffect { table with slots := table.slots ++ [.prepared prompt] } table.slots.length after
        progress ->
      StepEffect table (.request prompt) after (.progress progress)
  | poll {slot : Nat} {after : CallTable} {progress : Progress} :
      PollEffect table slot after progress ->
      StepEffect table (.poll slot) after (.progress progress)
  | drop {slot : Nat} {after : CallTable} {existed : Bool} :
      DropEffect table slot after -> StepEffect table (.drop slot) after (.done existed)
  | host {operation : Operation} {after : CallTable} {outcome : Outcome} :
      operation.isHosts = true -> HostEffect table operation after outcome ->
      StepEffect table operation after outcome

theorem stepEffect (table : CallTable) (operation : Operation) :
    StepEffect table operation (table.step operation).1 (table.step operation).2 := by
  cases operation with
  | create prompt => exact .create
  | request prompt => exact .request (pollEffect _ _)
  | poll slot => exact .poll (pollEffect table slot)
  | drop slot =>
      have effect := dropEffect table slot
      rw [step] at effect ⊢
      cases found : table.slots[slot]? with
      | none =>
          rw [found] at effect
          exact .drop effect
      | some ticket =>
          rw [found] at effect
          exact .drop effect
  | submit => exact .host rfl (hostEffect_submit rfl)
  | submitLine text => exact .host rfl (hostEffect_submitLine table text)
  | press key =>
      cases key with
      | enter => exact .host rfl (hostEffect_submit rfl)
      | other => exact .host rfl (.rests (SameRequests.refl _) (by simp [step, press]))
  | type text => exact .host rfl (.rests (SameRequests.type _ text) (by simp [step]))
  | setContent text => exact .host rfl (.rests (SameRequests.setContent _ text) (by simp [step]))

end CallTable
end HangulConsole
