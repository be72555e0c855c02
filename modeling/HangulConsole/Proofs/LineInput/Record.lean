import HangulConsole.Proofs.LineInput.Unnoticed

/-!
# The record of a line input

A line input that alone writes its transcript leaves a record there: the prompts of the requests
that were accepted and the lines that were submitted, in the order in which that happened.
-/

namespace HangulConsole
namespace CallTable

open LineInput

inductive Entry where
  /-- The request of the call in a slot was accepted. -/
  | asked (slot : Nat) (prompt : String)
  | submitted (line : String)
  /-- The call in a slot was given up while its request waited. -/
  | withdrawn (slot : Nat)
deriving Repr, DecidableEq

namespace Entry

def text : Entry -> String
  | asked _ prompt => prompt
  | submitted line => line ++ "\n"
  | withdrawn _ => ""

def isAsked : Entry -> Bool
  | asked _ _ => true
  | _ => false

def Ends (slot : Nat) : Entry -> Prop
  | asked _ _ => False
  | submitted _ => True
  | withdrawn other => other = slot

end Entry

namespace Operation

def edit (draft : String) : Operation -> String
  | .type text => draft ++ text
  | .setContent text => text
  | _ => draft

def submits (operation : Operation) (outcome : Outcome) : Bool :=
  operation.isSubmission && outcome == .done true

end Operation

def typed (operations : List Operation) : String :=
  operations.foldl Operation.edit ""

instance (table : CallTable) (slot : Nat) : Decidable (table.Waits slot) :=
  inferInstanceAs (Decidable (∃ request ∈ table.input.waiting?,
    table.slots[slot]? = some (.waiting request.number)))

def asked? (table : CallTable) (slot : Nat) : Option Entry :=
  match table.slots[slot]?, (table.pollSlot slot).2 with
  | some (.prepared prompt), .waiting => some (.asked slot prompt)
  | _, _ => none

def entryOf? (table : CallTable) (draft : String) : Operation -> Option Entry
  | .poll slot => table.asked? slot
  | .request prompt => (table.step (.create prompt)).1.asked? table.slots.length
  | .drop slot => if table.Waits slot then some (.withdrawn slot) else none
  | operation =>
      if (table.step operation).2 = .done true then (operation.line? draft).map .submitted else none

def sinceFrom (table : CallTable) (since : List Operation) : List Operation -> List Operation
  | [] => since
  | operation :: rest =>
      -- A submission takes all that was typed with it.  A withdrawal leaves it for the next
      -- request.
      sinceFrom (table.step operation).1
        (if operation.submits (table.step operation).2 then [] else since ++ [operation]) rest

def entriesFrom (table : CallTable) (since : List Operation) : List Operation -> List Entry
  | [] => []
  | operation :: rest =>
      (table.entryOf? (typed since) operation).toList ++
        entriesFrom (table.step operation).1
          (if operation.submits (table.step operation).2 then [] else since ++ [operation]) rest

def sinceSubmission (operations : List Operation) : List Operation :=
  sinceFrom empty [] operations

def entries (operations : List Operation) : List Entry :=
  entriesFrom empty [] operations

variable {table after : CallTable} {slot : Nat} {since : List Operation} {draft : String}
  {owner? : Option Nat}

/-!
# What the host has typed
-/

theorem typed_concat (operations : List Operation) (operation : Operation) :
    typed (operations ++ [operation]) = operation.edit (typed operations) := by
  rw [typed, List.foldl_append]
  rfl

theorem content_ask (input : LineInput) (prompt : String) :
    (input.ask prompt).1.control.content = input.control.content := by
  cases waiting : input.waiting? with
  | none => rw [ask_eq_of_idle waiting]
  | some request => rw [ask_of_waiting? waiting]

theorem content_poll (input : LineInput) (ticket : Ticket) :
    (input.poll ticket).1.control.content = input.control.content := by
  cases ticket with
  | closed => rfl
  | prepared prompt => exact content_ask input prompt
  | waiting number =>
      rw [poll]
      split
      · rfl
      · split
        · rfl
        · rfl

theorem content_abandon (input : LineInput) (ticket : Ticket) :
    (input.abandon ticket).control.content = input.control.content := by
  cases ticket with
  | closed => rfl
  | prepared prompt => rfl
  | waiting number =>
      cases waits : input.waitsFor number with
      | true => rw [abandon_eq_of_waitsFor waits]
      | false => rw [abandon_of_not_waitsFor waits]; rfl

theorem content_pollSlot (table : CallTable) (slot : Nat) :
    (table.pollSlot slot).1.input.control.content = table.input.control.content := by
  rw [pollSlot]
  split
  · rfl
  · exact content_poll table.input _

theorem content_step (table : CallTable) (operation : Operation) :
    (table.step operation).1.input.control.content =
      if operation.submits (table.step operation).2 then ""
      else operation.edit table.input.control.content := by
  have submitted : table.input.submit.1.control.content =
      if table.input.submit.2 then "" else table.input.control.content := by
    cases waiting : table.input.waiting? with
    | none => rw [submit_of_idle waiting]; rfl
    | some request => rw [submit_eq_of_waiting? waiting]; rfl
  cases operation with
  | create prompt => rfl
  | request prompt => exact content_pollSlot (table.step (.create prompt)).1 table.slots.length
  | poll slot => exact content_pollSlot table slot
  | drop slot =>
      rw [step]
      split
      · rfl
      · exact content_abandon table.input _
  | submit =>
      simpa [step, Operation.submits, Operation.isSubmission, Operation.edit] using submitted
  | submitLine text =>
      cases waiting : table.input.waiting? with
      | none =>
          rw [step_of_idle waiting rfl]
          rfl
      | some request =>
          have placed : (table.input.setContent text).waiting? = some request := waiting
          simp [step, submitLine, isWaiting_of_waiting? waiting, submit_eq_of_waiting? placed,
            Operation.submits, Operation.isSubmission, Control.idle]
  | press key =>
      cases key with
      | other => rfl
      | enter =>
          simpa [step, press, Operation.submits, Operation.isSubmission, Operation.edit]
            using submitted
  | type text => rfl
  | setContent text => rfl

theorem content_step_typed (typed_eq : table.input.control.content = typed since)
    (operation : Operation) :
    (table.step operation).1.input.control.content =
      typed (if operation.submits (table.step operation).2 then [] else since ++ [operation]) := by
  rw [content_step, typed_eq]
  split
  · rfl
  · rw [typed_concat]

theorem content_empty : empty.input.control.content = typed [] :=
  rfl

theorem content_run (typed_eq : table.input.control.content = typed since)
    (operations : List Operation) :
    (table.run operations).input.control.content = typed (sinceFrom table since operations) := by
  induction operations generalizing table since with
  | nil => exact typed_eq
  | cons operation rest ih => exact ih (content_step_typed typed_eq operation)

/-!
# One operation
-/

def Pending (table : CallTable) : Option Nat -> Prop
  | none => table.input.waiting? = none
  | some slot => table.Waits slot

theorem Sound.pending_unique (sound : table.Sound) {other? : Option Nat}
    (pending : table.Pending owner?) (again : table.Pending other?) : owner? = other? := by
  cases owner? with
  | none =>
      cases other? with
      | none => rfl
      | some other =>
          rcases again with ⟨request, waits, _⟩
          rw [Pending, waits] at pending
          cases pending
  | some slot =>
      cases other? with
      | none =>
          rcases pending with ⟨request, waits, _⟩
          rw [Pending, waits] at again
          cases again
      | some other => exact congrArg some (sound.waits_unique pending again)

/-- What an operation does to the transcript and to the request that waits, by its entry. -/
inductive Entered (table after : CallTable) : Option Entry -> Prop where
  | silent : after.input.transcript.text = table.input.transcript.text ->
      (∀ owner?, table.Pending owner? -> after.Pending owner?) -> Entered table after none
  | asked {slot : Nat} {prompt : String} :
      after.input.transcript.text = table.input.transcript.text ++ prompt ->
      table.Pending none -> after.Pending (some slot) ->
      Entered table after (some (.asked slot prompt))
  | submitted {slot : Nat} {line : String} :
      after.input.transcript.text = table.input.transcript.text ++ (line ++ "\n") ->
      table.Pending (some slot) -> after.Pending none ->
      Entered table after (some (.submitted line))
  | withdrawn {slot : Nat} :
      after.input.transcript.text = table.input.transcript.text ->
      table.Pending (some slot) -> after.Pending none ->
      Entered table after (some (.withdrawn slot))

theorem Entered.unchanged (table : CallTable) : Entered table table none :=
  .silent rfl fun _ pending => pending

theorem Entered.replaced {input : LineInput} (ticket : Ticket) (unasked : ¬table.Waits slot)
    (text : input.transcript.text = table.input.transcript.text)
    (waiting? : input.waiting? = table.input.waiting?) :
    Entered table ⟨input, table.slots.set slot ticket⟩ none := by
  refine .silent text fun owner? pending => ?_
  cases owner? with
  | none => exact waiting?.trans pending
  | some other =>
      rcases pending with ⟨request, waits, held⟩
      have apart : slot ≠ other := by
        rintro rfl
        exact unasked ⟨request, waits, held⟩
      refine ⟨request, waiting?.trans waits, ?_⟩
      rw [Holds, List.getElem?_set_ne apart]
      exact held

theorem not_waits_of_prepared {prompt : String}
    (found : table.slots[slot]? = some (.prepared prompt)) :
    ¬table.Waits slot := by
  rintro ⟨request, _, held⟩
  rw [Holds, found] at held
  cases held

theorem not_waits_of_waitsFor {number : Nat} (held : table.Holds slot number)
    (ended : table.input.waitsFor number = false) : ¬table.Waits slot := by
  rintro ⟨request, waits, again⟩
  rw [held.number_eq again, waitsFor_iff.2 ⟨request, waits, rfl⟩] at ended
  cases ended

theorem Sound.entered_pollSlot (sound : table.Sound) (slot : Nat) :
    Entered table (table.pollSlot slot).1 (table.asked? slot) := by
  have unsaid (unprepared : ∀ prompt, table.slots[slot]? ≠ some (.prepared prompt)) :
      table.asked? slot = none := by
    rw [asked?]
    split
    · rename_i prompt found _
      exact absurd found (unprepared prompt)
    · rfl
  -- Only the step of a call that was not asked yet can make an entry.
  cases found : table.slots[slot]? with
  | none =>
      rw [unsaid (by simp [found]), pollSlot, found]
      exact .unchanged table
  | some ticket =>
      cases ticket with
      | closed =>
          rw [unsaid (by simp [found]), pollSlot, found]
          simp only [poll, set_eq_self found]
          exact .unchanged table
      | prepared prompt =>
          cases waiting : table.input.waiting? with
          | none =>
              simp only [asked?, pollSlot, found, poll, ask_eq_of_idle waiting]
              refine .asked (Transcript.text_appendRaw _ prompt) waiting ?_
              exact ⟨_, rfl, holds_set_waiting_self found⟩
          | some request =>
              simp only [asked?, pollSlot, found, poll, ask_of_waiting? waiting]
              exact .replaced .closed (not_waits_of_prepared found) rfl rfl
      | waiting number =>
          rw [unsaid (by simp [found]), pollSlot, found]
          cases answer : table.input.answer? number with
          | some line =>
              simp only [poll, answer]
              have ready : table.Ready slot line := ⟨number, found, answer⟩
              exact .replaced .closed (sound.not_waits_of_ready ready) rfl rfl
          | none =>
              cases waits : table.input.waitsFor number with
              | true =>
                  simp only [poll, answer, waits, if_pos, set_eq_self found]
                  exact .unchanged table
              | false =>
                  simp only [poll, answer, waits]
                  exact .replaced .closed (not_waits_of_waitsFor found waits) rfl rfl

theorem Sound.entered_drop (sound : table.Sound) (slot : Nat) :
    Entered table (table.step (.drop slot)).1 (table.entryOf? draft (.drop slot)) := by
  rw [entryOf?]
  split
  · rename_i waits
    rw [sound.drop_eq_of_waits waits]
    exact .withdrawn rfl waits rfl
  · rename_i unasked
    have effect := table.dropEffect slot
    generalize (table.step (.drop slot)).1 = after at effect
    cases effect with
    | missing _ => exact .unchanged table
    | ended _ => exact .unchanged table
    | unmade _ => exact .replaced .closed unasked rfl rfl
    | discarded _ _ => exact .replaced .closed unasked rfl rfl
    | withdrawn held withdrawn =>
        rcases waitsFor_iff.1 withdrawn.before with ⟨request, waits, rfl⟩
        exact absurd ⟨request, waits, held⟩ unasked

theorem Sound.entered_submit (sound : table.Sound) :
    Entered table { table with input := table.input.submit.1 }
      (if table.input.submit.2 then some (.submitted table.input.control.content) else none) := by
  cases waiting : table.input.waiting? with
  | none =>
      rw [submit_of_idle waiting]
      exact .unchanged table
  | some request =>
      rcases sound.holder waiting with ⟨slot, held⟩
      rw [submit_eq_of_waiting? waiting]
      exact .submitted rfl ⟨request, waiting, held⟩ rfl

theorem pending_created (prompt : String) :
    (table.step (.create prompt)).1.Pending owner? ↔ table.Pending owner? := by
  cases owner? with
  | none => exact Iff.rfl
  | some slot =>
      constructor
      · rintro ⟨request, waits, held⟩
        exact ⟨request, waits, holds_append_prepared held⟩
      · rintro ⟨request, waits, held⟩
        exact ⟨request, waits, holds_append held⟩

theorem Entered.of_same {between : CallTable} {told? : Option Entry}
    (entered : Entered between after told?)
    (text : between.input.transcript.text = table.input.transcript.text)
    (pending : ∀ owner?, between.Pending owner? ↔ table.Pending owner?) :
    Entered table after told? := by
  cases entered with
  | silent text' kept =>
      exact .silent (text'.trans text) fun owner? before => kept owner? ((pending owner?).2 before)
  | asked text' idle waits => exact .asked (text ▸ text') ((pending none).1 idle) waits
  | submitted text' waits idle => exact .submitted (text ▸ text') ((pending _).1 waits) idle
  | withdrawn text' waits idle => exact .withdrawn (text ▸ text') ((pending _).1 waits) idle

theorem Sound.entered_submitLine (sound : table.Sound) (text : String) :
    Entered table { table with input := (table.input.submitLine text).1 }
      (if (table.input.submitLine text).2 then some (.submitted text) else none) := by
  rw [submitLine]
  split
  · have placed := (sound.step (.setContent text)).entered_submit
    exact placed.of_same rfl fun owner? => by cases owner? with | _ => exact Iff.rfl
  · exact .unchanged table

theorem Sound.entered_step (sound : table.Sound) (operation : Operation) :
    Entered table (table.step operation).1
      (table.entryOf? table.input.control.content operation) := by
  cases operation with
  | create prompt => exact .silent rfl fun owner? pending => (pending_created prompt).2 pending
  | request prompt =>
      have polled := (sound.created prompt).entered_pollSlot table.slots.length
      exact polled.of_same rfl fun owner? => pending_created prompt
  | poll slot => exact sound.entered_pollSlot slot
  | drop slot => exact sound.entered_drop slot
  | submit => simpa [entryOf?, CallTable.step, Operation.line?] using sound.entered_submit
  | submitLine text =>
      simpa [entryOf?, CallTable.step, Operation.line?] using sound.entered_submitLine text
  | press key =>
      cases key with
      | enter => simpa [entryOf?, CallTable.step, press, Operation.line?] using sound.entered_submit
      | other => exact .unchanged table
  | type text => exact .silent rfl fun owner? pending => by cases owner? with | _ => exact pending
  | setContent text =>
      exact .silent rfl fun owner? pending => by cases owner? with | _ => exact pending

/-!
# The whole record
-/

theorem Entered.text_eq {told? : Option Entry} (entered : Entered table after told?) :
    after.input.transcript.text =
      table.input.transcript.text ++ String.join (told?.toList.map Entry.text) := by
  cases entered with
  | silent text _ => simpa [String.join] using text
  | asked text _ _ => simpa [String.join, Entry.text] using text
  | submitted text _ _ => simpa [String.join, Entry.text] using text
  | withdrawn text _ _ => simpa [String.join, Entry.text] using text

theorem Sound.text_run (sound : table.Sound) (typed_eq : table.input.control.content = typed since)
    (operations : List Operation) :
    (table.run operations).input.transcript.text =
      table.input.transcript.text ++
        String.join ((entriesFrom table since operations).map Entry.text) := by
  induction operations generalizing table since with
  | nil => simp [entriesFrom, String.join]
  | cons operation rest ih =>
      have entered := sound.entered_step operation
      rw [typed_eq] at entered
      rw [run_cons, ih (sound.step operation) (content_step_typed typed_eq operation),
        entered.text_eq, entriesFrom, List.map_append, String.join_append, String.append_assoc]

/-- Requests and their ends take turns.  The request of the call in a slot, if any, has to end
first. -/
def Alternating : Option Nat -> List Entry -> Prop
  | _, [] => True
  | none, .asked slot _ :: rest => Alternating (some slot) rest
  | none, _ :: _ => False
  | some slot, entry :: rest => entry.Ends slot ∧ Alternating none rest

theorem Sound.alternating_entriesFrom (sound : table.Sound)
    (typed_eq : table.input.control.content = typed since) (pending : table.Pending owner?)
    (operations : List Operation) : Alternating owner? (entriesFrom table since operations) := by
  -- The owner that `Alternating` expects is at every operation the one that the table has.
  induction operations generalizing table since owner? with
  | nil => cases owner? with | _ => trivial
  | cons operation rest ih =>
      have entered := sound.entered_step operation
      rw [typed_eq] at entered
      have later {next? : Option Nat} (pending : (table.step operation).1.Pending next?) :=
        ih (sound.step operation) (content_step_typed typed_eq operation) pending
      rw [entriesFrom]
      generalize table.entryOf? (typed since) operation = told? at entered
      cases entered with
      | silent _ kept => exact later (kept owner? pending)
      | asked _ idle waits =>
          rw [sound.pending_unique pending idle]
          exact later waits
      | submitted _ waits idle =>
          rw [sound.pending_unique pending waits]
          exact ⟨trivial, later idle⟩
      | withdrawn _ waits idle =>
          rw [sound.pending_unique pending waits]
          exact ⟨rfl, later idle⟩

theorem Alternating.exists_of_append {first rest : List Entry}
    (alternating : Alternating owner? (first ++ rest)) : ∃ owner?, Alternating owner? rest := by
  induction first generalizing owner? with
  | nil => exact ⟨owner?, alternating⟩
  | cons entry first ih =>
      cases owner? with
      | some slot =>
          rw [List.cons_append, Alternating] at alternating
          exact ih alternating.2
      | none =>
          cases entry with
          | asked slot prompt =>
              rw [List.cons_append, Alternating] at alternating
              exact ih alternating
          | _ => exact alternating.elim

theorem Alternating.between {first between rest : List Entry} {prompt : String} {next : Entry}
    (alternating : Alternating owner? (first ++ .asked slot prompt :: (between ++ next :: rest)))
    (unasked : ∀ entry ∈ between, entry.isAsked = false) (asked : next.isAsked = true) :
    ∃ entry, between = [entry] ∧ entry.Ends slot := by
  rcases alternating.exists_of_append with ⟨other?, later⟩
  cases other? with
  | some other => exact later.1.elim
  | none =>
      cases between with
      | nil =>
          cases next with
          | asked => exact later.1.elim
          | _ => cases asked
      | cons entry between =>
          rw [List.cons_append, Alternating, Alternating] at later
          refine ⟨entry, ?_, later.1⟩
          cases between with
          | nil => rfl
          | cons another between =>
              have quiet := unasked another (by simp)
              cases another with
              | asked => cases quiet
              | _ => exact later.2.elim

/-- The transcript tells the record of the operations, and the record is that of a conversation. -/
structure ReadsAsConversation (operations : List Operation) : Prop where
  text : (empty.run operations).input.transcript.text =
    String.join ((entries operations).map Entry.text)
  /-- A line that is submitted is what the host typed since the line before. -/
  line : ∀ {place line}, SubmitsAt operations place line ->
    ∃ operation, operations[place]? = some operation ∧
      operation.line? (typed (sinceSubmission (operations.take place))) = some line
  /-- Between one request and the next one there is exactly one submission, or the withdrawal of the
  first of them. -/
  turns : ∀ {first between rest slot prompt next nextPrompt},
    entries operations =
      first ++ .asked slot prompt :: (between ++ .asked next nextPrompt :: rest) ->
    (∀ entry ∈ between, entry.isAsked = false) ->
    ∃ entry, between = [entry] ∧ entry.Ends slot

theorem readsAsConversation (operations : List Operation) : ReadsAsConversation operations where
  text := by
    rw [sound_empty.text_run content_empty operations]
    exact String.empty_append
  line := by
    rintro place line ⟨operation, found, submits, _⟩
    refine ⟨operation, found, ?_⟩
    have content : (before operations place).input.control.content =
        typed (sinceSubmission (operations.take place)) := content_run content_empty _
    rw [← content]
    exact submits
  turns := by
    intro first between rest slot prompt next nextPrompt entries_eq unasked
    have idle : empty.Pending none := rfl
    have alternating : Alternating none (entries operations) :=
      sound_empty.alternating_entriesFrom content_empty idle operations
    rw [entries_eq] at alternating
    exact alternating.between unasked rfl

end CallTable
end HangulConsole
