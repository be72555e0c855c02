import HangulConsole.Proofs.LineInput.Owners

/-!
# What nobody notices

A request that is refused, a submission that finds no request, and giving up a call whose request
does not wait leave no trace: the host sees what it saw before, and from then on all other calls and
all operations of the host go as if nothing had been done.  Only the number of the request is used
up, so the requests made later are numbered differently.
-/

namespace HangulConsole

namespace LineInput

structure SameView (input other : LineInput) : Prop where
  prompt? : other.prompt? = input.prompt?
  control : other.control = input.control
  transcript : other.transcript = input.transcript
  /-- No observer of the control was notified once more. -/
  notices : other.notices = input.notices

end LineInput

namespace CallTable

open LineInput

def outcomes (table : CallTable) : List Operation -> List Outcome
  | [] => []
  | operation :: rest => (table.step operation).2 :: outcomes (table.step operation).1 rest

/-- Whatever is done with the other calls and by the host, in both tables it gets the same answers
and the host sees the same. -/
def Unnoticed (slot : Nat) (table other : CallTable) : Prop :=
  ∀ operations, (∀ operation ∈ operations, operation.touches slot = false) ->
    other.outcomes operations = table.outcomes operations ∧
      SameView (table.run operations).input (other.run operations).input

end CallTable

/-!
# Other numbers

From some number on the requests of one line input are numbered higher than those of the other.
-/

def raised (limit shift number : Nat) : Nat :=
  if number < limit then number else number + shift

theorem raised_of_lt {limit shift number : Nat} (below : number < limit) :
    raised limit shift number = number :=
  if_pos below

theorem raised_of_le {limit shift number : Nat} (above : limit ≤ number) :
    raised limit shift number = number + shift :=
  if_neg (Nat.not_lt.2 above)

theorem raised_inj {limit shift number other : Nat} :
    raised limit shift number = raised limit shift other ↔ number = other := by
  unfold raised
  grind

def Request.raise (limit shift : Nat) (request : Request) : Request :=
  { request with number := raised limit shift request.number }

namespace LineInput

variable {hidden : Nat -> Prop} {limit shift number : Nat} {input other : LineInput}

def Ticket.raise (limit shift : Nat) : Ticket -> Ticket
  | .prepared prompt => .prepared prompt
  | .waiting number => .waiting (raised limit shift number)
  | .closed => .closed

/-- Two line inputs are the same but for the numbers of their requests, and for the lines of the
requests that are hidden. -/
structure Alongside (hidden : Nat -> Prop) (limit shift : Nat) (input other : LineInput) :
    Prop where
  control : other.control = input.control
  transcript : other.transcript = input.transcript
  notices : other.notices = input.notices
  waiting? : other.waiting? = input.waiting?.map (Request.raise limit shift)
  limit_le : limit ≤ input.nextNumber
  nextNumber : other.nextNumber = input.nextNumber + shift
  answer? : ∀ number, ¬hidden number ->
    other.answer? (raised limit shift number) = input.answer? number

namespace Alongside

theorem sameView (alongside : Alongside hidden limit shift input other) :
    SameView input other where
  prompt? := by
    rw [prompt?, prompt?, alongside.waiting?, Option.map_map]
    rfl
  control := alongside.control
  transcript := alongside.transcript
  notices := alongside.notices

theorem isWaiting (alongside : Alongside hidden limit shift input other) :
    other.isWaiting = input.isWaiting := by
  rw [LineInput.isWaiting, LineInput.isWaiting, alongside.waiting?, Option.isSome_map]

theorem waiting?_of_some {request : Request}
    (alongside : Alongside hidden limit shift input other)
    (waits : input.waiting? = some request) :
    other.waiting? = some (request.raise limit shift) := by
  rw [alongside.waiting?, waits]
  rfl

theorem waiting?_of_none (alongside : Alongside hidden limit shift input other)
    (idle : input.waiting? = none) : other.waiting? = none := by
  rw [alongside.waiting?, idle]
  rfl

theorem waitsFor (alongside : Alongside hidden limit shift input other) (number : Nat) :
    other.waitsFor (raised limit shift number) = input.waitsFor number := by
  rw [LineInput.waitsFor, LineInput.waitsFor, alongside.waiting?, Option.any_map]
  congr 1
  funext request
  rw [Bool.eq_iff_iff]
  simp [Request.raise, raised_inj]

/-!
# Operations of the host on both
-/

theorem setControl (alongside : Alongside hidden limit shift input other) (control : Control) :
    Alongside hidden limit shift (input.setControl control) (other.setControl control) where
  control := rfl
  transcript := alongside.transcript
  notices := congrArg (· + 1) alongside.notices
  waiting? := alongside.waiting?
  limit_le := alongside.limit_le
  nextNumber := alongside.nextNumber
  answer? := alongside.answer?

theorem type (alongside : Alongside hidden limit shift input other) (text : String) :
    Alongside hidden limit shift (input.type text) (other.type text) := by
  rw [LineInput.type, LineInput.type, alongside.control]
  exact alongside.setControl _

theorem setContent (alongside : Alongside hidden limit shift input other) (text : String) :
    Alongside hidden limit shift (input.setContent text) (other.setContent text) := by
  rw [LineInput.setContent, LineInput.setContent, alongside.control]
  exact alongside.setControl _

theorem submit (alongside : Alongside hidden limit shift input other) :
    Alongside hidden limit shift input.submit.1 other.submit.1 ∧
      other.submit.2 = input.submit.2 := by
  cases waiting : input.waiting? with
  | none =>
      rw [submit_of_idle waiting, submit_of_idle (alongside.waiting?_of_none waiting)]
      exact ⟨alongside, rfl⟩
  | some request =>
      have waits := alongside.waiting?_of_some waiting
      have submitted := (submit_of_waiting? waiting).1
      have submittedToo := (submit_of_waiting? waits).1
      have answers (number : Nat) (shown : ¬hidden number) :
          other.submit.1.answer? (raised limit shift number) = input.submit.1.answer? number := by
        rw [submitted.answer?, submittedToo.answer?, alongside.answer? number shown,
          alongside.control]
        simp only [Request.raise, raised_inj]
      rw [submit_eq_of_waiting? waiting, submit_eq_of_waiting? waits] at answers ⊢
      refine ⟨⟨rfl, ?_, ?_, rfl, alongside.limit_le, alongside.nextNumber, answers⟩, rfl⟩
      · simp only [alongside.transcript, alongside.control]
      · simp only [alongside.notices]

theorem submitLine (alongside : Alongside hidden limit shift input other) (text : String) :
    Alongside hidden limit shift (input.submitLine text).1 (other.submitLine text).1 ∧
      (other.submitLine text).2 = (input.submitLine text).2 := by
  rw [LineInput.submitLine, LineInput.submitLine, alongside.isWaiting]
  split
  · exact (alongside.setContent text).submit
  · exact ⟨alongside, rfl⟩

/-!
# Steps of a call on both
-/

theorem ask (alongside : Alongside hidden limit shift input other) (prompt : String) :
    Alongside hidden limit shift (input.ask prompt).1 (other.ask prompt).1 ∧
      (other.ask prompt).2.1 = (input.ask prompt).2.1.raise limit shift ∧
      (other.ask prompt).2.2 = (input.ask prompt).2.2 := by
  have number_eq : other.nextNumber = raised limit shift input.nextNumber := by
    rw [alongside.nextNumber, raised_of_le alongside.limit_le]
  have next : other.nextNumber + 1 = input.nextNumber + 1 + shift := by
    rw [alongside.nextNumber]
    omega
  have limit_le := Nat.le_succ_of_le alongside.limit_le
  cases waiting : input.waiting? with
  | none =>
      rw [ask_eq_of_idle waiting, ask_eq_of_idle (alongside.waiting?_of_none waiting)]
      refine ⟨⟨?_, ?_, ?_, ?_, limit_le, next, alongside.answer?⟩, ?_, rfl⟩
      · simp only [alongside.control]
      · simp only [alongside.transcript]
      · simp only [alongside.notices]
      · simp only [number_eq, Option.map_some, Request.raise]
      · simp only [number_eq, Ticket.raise]
  | some request =>
      rw [ask_of_waiting? waiting, ask_of_waiting? (alongside.waiting?_of_some waiting)]
      exact ⟨⟨alongside.control, alongside.transcript, alongside.notices, alongside.waiting?,
        limit_le, next, alongside.answer?⟩, rfl, rfl⟩

theorem forget (alongside : Alongside hidden limit shift input other) (number : Nat) :
    Alongside hidden limit shift (input.forget number)
      (other.forget (raised limit shift number)) where
  control := alongside.control
  transcript := alongside.transcript
  notices := alongside.notices
  waiting? := alongside.waiting?
  limit_le := alongside.limit_le
  nextNumber := alongside.nextNumber
  answer? := by
    intro asked shown
    rw [answer?_forget, answer?_forget, alongside.answer? asked shown]
    simp only [raised_inj]

theorem poll (alongside : Alongside hidden limit shift input other) {ticket : Ticket}
    (shown : ∀ number, ticket = .waiting number -> ¬hidden number) :
    Alongside hidden limit shift (input.poll ticket).1 (other.poll (ticket.raise limit shift)).1 ∧
      (other.poll (ticket.raise limit shift)).2.1 = (input.poll ticket).2.1.raise limit shift ∧
      (other.poll (ticket.raise limit shift)).2.2 = (input.poll ticket).2.2 := by
  cases ticket with
  | closed => exact ⟨alongside, rfl, rfl⟩
  | prepared prompt => exact alongside.ask prompt
  | waiting number =>
      have answers := alongside.answer? number (shown number rfl)
      have waits := alongside.waitsFor number
      rw [Ticket.raise, LineInput.poll, LineInput.poll, answers, waits]
      cases input.answer? number with
      | some line => exact ⟨alongside.forget number, rfl, rfl⟩
      | none =>
          cases input.waitsFor number with
          | true => exact ⟨alongside, rfl, rfl⟩
          | false => exact ⟨alongside, rfl, rfl⟩

theorem abandon (alongside : Alongside hidden limit shift input other) (ticket : Ticket) :
    Alongside hidden limit shift (input.abandon ticket)
      (other.abandon (ticket.raise limit shift)) := by
  cases ticket with
  | closed => exact alongside
  | prepared prompt => exact alongside
  | waiting number =>
      have waits := alongside.waitsFor number
      have forgotten := alongside.forget number
      cases waiting : input.waitsFor number with
      | false =>
          rw [waiting] at waits
          rw [Ticket.raise, abandon_of_not_waitsFor waiting, abandon_of_not_waitsFor waits]
          exact forgotten
      | true =>
          rw [waiting] at waits
          rw [Ticket.raise, abandon_eq_of_waitsFor waiting, abandon_eq_of_waitsFor waits]
          refine ⟨?_, forgotten.transcript, ?_, rfl, forgotten.limit_le, forgotten.nextNumber,
            forgotten.answer?⟩
          · simp only [alongside.control]
          · simp only [alongside.notices]

end Alongside

end LineInput

/-!
# Two tables in step
-/

namespace CallTable

open LineInput

variable {table other : CallTable} {slot number limit shift : Nat} {hidden : Nat -> Prop}
  {request : Request} {prompt : String} {operation : Operation}

/-- Two tables are the same but for the numbers of requests and for the call in one slot. -/
structure InStep (slot : Nat) (hidden : Nat -> Prop) (limit shift : Nat)
    (table other : CallTable) : Prop where
  input : Alongside hidden limit shift table.input other.input
  length_eq : other.slots.length = table.slots.length
  slots : ∀ index, slot ≠ index ->
    other.slots[index]? = table.slots[index]?.map (Ticket.raise limit shift)
  /-- Only the line of the call in that slot is hidden. -/
  hides : ∀ number, hidden number -> table.Holds slot number
  within : slot < table.slots.length

namespace InStep

theorem created (inStep : InStep slot hidden limit shift table other) (prompt : String) :
    InStep slot hidden limit shift { table with slots := table.slots ++ [.prepared prompt] }
      { other with slots := other.slots ++ [.prepared prompt] } where
  input := inStep.input
  length_eq := by simp [inStep.length_eq]
  slots := by
    intro index apart
    rw [List.getElem?_append, List.getElem?_append, inStep.length_eq]
    split
    · exact inStep.slots index apart
    · cases index - table.slots.length with
      | zero => rfl
      | succ _ => rfl
  hides number held := holds_append (inStep.hides number held)
  within := by
    rw [List.length_append]
    exact Nat.lt_add_right _ inStep.within

theorem replaced (inStep : InStep slot hidden limit shift table other) {index : Nat}
    (apart : slot ≠ index) {input input' : LineInput}
    (alongside : Alongside hidden limit shift input input') (ticket : Ticket) :
    InStep slot hidden limit shift ⟨input, table.slots.set index ticket⟩
      ⟨input', other.slots.set index (ticket.raise limit shift)⟩ where
  input := alongside
  length_eq := by
    rw [List.length_set, List.length_set]
    exact inStep.length_eq
  slots := by
    intro place away
    rw [List.getElem?_set, List.getElem?_set, inStep.length_eq]
    split
    · split
      · rfl
      · rfl
    · exact inStep.slots place away
  hides := by
    intro number held
    rw [Holds, List.getElem?_set_ne (Ne.symm apart)]
    exact inStep.hides number held
  within := by
    rw [List.length_set]
    exact inStep.within

theorem hosted (inStep : InStep slot hidden limit shift table other) {input input' : LineInput}
    (alongside : Alongside hidden limit shift input input') :
    InStep slot hidden limit shift { table with input } { other with input := input' } where
  input := alongside
  length_eq := inStep.length_eq
  slots := inStep.slots
  hides := inStep.hides
  within := inStep.within

theorem pollSlot (inStep : InStep slot hidden limit shift table other) (sound : table.Sound)
    {index : Nat} (apart : slot ≠ index) :
    InStep slot hidden limit shift (table.pollSlot index).1 (other.pollSlot index).1 ∧
      (other.pollSlot index).2 = (table.pollSlot index).2 := by
  have there := inStep.slots index apart
  rw [CallTable.pollSlot, CallTable.pollSlot, there]
  cases found : table.slots[index]? with
  | none => exact ⟨inStep, rfl⟩
  | some ticket =>
      -- A line is hidden only from the call in `slot`, and no other call shares its number.
      have shown (number : Nat) (waits : ticket = .waiting number) : ¬hidden number := by
        intro held
        rw [waits] at found
        exact apart (sound.slot_eq (inStep.hides number held) found)
      obtain ⟨alongside, ticket_eq, progress_eq⟩ := inStep.input.poll shown
      simp only [Option.map_some, ticket_eq]
      exact ⟨inStep.replaced apart alongside _, progress_eq⟩

theorem step (inStep : InStep slot hidden limit shift table other) (sound : table.Sound)
    (apart : operation.touches slot = false) :
    InStep slot hidden limit shift (table.step operation).1 (other.step operation).1 ∧
      (other.step operation).2 = (table.step operation).2 := by
  cases operation with
  | create prompt => exact ⟨inStep.created prompt, rfl⟩
  | request prompt =>
      have new : slot ≠ table.slots.length := Nat.ne_of_lt inStep.within
      have polled := (inStep.created prompt).pollSlot (sound.created prompt) new
      rw [CallTable.step, CallTable.step, inStep.length_eq]
      exact ⟨polled.1, congrArg Outcome.progress polled.2⟩
  | poll index =>
      have away : slot ≠ index := by
        rintro rfl
        simp [Operation.touches] at apart
      have polled := inStep.pollSlot sound away
      exact ⟨polled.1, congrArg Outcome.progress polled.2⟩
  | drop index =>
      have away : slot ≠ index := by
        rintro rfl
        simp [Operation.touches] at apart
      have there := inStep.slots index away
      rw [CallTable.step, CallTable.step, there]
      cases table.slots[index]? with
      | none => exact ⟨inStep, rfl⟩
      | some ticket =>
          have still : isOpen (ticket.raise limit shift) = isOpen ticket := by
            cases ticket with
            | _ => rfl
          exact ⟨inStep.replaced away (inStep.input.abandon ticket) .closed,
            congrArg Outcome.done still⟩
  | submit =>
      have submitted := inStep.input.submit
      exact ⟨inStep.hosted submitted.1, congrArg Outcome.done submitted.2⟩
  | submitLine text =>
      have submitted := inStep.input.submitLine text
      exact ⟨inStep.hosted submitted.1, congrArg Outcome.done submitted.2⟩
  | press key =>
      cases key with
      | enter =>
          have submitted := inStep.input.submit
          exact ⟨inStep.hosted submitted.1, congrArg Outcome.done submitted.2⟩
      | other => exact ⟨inStep.hosted inStep.input, rfl⟩
  | type text => exact ⟨inStep.hosted (inStep.input.type text), rfl⟩
  | setContent text => exact ⟨inStep.hosted (inStep.input.setContent text), rfl⟩

theorem unnoticed (inStep : InStep slot hidden limit shift table other) (sound : table.Sound) :
    Unnoticed slot table other := by
  intro operations
  induction operations generalizing table other with
  | nil => exact fun _ => ⟨rfl, inStep.input.sameView⟩
  | cons operation rest ih =>
      intro apart
      have away := List.forall_mem_cons.1 apart
      rcases inStep.step sound away.1 with ⟨later, answer⟩
      rcases ih later (sound.step operation) away.2 with ⟨answers, view⟩
      refine ⟨?_, view⟩
      rw [outcomes, outcomes, answer, answers]

end InStep

/-!
# Where tables get in step
-/

namespace Sound

theorem number_lt_of_waiting? (sound : table.Sound) (waits : table.input.waiting? = some request) :
    request.number < table.input.nextNumber := by
  rcases sound.holder waits with ⟨slot, held⟩
  exact sound.number_lt held

theorem forget_of_waitsFor (sound : table.Sound) (held : table.Holds slot number)
    (waits : table.input.waitsFor number = true) : table.input.forget number = table.input :=
  forget_eq_self (sound.answer?_of_waitsFor held waits)

theorem answer?_of_le (sound : table.Sound) (above : table.input.nextNumber ≤ number) :
    table.input.answer? number = none :=
  answer?_eq_none_of_lt fun answer mem => Nat.lt_of_lt_of_le (sound.answers_lt answer mem) above

theorem raise_ticket (sound : table.Sound) (shift : Nat) {index : Nat} {ticket : Ticket}
    (found : table.slots[index]? = some ticket) :
    ticket.raise table.input.nextNumber shift = ticket := by
  cases ticket with
  | waiting number => exact congrArg Ticket.waiting (raised_of_lt (sound.number_lt found))
  | _ => rfl

theorem inStep (sound : table.Sound) (shift : Nat) (hidden : Nat -> Prop)
    (within : slot < table.slots.length) (ticket : Ticket) (input : LineInput)
    (hides : ∀ number, hidden number -> table.Holds slot number)
    (control : input.control = table.input.control)
    (transcript : input.transcript = table.input.transcript)
    (notices : input.notices = table.input.notices)
    (waiting? : input.waiting? = table.input.waiting?)
    (nextNumber : input.nextNumber = table.input.nextNumber + shift)
    (answers : ∀ number, ¬hidden number -> input.answer? number = table.input.answer? number)
    (fresh : ∀ number, table.input.nextNumber ≤ number -> input.answer? number = none) :
    InStep slot hidden table.input.nextNumber shift table
      ⟨input, table.slots.set slot ticket⟩ where
  input :=
    { control, transcript, notices, nextNumber
      limit_le := Nat.le_refl _
      waiting? := by
        rw [waiting?]
        cases waits : table.input.waiting? with
        | none => rfl
        | some request =>
            rw [Option.map_some, Request.raise, raised_of_lt (sound.number_lt_of_waiting? waits)]
      answer? := by
        intro number shown
        by_cases old : number < table.input.nextNumber
        · rw [raised_of_lt old]
          exact answers number shown
        · have above := Nat.not_lt.1 old
          rw [raised_of_le above, fresh _ (Nat.le_add_right_of_le above),
            sound.answer?_of_le above] }
  length_eq := List.length_set
  slots := by
    intro index apart
    rw [List.getElem?_set_ne apart]
    cases found : table.slots[index]? with
    | none => rfl
    | some ticket => rw [Option.map_some, sound.raise_ticket shift found]
  hides := hides
  within := within

theorem unnoticed_of_refused (sound : table.Sound)
    (prepared : table.slots[slot]? = some (.prepared prompt))
    (waits : table.input.waiting? = some request) :
    (table.pollSlot slot).2 = .refused .inputBusy ∧
      (table.pollSlot slot).1.input.waiting? = some request ∧
      Unnoticed slot table (table.pollSlot slot).1 := by
  have polled : table.pollSlot slot =
      (⟨{ table.input with nextNumber := table.input.nextNumber + 1 },
        table.slots.set slot .closed⟩, .refused .inputBusy) := by
    rw [pollSlot, prepared]
    simp only [poll, ask_of_waiting? waits]
  rw [polled]
  refine ⟨rfl, waits, ?_⟩
  have within := (List.getElem?_eq_some_iff.1 prepared).1
  have inStep := sound.inStep 1 (fun _ => False) within .closed
    { table.input with nextNumber := table.input.nextNumber + 1 }
    (fun _ absurd => absurd.elim) rfl rfl rfl rfl rfl (fun _ _ => rfl)
    fun _ above => sound.answer?_of_le above
  exact inStep.unnoticed sound

theorem unnoticed_of_dropped (sound : table.Sound) (unasked : ¬table.Waits slot) :
    (table.step (.drop slot)).1.input.waiting? = table.input.waiting? ∧
      Unnoticed slot table (table.step (.drop slot)).1 := by
  have effect := table.dropEffect slot
  have same : Unnoticed slot table table := fun operations _ => ⟨rfl, rfl, rfl, rfl, rfl⟩
  generalize (table.step (.drop slot)).1 = after at effect
  cases effect with
  | missing _ => exact ⟨rfl, same⟩
  | ended _ => exact ⟨rfl, same⟩
  | unmade found =>
      have within := (List.getElem?_eq_some_iff.1 found).1
      have inStep := sound.inStep 0 (fun _ => False) within .closed table.input
        (fun _ absurd => absurd.elim) rfl rfl rfl rfl rfl (fun _ _ => rfl)
        fun _ above => sound.answer?_of_le above
      exact ⟨rfl, inStep.unnoticed sound⟩
  | @discarded number held _ =>
      have within := (List.getElem?_eq_some_iff.1 held).1
      have answers (other : Nat) (shown : ¬other = number) :
          (table.input.forget number).answer? other = table.input.answer? other :=
        answer?_forget_of_ne (Ne.symm shown)
      have fresh (other : Nat) (above : table.input.nextNumber ≤ other) :
          (table.input.forget number).answer? other = none := by
        have later := Nat.lt_of_lt_of_le (sound.number_lt held) above
        rw [answers other (Nat.ne_of_gt later)]
        exact sound.answer?_of_le above
      have inStep := sound.inStep 0 (· = number) within .closed (table.input.forget number)
        (fun _ same => same ▸ held) rfl rfl rfl rfl rfl answers fresh
      exact ⟨rfl, inStep.unnoticed sound⟩
  | withdrawn held withdrawn =>
      rcases waitsFor_iff.1 withdrawn.before with ⟨request, waits, rfl⟩
      exact absurd ⟨request, waits, held⟩ unasked

theorem drop_eq_of_waits (sound : table.Sound) (waits : table.Waits slot) :
    (table.step (.drop slot)).1 =
      ⟨{ table.input with
          waiting? := none
          control := { table.input.control with enabled := false, focused := false }
          notices := table.input.notices + 1 }, table.slots.set slot .closed⟩ := by
  rcases waits with ⟨request, waiting, held⟩
  have waitsFor := waitsFor_iff.2 ⟨request, waiting, rfl⟩
  have there : table.slots[slot]? = some (.waiting request.number) := held
  rw [CallTable.step, there]
  simp only [abandon_eq_of_waitsFor waitsFor, sound.forget_of_waitsFor held waitsFor]

end Sound

/-!
# Operations that nobody notices
-/

theorem step_of_idle (idle : table.input.waiting? = none)
    (submission : operation.isSubmission = true) : table.step operation = (table, .done false) := by
  cases operation with
  | submit => rw [step, submit_of_idle idle]
  | submitLine text => rw [step, submitLine_of_idle idle]
  | press key =>
      cases key with
      | enter => rw [step, press, submit_of_idle idle]
      | other => rfl
  | _ => cases submission

/-- Refused requests, submissions without a request and calls given up too late leave a table as it
is, and a request that is withdrawn takes nothing else with it. -/
structure Undisturbed (table : CallTable) : Prop where
  /-- A second request is refused, and the one that waits goes on as if it had never been made. -/
  refused : ∀ slot prompt request, table.slots[slot]? = some (.prepared prompt) ->
    table.input.waiting? = some request ->
    (table.step (.poll slot)).2 = .progress (.refused .inputBusy) ∧
      (table.step (.poll slot)).1.input.waiting? = some request ∧
      Unnoticed slot table (table.step (.poll slot)).1
  /-- The same holds if it is made at once: its call might as well not have been taken a step. -/
  refusedAtOnce : ∀ prompt request, table.input.waiting? = some request ->
    (table.step (.request prompt)).2 = .progress (.refused .inputBusy) ∧
      (table.step (.request prompt)).1.input.waiting? = some request ∧
      Unnoticed table.slots.length (table.step (.create prompt)).1
        (table.step (.request prompt)).1
  /-- Without a request a submission has no effect, not even on the text in the control. -/
  idle : table.input.waiting? = none -> ∀ operation, operation.isSubmission = true ->
    table.step operation = (table, .done false)
  otherKey : table.step (.press .other) = (table, .done false)
  /-- A call whose request does not wait may be given up, whichever request waits. -/
  stale : ∀ slot, ¬table.Waits slot ->
    (table.step (.drop slot)).1.input.waiting? = table.input.waiting? ∧
      Unnoticed slot table (table.step (.drop slot)).1
  /-- If the request of a call waits, only the request and the switches of the control go with
  it. -/
  withdrawn : ∀ slot, table.Waits slot ->
    (table.step (.drop slot)).1 =
      ⟨{ table.input with
          waiting? := none
          control := { table.input.control with enabled := false, focused := false }
          notices := table.input.notices + 1 }, table.slots.set slot .closed⟩

theorem Sound.undisturbed (sound : table.Sound) : Undisturbed table where
  refused := by
    intro slot prompt request prepared waits
    rcases sound.unnoticed_of_refused prepared waits with ⟨refused, unnoticed⟩
    exact ⟨congrArg Outcome.progress refused, unnoticed⟩
  refusedAtOnce := by
    intro prompt request waits
    have made : (table.step (.create prompt)).1.slots[table.slots.length]? =
        some (.prepared prompt) := List.getElem?_concat_length
    rcases (sound.created prompt).unnoticed_of_refused made waits with ⟨refused, unnoticed⟩
    exact ⟨congrArg Outcome.progress refused, unnoticed⟩
  idle idle _ submission := step_of_idle idle submission
  otherKey := rfl
  stale _ unasked := sound.unnoticed_of_dropped unasked
  withdrawn _ waits := sound.drop_eq_of_waits waits

/-- What is refused or comes too late disturbs nothing in any table that operations can reach,
whatever others wrote into its transcript. -/
theorem undisturbed_run (operations : List Operation) (transcript : Transcript) :
    Undisturbed { empty.run operations with
      input := { (empty.run operations).input with transcript } } := by
  have same : SameRequests (empty.run operations).input
      { (empty.run operations).input with transcript } := ⟨rfl, rfl, rfl⟩
  have sound := (sound_empty.run operations).rested same
  exact sound.undisturbed

end CallTable

end HangulConsole
