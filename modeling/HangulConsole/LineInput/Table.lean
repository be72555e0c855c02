import HangulConsole.LineInput.Basic

/-!
# Many calls at once

Any number of calls for a line may be alive at the same time, each in a slot of
its own.  An operation either takes one call further or is the host's.
-/

namespace HangulConsole

/-- A line input together with the calls made so far, in the order in which they were made. -/
structure CallTable where
  input : LineInput
  /-- The calls; slots are counted from 0. -/
  slots : List LineInput.Ticket
deriving Repr, DecidableEq

namespace CallTable

def empty : CallTable := ⟨.empty, []⟩

inductive Operation where
  | create (prompt : String)
  /-- Makes a call and takes its first step. -/
  | request (prompt : String)
  | poll (slot : Nat)
  | drop (slot : Nat)
  | submit
  | submitLine (text : String)
  | press (key : Key)
  | type (text : String)
  | setContent (text : String)
deriving Repr, DecidableEq

inductive Outcome where
  /-- A call was made and rests. -/
  | created
  /-- How far the call has come. -/
  | progress (progress : LineInput.Progress)
  /-- Whether the operation had anything to act on. -/
  | done (effective : Bool)
  /-- Nothing to tell. -/
  | quiet
deriving Repr, DecidableEq

def pollSlot (table : CallTable) (slot : Nat) : CallTable × LineInput.Progress :=
  match table.slots[slot]? with
  | none => (table, .gone)
  | some ticket =>
      let (input, ticket, progress) := table.input.poll ticket
      (⟨input, table.slots.set slot ticket⟩, progress)

def isOpen : LineInput.Ticket -> Bool
  | .closed => false
  | _ => true

def step (table : CallTable) : Operation -> CallTable × Outcome
  | .create prompt => ({ table with slots := table.slots ++ [.prepared prompt] }, .created)
  | .request prompt =>
      let made : CallTable := { table with slots := table.slots ++ [.prepared prompt] }
      let (table, progress) := made.pollSlot table.slots.length
      (table, .progress progress)
  | .poll slot =>
      let (table, progress) := table.pollSlot slot
      (table, .progress progress)
  | .drop slot =>
      match table.slots[slot]? with
      | none => (table, .done false)
      | some ticket =>
          (⟨table.input.abandon ticket, table.slots.set slot .closed⟩, .done (isOpen ticket))
  | .submit =>
      let (input, done) := table.input.submit
      ({ table with input }, .done done)
  | .submitLine text =>
      let (input, done) := table.input.submitLine text
      ({ table with input }, .done done)
  | .press key =>
      let (input, done) := table.input.press key
      ({ table with input }, .done done)
  | .type text => ({ table with input := table.input.type text }, .quiet)
  | .setContent text => ({ table with input := table.input.setContent text }, .quiet)

def run (table : CallTable) (operations : List Operation) : CallTable :=
  operations.foldl (fun table operation => (table.step operation).1) table

@[simp] theorem run_nil (table : CallTable) : table.run [] = table := rfl

@[simp] theorem run_cons (table : CallTable) (operation : Operation)
    (rest : List Operation) :
    table.run (operation :: rest) = (table.step operation).1.run rest := rfl

theorem run_append (table : CallTable) (first second : List Operation) :
    table.run (first ++ second) = (table.run first).run second := by
  simp [run]

end CallTable

end HangulConsole
