import HangulConsole.Guest.Interpreter
import HangulConsole.Proofs.Output.Queue
import Mathlib.Logic.Function.Basic

/-!
# Programs one after another

A guest keeps its names from one program to the next.  For a host that answers the calls
and receives the text of each stream, two programs that are executed one after the other
are one program, and a program that fails is the part of it up to the failing instruction.
-/

namespace HangulConsole
namespace Guest

/-- What a host notes of its guest: the calls, the earliest first, and the text that it received on
each stream. -/
structure Log (φ : Type) where
  calls : List (φ × List String)
  heard : OutputStream -> String

namespace Log

variable {φ : Type}

def hear (log : Log φ) (stream : OutputStream) (text : String) : Log φ :=
  { log with heard := Function.update log.heard stream (log.heard stream ++ text) }

def note (log : Log φ) (function : φ) (arguments : List String) : Log φ :=
  { log with calls := log.calls ++ [(function, arguments)] }

def receiver : Receiver (Log φ) where
  line stream text log := .ok (log.hear stream (text ++ "\n"))
  fragment stream text log := .ok (log.hear stream text)

def hearQueue (log : Log φ) (queue : OutputQueue) : Log φ :=
  { log with heard := fun stream => log.heard stream ++ queue.unread stream }

end Log

variable {φ γ : Type}

/-- Carries an activity out with a host that notes all that it learns, and answers each call in
view of what it has noted so far. -/
def observe (answer : Log φ -> φ -> List String -> Except String String)
    (activity : Activity φ γ) (log : Log φ) : (Except Failure Unit × γ) × Log φ :=
  activity.perform Log.receiver
    (fun function arguments log => (answer log function arguments, log.note function arguments)) log

variable {answer : Log φ -> φ -> List String -> Except String String}

/-!
# Handing over
-/

theorem Log.heard_hear (log : Log φ) (stream : OutputStream) (text : String)
    (other : OutputStream) :
    (log.hear stream text).heard other =
      if other = stream then log.heard stream ++ text else log.heard other :=
  Function.update_apply _ _ _ _

theorem Log.ext_heard {log other : Log φ} (calls : log.calls = other.calls)
    (heard : ∀ stream, log.heard stream = other.heard stream) : log = other := by
  cases log
  cases other
  simp only at calls heard
  rw [calls, funext heard]

theorem Log.receive_eq (piece : Piece) (log : Log φ) :
    Log.receiver.receive piece log = .ok (log.hear piece.stream piece.written) := by
  rw [Receiver.receive, Piece.written]
  split
  · rfl
  · rfl

theorem observe_deliver (piece : Piece) (guest : γ) (resume : Except String Unit -> Activity φ γ)
    (log : Log φ) :
    observe answer (.deliver piece guest resume) log =
      observe answer (resume (.ok ())) (log.hear piece.stream piece.written) := by
  rw [observe, Activity.perform, Log.receive_eq]
  rfl

theorem observe_deliverAll (pieces : List Piece) (guest : γ) (next : Activity φ γ) (log : Log φ) :
    observe answer (.deliverAll pieces guest next) log =
      observe answer next
        { log with heard := fun stream => log.heard stream ++ Piece.writtenTo stream pieces } := by
  induction pieces generalizing log with
  | nil =>
      have same : log =
          { log with heard := fun stream => log.heard stream ++ Piece.writtenTo stream [] } :=
        Log.ext_heard rfl fun stream => by simp [Piece.writtenTo]
      exact congrArg (observe answer next) same
  | cons piece rest ih =>
      rw [Activity.deliverAll, observe_deliver, ih]
      congr 1
      refine Log.ext_heard rfl fun stream => ?_
      have split : piece :: rest = [piece] ++ rest := rfl
      dsimp only
      rw [split, Piece.writtenTo_append, Piece.writtenTo_singleton, Log.heard_hear]
      by_cases same : stream = piece.stream
      · rw [if_pos same, if_pos same.symm, same, String.append_assoc]
      · rw [if_neg same, if_neg (Ne.symm same), String.empty_append]

theorem observe_drain (interpreter : Interpreter φ)
    (next : Interpreter φ -> Activity φ (Interpreter φ)) (log : Log φ) :
    observe answer (interpreter.drain next) log =
      observe answer (next interpreter.emptied) (log.hearQueue interpreter.output) := by
  rw [Interpreter.drain, observe_deliverAll]
  congr 1
  refine Log.ext_heard rfl fun stream => ?_
  exact congrArg (log.heard stream ++ ·) (OutputQueue.writtenTo_pieces interpreter.output stream)

/-!
# One instruction
-/

structure Moment (φ : Type) where
  interpreter : Interpreter φ
  log : Log φ

namespace Moment

def settled (moment : Moment φ) : Moment φ :=
  ⟨moment.interpreter.emptied, moment.log.hearQueue moment.interpreter.output⟩

def respond (answer : Log φ -> φ -> List String -> Except String String) (moment : Moment φ) :
    Interpreter.Awaited -> Except Exception String × Moment φ
  | .nothing => (.error .notHostCall, moment)
  | .call name arguments =>
      match moment.interpreter.function? name with
      | none => (.error (.unboundHost name), moment)
      | some function =>
          ((answer moment.log function arguments).mapError .hostFailed,
            { moment with log := moment.log.note function arguments })

def stepped (moment : Moment φ) (instruction : Instruction) :
    Except (Exception × Moment φ) (Moment φ) :=
  match moment.interpreter.step instruction with
  | .ok interpreter => .ok ⟨interpreter, moment.log⟩
  | .error raised => .error (raised, moment)

def advance (answer : Log φ -> φ -> List String -> Except String String) (moment : Moment φ)
    (instruction : Instruction) : Except (Exception × Moment φ) (Moment φ) :=
  match moment.interpreter.awaited? instruction with
  | some (.error raised) => .error (raised, moment)
  | some (.ok (awaited, use)) =>
      match moment.settled.respond answer awaited with
      | (response, later) =>
          match later.interpreter.answered use response with
          | .ok interpreter => .ok ⟨interpreter, later.log⟩
          | .error raised => .error (raised, later)
  | none => moment.stepped instruction

def carry (answer : Log φ -> φ -> List String -> Except String String) :
    Moment φ -> List Instruction -> Except (Exception × Moment φ) (Moment φ)
  | moment, [] => .ok moment
  | moment, instruction :: rest =>
      match moment.advance answer instruction with
      | .ok later => carry answer later rest
      | .error failed => .error failed

def reported (suspendable : Bool) (raised : Exception) : Failure :=
  (if suspendable then raised.leavingSuspendable else raised).failure

def close (suspendable : Bool) : Except (Exception × Moment φ) (Moment φ) ->
    (Except Failure Unit × Interpreter φ) × Log φ
  | .ok moment => ((.ok (), moment.settled.interpreter), moment.settled.log)
  | .error (raised, moment) =>
      ((.error (reported suspendable raised), moment.settled.interpreter), moment.settled.log)

variable {moment later : Moment φ} {suspendable : Bool} {raised : Exception}
  {instruction : Instruction} {program : List Instruction}

theorem observe_finish (moment : Moment φ) (result : Except Failure Unit) :
    observe answer (moment.interpreter.finish result) moment.log =
      ((result, moment.settled.interpreter), moment.settled.log) :=
  observe_drain _ _ _

theorem observe_raised (moment : Moment φ) (suspendable : Bool) (raised : Exception) :
    observe answer (moment.interpreter.raised suspendable raised) moment.log =
      close suspendable (.error (raised, moment)) :=
  observe_finish moment _

theorem observe_await (moment : Moment φ) (awaited : Interpreter.Awaited)
    (next : Interpreter φ -> Except Exception String -> Activity φ (Interpreter φ)) :
    observe answer (moment.interpreter.await awaited next) moment.log =
      observe answer
        (next (moment.settled.respond answer awaited).2.interpreter
          (moment.settled.respond answer awaited).1)
        (moment.settled.respond answer awaited).2.log := by
  rw [Interpreter.await, observe_drain]
  cases awaited with
  | nothing => rfl
  | call name arguments =>
      have known : moment.settled.interpreter.function? name =
          moment.interpreter.emptied.function? name := rfl
      rw [respond, known]
      dsimp only
      cases moment.interpreter.emptied.function? name with
      | none => rfl
      | some function => rfl

theorem observe_execFrom (moment : Moment φ) (suspendable : Bool) (program : List Instruction) :
    observe answer (moment.interpreter.execFrom suspendable program) moment.log =
      close suspendable (moment.carry answer program) := by
  induction program generalizing moment with
  | nil => exact observe_finish moment _
  | cons instruction rest ih =>
      rw [Interpreter.execFrom, carry, advance]
      cases waits : moment.interpreter.awaited? instruction with
      | none =>
          dsimp only
          rw [stepped]
          cases moment.interpreter.step instruction with
          | ok interpreter => exact ih ⟨interpreter, moment.log⟩
          | error raised => exact observe_raised moment suspendable raised
      | some found =>
          cases found with
          | error raised => exact observe_raised moment suspendable raised
          | ok found =>
              rcases found with ⟨awaited, use⟩
              dsimp only
              rw [observe_await]
              rcases moment.settled.respond answer awaited with ⟨response, later⟩
              dsimp only
              cases later.interpreter.answered use response with
              | ok interpreter => exact ih ⟨interpreter, later.log⟩
              | error raised => exact observe_raised later suspendable raised

/-!
# What is queued and what was received

An instruction does the same whether the text before it is queued or was received.
-/

theorem hearQueue_empty (log : Log φ) : log.hearQueue .empty = log :=
  Log.ext_heard rfl fun stream => by simp [Log.hearQueue]

theorem settled_of_empty (queue : moment.interpreter.output = .empty) :
    moment.settled = moment := by
  rcases moment with ⟨⟨globals, functions, output⟩, log⟩
  cases queue
  exact congrArg (Moment.mk ⟨globals, functions, .empty⟩) (hearQueue_empty log)

theorem settled_settled (moment : Moment φ) : moment.settled.settled = moment.settled :=
  settled_of_empty rfl

theorem settled_write (moment : Moment φ) (stream : OutputStream) (text : String) :
    settled ⟨moment.interpreter.write stream text, moment.log⟩ =
      ⟨moment.settled.interpreter, moment.settled.log.hear stream text⟩ := by
  refine congrArg (Moment.mk moment.interpreter.emptied) (Log.ext_heard rfl fun other => ?_)
  have written : (moment.log.hearQueue (moment.interpreter.write stream text).output).heard other =
      moment.log.heard other ++ (moment.interpreter.output.write stream text).unread other := rfl
  rw [Log.heard_hear, written, OutputQueue.unread_write]
  by_cases same : other = stream
  · rw [if_pos same, if_pos same, same, ← String.append_assoc]
    rfl
  · rw [if_neg same, if_neg same]
    rfl

/-- Two moments that are the same when their queues have been handed over. -/
def Even (moment other : Moment φ) : Prop := moment.settled = other.settled

variable {other : Moment φ}

namespace Even

theorem write (even : Even moment other) (stream : OutputStream) (text : String) :
    Even ⟨moment.interpreter.write stream text, moment.log⟩
      ⟨other.interpreter.write stream text, other.log⟩ := by
  rw [Even, settled_write, settled_write, even]

theorem writeLine (even : Even moment other) (text : String) :
    Even ⟨moment.interpreter.writeLine text, moment.log⟩
      ⟨other.interpreter.writeLine text, other.log⟩ :=
  even.write .stdout (text ++ "\n")

theorem setGlobal (even : Even moment other) (name : String) (value : Value) :
    Even ⟨moment.interpreter.setGlobal name value, moment.log⟩
      ⟨other.interpreter.setGlobal name value, other.log⟩ :=
  congrArg (fun moment : Moment φ => Moment.mk (moment.interpreter.setGlobal name value) moment.log)
    even

theorem lookup_eq (even : Even moment other) (name : String) :
    moment.interpreter.lookup name = other.interpreter.lookup name := by
  have same : moment.settled = other.settled := even
  have found := congrArg (fun moment : Moment φ => moment.interpreter.lookup name) same
  exact found

theorem awaited?_eq (even : Even moment other) (instruction : Instruction) :
    moment.interpreter.awaited? instruction = other.interpreter.awaited? instruction := by
  have same : moment.settled = other.settled := even
  have waits := congrArg (fun moment : Moment φ => moment.interpreter.awaited? instruction) same
  cases instruction with
  | _ => exact waits

end Even

inductive EvenResults : Except (Exception × Moment φ) (Moment φ) ->
    Except (Exception × Moment φ) (Moment φ) -> Prop where
  | ok {moment other : Moment φ} : Even moment other -> EvenResults (.ok moment) (.ok other)
  | error {raised : Exception} {moment other : Moment φ} : Even moment other ->
      EvenResults (.error (raised, moment)) (.error (raised, other))

theorem EvenResults.close_eq {result later : Except (Exception × Moment φ) (Moment φ)}
    (even : EvenResults result later) (suspendable : Bool) :
    close suspendable result = close suspendable later := by
  cases even with
  | ok even => rw [close, close, even]
  | error even => rw [close, close, even]

theorem Even.stepped (even : Even moment other) (instruction : Instruction) :
    EvenResults (moment.stepped instruction) (other.stepped instruction) := by
  cases instruction with
  | write stream text => exact .ok (even.write stream text)
  | count stream text => exact .ok ((even.write stream text).writeLine _)
  | describeOutput => exact .ok (even.writeLine _)
  | raise kind text? => exact .error even
  | set name value => exact .ok (even.setGlobal name value)
  | append name value =>
      simp only [Moment.stepped, Interpreter.step, even.lookup_eq name]
      cases other.interpreter.lookup name with
      | error raised => exact .error even
      | ok old =>
          dsimp only
          cases old.add value with
          | ok sum => exact .ok (even.setGlobal name sum)
          | error reason => exact .error even
  | «show» name =>
      simp only [Moment.stepped, Interpreter.step, even.lookup_eq name]
      cases other.interpreter.lookup name with
      | error raised => exact .error even
      | ok value => exact .ok (even.writeLine value.str)
  | _ => exact .ok even

theorem Even.advance (even : Even moment other) (instruction : Instruction) :
    EvenResults (moment.advance answer instruction) (other.advance answer instruction) := by
  rw [Moment.advance, Moment.advance, even.awaited?_eq instruction]
  have same : moment.settled = other.settled := even
  cases other.interpreter.awaited? instruction with
  | none => exact even.stepped instruction
  | some found =>
      cases found with
      | error raised => exact .error even
      | ok found =>
          rcases found with ⟨awaited, use⟩
          dsimp only
          rw [same]
          rcases other.settled.respond answer awaited with ⟨response, later⟩
          dsimp only
          cases later.interpreter.answered use response with
          | ok interpreter => exact .ok rfl
          | error raised => exact .error rfl

theorem Even.carry (even : Even moment other) (program : List Instruction) :
    EvenResults (moment.carry answer program) (other.carry answer program) := by
  induction program generalizing moment other with
  | nil => exact .ok even
  | cons instruction rest ih =>
      have first : EvenResults (moment.advance answer instruction)
          (other.advance answer instruction) := even.advance instruction
      rw [Moment.carry, Moment.carry]
      generalize moment.advance answer instruction = result at first ⊢
      generalize other.advance answer instruction = later at first ⊢
      cases first with
      | ok even => exact ih even
      | error even => exact .error even

theorem even_settled (moment : Moment φ) : Even moment.settled moment :=
  settled_settled moment

/-!
# Programs one after another
-/

theorem carry_append (moment : Moment φ) (first second : List Instruction) :
    moment.carry answer (first ++ second) =
      match moment.carry answer first with
      | .ok later => later.carry answer second
      | .error failed => .error failed := by
  induction first generalizing moment with
  | nil => rfl
  | cons instruction rest ih =>
      rw [List.cons_append, carry, carry]
      cases moment.advance answer instruction with
      | ok later => exact ih later
      | error failed => rfl

theorem exists_failing {failed : Exception × Moment φ}
    (fails : moment.carry answer program = .error failed) :
    ∃ done instruction rest between, program = done ++ instruction :: rest ∧
      moment.carry answer done = .ok between ∧
      between.advance answer instruction = .error failed := by
  induction program generalizing moment with
  | nil => cases fails
  | cons instruction rest ih =>
      rw [carry] at fails
      cases step : moment.advance answer instruction with
      | error other =>
          rw [step] at fails
          cases fails
          exact ⟨[], instruction, rest, moment, rfl, rfl, step⟩
      | ok later =>
          rw [step] at fails
          rcases ih fails with ⟨done, failing, behind, between, split, carries, raises⟩
          refine ⟨instruction :: done, failing, behind, between, ?_, ?_, raises⟩
          · rw [split]
            rfl
          · rw [carry, step]
            exact carries

/-- Nothing changed from one moment to another, but that the host was called at most once. -/
structure Kept (moment later : Moment φ) : Prop where
  interpreter : later.interpreter = moment.interpreter
  heard : later.log.heard = moment.log.heard
  calls : ∃ calls, later.log.calls = moment.log.calls ++ calls ∧ calls.length ≤ 1

theorem Kept.refl (moment : Moment φ) : Kept moment moment :=
  ⟨rfl, rfl, [], (List.append_nil _).symm, Nat.zero_le 1⟩

theorem kept_respond (moment : Moment φ) (awaited : Interpreter.Awaited) :
    Kept moment (moment.respond answer awaited).2 := by
  cases awaited with
  | nothing => exact .refl moment
  | call name arguments =>
      rw [respond]
      cases moment.interpreter.function? name with
      | none => exact .refl moment
      | some function => exact ⟨rfl, rfl, [(function, arguments)], rfl, Nat.le_refl 1⟩

theorem Kept.settled_eq (kept : Kept moment.settled later) : later.settled = later := by
  refine settled_of_empty ?_
  rw [kept.interpreter]
  rfl

theorem eq_of_stepped_error (raises : moment.stepped instruction = .error (raised, later)) :
    later = moment := by
  rw [stepped] at raises
  cases step : moment.interpreter.step instruction with
  | ok interpreter =>
      rw [step] at raises
      cases raises
  | error reason =>
      rw [step] at raises
      cases raises
      rfl

theorem kept_of_raised (raises : moment.advance answer instruction = .error (raised, later)) :
    Kept moment.settled later.settled := by
  rw [advance] at raises
  cases waits : moment.interpreter.awaited? instruction with
  | none =>
      rw [waits] at raises
      rw [eq_of_stepped_error raises]
      exact .refl _
  | some found =>
      rw [waits] at raises
      cases found with
      | error _ =>
          cases raises
          exact .refl _
      | ok found =>
          rcases found with ⟨awaited, use⟩
          have kept : Kept moment.settled (moment.settled.respond answer awaited).2 :=
            kept_respond moment.settled awaited
          dsimp only at raises
          cases used : (moment.settled.respond answer awaited).2.interpreter.answered use
              (moment.settled.respond answer awaited).1 with
          | ok interpreter =>
              rw [used] at raises
              cases raises
          | error _ =>
              rw [used] at raises
              cases raises
              -- Nothing was queued when the host was called, so nothing is handed over now.
              rw [kept.settled_eq]
              exact kept

end Moment

/-!
# What a host learns
-/

namespace Moment

theorem observe_exec (moment : Moment φ) (program : List Instruction) :
    observe answer (moment.interpreter.exec program) moment.log =
      close (suspendable program) (moment.carry answer program) :=
  observe_execFrom moment _ program

variable {moment later : Moment φ} {waits : Bool} {raised : Exception}

theorem carry_of_close_ok {interpreter : Interpreter φ} {log : Log φ}
    {result : Except (Exception × Moment φ) (Moment φ)}
    (succeeds : close waits result = ((.ok (), interpreter), log)) :
    ∃ later, result = .ok later ∧ later.settled = ⟨interpreter, log⟩ := by
  cases result with
  | ok later =>
      cases succeeds
      exact ⟨later, rfl, rfl⟩
  | error failed => cases succeeds

theorem reported_of_ne (ordinary : raised.kind ≠ "StopIteration") :
    reported waits raised = raised.failure := by
  rw [reported, Exception.leavingSuspendable, if_neg ordinary, ite_self]

theorem close_true_of_ordinary {result : Except (Exception × Moment φ) (Moment φ)}
    (ordinary : ∀ text, (close false result).1.1 ≠
      .error (Exception.failure ⟨"StopIteration", text⟩)) :
    close true result = close false result := by
  cases result with
  | ok later => rfl
  | error failed =>
      rcases failed with ⟨raised, later⟩
      have kind : raised.kind ≠ "StopIteration" := by
        intro same
        refine ordinary raised.text ?_
        rw [← same]
        rfl
      rw [close, close, reported_of_ne kind, reported_of_ne kind]

end Moment

theorem suspendable_append (first second : List Instruction) :
    suspendable (first ++ second) = (suspendable first || suspendable second) :=
  List.any_append

/-- What a host learns of two programs that are executed one after the other. -/
structure Joins (answer : Log φ -> φ -> List String -> Except String String)
    (interpreter : Interpreter φ) (log : Log φ) (first second : List Instruction) : Prop where
  /-- If the first one succeeds, and the second one does not end with the exception that ends
  iterations, both are one program. -/
  one : ∀ {between later},
    observe answer (interpreter.exec first) log = ((.ok (), between), later) ->
    (∀ text, (observe answer (between.exec second) later).1.1 ≠
      .error (Exception.failure ⟨"StopIteration", text⟩)) ->
    observe answer (interpreter.exec (first ++ second)) log =
      observe answer (between.exec second) later
  /-- If the first one fails, it is the part of it up to the failing instruction.  All instructions
  before have had their effects, and the failing one has none but that it called its host. -/
  cut : ∀ {failure after later},
    observe answer (interpreter.exec first) log = ((.error failure, after), later) ->
    ∃ done failing rest before calls, first = done ++ failing :: rest ∧
      observe answer (interpreter.exec done) log = ((.ok (), after), before) ∧
      (∃ reason, observe answer (interpreter.exec (done ++ [failing])) log =
        ((.error reason, after), later)) ∧
      later.heard = before.heard ∧ later.calls = before.calls ++ calls ∧ calls.length ≤ 1

open Moment

theorem exec_append_of_ok {interpreter between : Interpreter φ} {log later : Log φ}
    {first second : List Instruction}
    (succeeds : observe answer (interpreter.exec first) log = ((.ok (), between), later))
    (ordinary : ∀ text, (observe answer (between.exec second) later).1.1 ≠
      .error (Exception.failure ⟨"StopIteration", text⟩)) :
    observe answer (interpreter.exec (first ++ second)) log =
      observe answer (between.exec second) later := by
  rw [observe_exec ⟨interpreter, log⟩] at succeeds ⊢
  rcases carry_of_close_ok succeeds with ⟨reached, carries, same⟩
  rw [observe_exec ⟨between, later⟩, ← same] at ordinary ⊢
  rw [((even_settled reached).carry second).close_eq] at ordinary ⊢
  rw [carry_append, carries, suspendable_append]
  dsimp only
  cases waits : suspendable second with
  | true => rw [Bool.or_true]
  | false =>
      rw [waits] at ordinary
      rw [Bool.or_false]
      cases suspendable first with
      | true => exact close_true_of_ordinary ordinary
      | false => rfl

theorem exec_cut_of_error {interpreter after : Interpreter φ} {log later : Log φ}
    {program : List Instruction} {failure : Failure}
    (fails : observe answer (interpreter.exec program) log = ((.error failure, after), later)) :
    ∃ done failing rest before calls, program = done ++ failing :: rest ∧
      observe answer (interpreter.exec done) log = ((.ok (), after), before) ∧
      (∃ reason, observe answer (interpreter.exec (done ++ [failing])) log =
        ((.error reason, after), later)) ∧
      later.heard = before.heard ∧ later.calls = before.calls ++ calls ∧ calls.length ≤ 1 := by
  rw [observe_exec ⟨interpreter, log⟩] at fails
  cases carries : carry answer ⟨interpreter, log⟩ program with
  | ok reached =>
      rw [carries] at fails
      cases fails
  | error failed =>
      rcases failed with ⟨raised, reached⟩
      rw [carries] at fails
      cases fails
      rcases exists_failing carries with ⟨done, failing, rest, between, split, carried, raises⟩
      have kept := kept_of_raised raises
      rcases kept.calls with ⟨calls, called, once⟩
      refine ⟨done, failing, rest, between.settled.log, calls, split, ?_, ?_, kept.heard, called,
        once⟩
      · rw [observe_exec ⟨interpreter, log⟩, carried, kept.interpreter]
        rfl
      · rw [observe_exec ⟨interpreter, log⟩, carry_append, carried]
        dsimp only
        rw [carry, raises]
        exact ⟨_, rfl⟩

theorem programs_join (answer : Log φ -> φ -> List String -> Except String String)
    (interpreter : Interpreter φ) (log : Log φ) (first second : List Instruction) :
    Joins answer interpreter log first second where
  one := exec_append_of_ok
  cut := exec_cut_of_error

/-- The exception that ends iterations is another one when it leaves a program that waits for its
host, so that a program that raises it is not the same behind one that waits. -/
example (answer : Log φ -> φ -> List String -> Except String String) (log : Log φ) :
    (observe answer (Interpreter.empty.exec [.raise "StopIteration" none]) log).1.1 =
        .error (.guest "StopIteration: ") ∧
      (observe answer (Interpreter.empty.exec
        ([.wait .none .guarded] ++ [.raise "StopIteration" none])) log).1.1 =
        .error (.guest "RuntimeError: coroutine raised StopIteration") :=
  ⟨rfl, by with_unfolding_all rfl⟩

end Guest
end HangulConsole
