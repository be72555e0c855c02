import HangulConsole.Transcript

/-!
# Many readers at once

Any number of subscribers read the events of one transcript, each at its own pace.  A
subscriber either takes every answer as it comes, also that it missed events, or reads
a stream that passes over these answers.
-/

namespace HangulConsole

/-- A transcript with its subscribers, in the order in which they subscribed. -/
structure Audience where
  transcript : Transcript
  /-- The subscribers; readers are counted from 0. -/
  readers : List Transcript.Subscriber
deriving Repr, DecidableEq

namespace Audience

open Transcript

inductive Operation where
  | appendLine (text : String)
  | appendRaw (text : String)
  | clear
  | subscribe
  /-- A reader asks for its next event. -/
  | receive (reader : Nat)
  /-- A reader asks its stream for the next event. -/
  | next (reader : Nat)
deriving Repr, DecidableEq

inductive Answer where
  /-- Nothing to tell. -/
  | quiet
  /-- The number of the new reader. -/
  | joined (reader : Nat)
  | reading (reading : Reading)
  /-- The next event of a stream, if there is one. -/
  | streamed (event? : Option TranscriptEvent)
deriving Repr, DecidableEq

def step (audience : Audience) : Operation -> Audience × Answer
  | .appendLine text =>
      ({ audience with transcript := audience.transcript.appendLine text }, .quiet)
  | .appendRaw text =>
      ({ audience with transcript := audience.transcript.appendRaw text }, .quiet)
  | .clear => ({ audience with transcript := audience.transcript.clear }, .quiet)
  | .subscribe =>
      ({ audience with readers := audience.readers ++ [audience.transcript.subscribe] },
        .joined audience.readers.length)
  | .receive reader =>
      match audience.readers[reader]? with
      | none => (audience, .quiet)
      | some subscriber =>
          let (reading, subscriber) := audience.transcript.receiveEvent subscriber
          ({ audience with readers := audience.readers.set reader subscriber }, .reading reading)
  | .next reader =>
      match audience.readers[reader]? with
      | none => (audience, .quiet)
      | some subscriber =>
          let (event?, subscriber) := audience.transcript.nextEvent subscriber
          ({ audience with readers := audience.readers.set reader subscriber }, .streamed event?)

def run (audience : Audience) (operations : List Operation) : Audience :=
  operations.foldl (fun audience operation => (audience.step operation).1) audience

@[simp] theorem run_nil (audience : Audience) : audience.run [] = audience := rfl

@[simp] theorem run_cons (audience : Audience) (operation : Operation) (rest : List Operation) :
    audience.run (operation :: rest) = (audience.step operation).1.run rest := rfl

theorem run_append (audience : Audience) (first second : List Operation) :
    audience.run (first ++ second) = (audience.run first).run second := by
  simp [run]

end Audience

end HangulConsole
