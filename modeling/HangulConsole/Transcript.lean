import HangulConsole.Files.Path
import HangulConsole.Output.Piece
import HangulConsole.Settings.Messages
import HangulConsole.Text.Lines

/-!
# Transcripts

A transcript is a text that only grows, until the user clears it as a whole.
Every change is published as an event.  Subscribers read the events at their own
pace; only the latest events are kept for them, and a subscriber that is further
behind is told how many it missed.
-/

namespace HangulConsole

/-! # Events -/

inductive TranscriptEvent where
  | appended (text : String)
  | cleared
deriving Repr, DecidableEq, Inhabited

namespace TranscriptEvent

def apply (text : String) : TranscriptEvent -> String
  | appended more => text ++ more
  | cleared => ""

def replay (text : String) (events : List TranscriptEvent) : String :=
  events.foldl apply text

@[simp] theorem replay_nil (text : String) : replay text [] = text := rfl

theorem replay_append (text : String) (first second : List TranscriptEvent) :
    replay text (first ++ second) = replay (replay text first) second := by
  simp [replay]

end TranscriptEvent

/-- The output of a session: its text, and all events since it was empty. -/
structure Transcript where
  text : String
  /-- Every event so far, the earliest first. -/
  published : List TranscriptEvent
deriving Repr, DecidableEq

namespace Transcript

def empty : Transcript := ⟨"", []⟩

/-! # Writing -/

/-- Adds a text, even an empty one, and publishes it. -/
def append (transcript : Transcript) (text : String) : Transcript where
  text := transcript.text ++ text
  published := transcript.published ++ [.appended text]

def appendLine (transcript : Transcript) (text : String) : Transcript :=
  transcript.append (text ++ "\n")

/-- Adds a text as it is; an empty text is no change. -/
def appendRaw (transcript : Transcript) (text : String) : Transcript :=
  if text.isEmpty then transcript else transcript.append text

def clear (transcript : Transcript) : Transcript where
  text := ""
  published := transcript.published ++ [.cleared]

def receive (marker : String) (transcript : Transcript) (piece : Piece) : Transcript :=
  let text := match piece.stream with
    | .stdout => piece.text
    | .stderr => marker ++ piece.text
  if piece.complete then transcript.appendLine text else transcript.appendRaw text

def receiver (marker : String) : Receiver Transcript where
  line stream text transcript := .ok (transcript.receive marker ⟨stream, text, true⟩)
  fragment stream text transcript := .ok (transcript.receive marker ⟨stream, text, false⟩)

def noticeSaved (transcript : Transcript) (messages : Messages) (path : String) : Transcript :=
  transcript.appendLine ("\n" ++ messages.saved ++ " " ++ Files.displayName path)

def noticeLoaded (transcript : Transcript) (messages : Messages) (path : String) : Transcript :=
  transcript.appendLine ("\n" ++ messages.loaded ++ " " ++ Files.displayName path)

def lines (transcript : Transcript) : List String :=
  Text.lines transcript.text

def summary (transcript : Transcript) : String :=
  s!"Transcript \x7b len: {transcript.text.utf8ByteSize} \x7d"

/-! # Subscribers -/

def capacity : Nat := 1024

/-- A reader of the events: the number of events that it is past. -/
structure Subscriber where
  /-- The number of the next event to read, counted from the first one ever published. -/
  next : Nat
deriving Repr, DecidableEq

inductive Reading where
  | event (event : TranscriptEvent)
  /-- So many events were missed. -/
  | lagged (missed : Nat)
  | empty
deriving Repr, DecidableEq

def subscribe (transcript : Transcript) : Subscriber := ⟨transcript.published.length⟩

def oldestKept (transcript : Transcript) : Nat :=
  transcript.published.length - capacity

def receiveEvent (transcript : Transcript) (subscriber : Subscriber) : Reading × Subscriber :=
  if subscriber.next < transcript.oldestKept then
    (.lagged (transcript.oldestKept - subscriber.next), ⟨transcript.oldestKept⟩)
  else
    match transcript.published[subscriber.next]? with
    | some event => (.event event, ⟨subscriber.next + 1⟩)
    | none => (.empty, subscriber)

/-- The next event for a subscriber that passes over those it missed. -/
def nextEvent (transcript : Transcript) (subscriber : Subscriber) :
    Option TranscriptEvent × Subscriber :=
  let start := max subscriber.next transcript.oldestKept
  match transcript.published[start]? with
  | some event => (some event, ⟨start + 1⟩)
  | none => (none, ⟨start⟩)

end Transcript

end HangulConsole
