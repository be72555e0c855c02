import HangulConsole.Transcript

/-!
# The screen

A screen shows the events of a transcript, one after another and at its own pace:
while it shows one of them, the terminal and its guest go on.  It becomes a
subscriber when the terminal waits for the first time, and what was published
before that is never shown.
-/

namespace HangulConsole

/-- How fast a screen is: how many events it shows while the terminal waits, which has waited so
many times before and has published so many events that are not shown. -/
class Pace where
  steps : Nat -> Nat -> Nat

abbrev Pace.prompt : Pace where
  steps _ found := found

namespace Screen

structure Place where
  /-- How many events there were when it became a subscriber. -/
  since : Nat
  subscriber : Transcript.Subscriber
deriving Repr, DecidableEq

end Screen

/-- What is shown of a transcript. -/
structure Screen where
  /-- How often the terminal has waited. -/
  waits : Nat
  place? : Option Screen.Place
  /-- The events shown so far, the earliest first. -/
  shown : List TranscriptEvent
  /-- How many events the screen had left to show when it came to each of them. -/
  behind : List Nat
deriving Repr, DecidableEq

namespace Screen

def empty : Screen := ⟨0, none, [], []⟩

/-! # Showing events -/

def subscribe (screen : Screen) (transcript : Transcript) : Screen :=
  { screen with place? := some ⟨transcript.published.length, transcript.subscribe⟩ }

def add (screen : Screen) (event : TranscriptEvent) (place : Place) (behind : Nat) : Screen where
  waits := screen.waits
  place? := some place
  shown := screen.shown ++ [event]
  behind := screen.behind ++ [behind]

/-- Shows the next event of a transcript that it can get, if there is one. -/
def step (transcript : Transcript) (screen : Screen) : Screen :=
  match screen.place? with
  | none => screen
  | some place =>
      match transcript.nextEvent place.subscriber with
      | (none, _) => screen
      | (some event, subscriber) =>
          screen.add event { place with subscriber }
            (transcript.published.length - place.subscriber.next)

def steps (transcript : Transcript) : Nat -> Screen -> Screen
  | 0, screen => screen
  | count + 1, screen => steps transcript count (step transcript screen)

def wait (screen : Screen) (pace : Pace) (transcript : Transcript) : Screen :=
  let waited := { screen with waits := screen.waits + 1 }
  match screen.place? with
  | none => waited.subscribe transcript
  | some place =>
      let found := transcript.published.length - place.subscriber.next
      steps transcript (pace.steps screen.waits found) waited

/-! # What is written -/

def clearSequence : String := "\x1b[2J\x1b[H"

def written : TranscriptEvent -> String
  | .appended text => text
  | .cleared => clearSequence

def writtenAll (events : List TranscriptEvent) : String :=
  String.join (events.map written)

def text (screen : Screen) : String := writtenAll screen.shown

def writtenSince (screen before : Screen) : String :=
  writtenAll (screen.shown.drop before.shown.length)

end Screen

end HangulConsole
