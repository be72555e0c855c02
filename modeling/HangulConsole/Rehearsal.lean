import HangulConsole.Files.Tree
import HangulConsole.Session.Step

/-!
# Rehearsals

A rehearsal is a session whose guest does nothing but follow directives, one on
each line of a script.  What its boot waits for can be held back, so that every
order of events can be tried out.
-/

namespace HangulConsole

/-! # The guest -/

inductive Directive where
  | write (piece : Piece)
  | call (function : String) (arguments : List String)
  | raise (message : String)
  | fail (reason : String)
deriving Repr, DecidableEq

namespace Directive

def callOf (text : String) : Directive :=
  match Text.fields '|' text with
  | [] => .call "" []
  | function :: arguments => .call function arguments

def ofName? (name text : String) : Option Directive :=
  match name with
  | "#out" => some (.write ⟨.stdout, text, true⟩)
  | "#err" => some (.write ⟨.stderr, text, true⟩)
  | "#part" => some (.write ⟨.stdout, text, false⟩)
  | "#parterr" => some (.write ⟨.stderr, text, false⟩)
  | "#call" => some (callOf text)
  | "#raise" => some (.raise text)
  | "#fail" => some (.fail text)
  | _ => none

def ofLine? (line : List Char) : Option Directive :=
  let line := line.dropWhile (· = ' ')
  match Text.cutAtFirst (· = ' ') line with
  | some (name, text) => ofName? (String.ofList name) (String.ofList text)
  | none => ofName? (String.ofList line) ""

def ofScript (script : String) : List Directive :=
  (Text.splitAt '\n' script.toList).filterMap ofLine?

end Directive

structure Player where
  /-- The names under which the guest knows the line input. -/
  bound : List String
  /-- Why the guest does not accept a name, if it does not. -/
  refusal? : Option Failure
deriving Repr, DecidableEq

namespace Player

def follow (player : Player) : List Directive -> Activity Unit Player
  | [] => .ended (.ok ()) player
  | .write piece :: rest =>
      .deliver piece player fun answer =>
        match answer with
        | .ok () => follow player rest
        | .error reason => .fail (.host reason) player
  | .call function arguments :: rest =>
      if player.bound.contains function then
        .call () arguments player fun answer =>
          match answer with
          | .ok _ => follow player rest
          | .error reason => .fail (.guest s!"RuntimeError: {reason}") player
      else
        .fail (.guest s!"NameError: name '{function}' is not defined") player
  | .raise message :: _ => .fail (.guest message) player
  | .fail reason :: _ => .fail (.host reason) player

def abilities : Guest Unit Player where
  bind player name _ :=
    match player.refusal? with
    | some failure => .fail failure player
    | none => .ended (.ok ()) { player with bound := player.bound ++ [name] }
  exec player script := player.follow (Directive.ofScript script)

end Player

/-! # The rehearsal -/

structure Rehearsal where
  session : Session Player
  files : Files.Tree
  gateOpen : Bool
  /-- What the making of a guest will come to, while it is held back. -/
  held? : Option (Except Failure Player)

namespace Rehearsal

def ofSettings [Keywords.AddressReader] (settings : Settings) (files : Files.Tree) :
    Except Failure Rehearsal :=
  (Session.ofSettings Player.abilities settings).map fun session =>
    { session, files, gateOpen := false, held? := none }

def withSession (rehearsal : Rehearsal) (session : Session Player) : Rehearsal :=
  { rehearsal with session }

def readScript (rehearsal : Rehearsal) : Rehearsal :=
  match rehearsal.session.wantedSource? with
  | none => rehearsal
  | some source =>
      let (result, files) := (source.load Files.Tree.disk .unreachable).run rehearsal.files
      { rehearsal with session := rehearsal.session.scriptRead result, files }

def makeGuest (rehearsal : Rehearsal) (result : Except Failure Player) : Rehearsal :=
  (rehearsal.withSession (rehearsal.session.loaded result)).readScript

/-- Asks the session to boot: whether the guest is held back at the gate, why it cannot be made, and
why it refuses the name of the line input. -/
def boot (rehearsal : Rehearsal) (gated : Bool) (loadFault? bindFault? : Option Failure) :
    Rehearsal × Nat :=
  let asked := rehearsal.session.bootAsked
  let (session, task) := rehearsal.session.boot
  let rehearsal := rehearsal.withSession session
  let result : Except Failure Player := match loadFault? with
    | some failure => .error failure
    | none => .ok ⟨[], bindFault?⟩
  if asked then (rehearsal, task)
  else if gated && !rehearsal.gateOpen then ({ rehearsal with held? := some result }, task)
  else (rehearsal.makeGuest result, task)

def openGate (rehearsal : Rehearsal) : Rehearsal × Bool :=
  let opened := { rehearsal with gateOpen := true, held? := none }
  match rehearsal.held? with
  | some result => (opened.makeGuest result, rehearsal.gateOpen)
  | none => (opened, rehearsal.gateOpen)

end Rehearsal

end HangulConsole
