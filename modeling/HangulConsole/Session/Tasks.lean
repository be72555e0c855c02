import HangulConsole.Session.Basic

/-!
# The tasks of a session

How a task begins, what it does in one step, and how it is given up.
-/

namespace HangulConsole
namespace Session

variable {γ : Type}

/-! # The guest at work -/

def deliver (session : Session γ) (piece : Piece) : Session γ :=
  session.mapTranscript fun transcript =>
    transcript.receive session.messages.stderrMarker piece

def activityOf (session : Session γ) (guest : γ) : Demand -> Activity Unit γ
  | .bind name => session.abilities.bind guest name ()
  | .exec script => session.abilities.exec guest script

def await (session : Session γ) (task : Nat) (ticket : LineInput.Ticket) (guest : γ)
    (resume : Except String String -> Activity Unit γ) : Session γ × Work γ :=
  match session.input.poll ticket with
  | (input, _, .answered line) =>
      (({ session with input }).note task (.returned line), .going (resume (.ok line)))
  | (input, _, .refused failure) =>
      (({ session with input }).note task (.refused failure),
        .going (resume (.error failure.message)))
  | (input, ticket, _) => ({ session with input }, .asking ticket guest resume)

def workOn (session : Session γ) (task : Nat) : Work γ -> Session γ × Work γ
  | .going (.ended result guest) => (session, .going (.ended result guest))
  | .going (.deliver piece _ resume) =>
      ((session.deliver piece).note task (.wrote piece), .going (resume (.ok ())))
  | .going (.call _ arguments guest resume) =>
      (session.note task (.asked arguments)).await task (.ofArguments arguments) guest resume
  | .asking ticket guest resume => session.await task ticket guest resume

def abandon (session : Session γ) : Work γ -> Session γ
  | .going _ => session
  | .asking ticket _ _ => { session with input := session.input.abandon ticket }

/-! # Booting -/

def bootReason : Failure -> String
  | .boot reason => reason
  | failure => failure.message

def failBoot (session : Session γ) (task : Nat) (failure : Failure) : Session γ :=
  let reason := bootReason failure
  ((({ session with status := .failed reason }).report
    (session.messages.bootError ++ " " ++ reason)).removeTask task).finish task
      (.error (.boot reason))

/-- The session is ready, with a guest, unless it has one already. -/
def becomeReady (session : Session γ) (task : Nat) (guest : γ) : Session γ :=
  match session.guest? with
  | some _ => (session.removeTask task).finish task (.error .alreadyBooted)
  | none =>
      (({ session with status := .ready, guest? := some guest }).removeTask task).finish task
        (.ok ())

def followPlan (session : Session γ) (task : Nat) (guest : γ) : BootPlan -> Session γ
  | [] => session.becomeReady task guest
  | (stage, demand) :: plan =>
      (({ session with status := .booting stage }).note task demand.deed).setPhase task
        (.booting (.going (session.activityOf guest demand)) plan)

def bootPlan (settings : Settings) (script : String) : BootPlan :=
  [
    (.injectingBridges, .bind settings.bridge),
    (.injectingBridges, .exec (Keywords.inputOverride settings.bridge)),
    (.loadingKeywords, .exec script)
  ]

def beginBoot (session : Session γ) (task : Nat) : Session γ :=
  if session.bootAsked then
    session.finish task (.error .alreadyBooted)
  else
    let session := { session with bootAsked := true }
    match session.keywordSource with
    | .error failure => session.failBoot task failure
    | .ok source =>
        (({ session with status := .booting .loadingRuntime }).addTask task
          (.loading source)).note task .load

def loading? (session : Session γ) : Option (Nat × Keywords.Source) :=
  session.tasks.findSome? fun task =>
    match task.phase with
    | .loading source => some (task.number, source)
    | _ => none

def reading? (session : Session γ) : Option (Nat × Keywords.Source × γ) :=
  session.tasks.findSome? fun task =>
    match task.phase with
    | .reading source guest => some (task.number, source, guest)
    | _ => none

def takeGuest (session : Session γ) (result : Except Failure γ) : Session γ :=
  match session.loading?, result with
  | none, _ => session
  | some (task, _), .error failure => session.failBoot task failure
  | some (task, source), .ok guest =>
      ({ session with status := .booting .fetchingKeywords }).setPhase task
        (.reading source guest)

def takeScript (session : Session γ) (result : Except Failure String) : Session γ :=
  match session.reading?, result with
  | none, _ => session
  | some (task, _, _), .error failure => session.failBoot task failure
  | some (task, _, guest), .ok script =>
      session.followPlan task guest (bootPlan session.settings script)

def tickBoot (session : Session γ) (task : Nat) (plan : BootPlan) : Work γ -> Session γ
  | .going (.ended (.ok ()) guest) => session.followPlan task guest plan
  | .going (.ended (.error failure) _) => session.failBoot task failure
  | work =>
      let (session, work) := session.workOn task work
      session.setPhase task (.booting work plan)

/-! # Runs -/

/-- Asks for a run.  Before the session is ready that is refused with a line in the transcript. -/
def beginRun (session : Session γ) (task : Nat) (source : String) : Session γ :=
  if session.isReady then
    { session.addTask task (.queued source) with lock := session.lock.ask task }
  else
    (session.report session.messages.notReady).finish task (.error .notReady)

def startRun (session : Session γ) (task : Nat) (source : String) (guest : γ) : Session γ :=
  let session := ({ session with running := true }).report session.messages.runSeparator
  let (session, prepared) := session.prepare source
  let demand := Demand.exec prepared.wrapped
  (session.note task demand.deed).setPhase task
    (.running (.going (session.activityOf guest demand)))

def reportRun (session : Session γ) : Except Failure Unit -> Session γ
  | .ok () => session
  | .error failure => session.report (session.messages.executionError ++ " " ++ failure.message)

def endRun (session : Session γ) (task : Nat) (result : Except Failure Unit) (guest : γ) :
    Session γ :=
  let session := session.reportRun result
  (({ session with
      guest? := some guest
      running := false
      lock := session.lock.release }).removeTask task).finish task result

def tickQueued (session : Session γ) (task : Nat) (source : String) : Session γ :=
  match session.guest? with
  | some guest =>
      if session.lock.holder? = some task then session.startRun task source guest else session
  | none => session

def tickRun (session : Session γ) (task : Nat) : Work γ -> Session γ
  | .going (.ended result guest) => session.endRun task result guest
  | work =>
      let (session, work) := session.workOn task work
      session.setPhase task (.running work)

/-! # Any task -/

/-- One step of a task; a task that waits for something else stays as it is. -/
def tick (session : Session γ) (task : Nat) : Session γ :=
  match session.phase? task with
  | some (.booting work plan) => session.tickBoot task plan work
  | some (.queued source) => session.tickQueued task source
  | some (.running work) => session.tickRun task work
  | some (.loading _) | some (.reading _ _) | none => session

def dropTask (session : Session γ) (task : Nat) : Phase γ -> Session γ
  | .loading _ | .reading _ _ => session.removeTask task
  | .booting work _ => (session.abandon work).removeTask task
  | .queued _ => { session.removeTask task with lock := session.lock.leave task }
  | .running work =>
      { (session.abandon work).removeTask task with
        guest? := some work.left
        running := false
        lock := session.lock.release }

def isUnfinished (session : Session γ) (task : Nat) : Bool :=
  (session.phase? task).isSome

def cancel (session : Session γ) (task : Nat) : Session γ :=
  match session.phase? task with
  | some phase => session.dropTask task phase
  | none => session

end Session
end HangulConsole
