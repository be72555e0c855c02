import HangulConsole.Session.Tasks

/-!
# Operations on a session

Everything that can be asked of a session from outside, one operation at a time.
After each of them every task has gone on as far as it can.
-/

namespace HangulConsole
namespace Session

variable {γ : Type}

/-! # As far as a task can go -/

def pursue (session : Session γ) (task : Nat) : Activity Unit γ -> Session γ
  | .ended _ _ => session.tick task
  | .deliver _ _ resume => (session.tick task).pursue task (resume (.ok ()))
  | .call _ arguments _ resume =>
      match session.input.poll (.ofArguments arguments) with
      | (_, _, .refused failure) =>
          (session.tick task).pursue task (resume (.error failure.message))
      | _ => session.tick task

def pursueWork (session : Session γ) (task : Nat) : Session γ :=
  match (session.phase? task).bind Phase.work? with
  | some (.going activity) => session.pursue task activity
  | _ => session

def pursueAll (task : Nat) : BootPlan -> Session γ -> Session γ
  | [], session => session.pursueWork task
  | _ :: plan, session => pursueAll task plan (session.pursueWork task)

def planOf (session : Session γ) (task : Nat) : BootPlan :=
  match session.phase? task with
  | some (.booting _ plan) => plan
  | _ => []

def drive (session : Session γ) (task : Nat) : Session γ :=
  let session := session.tick task
  pursueAll task (session.planOf task) session

/-- Lets every task go on as far as it can.  One round is enough, since tasks wait only for earlier
ones. -/
def settle (session : Session γ) : Session γ :=
  (session.tasks.map Task.number).foldl drive session

/-! # What can be asked of a session -/

def newTask (session : Session γ) (start : Session γ -> Nat -> Session γ) : Session γ :=
  start { session with nextTask := session.nextTask + 1 } session.nextTask

def withInput (session : Session γ) (change : LineInput -> LineInput × Bool) : Session γ × Bool :=
  let (input, effective) := change session.input
  ({ session with input }, effective)

def type (session : Session γ) (text : String) : Session γ :=
  { session with input := session.input.type text }

def setContent (session : Session γ) (text : String) : Session γ :=
  { session with input := session.input.setContent text }

def clear (session : Session γ) : Session γ :=
  session.mapTranscript Transcript.clear

inductive Operation (γ : Type) where
  | boot
  /-- The guest was made, or could not be made. -/
  | loaded (result : Except Failure γ)
  | scriptRead (result : Except Failure String)
  | run (source : String)
  | cancel (task : Nat)
  /-- Prepares a program without running it. -/
  | prepare (source : String)
  | submit
  | submitLine (text : String)
  | press (key : Key)
  | type (text : String)
  | setContent (text : String)
  | clear

def apply (session : Session γ) : Operation γ -> Session γ
  | .boot => session.newTask beginBoot
  | .loaded result => session.takeGuest result
  | .scriptRead result => session.takeScript result
  | .run source => session.newTask fun session task => session.beginRun task source
  | .cancel task => session.cancel task
  | .prepare source => (session.prepare source).1
  | .submit => (session.withInput LineInput.submit).1
  | .submitLine text => (session.withInput fun input => input.submitLine text).1
  | .press key => (session.withInput fun input => input.press key).1
  | .type text => session.type text
  | .setContent text => session.setContent text
  | .clear => session.clear

def step (session : Session γ) (operation : Operation γ) : Session γ :=
  (session.apply operation).settle

def steps (session : Session γ) (operations : List (Operation γ)) : Session γ :=
  operations.foldl step session

@[simp] theorem steps_nil (session : Session γ) : session.steps [] = session := rfl

@[simp] theorem steps_cons (session : Session γ) (operation : Operation γ)
    (rest : List (Operation γ)) :
    session.steps (operation :: rest) = (session.step operation).steps rest := rfl

/-! # Operations with their answers -/

def boot (session : Session γ) : Session γ × Nat :=
  (session.step .boot, session.nextTask)

/-- The guest was made, or could not be made.  Nothing happens unless a boot waits for that. -/
def loaded (session : Session γ) (result : Except Failure γ) : Session γ :=
  session.step (.loaded result)

/-- The keyword script was read, or could not be read.  Nothing happens unless a boot waits for
that. -/
def scriptRead (session : Session γ) (result : Except Failure String) : Session γ :=
  session.step (.scriptRead result)

def wantedSource? (session : Session γ) : Option Keywords.Source :=
  session.reading?.map fun (_, source, _) => source

def isBooting (session : Session γ) : Bool :=
  session.tasks.any fun task => task.phase.isBoot

def run (session : Session γ) (source : String) : Session γ × Nat :=
  (session.step (.run source), session.nextTask)

def giveUp (session : Session γ) (task : Nat) : Session γ × Bool :=
  (session.step (.cancel task), session.isUnfinished task)

def submit (session : Session γ) : Session γ × Bool :=
  (session.step .submit, (session.withInput LineInput.submit).2)

def submitLine (session : Session γ) (text : String) : Session γ × Bool :=
  (session.step (.submitLine text), (session.withInput fun input => input.submitLine text).2)

def press (session : Session γ) (key : Key) : Session γ × Bool :=
  (session.step (.press key), (session.withInput fun input => input.press key).2)

end Session
end HangulConsole
