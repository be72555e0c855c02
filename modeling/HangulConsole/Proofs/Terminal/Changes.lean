import HangulConsole.Proofs.Session.Growth
import HangulConsole.Terminal.Dialogue

/-!
# What happens to a terminal

Whatever a terminal is told, only a few small things happen to it, one after another: its
transcript grows, it waits, its program or its mode changes, and at last it may be
closed.  How the files answer and what the guest does is left open throughout.
-/

namespace HangulConsole

/-!
# Acts in a world
-/

section Acts

variable {World α β : Type} {property : α -> Prop} {goal : β -> Prop}

/-- Whatever the world is like before an act, its answer has a property. -/
def Always (property : α -> Prop) (act : StateM World α) : Prop :=
  ∀ world, property (act.run world).1

theorem always_pure {answer : α} (holds : property answer) :
    Always property (pure answer : StateM World α) := by
  intro world
  exact holds

theorem always_bind {act : StateM World α} {next : α -> StateM World β}
    (first : Always property act)
    (second : ∀ answer, property answer -> Always goal (next answer)) :
    Always goal (act >>= next) := by
  intro world
  have holds := first world
  exact second _ holds (act.run world).2

theorem run_bind (act : StateM World α) (next : α -> StateM World β) (world : World) :
    ((act >>= next).run world).1 = ((next (act.run world).1).run (act.run world).2).1 := rfl

theorem always_map {act : StateM World α} {change : α -> β} (first : Always property act)
    (second : ∀ answer, property answer -> goal (change answer)) :
    Always goal (change <$> act) := by
  intro world
  exact second _ (first world)

theorem always_true (act : StateM World α) : Always (fun _ => True) act := by
  intro world
  trivial

end Acts

namespace Terminal

variable {γ World : Type} {first terminal : Terminal γ}

/-- What happens to an open terminal, one thing after another. -/
inductive Changes (first : Terminal γ) : Terminal γ -> Prop where
  | refl : Changes first first
  | grow {before : Terminal γ} {session : Session γ} (changes : Changes first before)
      (grows : before.session.GrowsTo session) : Changes first { before with session }
  | wait {before : Terminal γ} (changes : Changes first before) : Changes first before.idle
  | edit {before : Terminal γ} {editor : Editor} (changes : Changes first before) :
      Changes first { before with editor }
  | turn {before : Terminal γ} {mode : Mode} (changes : Changes first before)
      (isOpen : ∀ exit, mode ≠ .closed exit) : Changes first { before with mode }

/-- What becomes of an open terminal: it may have been closed in the end. -/
inductive Leads (first : Terminal γ) : Terminal γ -> Prop where
  | stay {terminal : Terminal γ} (changes : Changes first terminal) : Leads first terminal
  | close {before : Terminal γ} (changes : Changes first before) (exit : Exit) :
      Leads first (before.close exit)

namespace Changes

theorem mapSession (changes : Changes first terminal) {change : Session γ -> Session γ}
    (grows : terminal.session.GrowsTo (change terminal.session)) :
    Changes first (terminal.mapSession change) :=
  changes.grow grows

theorem mapTranscript (changes : Changes first terminal) {change : Transcript -> Transcript}
    (grows : terminal.session.transcript.GrowsTo (change terminal.session.transcript)) :
    Changes first (terminal.mapTranscript change) :=
  changes.grow grows

theorem report (changes : Changes first terminal) (line : String) :
    Changes first (terminal.report line) :=
  changes.grow (Session.growsTo_report _ line)

theorem await (changes : Changes first terminal) (line : IncomingLine) :
    Changes first (terminal.await line) := by
  rw [Terminal.await]
  split
  · exact changes.wait
  · exact changes

/-!
# Runs
-/

theorem follow (changes : Changes first terminal) (task : Nat) (only : Bool) :
    Leads first (terminal.follow task only) := by
  have still (mode : Mode) (isOpen : ∀ exit, mode ≠ .closed exit) :
      Leads first { terminal with mode } :=
    .stay (changes.turn isOpen)
  rw [Terminal.follow]
  split
  · exact still _ (by intro exit same; cases same)
  · split
    · exact .close changes _
    · exact still _ (by intro exit same; cases same)

theorem start (changes : Changes first terminal) (source : String) (only : Bool) :
    Leads first (terminal.start source only) := by
  have begun : Changes first
      (terminal.idle.mapSession fun session => session.step (.run source)) :=
    changes.wait.mapSession (Session.growsTo_step _ _)
  exact begun.wait.follow terminal.session.nextTask only

theorem answer (changes : Changes first terminal) (task : Nat) (only : Bool) (line : String) :
    Leads first (terminal.answer task only line) := by
  have submitted : Changes first (terminal.mapSession fun session =>
      { session with input := (terminal.session.input.submitLine line).1 }) :=
    changes.mapSession (terminal.session.input.growsTo_submitLine line)
  have settled := submitted.wait.mapSession (Session.growsTo_settle _)
  exact settled.wait.follow task only

/-!
# Commands
-/

theorem showProgram (changes : Changes first terminal) : Changes first terminal.showProgram := by
  rw [Terminal.showProgram]
  generalize listing terminal.editor = lines
  induction lines generalizing terminal with
  | nil => exact changes
  | cons line rest ih => exact ih (changes.report line)

variable (surroundings : Surroundings (StateM World))

theorem saveAs (changes : Changes first terminal) (name : String) :
    Always (Changes first) (terminal.saveAs surroundings name) := by
  refine always_bind (always_true _) ?_
  intro saved _
  cases saved with
  | ok path => exact always_pure (changes.wait.mapTranscript (Transcript.growsTo_noticeSaved _ _ _))
  | error failure => exact always_pure (changes.wait.report _)

theorem saveProgram (changes : Changes first terminal) (name : String) :
    Always (Changes first) (terminal.saveProgram surroundings name) := by
  rw [Terminal.saveProgram]
  split
  · refine always_bind (always_true _) ?_
    intro now _
    exact changes.saveAs surroundings _
  · exact changes.saveAs surroundings name

theorem fetch (changes : Changes first terminal) (path : String) :
    Always (fun answer => Changes first answer.1) (terminal.fetch surroundings path) := by
  refine always_bind (always_true _) ?_
  intro source _
  refine always_pure ?_
  dsimp only
  split
  · exact changes.wait
  · exact changes

theorem loadProgram (changes : Changes first terminal) (path : String) :
    Always (Changes first) (terminal.loadProgram surroundings path) := by
  refine always_bind (changes.fetch surroundings path) ?_
  intro answer changes
  rcases answer with ⟨terminal, source⟩
  cases source with
  | ok text =>
      exact always_pure (changes.edit.mapTranscript (Transcript.growsTo_noticeLoaded _ _ _))
  | error failure => exact always_pure (changes.report _)

theorem obey (changes : Changes first terminal) (command : Command) :
    Always (Leads first) (terminal.obey surroundings command) := by
  cases command with
  | run => exact always_pure (changes.start _ _)
  | startAfresh => exact always_pure (.stay changes.edit)
  | insertHelp => exact always_pure (.stay changes.edit)
  | insertExample => exact always_pure (.stay changes.edit)
  | clearScreen => exact always_pure (.stay (changes.mapTranscript (Transcript.growsTo_clear _)))
  | save name =>
      intro world
      exact .stay (changes.saveProgram surroundings name world)
  | load path =>
      intro world
      exact .stay (changes.loadProgram surroundings path world)
  | list => exact always_pure (.stay changes.showProgram)
  | quit => exact always_pure (.close changes _)
  | explain => exact always_pure (.stay (changes.report _))
  | append line => exact always_pure (.stay changes.edit)

end Changes

/-!
# Lines
-/

variable (surroundings : Surroundings (StateM World))

theorem Changes.take (changes : Changes first terminal) (line : IncomingLine) :
    Always (Leads first) (terminal.take surroundings line) := by
  have awaited := changes.await line
  unfold Terminal.take
  split
  · exact awaited.obey surroundings _
  · exact always_pure (awaited.answer _ _ _)
  · exact always_pure (.stay changes)
  · exact always_pure (.stay changes)

theorem Changes.takeEnd (changes : Changes first terminal) : Leads first terminal.takeEnd := by
  unfold Terminal.takeEnd
  split
  · exact .close changes.wait _
  · rename_i task only _
    have givenUp : Changes first
        (terminal.idle.mapSession fun session => session.step (.cancel task)) :=
      changes.wait.mapSession (Session.growsTo_step _ _)
    exact .close givenUp _
  · exact .stay changes
  · exact .stay changes

theorem Leads.take (leads : Leads first terminal) (line : IncomingLine) :
    Always (Leads first) (terminal.take surroundings line) := by
  cases leads with
  | stay changes => exact changes.take surroundings line
  | close changes exit =>
      rw [take_of_closed surroundings rfl]
      exact always_pure (.close changes exit)

theorem Leads.takeAll (leads : Leads first terminal) (lines : List IncomingLine) :
    Always (Leads first) (terminal.takeAll surroundings lines) := by
  induction lines generalizing terminal with
  | nil => exact always_pure leads
  | cons line rest ih =>
      rw [takeAll_cons]
      refine always_bind (leads.take surroundings line) ?_
      intro next leads
      exact ih leads

theorem Leads.takeEnd (leads : Leads first terminal) : Leads first terminal.takeEnd := by
  cases leads with
  | stay changes => exact changes.takeEnd
  | close changes exit =>
      rw [takeEnd_of_closed rfl]
      exact .close changes exit

theorem Leads.takeInput (leads : Leads first terminal) (input : String) :
    Always (Leads first) (terminal.takeInput surroundings input) := by
  refine always_map (leads.takeAll surroundings _) ?_
  intro next leads
  exact leads.takeEnd

/-!
# Whole dialogues
-/

theorem Changes.boot (changes : Changes first terminal) (made : Except Failure γ) :
    Always (Changes first) (terminal.boot surroundings made) := by
  have booted : Changes first (terminal.mapSession fun session => session.boot.1.loaded made) :=
    changes.mapSession ((Session.growsTo_step _ _).trans (Session.growsTo_step _ _))
  unfold Terminal.boot
  dsimp only
  split
  · exact always_pure booted
  · refine always_bind (always_true _) ?_
    intro script _
    refine always_pure ?_
    have grows (session : Session γ) : session.GrowsTo (session.scriptRead script) :=
      Session.growsTo_step _ _
    split
    · exact booted.wait.mapSession (grows _)
    · exact booted.mapSession (grows _)

theorem Changes.runProgram (changes : Changes first terminal) (path : String) :
    Always (Leads first) (terminal.runProgram surroundings path) := by
  unfold Terminal.runProgram
  split
  · refine always_bind (changes.fetch surroundings path) ?_
    intro answer changes
    rcases answer with ⟨terminal, source⟩
    cases source with
    | ok text => exact always_pure (changes.start _ _)
    | error failure => exact always_pure (.close changes _)
  · exact always_pure (.close changes _)

def OpensFrom (first : Terminal γ) (answer : Except Complaint (Terminal γ)) : Prop :=
  ∀ terminal, answer = .ok terminal -> Leads first terminal

theorem Leads.opens (leads : Leads first terminal) : OpensFrom first (.ok terminal) := by
  intro other same
  cases same
  exact leads

theorem opensFrom_error (complaint : Complaint) : OpensFrom first (.error complaint) := by
  intro other same
  cases same

theorem Changes.pursue (changes : Changes first terminal) (purpose : Purpose) :
    Always (OpensFrom first) (terminal.pursue surroundings purpose) := by
  cases purpose with
  | commands =>
      have commanding : ∀ exit, Mode.commanding ≠ .closed exit := by
        intro exit same
        cases same
      exact always_pure (Leads.opens (.stay ((changes.report _).turn commanding)))
  | program path =>
      refine always_map (changes.runProgram surroundings path) ?_
      intro next leads
      exact leads.opens
  | noProgram => exact always_pure (opensFrom_error _)
  | unknown name => exact always_pure (Leads.opens (.close changes _))

theorem always_openFor (made : Except Failure γ) (purpose : Purpose) (session : Session γ) :
    Always (OpensFrom (ofSession surroundings.pace session))
      (openFor surroundings made purpose session) := by
  have fresh : Changes (ofSession surroundings.pace session)
      (ofSession surroundings.pace session) := .refl
  refine always_bind (fresh.boot surroundings made) ?_
  intro booted changes
  split
  · have stuck : ∀ exit, Mode.stuck ≠ .closed exit := by
      intro exit same
      cases same
    exact always_pure (Leads.opens (.stay (changes.turn stuck)))
  · exact changes.pursue surroundings purpose

end Terminal
end HangulConsole
