import HangulConsole.Session.Step

/-!
# One step of a task

A task that can go on starts its run, lets its guest do one thing, or acts on the end of
its guest.  Everything that a step of a task comes to is one of these.
-/

namespace HangulConsole

namespace Phase

variable {γ : Type} {phase : Phase γ} {work : Work γ}

def withWork (phase : Phase γ) (work : Work γ) : Phase γ :=
  match phase with
  | booting _ plan => booting work plan
  | running _ => running work
  | phase => phase

theorem work?_withWork (works : phase.work? = some work) (later : Work γ) :
    (phase.withWork later).work? = some later := by
  cases phase with
  | booting => rfl
  | running => rfl
  | _ => cases works

theorem withWork_self (works : phase.work? = some work) : phase.withWork work = phase := by
  cases phase with
  | booting =>
      cases works
      rfl
  | running =>
      cases works
      rfl
  | _ => rfl

theorem isBoot_withWork (phase : Phase γ) (work : Work γ) :
    (phase.withWork work).isBoot = phase.isBoot := by
  cases phase with
  | _ => rfl

end Phase

namespace Session

variable {γ : Type} {session : Session γ} {task : Nat}

/-- What one step of a task comes to. -/
inductive Tick (session : Session γ) (task : Nat) : Session γ -> Prop where
  | rests : Tick session task session
  | works {phase : Phase γ} {work : Work γ} :
      session.phase? task = some phase -> phase.work? = some work ->
      Tick session task ((session.workOn task work).1.setPhase task
        (phase.withWork (session.workOn task work).2))
  | bootFails {failure : Failure} {guest : γ} {plan : BootPlan} :
      session.phase? task = some (.booting (.going (.ended (.error failure) guest)) plan) ->
      Tick session task (session.failBoot task failure)
  | bootGoesOn {guest : γ} {plan : BootPlan} :
      session.phase? task = some (.booting (.going (.ended (.ok ()) guest)) plan) ->
      Tick session task (session.followPlan task guest plan)
  | runStarts {source : String} {guest : γ} :
      session.phase? task = some (.queued source) -> session.guest? = some guest ->
      session.lock.holder? = some task -> Tick session task (session.startRun task source guest)
  | runEnds {result : Except Failure Unit} {guest : γ} :
      session.phase? task = some (.running (.going (.ended result guest))) ->
      Tick session task (session.endRun task result guest)

theorem tick_of_none (gone : session.phase? task = none) : session.tick task = session := by
  rw [tick, gone]

theorem tick_of_loading {source : Keywords.Source}
    (found : session.phase? task = some (.loading source)) : session.tick task = session := by
  rw [tick, found]

theorem tick_of_reading {source : Keywords.Source} {guest : γ}
    (found : session.phase? task = some (.reading source guest)) :
    session.tick task = session := by
  rw [tick, found]

theorem tick_of_work {phase : Phase γ} {work : Work γ} (found : session.phase? task = some phase)
    (works : phase.work? = some work)
    (unended : ∀ result guest, work ≠ .going (.ended result guest)) :
    session.tick task = (session.workOn task work).1.setPhase task
      (phase.withWork (session.workOn task work).2) := by
  rw [tick, found]
  cases phase with
  | loading source => cases works
  | reading source guest => cases works
  | queued source => cases works
  | booting now plan =>
      cases works
      cases work with
      | asking ticket guest resume => rfl
      | going activity =>
          cases activity with
          | ended result guest => exact absurd rfl (unended result guest)
          | deliver piece guest resume => rfl
          | call function arguments guest resume => rfl
  | running now =>
      cases works
      cases work with
      | asking ticket guest resume => rfl
      | going activity =>
          cases activity with
          | ended result guest => exact absurd rfl (unended result guest)
          | deliver piece guest resume => rfl
          | call function arguments guest resume => rfl

theorem ticked_of_ended {phase : Phase γ} {result : Except Failure Unit} {guest : γ}
    (found : session.phase? task = some phase)
    (works : phase.work? = some (.going (.ended result guest))) :
    Tick session task (session.tick task) := by
  cases phase with
  | loading source => cases works
  | reading source guest => cases works
  | queued source => cases works
  | running work =>
      cases works
      rw [tick, found]
      exact .runEnds found
  | booting work plan =>
      cases works
      rw [tick, found]
      cases result with
      | ok done => exact .bootGoesOn found
      | error failure => exact .bootFails found

theorem ticked_of_work {phase : Phase γ} {work : Work γ}
    (found : session.phase? task = some phase) (works : phase.work? = some work) :
    Tick session task (session.tick task) := by
  by_cases ended : ∃ result guest, work = .going (.ended result guest)
  · rcases ended with ⟨result, guest, rfl⟩
    exact ticked_of_ended found works
  · rw [tick_of_work found works fun result guest same => ended ⟨result, guest, same⟩]
    exact .works found works

theorem ticked (session : Session γ) (task : Nat) : Tick session task (session.tick task) := by
  cases found : session.phase? task with
  | none =>
      rw [tick_of_none found]
      exact .rests
  | some phase =>
      cases phase with
      | loading source =>
          rw [tick_of_loading found]
          exact .rests
      | reading source guest =>
          rw [tick_of_reading found]
          exact .rests
      | booting work plan => exact ticked_of_work found rfl
      | running work => exact ticked_of_work found rfl
      | queued source =>
          rw [tick, found]
          dsimp only [tickQueued]
          split
          · rename_i guest there
            split
            · rename_i turn
              exact .runStarts found there turn
            · exact .rests
          · exact .rests

end Session
end HangulConsole
