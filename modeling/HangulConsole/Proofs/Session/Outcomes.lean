import HangulConsole.Proofs.Session.Stages

/-!
# How tasks end

A move ends one task at most: a boot or a run that is refused at once, a boot that has
failed or is done, or a run whose guest is done.
-/

namespace HangulConsole
namespace Session

variable {γ : Type} {session after : Session γ} {number : Nat} {phase : Phase γ}
  {rest : List (Task γ)}

/-- Which task a move ends, and how. -/
inductive Outcome (session after : Session γ) : Prop where
  | none : after.finished = session.finished -> Outcome session after
  | bootRefused :
      session.bootAsked = true ->
      after.finished = session.finished ++ [⟨session.nextTask, .error .alreadyBooted⟩] ->
      Outcome session after
  | bootUnsourced {failure : Failure} :
      session.bootAsked = false ->
      after = ({ session with nextTask := session.nextTask + 1, bootAsked := true }).failBoot
        session.nextTask failure ->
      Outcome session after
  | bootFails {task : Task γ} {failure : Failure} :
      task ∈ session.tasks -> task.phase.isBoot = true ->
      after = session.failBoot task.number failure -> Outcome session after
  | bootEnds {number : Nat} {guest : γ} :
      ⟨number, .booting (.going (.ended (.ok ()) guest)) []⟩ ∈ session.tasks ->
      after = (({ session with status := .ready, guest? := some guest }).removeTask number).finish
        number (.ok ()) ->
      Outcome session after
  | runRefused :
      session.isReady = false ->
      after.finished = session.finished ++ [⟨session.nextTask, .error .notReady⟩] ->
      Outcome session after
  | runEnds {number : Nat} {result : Except Failure Unit} {guest : γ} :
      ⟨number, .running (.going (.ended result guest))⟩ ∈ session.tasks ->
      after = session.endRun number result guest -> Outcome session after

/-!
# Steps of tasks
-/

theorem outcome_workOn (session : Session γ) (number : Nat) (work : Work γ) (phase : Phase γ) :
    Outcome session ((session.workOn number work).1.setPhase number phase) := by
  rcases session.workOn_eq number work with ⟨input, notes, eq⟩
  rw [eq]
  exact .none rfl

theorem InLine.outcome_followPlan (line : session.InLine) {guest : γ} {plan : BootPlan}
    (mem : ⟨number, .booting (.going (.ended (.ok ()) guest)) plan⟩ ∈ session.tasks) :
    Outcome session (session.followPlan number guest plan) := by
  cases plan with
  | cons next plan => exact .none rfl
  | nil =>
      rcases line.front_of_mem mem rfl with ⟨rest, front⟩
      exact .bootEnds mem (line.becomeReady_eq front rfl guest)

theorem InLine.outcome_tick (line : session.InLine) (task : Nat) :
    Outcome session (session.tick task) := by
  have ticked := session.ticked task
  generalize session.tick task = after at ticked ⊢
  cases ticked with
  | rests => exact .none rfl
  | works _ _ => exact session.outcome_workOn task _ _
  | bootFails found => exact .bootFails (mem_tasks_of_phase? found) rfl rfl
  | bootGoesOn found => exact line.outcome_followPlan (mem_tasks_of_phase? found)
  | runStarts _ _ _ => exact .none rfl
  | runEnds found => exact .runEnds (mem_tasks_of_phase? found) rfl

/-!
# Operations
-/

theorem outcome_boot (session : Session γ) : Outcome session (session.newTask beginBoot) := by
  cases asked : session.bootAsked with
  | true =>
      rw [boot_of_asked asked]
      exact .bootRefused asked rfl
  | false =>
      cases wanted : session.keywordSource with
      | error failure => exact .bootUnsourced asked (boot_of_error asked wanted)
      | ok source =>
          rw [boot_of_ok asked wanted]
          exact .none rfl

theorem outcome_takeGuest (session : Session γ) (result : Except Failure γ) :
    Outcome session (session.takeGuest result) := by
  unfold takeGuest
  cases found : session.loading? with
  | none => exact .none rfl
  | some waiting =>
      rcases waiting with ⟨number, source⟩
      cases result with
      | error failure => exact .bootFails (mem_tasks_of_loading? found) rfl rfl
      | ok guest => exact .none rfl

theorem outcome_takeScript (session : Session γ) (result : Except Failure String) :
    Outcome session (session.takeScript result) := by
  unfold takeScript
  cases found : session.reading? with
  | none => exact .none rfl
  | some waiting =>
      rcases waiting with ⟨number, source, guest⟩
      cases result with
      | error failure => exact .bootFails (mem_tasks_of_reading? found) rfl rfl
      | ok script => exact .none rfl

theorem outcome_run (session : Session γ) (source : String) :
    Outcome session (session.newTask fun session task => session.beginRun task source) := by
  dsimp only [newTask]
  by_cases ready : session.isReady = true
  · have queued : { session with nextTask := session.nextTask + 1 }.isReady = true := ready
    rw [beginRun_of_ready queued]
    exact .none rfl
  · have refused : ¬ { session with nextTask := session.nextTask + 1 }.isReady = true := ready
    rw [beginRun_of_not_ready refused]
    exact .runRefused (Bool.not_eq_true _ ▸ ready) rfl

theorem outcome_cancel (session : Session γ) (task : Nat) :
    Outcome session (session.cancel task) := by
  rw [cancel]
  cases session.phase? task with
  | none => exact .none rfl
  | some phase =>
      cases phase with
      | booting work plan =>
          rcases session.abandon_eq work with ⟨input, eq⟩
          simp only [dropTask]
          rw [eq]
          exact .none rfl
      | running work =>
          rcases session.abandon_eq work with ⟨input, eq⟩
          simp only [dropTask]
          rw [eq]
          exact .none rfl
      | _ => exact .none rfl

theorem outcome_apply (session : Session γ) (operation : Operation γ) :
    Outcome session (session.apply operation) := by
  cases operation with
  | boot => exact session.outcome_boot
  | loaded result => exact session.outcome_takeGuest result
  | scriptRead result => exact session.outcome_takeScript result
  | run source => exact session.outcome_run source
  | cancel task => exact session.outcome_cancel task
  | _ => exact .none rfl

theorem InLine.outcome (line : session.InLine) (move : Move γ) :
    Outcome session (session.move move) := by
  cases move with
  | operation operation => exact session.outcome_apply operation
  | tick task => exact line.outcome_tick task

/-!
# The end of one task
-/

variable {result : Except Failure Unit}

theorem InLine.ne_nextTask (line : session.InLine) (mem : ⟨number, phase⟩ ∈ session.tasks) :
    number ≠ session.nextTask :=
  Nat.ne_of_lt (line.numbers_lt number (List.mem_map_of_mem mem))

theorem eq_of_finished {other : Finished} (ended : after.finished = session.finished ++ [other])
    (also : after.finished = session.finished ++ [⟨number, result⟩]) :
    other = ⟨number, result⟩ := by
  rw [ended] at also
  exact List.singleton_inj.1 (List.append_cancel_left also)

theorem Outcome.runEnds_of_finished (outcome : Outcome session after) (line : session.InLine)
    (mem : ⟨number, phase⟩ ∈ session.tasks) (run : phase.isBoot = false)
    (ended : after.finished = session.finished ++ [⟨number, result⟩]) :
    ∃ guest, phase = .running (.going (.ended result guest)) ∧
      after = session.endRun number result guest := by
  have new := line.ne_nextTask mem
  have booted {task : Task γ} (also : task ∈ session.tasks) (same : task.number = number) :
      task.phase.isBoot = false := by
    rw [line.eq_of_number also mem same]
    exact run
  cases outcome with
  | none same =>
      rw [same] at ended
      cases List.self_eq_append_right.1 ended
  | bootRefused _ finished =>
      cases eq_of_finished finished ended
      exact absurd rfl new
  | runRefused _ finished =>
      cases eq_of_finished finished ended
      exact absurd rfl new
  | bootUnsourced _ eq =>
      cases eq_of_finished (by rw [eq]; rfl) ended
      exact absurd rfl new
  | @bootFails task failure also boot eq =>
      cases eq_of_finished (by rw [eq]; rfl) ended
      rw [booted also rfl] at boot
      cases boot
  | bootEnds also eq =>
      cases eq_of_finished (by rw [eq]; rfl) ended
      cases booted also rfl
  | @runEnds other found guest also eq =>
      have same : (⟨other, found⟩ : Finished) = ⟨number, result⟩ := by
        refine eq_of_finished ?_ ended
        rw [eq]
        cases found with
        | _ => rfl
      cases same
      have phases := line.eq_of_number also mem rfl
      cases phases
      exact ⟨guest, rfl, eq⟩

end Session
end HangulConsole
