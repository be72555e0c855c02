import HangulConsole.Proofs.Session.Programs

/-!
# Booted sessions

A session that was asked for nothing but a boot has no other task, so none is left once
the boot is over; and no task is over that was not numbered.
-/

namespace HangulConsole
namespace Session

variable {γ : Type} {session after : Session γ} {number : Nat} {phase : Phase γ}

/-!
# Tasks that are over
-/

def Past (session : Session γ) : Prop :=
  ∀ finished ∈ session.finished, finished.task < session.nextTask

namespace Past

theorem of_finished (past : session.Past) (finished : after.finished = session.finished)
    (nextTask : session.nextTask ≤ after.nextTask) : after.Past := by
  intro task mem
  rw [finished] at mem
  exact Nat.lt_of_lt_of_le (past task mem) nextTask

theorem of_ended {result : Except Failure Unit} (past : session.Past)
    (finished : after.finished = session.finished ++ [⟨number, result⟩])
    (less : number < after.nextTask) (nextTask : session.nextTask ≤ after.nextTask) :
    after.Past := by
  intro task mem
  rw [finished] at mem
  rcases List.mem_append.1 mem with old | new
  · exact Nat.lt_of_lt_of_le (past task old) nextTask
  · rw [List.mem_singleton] at new
    rw [new]
    exact less

theorem failBoot (past : session.Past) (less : number < session.nextTask) (failure : Failure) :
    (session.failBoot number failure).Past :=
  past.of_ended rfl less (Nat.le_refl _)

theorem followPlan (past : session.Past) (less : number < session.nextTask) (guest : γ)
    (plan : BootPlan) : (session.followPlan number guest plan).Past := by
  cases plan with
  | cons next plan => exact past
  | nil =>
      rw [Session.followPlan, becomeReady]
      split
      · exact past.of_ended rfl less (Nat.le_refl _)
      · exact past.of_ended rfl less (Nat.le_refl _)

theorem tick (past : session.Past) (line : session.InLine) (task : Nat) :
    (session.tick task).Past := by
  have less {phase : Phase γ} (found : session.phase? task = some phase) :
      task < session.nextTask :=
    line.numbers_lt task (List.mem_map_of_mem (mem_tasks_of_phase? found))
  have ticked := session.ticked task
  generalize session.tick task = after at ticked ⊢
  cases ticked with
  | rests => exact past
  | @works phase work _ _ =>
      rcases session.workOn_eq task work with ⟨input, notes, eq⟩
      rw [eq]
      exact past
  | bootFails found => exact past.failBoot (less found) _
  | bootGoesOn found => exact past.followPlan (less found) _ _
  | runStarts _ _ _ => exact past
  | @runEnds result guest found =>
      cases result with
      | ok done => exact past.of_ended rfl (less found) (Nat.le_refl _)
      | error failure => exact past.of_ended rfl (less found) (Nat.le_refl _)

theorem boot (past : session.Past) : (session.newTask beginBoot).Past := by
  have later : session.nextTask < session.nextTask + 1 := Nat.lt_succ_self _
  cases asked : session.bootAsked with
  | true =>
      rw [boot_of_asked asked]
      exact past.of_ended rfl later (Nat.le_succ _)
  | false =>
      cases wanted : session.keywordSource with
      | error failure =>
          rw [boot_of_error asked wanted]
          exact past.of_ended rfl later (Nat.le_succ _)
      | ok source =>
          rw [boot_of_ok asked wanted]
          exact past.of_finished rfl (Nat.le_succ _)

theorem takeGuest (past : session.Past) (line : session.InLine) (result : Except Failure γ) :
    (session.takeGuest result).Past := by
  unfold Session.takeGuest
  cases found : session.loading? with
  | none => exact past
  | some waiting =>
      rcases waiting with ⟨number, source⟩
      have less := line.numbers_lt number (List.mem_map_of_mem (mem_tasks_of_loading? found))
      cases result with
      | error failure => exact past.failBoot less failure
      | ok guest => exact past

theorem takeScript (past : session.Past) (line : session.InLine)
    (result : Except Failure String) : (session.takeScript result).Past := by
  unfold Session.takeScript
  cases found : session.reading? with
  | none => exact past
  | some waiting =>
      rcases waiting with ⟨number, source, guest⟩
      have less := line.numbers_lt number (List.mem_map_of_mem (mem_tasks_of_reading? found))
      cases result with
      | error failure => exact past.failBoot less failure
      | ok script => exact past.followPlan less guest _

theorem run (past : session.Past) (source : String) :
    (session.newTask fun session task => session.beginRun task source).Past := by
  dsimp only [newTask]
  rw [beginRun]
  split
  · exact past.of_finished rfl (Nat.le_succ _)
  · exact past.of_ended rfl (Nat.lt_succ_self _) (Nat.le_succ _)

theorem cancel (past : session.Past) (task : Nat) : (session.cancel task).Past := by
  rw [Session.cancel]
  cases session.phase? task with
  | none => exact past
  | some phase =>
      cases phase with
      | booting work plan =>
          rcases session.abandon_eq work with ⟨input, eq⟩
          simp only [dropTask]
          rw [eq]
          exact past
      | running work =>
          rcases session.abandon_eq work with ⟨input, eq⟩
          simp only [dropTask]
          rw [eq]
          exact past
      | _ => exact past

theorem move (past : session.Past) (line : session.InLine) (move : Move γ) :
    (session.move move).Past := by
  cases move with
  | tick task => exact past.tick line task
  | operation operation =>
      cases operation with
      | boot => exact past.boot
      | loaded result => exact past.takeGuest line result
      | scriptRead result => exact past.takeScript line result
      | run source => exact past.run source
      | cancel task => exact past.cancel task
      | _ => exact past

end Past

theorem Past.result?_nextTask (past : session.Past) : session.result? session.nextTask = none := by
  rw [result?, Option.map_eq_none_iff, List.find?_eq_none]
  intro finished mem same
  rw [beq_iff_eq] at same
  exact absurd (past finished mem) (by omega)

/-!
# Boots alone
-/

def BootsOnly (session : Session γ) : Prop :=
  ∀ task ∈ session.tasks, task.phase.isBoot = true

theorem BootsOnly.move (boots : session.BootsOnly) (orderly : session.Orderly) {move : Move γ}
    (other : ∀ source, move ≠ .operation (.run source)) : (session.move move).BootsOnly := by
  intro task mem
  cases orderly.effect move with
  | rests tasks _ _ _ _ _ _ _ =>
      rw [tasks] at mem
      exact boots task mem
  | goesOn front tasks isBoot _ _ _ _ _ =>
      rw [tasks] at mem
      rw [BootsOnly, front] at boots
      rcases List.mem_cons.1 mem with rfl | later
      · exact isBoot.trans (boots _ List.mem_cons_self)
      · exact boots task (List.mem_cons_of_mem _ later)
  | bootEnds _ _ tasks _ _ _ _ _ _ =>
      rw [tasks] at mem
      cases mem
  | runEnds front _ tasks _ _ _ _ _ _ _ =>
      rw [tasks] at mem
      exact boots task (by rw [front]; exact List.mem_cons_of_mem _ mem)
  | leaves _ _ tasks _ _ _ _ _ _ _ =>
      rw [tasks] at mem
      exact boots task (List.mem_filter.1 mem).1
  | bootBegins _ tasks _ _ _ _ _ _ _ =>
      rw [tasks, List.mem_singleton] at mem
      rw [mem]
      rfl
  | @runQueues source _ tasks _ _ _ _ _ _ _ =>
      -- A run that waits was asked for now or before, and neither is so.
      have queued : ⟨session.nextTask, .queued source⟩ ∈ (session.move move).tasks := by
        rw [tasks]
        exact List.mem_append_right _ List.mem_cons_self
      rcases queued_of_move queued with old | ⟨same, _⟩
      · cases boots _ old
      · exact absurd same (other source)

theorem BootsOnly.tasks_eq_nil (boots : session.BootsOnly) (settled : session.isBooting = false) :
    session.tasks = [] := by
  rw [List.eq_nil_iff_forall_not_mem]
  intro task mem
  rw [isBooting, List.any_eq_false] at settled
  exact settled task mem (boots task mem)

end Session
end HangulConsole
