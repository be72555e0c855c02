import HangulConsole.Proofs.Session.Stages
import Mathlib.Data.List.Induction

/-!
# Programs of a session

What a session was started with stays as it is, so a source always makes the same
program; and every run that waits for its turn was asked for.
-/

namespace HangulConsole
namespace Session

variable {γ : Type} {session after : Session γ} {number : Nat} {phase : Phase γ}

def program (session : Session γ) (source : String) : String :=
  EntryPoint.wrap (session.names.mark source) session.settings.entryPoint session.settings.indent

theorem wrapped_prepare (session : Session γ) (source : String) :
    (session.prepare source).2.wrapped = session.program source := rfl

structure SameSetup (session after : Session γ) : Prop where
  abilities : after.abilities = session.abilities
  settings : after.settings = session.settings
  names : after.names = session.names

/-!
# What a session was started with
-/

namespace SameSetup

theorem refl (session : Session γ) : SameSetup session session :=
  ⟨rfl, rfl, rfl⟩

theorem trans {between : Session γ} (first : SameSetup session between)
    (second : SameSetup between after) : SameSetup session after where
  abilities := second.abilities.trans first.abilities
  settings := second.settings.trans first.settings
  names := second.names.trans first.names

theorem program_eq (same : SameSetup session after) (source : String) :
    after.program source = session.program source := by
  rw [program, program, same.settings, same.names]

theorem activityOf_eq (same : SameSetup session after) (guest : γ) (demand : Demand) :
    after.activityOf guest demand = session.activityOf guest demand := by
  cases demand with
  | bind name => rw [activityOf, activityOf, same.abilities]
  | exec script => rw [activityOf, activityOf, same.abilities]

end SameSetup

theorem sameSetup_becomeReady (session : Session γ) (task : Nat) (guest : γ) :
    SameSetup session (session.becomeReady task guest) := by
  rw [becomeReady]
  split
  · exact ⟨rfl, rfl, rfl⟩
  · exact ⟨rfl, rfl, rfl⟩

theorem sameSetup_followPlan (session : Session γ) (task : Nat) (guest : γ) (plan : BootPlan) :
    SameSetup session (session.followPlan task guest plan) := by
  cases plan with
  | nil => exact session.sameSetup_becomeReady task guest
  | cons next plan => exact ⟨rfl, rfl, rfl⟩

theorem sameSetup_tick (session : Session γ) (task : Nat) :
    SameSetup session (session.tick task) := by
  have ticked := session.ticked task
  generalize session.tick task = after at ticked ⊢
  cases ticked with
  | rests => exact .refl session
  | @works phase work _ _ =>
      rcases session.workOn_eq task work with ⟨input, notes, eq⟩
      rw [eq]
      exact ⟨rfl, rfl, rfl⟩
  | bootFails _ => exact ⟨rfl, rfl, rfl⟩
  | bootGoesOn _ => exact session.sameSetup_followPlan task _ _
  | runStarts _ _ _ => exact ⟨rfl, rfl, rfl⟩
  | @runEnds result guest _ =>
      cases result with
      | ok done => exact ⟨rfl, rfl, rfl⟩
      | error failure => exact ⟨rfl, rfl, rfl⟩

theorem sameSetup_boot (session : Session γ) : SameSetup session (session.newTask beginBoot) := by
  cases asked : session.bootAsked with
  | true =>
      rw [boot_of_asked asked]
      exact ⟨rfl, rfl, rfl⟩
  | false =>
      cases wanted : session.keywordSource with
      | error failure =>
          rw [boot_of_error asked wanted]
          exact ⟨rfl, rfl, rfl⟩
      | ok source =>
          rw [boot_of_ok asked wanted]
          exact ⟨rfl, rfl, rfl⟩

theorem sameSetup_takeGuest (session : Session γ) (result : Except Failure γ) :
    SameSetup session (session.takeGuest result) := by
  unfold takeGuest
  split
  · exact .refl session
  · exact ⟨rfl, rfl, rfl⟩
  · exact ⟨rfl, rfl, rfl⟩

theorem sameSetup_takeScript (session : Session γ) (result : Except Failure String) :
    SameSetup session (session.takeScript result) := by
  unfold takeScript
  split
  · exact .refl session
  · exact ⟨rfl, rfl, rfl⟩
  · exact session.sameSetup_followPlan _ _ _

theorem sameSetup_run (session : Session γ) (source : String) :
    SameSetup session (session.newTask fun session task => session.beginRun task source) := by
  rw [newTask, beginRun]
  split
  · exact ⟨rfl, rfl, rfl⟩
  · exact ⟨rfl, rfl, rfl⟩

theorem sameSetup_cancel (session : Session γ) (task : Nat) :
    SameSetup session (session.cancel task) := by
  rw [cancel]
  split
  · rename_i phase _
    cases phase with
    | booting work plan =>
        rcases session.abandon_eq work with ⟨input, eq⟩
        simp only [dropTask]
        rw [eq]
        exact ⟨rfl, rfl, rfl⟩
    | running work =>
        rcases session.abandon_eq work with ⟨input, eq⟩
        simp only [dropTask]
        rw [eq]
        exact ⟨rfl, rfl, rfl⟩
    | _ => exact ⟨rfl, rfl, rfl⟩
  · exact .refl session

theorem sameSetup_move (session : Session γ) (move : Move γ) :
    SameSetup session (session.move move) := by
  cases move with
  | tick task => exact session.sameSetup_tick task
  | operation operation =>
      cases operation with
      | boot => exact session.sameSetup_boot
      | loaded result => exact session.sameSetup_takeGuest result
      | scriptRead result => exact session.sameSetup_takeScript result
      | run source => exact session.sameSetup_run source
      | cancel task => exact session.sameSetup_cancel task
      | _ => exact ⟨rfl, rfl, rfl⟩

theorem sameSetup_moves (session : Session γ) (list : List (Move γ)) :
    SameSetup session (session.moves list) := by
  induction list generalizing session with
  | nil => exact .refl session
  | cons first rest ih => exact (session.sameSetup_move first).trans (ih _)

/-!
# Runs that wait
-/

theorem mem_of_mem_setPhase {task : Task γ} (busy : phase.isQueued = false)
    (queued : task.phase.isQueued = true) (mem : task ∈ (session.setPhase number phase).tasks) :
    task ∈ session.tasks := by
  rcases mem_tasks_setPhase mem with old | same
  · exact old
  · rw [same, busy] at queued
    cases queued

theorem mem_of_mem_failBoot {task : Task γ} {failure : Failure}
    (mem : task ∈ (session.failBoot number failure).tasks) : task ∈ session.tasks :=
  (List.mem_filter.1 mem).1

theorem mem_of_mem_followPlan {task : Task γ} {guest : γ} {plan : BootPlan}
    (queued : task.phase.isQueued = true)
    (mem : task ∈ (session.followPlan number guest plan).tasks) : task ∈ session.tasks := by
  cases plan with
  | cons next plan => exact mem_of_mem_setPhase rfl queued mem
  | nil =>
      change task ∈ (session.becomeReady number guest).tasks at mem
      rw [becomeReady] at mem
      split at mem
      · exact (List.mem_filter.1 mem).1
      · exact (List.mem_filter.1 mem).1

theorem mem_of_mem_tick {task : Task γ} {ticked : Nat} (queued : task.phase.isQueued = true)
    (mem : task ∈ (session.tick ticked).tasks) : task ∈ session.tasks := by
  have moved := session.ticked ticked
  generalize session.tick ticked = after at moved mem
  cases moved with
  | rests => exact mem
  | @works phase work _ works =>
      have busy : (phase.withWork (session.workOn ticked work).2).isQueued = false :=
        Phase.isQueued_of_work (Phase.work?_withWork works _)
      rcases session.workOn_eq ticked work with ⟨input, notes, eq⟩
      have old := mem_of_mem_setPhase busy queued mem
      rw [eq] at old
      exact old
  | bootFails _ => exact mem_of_mem_failBoot mem
  | bootGoesOn _ => exact mem_of_mem_followPlan queued mem
  | runStarts _ _ _ => exact mem_of_mem_setPhase rfl queued mem
  | @runEnds result guest _ =>
      cases result with
      | ok done => exact (List.mem_filter.1 mem).1
      | error failure => exact (List.mem_filter.1 mem).1

theorem mem_of_mem_boot {task : Task γ} (queued : task.phase.isQueued = true)
    (mem : task ∈ (session.newTask beginBoot).tasks) : task ∈ session.tasks := by
  cases asked : session.bootAsked with
  | true =>
      rw [boot_of_asked asked] at mem
      exact mem
  | false =>
      cases wanted : session.keywordSource with
      | error failure =>
          rw [boot_of_error asked wanted] at mem
          exact (List.mem_filter.1 mem).1
      | ok source =>
          rw [boot_of_ok asked wanted] at mem
          rcases List.mem_append.1 mem with old | new
          · exact old
          · rw [List.mem_singleton] at new
            rw [new] at queued
            cases queued

theorem mem_of_mem_takeGuest {task : Task γ} {result : Except Failure γ}
    (queued : task.phase.isQueued = true) (mem : task ∈ (session.takeGuest result).tasks) :
    task ∈ session.tasks := by
  unfold takeGuest at mem
  split at mem
  · exact mem
  · exact mem_of_mem_failBoot mem
  · exact mem_of_mem_setPhase rfl queued mem

theorem mem_of_mem_takeScript {task : Task γ} {result : Except Failure String}
    (queued : task.phase.isQueued = true) (mem : task ∈ (session.takeScript result).tasks) :
    task ∈ session.tasks := by
  unfold takeScript at mem
  split at mem
  · exact mem
  · exact mem_of_mem_failBoot mem
  · exact mem_of_mem_followPlan queued mem

theorem mem_of_mem_cancel {task : Task γ} {number : Nat}
    (mem : task ∈ (session.cancel number).tasks) : task ∈ session.tasks := by
  rw [cancel] at mem
  split at mem
  · rename_i phase _
    cases phase with
    | booting work plan =>
        rcases session.abandon_eq work with ⟨input, eq⟩
        simp only [dropTask] at mem
        rw [eq] at mem
        exact (List.mem_filter.1 mem).1
    | running work =>
        rcases session.abandon_eq work with ⟨input, eq⟩
        simp only [dropTask] at mem
        rw [eq] at mem
        exact (List.mem_filter.1 mem).1
    | _ => exact (List.mem_filter.1 mem).1
  · exact mem

theorem queued_of_move {source : String} {move : Move γ}
    (mem : ⟨number, .queued source⟩ ∈ (session.move move).tasks) :
    ⟨number, .queued source⟩ ∈ session.tasks ∨
      move = .operation (.run source) ∧ number = session.nextTask := by
  cases move with
  | tick task => exact Or.inl (mem_of_mem_tick rfl mem)
  | operation operation =>
      cases operation with
      | boot => exact Or.inl (mem_of_mem_boot rfl mem)
      | loaded result => exact Or.inl (mem_of_mem_takeGuest rfl mem)
      | scriptRead result => exact Or.inl (mem_of_mem_takeScript rfl mem)
      | cancel task => exact Or.inl (mem_of_mem_cancel mem)
      | run asked =>
          change _ ∈ (session.newTask fun session task => session.beginRun task asked).tasks at mem
          dsimp only [newTask] at mem
          rw [beginRun] at mem
          split at mem
          · rcases List.mem_append.1 mem with old | new
            · exact Or.inl old
            · rw [List.mem_singleton] at new
              cases new
              exact Or.inr ⟨rfl, rfl⟩
          · exact Or.inl mem
      | _ => exact Or.inl mem

theorem append_singleton_eq_append_cons {α : Type} {list early late : List α} {last found : α}
    (split : list ++ [last] = early ++ found :: late) :
    (late = [] ∧ early = list ∧ found = last) ∨
      ∃ others, late = others ++ [last] ∧ list = early ++ found :: others := by
  rcases List.eq_nil_or_concat late with rfl | ⟨others, other, rfl⟩
  · rcases List.append_inj' split rfl with ⟨same, last⟩
    exact Or.inl ⟨rfl, same.symm, (List.singleton_inj.1 last).symm⟩
  · rw [List.concat_eq_append, ← List.cons_append, ← List.append_assoc] at split
    rcases List.append_inj' split rfl with ⟨same, last⟩
    exact Or.inr ⟨others, by rw [List.concat_eq_append, List.singleton_inj.1 last], same⟩

theorem moves_concat (session : Session γ) (list : List (Move γ)) (move : Move γ) :
    session.moves (list ++ [move]) = (session.moves list).move move :=
  session.moves_append list [move]

/-- A run was asked for in some moves, and this number was given out to it then. -/
def Requested (session : Session γ) (list : List (Move γ)) (task : Nat) (source : String) : Prop :=
  ∃ first second, list = first ++ .operation (.run source) :: second ∧
    (session.moves first).nextTask = task

theorem Requested.concat {list : List (Move γ)} {source : String}
    (requested : session.Requested list number source) (move : Move γ) :
    session.Requested (list ++ [move]) number source := by
  rcases requested with ⟨first, second, rfl, given⟩
  exact ⟨first, second ++ [move], by rw [List.append_assoc, List.cons_append], given⟩

theorem requested_of_queued {source : String} (none : session.tasks = []) (list : List (Move γ))
    (mem : ⟨number, .queued source⟩ ∈ (session.moves list).tasks) :
    session.Requested list number source := by
  induction list using List.reverseRecOn with
  | nil =>
      rw [moves_nil, none] at mem
      cases mem
  | append_singleton list move ih =>
      rw [moves_concat] at mem
      rcases queued_of_move mem with old | ⟨rfl, new⟩
      · exact (ih old).concat move
      · exact ⟨list, [], rfl, new.symm⟩

end Session
end HangulConsole
