import HangulConsole.Proofs.Session.Line
import HangulConsole.Proofs.Session.Moves

/-!
# What the moves do

Every move of a session whose tasks stand in line does one of a few things to the
line: it leaves it, lets the first task go on, ends the first task, lets a waiting run
go, or puts a new task at the end.
-/

namespace HangulConsole
namespace Session

open LineInput

variable {γ : Type} {session after : Session γ} {number : Nat} {phase : Phase γ}
  {rest : List (Task γ)}

/-- The line input serves a guest that has made no call but this one. -/
def Serves (session : Session γ) (ticket : Ticket) : Prop :=
  CallTable.Sound ⟨session.input, [ticket]⟩

/-- Notes of one task were added, and none of them of a call that failed. -/
def NotesOf (session after : Session γ) (task : Nat) : Prop :=
  ∃ new, after.notes = session.notes ++ new ∧
    ∀ note ∈ new, note.task = task ∧ ∀ failure, note.deed ≠ .refused failure

structure Kept (session after : Session γ) : Prop where
  guest? : after.guest? = session.guest?
  lock : after.lock = session.lock
  nextTask : after.nextTask = session.nextTask
  bootAsked : after.bootAsked = session.bootAsked

/-- What a move does to the line of a session. -/
inductive Effect (session after : Session γ) : Prop where
  | rests :
      after.tasks = session.tasks -> after.guest? = session.guest? ->
      after.lock = session.lock -> after.running = session.running ->
      session.nextTask ≤ after.nextTask ->
      (session.bootAsked = true -> after.bootAsked = true) ->
      after.notes = session.notes -> after.Serves session.ticket -> Effect session after
  | goesOn {number : Nat} {phase next : Phase γ} {rest : List (Task γ)} :
      session.tasks = ⟨number, phase⟩ :: rest -> after.tasks = ⟨number, next⟩ :: rest ->
      next.isBoot = phase.isBoot -> next.isQueued = false ->
      after.running = next.isRunning -> Kept session after ->
      NotesOf session after number -> after.Serves next.ticket -> Effect session after
  | bootEnds {task : Task γ} :
      session.tasks = [task] -> task.phase.isBoot = true -> after.tasks = [] ->
      after.lock = session.lock -> after.running = session.running ->
      after.nextTask = session.nextTask -> after.bootAsked = session.bootAsked ->
      after.notes = session.notes -> after.Serves .closed -> Effect session after
  | runEnds {task : Task γ} {rest : List (Task γ)} :
      session.tasks = task :: rest -> task.phase.isBoot = false -> after.tasks = rest ->
      after.guest?.isSome = true -> after.lock = session.lock.release ->
      after.running = false -> after.nextTask = session.nextTask ->
      after.bootAsked = session.bootAsked -> after.notes = session.notes ->
      after.Serves .closed -> Effect session after
  | leaves {task : Task γ} :
      task ∈ session.tasks -> task.phase.isQueued = true ->
      after.tasks = session.tasks.filter (fun found => found.number != task.number) ->
      after.guest? = session.guest? -> after.lock = session.lock.leave task.number ->
      after.running = session.running -> after.nextTask = session.nextTask ->
      after.bootAsked = session.bootAsked -> after.notes = session.notes ->
      after.input = session.input -> Effect session after
  | bootBegins {source : Keywords.Source} :
      session.bootAsked = false -> after.tasks = [⟨session.nextTask, .loading source⟩] ->
      after.guest? = session.guest? -> after.lock = session.lock ->
      after.running = session.running -> after.nextTask = session.nextTask + 1 ->
      after.bootAsked = true -> NotesOf session after session.nextTask ->
      after.input = session.input -> Effect session after
  | runQueues {source : String} :
      session.guest?.isSome = true ->
      after.tasks = session.tasks ++ [⟨session.nextTask, .queued source⟩] ->
      after.guest? = session.guest? -> after.lock = session.lock.ask session.nextTask ->
      after.running = session.running -> after.nextTask = session.nextTask + 1 ->
      after.bootAsked = session.bootAsked -> after.notes = session.notes ->
      after.input = session.input -> Effect session after

/-!
# The guest at work
-/

structure Worked (session : Session γ) (task : Nat) (after : Session γ) (work : Work γ) : Prop where
  tasks : after.tasks = session.tasks
  running : after.running = session.running
  kept : Kept session after
  notes : NotesOf session after task
  serves : after.Serves work.ticket

theorem notesOf_refl (session : Session γ) (task : Nat) : NotesOf session session task :=
  ⟨[], (List.append_nil _).symm, fun note mem => by cases mem⟩

theorem notesOf_append {task : Nat} {deed : Deed} {status : Status}
    (notes : after.notes = session.notes ++ [⟨task, deed, status⟩])
    (accepted : ∀ failure, deed ≠ .refused failure) : NotesOf session after task := by
  refine ⟨_, notes, ?_⟩
  intro other mem
  rw [List.mem_singleton] at mem
  rw [mem]
  exact ⟨rfl, accepted⟩

theorem NotesOf.trans {between : Session γ} {task : Nat} (first : NotesOf session between task)
    (second : NotesOf between after task) : NotesOf session after task := by
  rcases first with ⟨early, eq, earlyFine⟩
  rcases second with ⟨late, eq', lateFine⟩
  refine ⟨early ++ late, by rw [eq', eq, List.append_assoc], ?_⟩
  intro note mem
  rcases List.mem_append.1 mem with mem | mem
  · exact earlyFine note mem
  · exact lateFine note mem

theorem Serves.poll_ne_refused {ticket : Ticket} (serves : session.Serves ticket)
    (failure : Failure) : (session.input.poll ticket).2.2 ≠ .refused failure := by
  intro refused
  have effect := CallTable.pollEffect ⟨session.input, [ticket]⟩ 0
  change CallTable.PollEffect _ 0 _ (session.input.poll ticket).2.2 at effect
  rw [refused] at effect
  rcases CallTable.Sound.busy_of_refused serves effect with ⟨_, other, request, distinct, _, held⟩
  cases other with
  | zero => exact distinct rfl
  | succ other => cases held

theorem Serves.prepared (serves : session.Serves .closed) (prompt : String) :
    session.Serves (.prepared prompt) where
  number_lt := by
    intro slot number held
    cases slot with
    | zero => cases held
    | succ slot => cases held
  answers_lt := serves.answers_lt
  slot_eq := by
    intro slot other number held
    cases slot with
    | zero => cases held
    | succ slot => cases held
  holder := by
    intro request waits
    rcases serves.holder waits with ⟨slot, held⟩
    cases slot with
    | zero => cases held
    | succ slot => cases held
  waits_or_answered := by
    intro slot number held
    cases slot with
    | zero => cases held
    | succ slot => cases held

theorem Serves.worked_await {ticket : Ticket} (serves : session.Serves ticket) (task : Nat)
    (guest : γ) (resume : Except String String -> Activity Unit γ) :
    Worked session task (session.await task ticket guest resume).1
      (session.await task ticket guest resume).2 := by
  have sound : CallTable.Sound ⟨(session.input.poll ticket).1, [(session.input.poll ticket).2.1]⟩ :=
    CallTable.Sound.step serves (.poll 0)
  rw [await]
  cases result : session.input.poll ticket with
  | mk input rest =>
      rcases rest with ⟨later, progress⟩
      rw [result] at sound
      cases progress with
      | answered line =>
          have ended : later = .closed := by
            have answered : (session.input.poll ticket).2.2 = .answered line := by rw [result]
            have closed := closed_of_answered answered
            rwa [result] at closed
          rw [ended] at sound
          exact ⟨rfl, rfl, ⟨rfl, rfl, rfl, rfl⟩, notesOf_append rfl (fun _ same => by cases same),
            sound⟩
      | refused failure =>
          have fine := serves.poll_ne_refused failure
          rw [result] at fine
          exact absurd rfl fine
      | waiting => exact ⟨rfl, rfl, ⟨rfl, rfl, rfl, rfl⟩, notesOf_refl _ task, sound⟩
      | gone => exact ⟨rfl, rfl, ⟨rfl, rfl, rfl, rfl⟩, notesOf_refl _ task, sound⟩

theorem Serves.sameRequests {ticket : Ticket} (serves : session.Serves ticket)
    (same : SameRequests session.input after.input) : after.Serves ticket :=
  CallTable.Sound.rested serves same

theorem Serves.worked {work : Work γ} (serves : session.Serves work.ticket) (task : Nat) :
    Worked session task (session.workOn task work).1 (session.workOn task work).2 := by
  cases work with
  | asking ticket guest resume => exact serves.worked_await task guest resume
  | going activity =>
      cases activity with
      | ended result guest => exact ⟨rfl, rfl, ⟨rfl, rfl, rfl, rfl⟩, notesOf_refl _ task, serves⟩
      | deliver piece guest resume =>
          have noted : NotesOf (session.deliver piece)
              ((session.deliver piece).note task (.wrote piece)) task :=
            notesOf_append rfl (fun _ same => by cases same)
          exact ⟨rfl, rfl, ⟨rfl, rfl, rfl, rfl⟩, noted, serves.sameRequests ⟨rfl, rfl, rfl⟩⟩
      | call function arguments guest resume =>
          have asked : (session.note task (.asked arguments)).Serves (.ofArguments arguments) :=
            Serves.prepared serves _
          have noted : NotesOf session (session.note task (.asked arguments)) task :=
            notesOf_append rfl (fun _ same => by cases same)
          rcases asked.worked_await task guest resume with ⟨tasks, running, kept, notes, serves⟩
          exact ⟨tasks, running, ⟨kept.guest?, kept.lock, kept.nextTask, kept.bootAsked⟩,
            noted.trans notes, serves⟩

theorem Serves.abandon {work : Work γ} (serves : session.Serves work.ticket) :
    (session.abandon work).Serves .closed := by
  cases work with
  | going activity => exact serves
  | asking ticket guest resume => exact CallTable.Sound.step serves (.drop 0)

/-!
# Steps of tasks
-/

theorem effect_refl (serves : session.Serves session.ticket) : Effect session session :=
  .rests rfl rfl rfl rfl (Nat.le_refl _) id rfl serves

theorem effect_workOn {work : Work γ} (line : session.InLine)
    (front : session.tasks = ⟨number, phase⟩ :: rest) (works : phase.work? = some work)
    (serves : session.Serves session.ticket) :
    Effect session ((session.workOn number work).1.setPhase number
      (phase.withWork (session.workOn number work).2)) := by
  rw [ticket_of_work front works] at serves
  rcases serves.worked number with ⟨tasks, running, kept, notes, serves⟩
  have distinct : ∀ other ∈ rest, other.number ≠ number := fun _ => line.number_ne_of_mem front
  have later := tasks_setPhase (tasks.trans front) distinct
    (phase.withWork (session.workOn number work).2)
  refine .goesOn front later (phase.isBoot_withWork _)
    (Phase.isQueued_of_work (Phase.work?_withWork works _)) ?_ ?_ notes ?_
  · rw [Phase.isRunning_withWork]
    exact running.trans (line.running_front front)
  · exact ⟨kept.guest?, kept.lock, kept.nextTask, kept.bootAsked⟩
  · rw [Phase.ticket, Phase.work?_withWork works]
    exact serves

theorem effect_failBoot (line : session.InLine) (front : session.tasks = ⟨number, phase⟩ :: rest)
    (boot : phase.isBoot = true) (serves : session.Serves .closed) (failure : Failure) :
    Effect session (session.failBoot number failure) := by
  have alone := line.alone_of_isBoot front boot
  rw [alone] at front
  refine .bootEnds front boot ?_ rfl rfl rfl rfl rfl (serves.sameRequests ⟨rfl, rfl, rfl⟩)
  exact tasks_removeTask front (fun other mem => by cases mem)

theorem effect_becomeReady (line : session.InLine)
    (front : session.tasks = ⟨number, phase⟩ :: rest) (boot : phase.isBoot = true)
    (serves : session.Serves .closed) (guest : γ) :
    Effect session (session.becomeReady number guest) := by
  have alone := line.alone_of_isBoot front boot
  rw [alone] at front
  have unready := line.guest?_of_isBoot (by rw [front]; exact List.mem_cons_self) boot
  rw [becomeReady, unready]
  refine .bootEnds front boot ?_ rfl rfl rfl rfl rfl serves
  exact tasks_removeTask front (fun other mem => by cases mem)

theorem Demand.deed_ne_refused (demand : Demand) (failure : Failure) :
    demand.deed ≠ .refused failure := by
  cases demand with
  | bind name => intro same; cases same
  | exec script => intro same; cases same

theorem effect_followPlan (line : session.InLine)
    (front : session.tasks = ⟨number, phase⟩ :: rest) (boot : phase.isBoot = true)
    (serves : session.Serves .closed) (guest : γ) (plan : BootPlan) :
    Effect session (session.followPlan number guest plan) := by
  cases plan with
  | nil => exact effect_becomeReady line front boot serves guest
  | cons next plan =>
      rcases next with ⟨stage, demand⟩
      have distinct : ∀ other ∈ rest, other.number ≠ number := fun _ => line.number_ne_of_mem front
      have running : session.running = false := by
        rw [line.running_front front]
        cases phase with
        | running work => cases boot
        | _ => rfl
      have noted : NotesOf session
          (({ session with status := .booting stage }).note number demand.deed) number :=
        notesOf_append rfl (Demand.deed_ne_refused demand)
      exact .goesOn front (tasks_setPhase front distinct _) boot.symm rfl running
        ⟨rfl, rfl, rfl, rfl⟩ noted serves

theorem effect_endRun (line : session.InLine) (front : session.tasks = ⟨number, phase⟩ :: rest)
    (run : phase.isBoot = false) (serves : session.Serves .closed)
    (result : Except Failure Unit) (guest : γ) :
    Effect session (session.endRun number result guest) := by
  have distinct : ∀ other ∈ rest, other.number ≠ number := fun _ => line.number_ne_of_mem front
  cases result with
  | ok done =>
      exact .runEnds front run (tasks_removeTask front distinct) rfl rfl rfl rfl rfl rfl serves
  | error failure =>
      refine .runEnds front run ?_ rfl rfl rfl rfl rfl rfl (serves.sameRequests ⟨rfl, rfl, rfl⟩)
      exact tasks_removeTask front distinct

theorem effect_startRun {source : String} (line : session.InLine)
    (front : session.tasks = ⟨number, .queued source⟩ :: rest)
    (serves : session.Serves .closed) (guest : γ) :
    Effect session (session.startRun number source guest) := by
  have distinct : ∀ other ∈ rest, other.number ≠ number := fun _ => line.number_ne_of_mem front
  have noted : NotesOf session (session.note number
      (.exec (session.prepare source).2.wrapped)) number :=
    notesOf_append rfl (fun _ same => by cases same)
  exact .goesOn front (tasks_setPhase front distinct _) rfl rfl rfl ⟨rfl, rfl, rfl, rfl⟩ noted
    (serves.sameRequests ⟨rfl, rfl, rfl⟩)

theorem effect_tick (line : session.InLine) (serves : session.Serves session.ticket)
    (task : Nat) : Effect session (session.tick task) := by
  have ticked := session.ticked task
  generalize session.tick task = after at ticked ⊢
  cases ticked with
  | rests => exact effect_refl serves
  | works found works =>
      rcases line.front_of_mem (mem_tasks_of_phase? found) (Phase.isQueued_of_work works) with
        ⟨rest, front⟩
      exact effect_workOn line front works serves
  | bootFails found =>
      rcases line.front_of_mem (mem_tasks_of_phase? found) rfl with ⟨rest, front⟩
      rw [ticket_of_front front] at serves
      exact effect_failBoot line front rfl serves _
  | bootGoesOn found =>
      rcases line.front_of_mem (mem_tasks_of_phase? found) rfl with ⟨rest, front⟩
      rw [ticket_of_front front] at serves
      exact effect_followPlan line front rfl serves _ _
  | runStarts found there turn =>
      have ready := line.guest?_of_not_isBoot (mem_tasks_of_phase? found) rfl
      rcases line.front_of_turn (mem_tasks_of_phase? found) ready turn with ⟨rest, front⟩
      rw [ticket_of_front front] at serves
      exact effect_startRun line front serves _
  | runEnds found =>
      rcases line.front_of_mem (mem_tasks_of_phase? found) rfl with ⟨rest, front⟩
      rw [ticket_of_front front] at serves
      exact effect_endRun line front rfl serves _ _

/-!
# Operations
-/

theorem effect_boot (line : session.InLine) (serves : session.Serves session.ticket) :
    Effect session (session.newTask beginBoot) := by
  rw [newTask, beginBoot]
  cases asked : session.bootAsked with
  | true => exact .rests rfl rfl rfl rfl (Nat.le_succ _) (fun _ => rfl) rfl serves
  | false =>
      rcases line.asked asked with ⟨none, unready⟩
      cases wanted : session.keywordSource with
      | error failure =>
          simp only [wanted]
          refine .rests ?_ rfl rfl rfl (Nat.le_succ _) (fun _ => rfl) rfl
            (serves.sameRequests ⟨rfl, rfl, rfl⟩)
          simp [failBoot, finish, removeTask, report, mapTranscript, none]
      | ok source =>
          simp only [wanted]
          have alone : session.tasks ++ [⟨session.nextTask, .loading source⟩] =
              [⟨session.nextTask, .loading source⟩] := by rw [none, List.nil_append]
          refine .bootBegins asked alone rfl rfl rfl rfl rfl ?_ rfl
          · exact notesOf_append rfl (fun _ same => by cases same)

theorem effect_takeGuest (line : session.InLine) (serves : session.Serves session.ticket)
    (result : Except Failure γ) : Effect session (session.takeGuest result) := by
  unfold takeGuest
  cases found : session.loading? with
  | none => exact effect_refl serves
  | some waiting =>
      rcases waiting with ⟨number, source⟩
      rcases line.front_of_mem (mem_tasks_of_loading? found) rfl with ⟨rest, front⟩
      rw [ticket_of_front front] at serves
      cases result with
      | error failure => exact effect_failBoot line front rfl serves failure
      | ok guest =>
          have distinct : ∀ other ∈ rest, other.number ≠ number :=
            fun _ => line.number_ne_of_mem front
          exact .goesOn front (tasks_setPhase front distinct _) rfl rfl (line.running_front front)
            ⟨rfl, rfl, rfl, rfl⟩ (notesOf_refl _ number) serves

theorem effect_takeScript (line : session.InLine) (serves : session.Serves session.ticket)
    (result : Except Failure String) : Effect session (session.takeScript result) := by
  unfold takeScript
  cases found : session.reading? with
  | none => exact effect_refl serves
  | some waiting =>
      rcases waiting with ⟨number, source, guest⟩
      rcases line.front_of_mem (mem_tasks_of_reading? found) rfl with ⟨rest, front⟩
      rw [ticket_of_front front] at serves
      cases result with
      | error failure => exact effect_failBoot line front rfl serves failure
      | ok script => exact effect_followPlan line front rfl serves guest _

theorem beginRun_of_ready (ready : session.isReady = true) (task : Nat) (source : String) :
    session.beginRun task source =
      { session.addTask task (.queued source) with lock := session.lock.ask task } :=
  if_pos ready

theorem beginRun_of_not_ready (unready : ¬ session.isReady = true) (task : Nat)
    (source : String) :
    session.beginRun task source =
      (session.report session.messages.notReady).finish task (.error .notReady) :=
  if_neg unready

theorem effect_run (serves : session.Serves session.ticket) (source : String) :
    Effect session (session.newTask fun session task => session.beginRun task source) := by
  dsimp only [newTask]
  by_cases ready : session.isReady = true
  · have queued : { session with nextTask := session.nextTask + 1 }.isReady = true := ready
    rw [beginRun_of_ready queued]
    exact .runQueues ready rfl rfl rfl rfl rfl rfl rfl rfl
  · have refused : ¬ { session with nextTask := session.nextTask + 1 }.isReady = true := ready
    rw [beginRun_of_not_ready refused]
    exact .rests rfl rfl rfl rfl (Nat.le_succ _) id rfl (serves.sameRequests ⟨rfl, rfl, rfl⟩)

theorem abandon_eq (session : Session γ) (work : Work γ) :
    ∃ input, session.abandon work = { session with input } := by
  cases work with
  | going activity => exact ⟨session.input, rfl⟩
  | asking ticket guest resume => exact ⟨_, rfl⟩

theorem effect_removeBoot {input : LineInput} (line : session.InLine)
    (front : session.tasks = ⟨number, phase⟩ :: rest) (boot : phase.isBoot = true)
    (serves : { session with input }.Serves .closed) :
    Effect session ({ session with input }.removeTask number) := by
  have alone := line.alone_of_isBoot front boot
  rw [alone] at front
  refine .bootEnds front boot ?_ rfl rfl rfl rfl rfl serves
  exact tasks_removeTask front (fun other mem => by cases mem)

theorem effect_cancel (line : session.InLine) (serves : session.Serves session.ticket)
    (task : Nat) : Effect session (session.cancel task) := by
  rw [cancel]
  cases found : session.phase? task with
  | none => exact effect_refl serves
  | some phase =>
      have mem := mem_tasks_of_phase? found
      cases queued : phase.isQueued with
      | true =>
          cases phase with
          | queued source => exact .leaves mem rfl rfl rfl rfl rfl rfl rfl rfl rfl
          | _ => cases queued
      | false =>
          rcases line.front_of_mem mem queued with ⟨rest, front⟩
          rw [ticket_of_front front] at serves
          cases phase with
          | queued source => cases queued
          | loading source => exact effect_removeBoot line front rfl serves
          | reading source guest => exact effect_removeBoot line front rfl serves
          | booting work plan =>
              have ended := Serves.abandon serves
              rcases session.abandon_eq work with ⟨input, eq⟩
              simp only [dropTask]
              rw [eq] at ended ⊢
              exact effect_removeBoot line front rfl ended
          | running work =>
              have ended := Serves.abandon serves
              have distinct : ∀ other ∈ rest, other.number ≠ task :=
                fun _ => line.number_ne_of_mem front
              rcases session.abandon_eq work with ⟨input, eq⟩
              simp only [dropTask]
              rw [eq] at ended ⊢
              exact .runEnds front rfl (tasks_removeTask front distinct) rfl rfl rfl rfl rfl rfl
                ended

theorem effect_input {input : LineInput}
    (serves : { session with input }.Serves session.ticket) :
    Effect session { session with input } :=
  .rests rfl rfl rfl rfl (Nat.le_refl _) id rfl serves

theorem effect_apply (line : session.InLine) (serves : session.Serves session.ticket)
    (operation : Operation γ) : Effect session (session.apply operation) := by
  cases operation with
  | boot => exact effect_boot line serves
  | loaded result => exact effect_takeGuest line serves result
  | scriptRead result => exact effect_takeScript line serves result
  | run source => exact effect_run serves source
  | cancel task => exact effect_cancel line serves task
  | prepare source => exact .rests rfl rfl rfl rfl (Nat.le_refl _) id rfl serves
  | submit => exact effect_input (CallTable.Sound.step serves .submit)
  | submitLine text => exact effect_input (CallTable.Sound.step serves (.submitLine text))
  | press key => exact effect_input (CallTable.Sound.step serves (.press key))
  | type text => exact effect_input (CallTable.Sound.step serves (.type text))
  | setContent text => exact effect_input (CallTable.Sound.step serves (.setContent text))
  | clear => exact effect_input (serves.sameRequests ⟨rfl, rfl, rfl⟩)

theorem effect_move (line : session.InLine) (serves : session.Serves session.ticket)
    (move : Move γ) : Effect session (session.move move) := by
  cases move with
  | operation operation => exact effect_apply line serves operation
  | tick task => exact effect_tick line serves task

end Session
end HangulConsole
