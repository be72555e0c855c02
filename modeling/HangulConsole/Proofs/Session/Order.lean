import HangulConsole.Proofs.Session.Effects
import Mathlib.Data.List.Nodup

/-!
# Order among tasks

However the steps of the tasks and the operations follow one another, the tasks stay in
line and the lock stays with the first run.
-/

namespace HangulConsole
namespace Session

open LineInput

variable {γ : Type} {session after : Session γ} {number : Nat} {phase : Phase γ}
  {task : Task γ} {rest : List (Task γ)}

/-!
# The line
-/

theorem numbers_of_tasks (tasks : after.tasks = session.tasks) :
    after.numbers = session.numbers := by
  rw [numbers, numbers, tasks]

theorem InLine.eq_of_number (line : session.InLine) (mem : task ∈ session.tasks)
    {other : Task γ} (also : other ∈ session.tasks) (same : task.number = other.number) :
    task = other := by
  have distinct : session.numbers.Nodup :=
    line.numbers_sorted.imp fun less => Nat.ne_of_lt less
  exact List.inj_on_of_nodup_map distinct mem also same

theorem InLine.not_running_of_mem (line : session.InLine) (front : session.tasks = task :: rest)
    {other : Task γ} (mem : other ∈ rest) : ¬ other.phase.isRunning = true := by
  rw [Phase.isRunning_of_isQueued (line.queued_of_mem front mem)]
  decide

theorem InLine.bootAsked_of_mem (line : session.InLine) (mem : task ∈ session.tasks) :
    session.bootAsked = true := by
  rw [← Bool.not_eq_false]
  intro unasked
  rw [(line.asked unasked).1] at mem
  cases mem

theorem isRunning_of_isBoot (boot : phase.isBoot = true) : phase.isRunning = false := by
  cases phase with
  | running work => cases boot
  | _ => rfl

theorem mem_tail_filter {keep : Task γ -> Bool} {tasks : List (Task γ)}
    (mem : task ∈ (tasks.filter keep).tail) : task ∈ tasks.tail := by
  cases tasks with
  | nil => cases mem
  | cons first rest =>
      rw [List.filter_cons] at mem
      split at mem
      · exact (List.mem_filter.1 mem).1
      · exact (List.mem_filter.1 (List.mem_of_mem_tail mem)).1

theorem InLine.of_goesOn {next : Phase γ} (line : session.InLine)
    (front : session.tasks = ⟨number, phase⟩ :: rest) (tasks : after.tasks = ⟨number, next⟩ :: rest)
    (isBoot : next.isBoot = phase.isBoot) (running : after.running = next.isRunning)
    (kept : Kept session after) : after.InLine := by
  have numbers : after.numbers = session.numbers := by
    rw [numbers, Session.numbers, tasks, front, List.map_cons, List.map_cons]
  have mem : ⟨number, phase⟩ ∈ session.tasks := by
    rw [front]
    exact List.mem_cons_self
  constructor
  · rw [numbers]
    exact line.numbers_sorted
  · rw [numbers, kept.nextTask]
    exact line.numbers_lt
  · intro other behind
    rw [tasks] at behind
    exact line.queued_of_mem front behind
  · intro other also
    rw [kept.guest?]
    rw [tasks] at also
    rcases List.mem_cons.1 also with rfl | later
    · exact isBoot.trans (line.isBoot _ mem)
    · exact line.isBoot other (by rw [front]; exact List.mem_cons_of_mem _ later)
  · rw [kept.lock, kept.guest?, numbers]
    exact line.lock
  · intro unasked
    rw [kept.bootAsked, line.bootAsked_of_mem mem] at unasked
    cases unasked
  · have others : (rest.any fun other => other.phase.isRunning) = false :=
      List.any_eq_false.2 fun other => line.not_running_of_mem front
    rw [running, tasks, List.any_cons, others, Bool.or_false]

theorem InLine.of_leaves (line : session.InLine) (mem : task ∈ session.tasks)
    (queued : task.phase.isQueued = true)
    (tasks : after.tasks = session.tasks.filter fun found => found.number != task.number)
    (guest? : after.guest? = session.guest?) (lock : after.lock = session.lock.leave task.number)
    (running : after.running = session.running) (nextTask : after.nextTask = session.nextTask)
    (bootAsked : after.bootAsked = session.bootAsked) : after.InLine := by
  have ready := line.guest?_of_not_isBoot mem (Phase.isBoot_of_isQueued queued)
  have numbers : after.numbers = session.numbers.filter (· != task.number) := by
    rw [numbers, Session.numbers, tasks, List.filter_map]
    rfl
  constructor
  · rw [numbers]
    exact line.numbers_sorted.filter _
  · intro number also
    rw [numbers] at also
    rw [nextTask]
    exact line.numbers_lt number (List.mem_filter.1 also).1
  · intro other behind
    rw [tasks] at behind
    exact line.behind other (mem_tail_filter behind)
  · intro other also
    rw [tasks] at also
    rw [guest?]
    exact line.isBoot other (List.mem_filter.1 also).1
  · rw [lock, guest?, if_pos ready, numbers, line.lock_of_ready ready]
    exact Lock.leave_ofLine line.numbers_sorted (List.mem_map_of_mem mem)
  · intro unasked
    rw [bootAsked, line.bootAsked_of_mem mem] at unasked
    cases unasked
  · rw [running, line.running, tasks, List.any_filter, Bool.eq_iff_iff, List.any_eq_true,
      List.any_eq_true]
    constructor
    · rintro ⟨other, also, works⟩
      refine ⟨other, also, ?_⟩
      have distinct : other.number ≠ task.number := by
        intro same
        rw [line.eq_of_number also mem same, Phase.isRunning_of_isQueued queued] at works
        cases works
      rw [works, Bool.and_true, bne_iff_ne]
      exact distinct
    · rintro ⟨other, also, works⟩
      rw [Bool.and_eq_true] at works
      exact ⟨other, also, works.2⟩

theorem InLine.of_bootEnds (line : session.InLine) (front : session.tasks = [task])
    (boot : task.phase.isBoot = true) (tasks : after.tasks = [])
    (lock : after.lock = session.lock) (running : after.running = session.running)
    (bootAsked : after.bootAsked = session.bootAsked) : after.InLine := by
  have mem : task ∈ session.tasks := by
    rw [front]
    exact List.mem_cons_self
  have numbers : after.numbers = [] := by rw [numbers, tasks, List.map_nil]
  constructor
  · rw [numbers]
    exact List.Pairwise.nil
  · intro number also
    rw [numbers] at also
    cases also
  · intro other behind
    rw [tasks] at behind
    cases behind
  · intro other also
    rw [tasks] at also
    cases also
  · rw [lock, line.lock, line.guest?_of_isBoot mem boot, numbers, ite_self]
    rfl
  · intro unasked
    rw [bootAsked, line.bootAsked_of_mem mem] at unasked
    cases unasked
  · rw [running, line.running_front front, isRunning_of_isBoot boot, tasks]
    rfl

theorem InLine.of_runEnds (line : session.InLine) (front : session.tasks = task :: rest)
    (run : task.phase.isBoot = false) (tasks : after.tasks = rest)
    (guest? : after.guest?.isSome = true) (lock : after.lock = session.lock.release)
    (running : after.running = false) (nextTask : after.nextTask = session.nextTask)
    (bootAsked : after.bootAsked = session.bootAsked) : after.InLine := by
  have mem : task ∈ session.tasks := by
    rw [front]
    exact List.mem_cons_self
  have numbers : session.numbers = task.number :: after.numbers := by
    rw [numbers, Session.numbers, front, tasks, List.map_cons]
  constructor
  · have sorted := line.numbers_sorted
    rw [numbers] at sorted
    exact sorted.of_cons
  · intro number also
    rw [nextTask]
    exact line.numbers_lt number (by rw [numbers]; exact List.mem_cons_of_mem _ also)
  · intro other behind
    rw [tasks] at behind
    exact line.queued_of_mem front (List.mem_of_mem_tail behind)
  · intro other also
    rw [tasks] at also
    rw [Phase.isBoot_of_isQueued (line.queued_of_mem front also)]
    cases there : after.guest? with
    | none =>
        rw [there] at guest?
        cases guest?
    | some guest => rfl
  · rw [lock, line.lock_of_ready (line.guest?_of_not_isBoot mem run), numbers,
      Lock.release_ofLine, if_pos guest?]
  · intro unasked
    rw [bootAsked, line.bootAsked_of_mem mem] at unasked
    cases unasked
  · rw [running, tasks, eq_comm, List.any_eq_false]
    exact fun other => line.not_running_of_mem front

theorem InLine.of_bootBegins {source : Keywords.Source} (line : session.InLine)
    (unasked : session.bootAsked = false)
    (tasks : after.tasks = [⟨session.nextTask, .loading source⟩])
    (guest? : after.guest? = session.guest?) (lock : after.lock = session.lock)
    (running : after.running = session.running) (nextTask : after.nextTask = session.nextTask + 1)
    (bootAsked : after.bootAsked = true) : after.InLine := by
  rcases line.asked unasked with ⟨none, unready⟩
  have numbers : after.numbers = [session.nextTask] := by rw [numbers, tasks]; rfl
  constructor
  · rw [numbers]
    exact List.pairwise_singleton _ _
  · intro number also
    rw [numbers, List.mem_singleton] at also
    omega
  · intro other behind
    rw [tasks] at behind
    cases behind
  · intro other also
    rw [tasks, List.mem_singleton] at also
    rw [also, guest?, unready]
    rfl
  · rw [lock, line.lock, guest?, unready]
    rfl
  · intro again
    rw [bootAsked] at again
    cases again
  · rw [running, line.running, none, tasks]
    rfl

theorem InLine.of_runQueues {source : String} (line : session.InLine)
    (ready : session.guest?.isSome = true)
    (tasks : after.tasks = session.tasks ++ [⟨session.nextTask, .queued source⟩])
    (guest? : after.guest? = session.guest?) (lock : after.lock = session.lock.ask session.nextTask)
    (running : after.running = session.running) (nextTask : after.nextTask = session.nextTask + 1)
    (bootAsked : after.bootAsked = session.bootAsked) : after.InLine := by
  have numbers : after.numbers = session.numbers ++ [session.nextTask] := by
    rw [numbers, numbers, tasks, List.map_append]
    rfl
  constructor
  · rw [numbers, List.pairwise_append]
    refine ⟨line.numbers_sorted, List.pairwise_singleton _ _, ?_⟩
    intro number early late mem
    rw [List.mem_singleton] at mem
    rw [mem]
    exact line.numbers_lt number early
  · intro number also
    rw [numbers, List.mem_append, List.mem_singleton] at also
    rw [nextTask]
    rcases also with early | rfl
    · exact Nat.lt_succ_of_lt (line.numbers_lt number early)
    · exact Nat.lt_succ_self _
  · intro other behind
    rw [tasks] at behind
    cases front : session.tasks with
    | nil =>
        rw [front] at behind
        cases behind
    | cons first rest =>
        rw [front] at behind
        rcases List.mem_append.1 behind with early | late
        · exact line.queued_of_mem front early
        · rw [List.mem_singleton] at late
          rw [late]
          rfl
  · intro other also
    rw [tasks, List.mem_append, List.mem_singleton] at also
    rw [guest?]
    rcases also with early | rfl
    · exact line.isBoot other early
    · cases there : session.guest? with
      | none =>
          rw [there] at ready
          cases ready
      | some guest => rfl
  · rw [lock, line.lock_of_ready ready, guest?, if_pos ready, numbers, Lock.ask_ofLine]
  · intro unasked
    rw [bootAsked] at unasked
    rw [(line.asked unasked).2] at ready
    cases ready
  · rw [running, line.running, tasks, List.any_append]
    simp [Phase.isRunning]

theorem InLine.of_rests (line : session.InLine) (tasks : after.tasks = session.tasks)
    (guest? : after.guest? = session.guest?) (lock : after.lock = session.lock)
    (running : after.running = session.running) (nextTask : session.nextTask ≤ after.nextTask)
    (bootAsked : session.bootAsked = true -> after.bootAsked = true) : after.InLine := by
  have numbers := numbers_of_tasks tasks
  constructor
  · rw [numbers]
    exact line.numbers_sorted
  · intro number also
    rw [numbers] at also
    exact Nat.lt_of_lt_of_le (line.numbers_lt number also) nextTask
  · rw [tasks]
    exact line.behind
  · rw [tasks, guest?]
    exact line.isBoot
  · rw [lock, guest?, numbers]
    exact line.lock
  · intro unasked
    rw [tasks, guest?]
    refine line.asked ?_
    rw [← Bool.not_eq_true]
    intro asked
    rw [bootAsked asked] at unasked
    cases unasked
  · rw [running, tasks]
    exact line.running

theorem InLine.of_effect (line : session.InLine) (effect : Effect session after) :
    after.InLine := by
  cases effect with
  | rests tasks guest? lock running nextTask bootAsked _ _ =>
      exact line.of_rests tasks guest? lock running nextTask bootAsked
  | goesOn front tasks isBoot _ running kept _ _ =>
      exact line.of_goesOn front tasks isBoot running kept
  | bootEnds front boot tasks lock running _ bootAsked _ _ =>
      exact line.of_bootEnds front boot tasks lock running bootAsked
  | runEnds front run tasks guest? lock running nextTask bootAsked _ _ =>
      exact line.of_runEnds front run tasks guest? lock running nextTask bootAsked
  | leaves mem queued tasks guest? lock running nextTask bootAsked _ _ =>
      exact line.of_leaves mem queued tasks guest? lock running nextTask bootAsked
  | bootBegins unasked tasks guest? lock running nextTask bootAsked _ _ =>
      exact line.of_bootBegins unasked tasks guest? lock running nextTask bootAsked
  | runQueues ready tasks guest? lock running nextTask bootAsked _ _ =>
      exact line.of_runQueues ready tasks guest? lock running nextTask bootAsked

theorem nextTask_le_of_effect (effect : Effect session after) :
    session.nextTask ≤ after.nextTask := by
  cases effect with
  | rests _ _ _ _ nextTask _ _ _ => exact nextTask
  | goesOn _ _ _ _ _ kept _ _ => exact Nat.le_of_eq kept.nextTask.symm
  | bootEnds _ _ _ _ _ nextTask _ _ _ => exact Nat.le_of_eq nextTask.symm
  | runEnds _ _ _ _ _ _ nextTask _ _ _ => exact Nat.le_of_eq nextTask.symm
  | leaves _ _ _ _ _ _ nextTask _ _ _ => exact Nat.le_of_eq nextTask.symm
  | bootBegins _ _ _ _ _ nextTask _ _ _ => omega
  | runQueues _ _ _ _ _ nextTask _ _ _ => omega

end Session
end HangulConsole
