import HangulConsole.Proofs.LineInput.Sound
import HangulConsole.Proofs.Session.Ticks

/-!
# Tasks in line

The tasks that are not over stand in one line, the earliest first.  Only the first of
them can have the guest; all others are runs that wait.  The lock knows the same line.
-/

namespace HangulConsole

/-!
# The line of a lock
-/

namespace Lock

def ofLine : List Nat -> Lock
  | [] => free
  | task :: rest => ⟨some task, rest⟩

theorem holder?_ofLine (line : List Nat) : (ofLine line).holder? = line.head? := by
  cases line with
  | nil => rfl
  | cons task rest => rfl

theorem ask_ofLine (line : List Nat) (task : Nat) :
    (ofLine line).ask task = ofLine (line ++ [task]) := by
  cases line with
  | nil => rfl
  | cons first rest => rfl

theorem release_ofLine (task : Nat) (rest : List Nat) :
    (ofLine (task :: rest)).release = ofLine rest := by
  cases rest with
  | nil => rfl
  | cons next rest => rfl

theorem leave_ofLine {line : List Nat} (sorted : line.Pairwise (· < ·)) {task : Nat}
    (mem : task ∈ line) : (ofLine line).leave task = ofLine (line.filter (· != task)) := by
  cases line with
  | nil => cases mem
  | cons first rest =>
      rcases List.pairwise_cons.1 sorted with ⟨less, _⟩
      rw [leave]
      by_cases same : first = task
      · have kept : rest.filter (· != task) = rest := by
          rw [List.filter_eq_self]
          intro other later
          have greater := less other later
          simp only [bne_iff_ne]
          omega
        have held : (ofLine (first :: rest)).holder? = some task := congrArg some same
        rw [if_pos held, release_ofLine, List.filter_cons_of_neg (by simp [same]), kept]
      · have apart : ¬ (ofLine (first :: rest)).holder? = some task := by
          rw [holder?_ofLine]
          simpa using same
        rw [if_neg apart, List.filter_cons_of_pos (by simpa using same)]
        rfl

end Lock

/-!
# Phases
-/

def Work.ticket {γ : Type} : Work γ -> LineInput.Ticket
  | going _ => .closed
  | asking ticket _ _ => ticket

namespace Phase

variable {γ : Type}

def isQueued : Phase γ -> Bool
  | queued _ => true
  | _ => false

def isRunning : Phase γ -> Bool
  | running _ => true
  | _ => false

def ticket (phase : Phase γ) : LineInput.Ticket :=
  match phase.work? with
  | some work => work.ticket
  | none => .closed

theorem ticket_of_isQueued {phase : Phase γ} (queued : phase.isQueued = true) :
    phase.ticket = .closed := by
  cases phase with
  | queued source => rfl
  | _ => cases queued

theorem isBoot_of_isQueued {phase : Phase γ} (queued : phase.isQueued = true) :
    phase.isBoot = false := by
  cases phase with
  | queued source => rfl
  | _ => cases queued

theorem work?_of_isQueued {phase : Phase γ} (queued : phase.isQueued = true) :
    phase.work? = none := by
  cases phase with
  | queued source => rfl
  | _ => cases queued

theorem isQueued_of_work {phase : Phase γ} {work : Work γ} (works : phase.work? = some work) :
    phase.isQueued = false := by
  cases phase with
  | queued source => cases works
  | _ => rfl

theorem isRunning_withWork (phase : Phase γ) (work : Work γ) :
    (phase.withWork work).isRunning = phase.isRunning := by
  cases phase with
  | _ => rfl

theorem isRunning_of_isQueued {phase : Phase γ} (queued : phase.isQueued = true) :
    phase.isRunning = false := by
  cases phase with
  | queued source => rfl
  | _ => cases queued

end Phase

namespace Session

variable {γ : Type} {session : Session γ} {number : Nat} {phase : Phase γ} {task : Task γ}
  {rest : List (Task γ)}

/-!
# Tasks by their numbers
-/

def numbers (session : Session γ) : List Nat :=
  session.tasks.map Task.number

theorem mem_tasks_of_phase? (found : session.phase? number = some phase) :
    ⟨number, phase⟩ ∈ session.tasks := by
  rw [phase?, Option.map_eq_some_iff] at found
  rcases found with ⟨task, found, rfl⟩
  have same := List.find?_some found
  rw [beq_iff_eq] at same
  rw [← same]
  exact List.mem_of_find?_eq_some found

theorem mem_tasks_of_loading? {source : Keywords.Source}
    (found : session.loading? = some (number, source)) :
    ⟨number, .loading source⟩ ∈ session.tasks := by
  rcases List.exists_of_findSome?_eq_some found with ⟨⟨other, phase⟩, mem, this⟩
  cases phase with
  | loading wanted =>
      cases this
      exact mem
  | _ => cases this

theorem mem_tasks_of_reading? {source : Keywords.Source} {guest : γ}
    (found : session.reading? = some (number, source, guest)) :
    ⟨number, .reading source guest⟩ ∈ session.tasks := by
  rcases List.exists_of_findSome?_eq_some found with ⟨⟨other, phase⟩, mem, this⟩
  cases phase with
  | reading wanted made =>
      cases this
      exact mem
  | _ => cases this

def ticket (session : Session γ) : LineInput.Ticket :=
  match session.tasks with
  | [] => .closed
  | task :: _ => task.phase.ticket

theorem ticket_of_front (front : session.tasks = task :: rest) :
    session.ticket = task.phase.ticket := by
  rw [ticket, front]

theorem ticket_of_work {work : Work γ} (front : session.tasks = ⟨number, phase⟩ :: rest)
    (works : phase.work? = some work) : session.ticket = work.ticket := by
  rw [ticket_of_front front, Phase.ticket, works]

/-- The tasks stand in line for the guest. -/
structure InLine (session : Session γ) : Prop where
  numbers_sorted : session.numbers.Pairwise (· < ·)
  numbers_lt : ∀ number ∈ session.numbers, number < session.nextTask
  behind : ∀ task ∈ session.tasks.tail, task.phase.isQueued = true
  /-- Before the session is ready all tasks are boots, and afterwards none. -/
  isBoot : ∀ task ∈ session.tasks, task.phase.isBoot = session.guest?.isNone
  lock : session.lock = .ofLine (if session.guest?.isSome then session.numbers else [])
  asked : session.bootAsked = false -> session.tasks = [] ∧ session.guest? = none
  running : session.running = session.tasks.any fun task => task.phase.isRunning

theorem inLine_start (abilities : Guest Unit γ) (addresses : Keywords.AddressReader)
    (settings : Settings) (names : Calls.Names) :
    (start abilities addresses settings names).InLine where
  numbers_sorted := List.Pairwise.nil
  numbers_lt := by intro number mem; cases mem
  behind := by intro task mem; cases mem
  isBoot := by intro task mem; cases mem
  lock := rfl
  asked := fun _ => ⟨rfl, rfl⟩
  running := rfl

namespace InLine

theorem lt_of_mem (line : session.InLine) (front : session.tasks = task :: rest) {other : Task γ}
    (mem : other ∈ rest) : task.number < other.number := by
  have sorted := line.numbers_sorted
  rw [numbers, front, List.map_cons, List.pairwise_cons] at sorted
  exact sorted.1 other.number (List.mem_map_of_mem mem)

theorem queued_of_mem (line : session.InLine) (front : session.tasks = task :: rest)
    {other : Task γ} (mem : other ∈ rest) : other.phase.isQueued = true := by
  have behind := line.behind other
  rw [front] at behind
  exact behind mem

theorem front_of_mem (line : session.InLine) (mem : task ∈ session.tasks)
    (busy : task.phase.isQueued = false) : ∃ rest, session.tasks = task :: rest := by
  cases front : session.tasks with
  | nil =>
      rw [front] at mem
      cases mem
  | cons first rest =>
      rw [front] at mem
      rcases List.mem_cons.1 mem with rfl | later
      · exact ⟨rest, rfl⟩
      · have queued := line.queued_of_mem front later
        rw [busy] at queued
        cases queued

theorem alone_of_isBoot (line : session.InLine) (front : session.tasks = task :: rest)
    (boot : task.phase.isBoot = true) : rest = [] := by
  rw [List.eq_nil_iff_forall_not_mem]
  intro other mem
  have unready := line.isBoot task (by rw [front]; exact List.mem_cons_self)
  have also := line.isBoot other (by rw [front]; exact List.mem_cons_of_mem _ mem)
  rw [← unready, boot, Phase.isBoot_of_isQueued (line.queued_of_mem front mem)] at also
  cases also

theorem guest?_of_isBoot (line : session.InLine) (mem : task ∈ session.tasks)
    (boot : task.phase.isBoot = true) : session.guest? = none := by
  have unready := line.isBoot task mem
  rw [boot] at unready
  exact Option.isNone_iff_eq_none.1 unready.symm

theorem guest?_of_not_isBoot (line : session.InLine) (mem : task ∈ session.tasks)
    (run : task.phase.isBoot = false) : session.guest?.isSome = true := by
  have ready := line.isBoot task mem
  rw [run] at ready
  rw [Option.isSome_iff_ne_none]
  intro none
  rw [none] at ready
  cases ready

theorem running_front (line : session.InLine) (front : session.tasks = task :: rest) :
    session.running = task.phase.isRunning := by
  have others : (rest.any fun other => other.phase.isRunning) = false := by
    rw [List.any_eq_false]
    intro other mem
    rw [Phase.isRunning_of_isQueued (line.queued_of_mem front mem)]
    decide
  rw [line.running, front, List.any_cons, others, Bool.or_false]

theorem lock_of_ready (line : session.InLine) (ready : session.guest?.isSome = true) :
    session.lock = .ofLine session.numbers := by
  rw [line.lock, if_pos ready]

theorem front_of_turn (line : session.InLine) (mem : ⟨number, phase⟩ ∈ session.tasks)
    (ready : session.guest?.isSome = true) (turn : session.lock.holder? = some number) :
    ∃ rest, session.tasks = ⟨number, phase⟩ :: rest := by
  rw [line.lock_of_ready ready, Lock.holder?_ofLine, numbers] at turn
  cases front : session.tasks with
  | nil =>
      rw [front] at mem
      cases mem
  | cons first rest =>
      rw [front] at mem turn
      rcases List.mem_cons.1 mem with rfl | later
      · exact ⟨rest, rfl⟩
      · have less := line.lt_of_mem front later
        injection turn with same
        simp only at same less
        omega

end InLine

/-!
# Changes at the front
-/

theorem InLine.number_ne_of_mem (line : session.InLine)
    (front : session.tasks = ⟨number, phase⟩ :: rest) {other : Task γ} (mem : other ∈ rest) :
    other.number ≠ number :=
  Nat.ne_of_gt (line.lt_of_mem front mem)

theorem tasks_setPhase (front : session.tasks = ⟨number, phase⟩ :: rest)
    (distinct : ∀ other ∈ rest, other.number ≠ number) (next : Phase γ) :
    (session.setPhase number next).tasks = ⟨number, next⟩ :: rest := by
  have others : rest.map (fun found => if found.number = number then
      { found with phase := next } else found) = rest := by
    rw [List.map_congr_left (g := id), List.map_id]
    intro other mem
    exact if_neg (distinct other mem)
  rw [setPhase, front, List.map_cons, others]
  simp

theorem tasks_removeTask (front : session.tasks = ⟨number, phase⟩ :: rest)
    (distinct : ∀ other ∈ rest, other.number ≠ number) :
    (session.removeTask number).tasks = rest := by
  have kept : rest.filter (fun found => found.number != number) = rest := by
    rw [List.filter_eq_self]
    intro other mem
    simpa using distinct other mem
  rw [removeTask, front, List.filter_cons_of_neg (by simp), kept]

end Session
end HangulConsole
