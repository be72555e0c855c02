import HangulConsole.Proofs.Session.Order

/-!
# Notes in order

The line input serves the first task in line alone, so that no call for a line fails,
and what is noted is in the order of the tasks.
-/

namespace HangulConsole
namespace Session

variable {γ : Type} {session after : Session γ} {number : Nat} {phase : Phase γ}
  {task : Task γ} {rest : List (Task γ)}

/-!
# The line input
-/

theorem ticket_of_tasks (tasks : after.tasks = session.tasks) : after.ticket = session.ticket := by
  rw [ticket, ticket, tasks]

theorem ticket_of_queued (queued : ∀ task ∈ session.tasks, task.phase.isQueued = true) :
    session.ticket = .closed := by
  rw [ticket]
  cases front : session.tasks with
  | nil => rfl
  | cons first rest =>
      exact Phase.ticket_of_isQueued (queued first (by rw [front]; exact List.mem_cons_self))

theorem InLine.front_of_leaves (line : session.InLine) (queued : task.phase.isQueued = true)
    (mem : task ∈ session.tasks)
    (tasks : after.tasks = session.tasks.filter fun found => found.number != task.number) :
    (∃ first rest others, session.tasks = first :: rest ∧ after.tasks = first :: others) ∨
      (∀ other ∈ session.tasks, other.phase.isQueued = true) ∧
        ∀ other ∈ after.tasks, other.phase.isQueued = true := by
  cases front : session.tasks with
  | nil =>
      rw [front] at mem
      cases mem
  | cons first rest =>
      by_cases same : first.number = task.number
      · have first_mem : first ∈ session.tasks := by
          rw [front]
          exact List.mem_cons_self
        have eq := line.eq_of_number first_mem mem same
        have all : ∀ other ∈ session.tasks, other.phase.isQueued = true := by
          intro other also
          rw [front] at also
          rcases List.mem_cons.1 also with rfl | later
          · rw [eq]
            exact queued
          · exact line.queued_of_mem front later
        refine Or.inr ⟨by rw [← front]; exact all, ?_⟩
        intro other also
        rw [tasks] at also
        exact all other (List.mem_filter.1 also).1
      · rw [front, List.filter_cons_of_pos (by simpa using same)] at tasks
        exact Or.inl ⟨first, rest, _, rfl, tasks⟩

theorem ticket_of_leaves (line : session.InLine) (queued : task.phase.isQueued = true)
    (mem : task ∈ session.tasks)
    (tasks : after.tasks = session.tasks.filter fun found => found.number != task.number) :
    after.ticket = session.ticket := by
  rcases line.front_of_leaves queued mem tasks with
    ⟨first, rest, others, before, later⟩ | ⟨before, later⟩
  · rw [ticket_of_front before, ticket_of_front later]
  · rw [ticket_of_queued before, ticket_of_queued later]

theorem ticket_of_runQueues {source : String}
    (tasks : after.tasks = session.tasks ++ [⟨number, .queued source⟩]) :
    after.ticket = session.ticket := by
  cases front : session.tasks with
  | nil =>
      rw [front, List.nil_append] at tasks
      rw [ticket_of_front tasks, ticket, front]
      rfl
  | cons first rest =>
      rw [front, List.cons_append] at tasks
      rw [ticket_of_front tasks, ticket_of_front front]

theorem serves_of_input {ticket : LineInput.Ticket} (serves : session.Serves ticket)
    (input : after.input = session.input) : after.Serves ticket := by
  rw [Serves, input]
  exact serves

theorem serves_of_effect (line : session.InLine) (serves : session.Serves session.ticket)
    (effect : Effect session after) : after.Serves after.ticket := by
  cases effect with
  | rests tasks _ _ _ _ _ _ served =>
      rw [ticket_of_tasks tasks]
      exact served
  | goesOn _ tasks _ _ _ _ _ served =>
      rw [ticket_of_front tasks]
      exact served
  | bootEnds _ _ tasks _ _ _ _ _ served =>
      rw [ticket_of_queued (by rw [tasks]; intro other also; cases also)]
      exact served
  | runEnds front _ tasks _ _ _ _ _ _ served =>
      rw [ticket_of_queued (by rw [tasks]; exact fun other => line.queued_of_mem front)]
      exact served
  | leaves mem queued tasks _ _ _ _ _ _ input =>
      rw [ticket_of_leaves line queued mem tasks]
      exact serves_of_input serves input
  | bootBegins unasked tasks _ _ _ _ _ _ input =>
      have closed : session.ticket = .closed := by rw [ticket, (line.asked unasked).1]
      rw [closed] at serves
      rw [ticket_of_front tasks]
      exact serves_of_input serves input
  | runQueues _ tasks _ _ _ _ _ _ input =>
      rw [ticket_of_runQueues tasks]
      exact serves_of_input serves input

/-!
# The notes
-/

/-- What is noted is in the order of the tasks, and of no task that waits for its turn. -/
structure NotesInOrder (session : Session γ) : Prop where
  sorted : session.notes.Pairwise fun early late => early.task ≤ late.task
  task_lt : ∀ note ∈ session.notes, note.task < session.nextTask
  task_le : ∀ note ∈ session.notes, ∀ task ∈ session.tasks, note.task ≤ task.number
  not_queued : ∀ note ∈ session.notes, ∀ task ∈ session.tasks, task.phase.isQueued = true ->
    note.task ≠ task.number
  not_refused : ∀ note ∈ session.notes, ∀ failure, note.deed ≠ .refused failure

namespace NotesInOrder

theorem of_notes (order : session.NotesInOrder) (notes : after.notes = session.notes)
    (tasks : ∀ task ∈ after.tasks, task ∈ session.tasks)
    (nextTask : session.nextTask ≤ after.nextTask) : after.NotesInOrder := by
  constructor
  · rw [notes]
    exact order.sorted
  · intro note mem
    rw [notes] at mem
    exact Nat.lt_of_lt_of_le (order.task_lt note mem) nextTask
  · intro note mem task also
    rw [notes] at mem
    exact order.task_le note mem task (tasks task also)
  · intro note mem task also
    rw [notes] at mem
    exact order.not_queued note mem task (tasks task also)
  · rw [notes]
    exact order.not_refused

theorem of_notesOf (order : session.NotesInOrder) (noted : NotesOf session after number)
    (earlier : ∀ note ∈ session.notes, note.task ≤ number) (less : number < after.nextTask)
    (nextTask : session.nextTask ≤ after.nextTask)
    (least : ∀ task ∈ after.tasks, number ≤ task.number)
    (queued : ∀ task ∈ after.tasks, task.phase.isQueued = true ->
      task.number ≠ number ∧ ∀ note ∈ session.notes, note.task ≠ task.number) :
    after.NotesInOrder := by
  rcases noted with ⟨new, notes, fine⟩
  constructor
  · rw [notes, List.pairwise_append]
    refine ⟨order.sorted, ?_, ?_⟩
    · refine List.pairwise_of_forall_mem_list ?_
      intro early mem late also
      exact Nat.le_of_eq ((fine early mem).1.trans (fine late also).1.symm)
    · intro early mem late also
      rw [(fine late also).1]
      exact earlier early mem
  · intro note mem
    rw [notes] at mem
    rcases List.mem_append.1 mem with old | mem
    · exact Nat.lt_of_lt_of_le (order.task_lt note old) nextTask
    · rw [(fine note mem).1]
      exact less
  · intro note mem task also
    rw [notes] at mem
    rcases List.mem_append.1 mem with old | mem
    · exact Nat.le_trans (earlier note old) (least task also)
    · rw [(fine note mem).1]
      exact least task also
  · intro note mem task also waits
    rw [notes] at mem
    rcases queued task also waits with ⟨distinct, unnoted⟩
    rcases List.mem_append.1 mem with old | mem
    · exact unnoted note old
    · rw [(fine note mem).1]
      exact distinct.symm
  · intro note mem
    rw [notes] at mem
    rcases List.mem_append.1 mem with old | mem
    · exact order.not_refused note old
    · exact (fine note mem).2

theorem of_goesOn {next : Phase γ} (order : session.NotesInOrder) (line : session.InLine)
    (front : session.tasks = ⟨number, phase⟩ :: rest) (tasks : after.tasks = ⟨number, next⟩ :: rest)
    (busy : next.isQueued = false) (nextTask : after.nextTask = session.nextTask)
    (noted : NotesOf session after number) : after.NotesInOrder := by
  have mem : ⟨number, phase⟩ ∈ session.tasks := by
    rw [front]
    exact List.mem_cons_self
  refine order.of_notesOf noted (fun note old => order.task_le note old _ mem) ?_
    (Nat.le_of_eq nextTask.symm) ?_ ?_
  · rw [nextTask]
    exact line.numbers_lt number (List.mem_map_of_mem mem)
  · intro task also
    rw [tasks] at also
    rcases List.mem_cons.1 also with rfl | later
    · exact Nat.le_refl number
    · exact Nat.le_of_lt (line.lt_of_mem front later)
  · intro task also queued
    rw [tasks] at also
    rcases List.mem_cons.1 also with rfl | later
    · rw [busy] at queued
      cases queued
    · have here : task ∈ session.tasks := by
        rw [front]
        exact List.mem_cons_of_mem _ later
      constructor
      · exact line.number_ne_of_mem front later
      · intro note old
        exact order.not_queued note old task here queued

theorem of_bootBegins {source : Keywords.Source} (order : session.NotesInOrder)
    (tasks : after.tasks = [⟨session.nextTask, .loading source⟩])
    (nextTask : after.nextTask = session.nextTask + 1)
    (noted : NotesOf session after session.nextTask) : after.NotesInOrder := by
  refine order.of_notesOf noted (fun note old => Nat.le_of_lt (order.task_lt note old))
    (by omega) (by omega) ?_ ?_
  · intro task also
    rw [tasks, List.mem_singleton] at also
    exact Nat.le_of_eq (by rw [also])
  · intro task also queued
    rw [tasks, List.mem_singleton] at also
    rw [also] at queued
    cases queued

theorem of_runQueues {source : String} (order : session.NotesInOrder)
    (tasks : after.tasks = session.tasks ++ [⟨session.nextTask, .queued source⟩])
    (nextTask : after.nextTask = session.nextTask + 1) (notes : after.notes = session.notes) :
    after.NotesInOrder := by
  constructor
  · rw [notes]
    exact order.sorted
  · intro note mem
    rw [notes] at mem
    rw [nextTask]
    exact Nat.lt_succ_of_lt (order.task_lt note mem)
  · intro note mem task also
    rw [notes] at mem
    rw [tasks, List.mem_append, List.mem_singleton] at also
    rcases also with early | rfl
    · exact order.task_le note mem task early
    · exact Nat.le_of_lt (order.task_lt note mem)
  · intro note mem task also queued
    rw [notes] at mem
    rw [tasks, List.mem_append, List.mem_singleton] at also
    rcases also with early | rfl
    · exact order.not_queued note mem task early queued
    · exact Nat.ne_of_lt (order.task_lt note mem)
  · rw [notes]
    exact order.not_refused

theorem of_effect (order : session.NotesInOrder) (line : session.InLine)
    (effect : Effect session after) : after.NotesInOrder := by
  cases effect with
  | rests tasks _ _ _ nextTask _ notes _ =>
      exact order.of_notes notes (by rw [tasks]; exact fun _ => id) nextTask
  | goesOn front tasks _ busy _ kept noted _ =>
      exact order.of_goesOn line front tasks busy kept.nextTask noted
  | bootEnds _ _ tasks _ _ nextTask _ notes _ =>
      exact order.of_notes notes (by rw [tasks]; exact fun _ mem => by cases mem)
        (Nat.le_of_eq nextTask.symm)
  | runEnds front _ tasks _ _ _ nextTask _ notes _ =>
      refine order.of_notes notes ?_ (Nat.le_of_eq nextTask.symm)
      rw [tasks, front]
      exact fun _ => List.mem_cons_of_mem _
  | leaves _ _ tasks _ _ _ nextTask _ notes _ =>
      refine order.of_notes notes ?_ (Nat.le_of_eq nextTask.symm)
      rw [tasks]
      exact fun _ mem => (List.mem_filter.1 mem).1
  | bootBegins _ tasks _ _ _ nextTask _ noted _ =>
      exact order.of_bootBegins tasks nextTask noted
  | runQueues _ tasks _ _ _ nextTask _ notes _ =>
      exact order.of_runQueues tasks nextTask notes

end NotesInOrder

/-!
# Any number of moves
-/

/-- The tasks stand in line, the line input serves the first, and the notes are in order. -/
structure Orderly (session : Session γ) : Prop where
  line : session.InLine
  serves : session.Serves session.ticket
  notes : session.NotesInOrder

theorem orderly_start (abilities : Guest Unit γ) (addresses : Keywords.AddressReader)
    (settings : Settings) (names : Calls.Names) :
    (start abilities addresses settings names).Orderly where
  line := inLine_start abilities addresses settings names
  serves := CallTable.Sound.step (CallTable.sound_empty.created "") (.drop 0)
  notes := by
    constructor
    · exact List.Pairwise.nil
    · intro note mem
      cases mem
    · intro note mem
      cases mem
    · intro note mem
      cases mem
    · intro note mem
      cases mem

namespace Orderly

theorem effect (orderly : session.Orderly) (move : Move γ) : Effect session (session.move move) :=
  effect_move orderly.line orderly.serves move

theorem move (orderly : session.Orderly) (move : Move γ) : (session.move move).Orderly where
  line := orderly.line.of_effect (orderly.effect move)
  serves := serves_of_effect orderly.line orderly.serves (orderly.effect move)
  notes := orderly.notes.of_effect orderly.line (orderly.effect move)

theorem moves (orderly : session.Orderly) (list : List (Move γ)) :
    (session.moves list).Orderly := by
  induction list generalizing session with
  | nil => exact orderly
  | cons first rest ih => exact ih (orderly.move first)

end Orderly

end Session
end HangulConsole
