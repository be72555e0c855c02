import HangulConsole.Proofs.Session.Notes

/-!
# Runs one after another

The guest works for one task at a time, for the runs in the order in which they were
asked for, and for no run that was given up before its turn.
-/

namespace HangulConsole
namespace Session

variable {γ : Type} {session after : Session γ} {number : Nat}

/-!
# Tasks that never begin
-/

/-- A task was numbered and is over, and nothing was ever noted for it. -/
structure Unnoted (session : Session γ) (number : Nat) : Prop where
  lt : number < session.nextTask
  not_mem : number ∉ session.numbers
  task_ne : ∀ note ∈ session.notes, note.task ≠ number

namespace Unnoted

theorem of_notes (unnoted : session.Unnoted number) (notes : after.notes = session.notes)
    (tasks : ∀ task ∈ after.tasks, task ∈ session.tasks)
    (nextTask : after.nextTask = session.nextTask) : after.Unnoted number where
  lt := by
    rw [nextTask]
    exact unnoted.lt
  not_mem := by
    intro mem
    rcases List.mem_map.1 mem with ⟨task, kept, rfl⟩
    exact unnoted.not_mem (List.mem_map_of_mem (tasks task kept))
  task_ne := by
    rw [notes]
    exact unnoted.task_ne

theorem task_ne_of_notesOf (unnoted : session.Unnoted number) {other : Nat}
    (noted : NotesOf session after other) (distinct : other ≠ number) :
    ∀ note ∈ after.notes, note.task ≠ number := by
  rcases noted with ⟨new, notes, fine⟩
  intro note mem
  rw [notes] at mem
  rcases List.mem_append.1 mem with old | mem
  · exact unnoted.task_ne note old
  · rw [(fine note mem).1]
    exact distinct

theorem of_effect (unnoted : session.Unnoted number) (effect : Effect session after) :
    after.Unnoted number := by
  have less := unnoted.lt
  cases effect with
  | rests tasks _ _ _ nextTask _ notes _ =>
      refine ⟨Nat.lt_of_lt_of_le less nextTask, ?_, ?_⟩
      · rw [numbers_of_tasks tasks]
        exact unnoted.not_mem
      · rw [notes]
        exact unnoted.task_ne
  | @goesOn other phase next rest front tasks _ _ _ kept noted _ =>
      have same : after.numbers = session.numbers := by
        rw [numbers, numbers, tasks, front, List.map_cons, List.map_cons]
      have mem : other ∈ session.numbers := by
        rw [numbers, front]
        exact List.mem_cons_self
      refine ⟨?_, ?_, unnoted.task_ne_of_notesOf noted ?_⟩
      · rw [kept.nextTask]
        exact less
      · rw [same]
        exact unnoted.not_mem
      · rintro rfl
        exact unnoted.not_mem mem
  | bootEnds _ _ tasks _ _ nextTask _ notes _ =>
      exact unnoted.of_notes notes (by rw [tasks]; exact fun _ mem => by cases mem) nextTask
  | runEnds front _ tasks _ _ _ nextTask _ notes _ =>
      refine unnoted.of_notes notes ?_ nextTask
      rw [tasks, front]
      exact fun _ => List.mem_cons_of_mem _
  | leaves _ _ tasks _ _ _ nextTask _ notes _ =>
      refine unnoted.of_notes notes ?_ nextTask
      rw [tasks]
      exact fun _ mem => (List.mem_filter.1 mem).1
  | bootBegins _ tasks _ _ _ nextTask _ noted _ =>
      refine ⟨by omega, ?_, unnoted.task_ne_of_notesOf noted (Nat.ne_of_gt less)⟩
      rw [numbers, tasks, List.map_singleton, List.mem_singleton]
      exact Nat.ne_of_lt less
  | runQueues _ tasks _ _ _ nextTask _ notes _ =>
      refine ⟨by omega, ?_, ?_⟩
      · rw [numbers, tasks, List.map_append, List.mem_append, not_or]
        refine ⟨unnoted.not_mem, ?_⟩
        rw [List.map_singleton, List.mem_singleton]
        exact Nat.ne_of_lt less
      · rw [notes]
        exact unnoted.task_ne

theorem moves (unnoted : session.Unnoted number) (orderly : session.Orderly)
    (list : List (Move γ)) : (session.moves list).Unnoted number := by
  induction list generalizing session with
  | nil => exact unnoted
  | cons first rest ih => exact ih (unnoted.of_effect (orderly.effect first)) (orderly.move first)

end Unnoted

theorem Orderly.unnoted_of_cancel (orderly : session.Orderly) {source : String}
    (queued : session.phase? number = some (.queued source)) :
    (session.cancel number).Unnoted number := by
  have mem := mem_tasks_of_phase? queued
  rw [cancel, queued]
  constructor
  · exact orderly.line.numbers_lt number (List.mem_map_of_mem mem)
  · intro kept
    rcases List.mem_map.1 kept with ⟨task, kept, same⟩
    have distinct := (List.mem_filter.1 kept).2
    rw [same, bne_self_eq_false] at distinct
    cases distinct
  · intro note noted
    exact orderly.notes.not_queued note noted _ mem rfl

/-!
# Serial sessions
-/

/-- What it means that the runs of a session are executed one after another.  The moves may be any:
boots, requests, operations on the line input, steps of any tasks and their ends, in any order. -/
structure Serial (session : Session γ) : Prop where
  /-- The guest works for one task at a time. -/
  at_work : ∀ list, ((session.moves list).tasks.filter fun task =>
    task.phase.work?.isSome).length ≤ 1
  /-- What the guest does for one task is not interrupted by what it does for another. -/
  contiguous : ∀ list early first middle last late,
    (session.moves list).notes = early ++ first :: middle ++ last :: late ->
    first.task = last.task -> ∀ note ∈ middle, note.task = first.task
  /-- Runs begin in the order in which they were asked for. -/
  in_order : ∀ first source second other third,
    ((session.moves (first ++ .operation (.run source) :: second ++
        .operation (.run other) :: third)).notes).Pairwise fun early late =>
      ¬ (early.task =
          (session.moves (first ++ .operation (.run source) :: second)).nextTask ∧
        late.task = (session.moves first).nextTask)
  /-- The first run that is not over has the lock. -/
  turn : ∀ list, (session.moves list).lock.holder? =
    ((session.moves list).tasks.find? fun task => !task.phase.isBoot).map Task.number
  /-- A run that is given up before its turn never reaches the guest. -/
  skipped : ∀ first task source second,
    (session.moves first).phase? task = some (.queued source) ->
    ∀ note ∈ (session.moves (first ++ .operation (.cancel task) :: second)).notes,
      note.task ≠ task
  /-- No call for a line fails. -/
  not_refused : ∀ list, ∀ note ∈ (session.moves list).notes, ∀ failure,
    note.deed ≠ .refused failure

namespace Orderly

theorem at_work (orderly : session.Orderly) :
    (session.tasks.filter fun task => task.phase.work?.isSome).length ≤ 1 := by
  cases front : session.tasks with
  | nil => exact Nat.zero_le 1
  | cons first rest =>
      have idle : rest.filter (fun task => task.phase.work?.isSome) = [] := by
        rw [List.filter_eq_nil_iff]
        intro task mem
        rw [Phase.work?_of_isQueued (orderly.line.queued_of_mem front mem)]
        exact Bool.false_ne_true
      rw [List.filter_cons, idle]
      split
      · exact Nat.le_refl 1
      · exact Nat.zero_le 1

theorem contiguous (orderly : session.Orderly) {early middle late : List Note} {first last : Note}
    (notes : session.notes = early ++ first :: middle ++ last :: late)
    (same : first.task = last.task) : ∀ note ∈ middle, note.task = first.task := by
  intro note mem
  have sorted := orderly.notes.sorted
  rw [notes, List.append_assoc, List.pairwise_append, List.cons_append, List.pairwise_cons,
    List.pairwise_append] at sorted
  rcases sorted with ⟨_, ⟨after_first, _, _, before_last⟩, _⟩
  have lower := after_first note (List.mem_append_left _ mem)
  have upper := before_last note mem last List.mem_cons_self
  omega

theorem turn (orderly : session.Orderly) :
    session.lock.holder? =
      (session.tasks.find? fun task => !task.phase.isBoot).map Task.number := by
  rw [orderly.line.lock, Lock.holder?_ofLine]
  cases ready : session.guest?.isSome with
  | false =>
      have unready : session.guest?.isNone = true := by rw [← Option.not_isSome, ready]; rfl
      have boots : session.tasks.find? (fun task => !task.phase.isBoot) = none := by
        rw [List.find?_eq_none]
        intro task mem
        rw [orderly.line.isBoot task mem, unready]
        decide
      rw [boots]
      rfl
  | true =>
      have isNone : session.guest?.isNone = false := by rw [← Option.not_isSome, ready]; rfl
      rw [if_pos rfl, numbers]
      cases front : session.tasks with
      | nil => rfl
      | cons first rest =>
          have run := orderly.line.isBoot first (by rw [front]; exact List.mem_cons_self)
          rw [isNone] at run
          rw [List.find?_cons_of_pos (by rw [run]; rfl)]
          rfl

theorem nextTask_le_moves (orderly : session.Orderly) (list : List (Move γ)) :
    session.nextTask ≤ (session.moves list).nextTask := by
  induction list generalizing session with
  | nil => exact Nat.le_refl _
  | cons first rest ih =>
      exact Nat.le_trans (nextTask_le_of_effect (orderly.effect first)) (ih (orderly.move first))

end Orderly

theorem nextTask_run (session : Session γ) (source : String) :
    (session.move (.operation (.run source))).nextTask = session.nextTask + 1 := by
  rw [move, apply, newTask, beginRun]
  split
  · rfl
  · rfl

theorem serial_of_orderly (orderly : session.Orderly) : session.Serial where
  at_work list := (orderly.moves list).at_work
  contiguous list _ _ _ _ _ notes same := (orderly.moves list).contiguous notes same
  in_order := by
    intro first source second other third
    have early := orderly.moves first
    have less : (session.moves first).nextTask <
        (session.moves (first ++ .operation (.run source) :: second)).nextTask := by
      rw [moves_append, moves_cons]
      have le := (early.move (.operation (.run source))).nextTask_le_moves second
      rw [nextTask_run] at le
      exact le
    refine (orderly.moves _).notes.sorted.imp ?_
    rintro one two le ⟨late, early⟩
    omega
  turn list := (orderly.moves list).turn
  skipped := by
    intro first task source second queued
    have orderly := orderly.moves first
    have unnoted := orderly.unnoted_of_cancel queued
    rw [moves_append, moves_cons]
    exact (unnoted.moves (orderly.move (.operation (.cancel task))) second).task_ne
  not_refused list := (orderly.moves list).notes.not_refused

/-- Whatever the guest is and whatever happens to a new session, its runs are executed one after
another; and all that operations come to by letting every task go on is made of such moves. -/
theorem serial_start (abilities : Guest Unit γ) (addresses : Keywords.AddressReader)
    (settings : Settings) (names : Calls.Names) :
    (start abilities addresses settings names).Serial ∧
      ∀ operations, ∃ list, (start abilities addresses settings names).steps operations =
        (start abilities addresses settings names).moves list :=
  ⟨serial_of_orderly (orderly_start abilities addresses settings names), steps_eq_moves _⟩

end Session
end HangulConsole
