import HangulConsole.Proofs.Session.Work

/-!
# Tasks at rest

A task that is driven goes on until it is over or has to wait for the host, and no other
task brings about what it waits for.  So after one round over the line no task of a
session can go on.
-/

namespace HangulConsole

namespace Phase

variable {γ : Type} {phase : Phase γ}

def plan : Phase γ -> BootPlan
  | booting _ plan => plan
  | _ => []

theorem plan_withWork (phase : Phase γ) (work : Work γ) :
    (phase.withWork work).plan = phase.plan := by
  cases phase with
  | _ => rfl

end Phase

namespace Session

open LineInput

variable {γ : Type} {session : Session γ} {number : Nat} {phase : Phase γ} {rest : List (Task γ)}

/-- No task can go on. -/
def AtRest (session : Session γ) : Prop :=
  ∀ task, session.tick task = session

theorem AtRest.moves_eq (rests : session.AtRest) (tasks : List Nat) :
    session.moves (tasks.map Move.tick) = session := by
  induction tasks with
  | nil => rfl
  | cons task tasks ih =>
      have same : session.move (.tick task) = session := rests task
      rw [List.map_cons, moves_cons, same, ih]

theorem AtRest.drive_eq (rests : session.AtRest) (task : Nat) : session.drive task = session := by
  rcases goesOnTo_drive session task with ⟨tasks, driven⟩
  rw [driven, rests.moves_eq]

/-!
# Where a task stands
-/

theorem phase?_of_not_mem (apart : ∀ task ∈ session.tasks, task.number ≠ number) :
    session.phase? number = none := by
  rw [phase?, Option.map_eq_none_iff, List.find?_eq_none]
  intro task mem
  simpa using apart task mem

theorem planOf_of_front (front : session.tasks = ⟨number, phase⟩ :: rest) :
    session.planOf number = phase.plan := by
  rw [planOf, phase?_of_front front]
  cases phase with
  | _ => rfl

/-- Why the first task in line cannot go on. -/
inductive Blocked (session : Session γ) : Phase γ -> Prop where
  | loading (source : Keywords.Source) : Blocked session (.loading source)
  | reading (source : Keywords.Source) (guest : γ) : Blocked session (.reading source guest)
  | booting {request : Nat} {guest : γ} {resume : Except String String -> Activity Unit γ}
      {plan : BootPlan} :
      session.input.waitsFor request = true ->
      Blocked session (.booting (.asking (.waiting request) guest resume) plan)
  | running {request : Nat} {guest : γ} {resume : Except String String -> Activity Unit γ} :
      session.input.waitsFor request = true ->
      Blocked session (.running (.asking (.waiting request) guest resume))

def Halted (session : Session γ) (number : Nat) (rest : List (Task γ)) : Prop :=
  session.tasks = rest ∨
    ∃ phase, session.tasks = ⟨number, phase⟩ :: rest ∧ Blocked session phase

def Going (session : Session γ) (number : Nat) (rest : List (Task γ)) (plan : BootPlan) : Prop :=
  ∃ phase activity, session.tasks = ⟨number, phase⟩ :: rest ∧
    phase.work? = some (.going activity) ∧ phase.plan = plan

theorem Blocked.of_asking {request : Nat} {guest : γ}
    {resume : Except String String -> Activity Unit γ}
    (works : phase.work? = some (.asking (.waiting request) guest resume))
    (waits : session.input.waitsFor request = true) : Blocked session phase := by
  cases phase with
  | booting work plan =>
      cases works
      exact .booting waits
  | running work =>
      cases works
      exact .running waits
  | _ => cases works

theorem Blocked.not_going (blocked : Blocked session phase) (activity : Activity Unit γ) :
    phase.work? ≠ some (.going activity) := by
  intro going
  cases blocked with
  | loading source => cases going
  | reading source guest => cases going
  | booting waits => cases going
  | running waits => cases going

/-!
# One step of the first task
-/

theorem Blocked.tick_eq (blocked : Blocked session phase) (orderly : session.Orderly)
    (front : session.tasks = ⟨number, phase⟩ :: rest) : session.tick number = session := by
  cases blocked with
  | loading source => exact tick_of_loading (phase?_of_front front)
  | reading source guest => exact tick_of_reading (phase?_of_front front)
  | booting waits => exact tick_of_asking orderly front rfl waits
  | running waits => exact tick_of_asking orderly front rfl waits

theorem halted_tick_of_call {function : Unit} {arguments : List String} {guest : γ}
    {resume : Except String String -> Activity Unit γ} (regular : session.Regular)
    (front : session.tasks = ⟨number, phase⟩ :: rest)
    (works : phase.work? = some (.going (.call function arguments guest resume))) :
    (session.tick number).Halted number rest := by
  rcases tasks_tick_of_call regular front works with ⟨request, tasks, waits⟩
  exact Or.inr ⟨_, tasks, .of_asking (Phase.work?_withWork works _) waits⟩

theorem tick_of_ended {result : Except Failure Unit} {guest : γ} (line : session.InLine)
    (front : session.tasks = ⟨number, phase⟩ :: rest)
    (works : phase.work? = some (.going (.ended result guest))) :
    (session.tick number).tasks = rest ∨
      ∃ next plan, phase.plan = next :: plan ∧ (session.tick number).Going number rest plan := by
  have distinct : ∀ other ∈ rest, other.number ≠ number := fun _ => line.number_ne_of_mem front
  rw [tick, phase?_of_front front]
  cases phase with
  | loading source => cases works
  | reading source guest => cases works
  | queued source => cases works
  | running work =>
      cases works
      refine Or.inl ?_
      cases result with
      | ok done => exact tasks_removeTask front distinct
      | error failure => exact tasks_removeTask front distinct
  | booting work plan =>
      cases works
      cases result with
      | error failure => exact Or.inl (tasks_removeTask front distinct)
      | ok done =>
          cases plan with
          | nil =>
              refine Or.inl ?_
              have ready := line.becomeReady_eq front rfl guest
              change (session.becomeReady number guest).tasks = rest
              rw [ready]
              exact tasks_removeTask front distinct
          | cons next plan =>
              exact Or.inr ⟨next, plan, rfl, _, _, tasks_setPhase front distinct _, rfl, rfl⟩

/-!
# As far as the first task can go
-/

theorem halted_pursue {activity : Activity Unit γ} (regular : session.Regular)
    (front : session.tasks = ⟨number, phase⟩ :: rest)
    (works : phase.work? = some (.going activity)) :
    (session.pursue number activity).Halted number rest ∨
      ∃ next plan, phase.plan = next :: plan ∧
        (session.pursue number activity).Going number rest plan := by
  -- Deliveries are never refused, so the guest goes on to its end or to its first call.
  induction activity generalizing session phase with
  | ended result guest => exact (tick_of_ended regular.orderly.line front works).imp Or.inl id
  | deliver piece guest resume ih =>
      have further := ih (.ok ()) (regular.move (.tick number))
        (tasks_tick_of_deliver regular.orderly.line front works) (Phase.work?_withWork works _)
      rw [Phase.plan_withWork] at further
      exact further
  | call function arguments guest resume ih =>
      have idle := regular.orderly.idle_of_closed (ticket_of_work front works)
      rcases ask_of_idle idle (arguments.head?.getD "") with ⟨input, asks, _⟩
      have polled : session.input.poll (.ofArguments arguments) =
          (input, .waiting session.input.nextNumber, .waiting) := asks
      rw [pursue, polled]
      exact Or.inl (halted_tick_of_call regular front works)

theorem pursueWork_of_halted (halted : session.Halted number rest)
    (distinct : ∀ other ∈ rest, other.number ≠ number) : session.pursueWork number = session := by
  rw [pursueWork]
  rcases halted with gone | ⟨phase, front, blocked⟩
  · rw [phase?_of_not_mem (by rw [gone]; exact distinct)]
    rfl
  · rw [phase?_of_front front, Option.bind_some]
    split
    · rename_i activity going
      exact absurd going (blocked.not_going activity)
    · rfl

theorem pursueAll_of_halted (halted : session.Halted number rest)
    (distinct : ∀ other ∈ rest, other.number ≠ number) (plan : BootPlan) :
    pursueAll number plan session = session := by
  induction plan with
  | nil => exact pursueWork_of_halted halted distinct
  | cons next plan ih => rw [pursueAll, pursueWork_of_halted halted distinct, ih]

theorem Regular.goesOn (regular : session.Regular) {after : Session γ}
    (goes : GoesOnTo session after) : after.Regular := by
  rcases goes with ⟨tasks, rfl⟩
  exact regular.moves _

theorem halted_pursueWork {plan : BootPlan} (regular : session.Regular)
    (going : session.Going number rest plan) :
    (session.pursueWork number).Halted number rest ∨
      ∃ next later, plan = next :: later ∧ (session.pursueWork number).Going number rest later := by
  rcases going with ⟨phase, activity, front, works, rfl⟩
  rw [pursueWork, phase?_of_front front, Option.bind_some, works]
  exact halted_pursue regular front works

theorem halted_pursueAll {plan : BootPlan} (regular : session.Regular)
    (distinct : ∀ other ∈ rest, other.number ≠ number) (going : session.Going number rest plan) :
    (pursueAll number plan session).Halted number rest := by
  -- A guest that is done takes the next demand off the plan, so the plan bounds the rounds.
  induction plan generalizing session with
  | nil =>
      rcases halted_pursueWork regular going with halted | ⟨next, later, same, _⟩
      · exact halted
      · cases same
  | cons stage plan ih =>
      rw [pursueAll]
      rcases halted_pursueWork regular going with halted | ⟨next, later, same, going⟩
      · rw [pursueAll_of_halted halted distinct]
        exact halted
      · cases same
        exact ih (regular.goesOn (goesOnTo_pursueWork session number)) going

theorem halted_tick_of_work {work : Work γ} (regular : session.Regular)
    (front : session.tasks = ⟨number, phase⟩ :: rest) (works : phase.work? = some work) :
    (session.tick number).Halted number rest ∨
      ∃ plan, (session.tick number).Going number rest plan := by
  have orderly := regular.orderly
  cases work with
  | going activity =>
      cases activity with
      | ended result guest =>
          rcases tick_of_ended orderly.line front works with gone | ⟨_, plan, _, going⟩
          · exact Or.inl (Or.inl gone)
          · exact Or.inr ⟨plan, going⟩
      | deliver piece guest resume =>
          exact Or.inr ⟨_, _, _, tasks_tick_of_deliver orderly.line front works,
            Phase.work?_withWork works _, rfl⟩
      | call function arguments guest resume =>
          exact Or.inl (halted_tick_of_call regular front works)
  | asking ticket guest resume =>
      rcases (regular.staged.fits_front front).made works with ⟨request, rfl⟩
      rcases CallTable.Sound.waits_or_answered orderly.serves (holds_of_front front works) with
        ⟨waits, _⟩ | ⟨_, line, answered⟩
      · rw [tick_of_asking orderly front works waits]
        exact Or.inl (Or.inr ⟨phase, front, .of_asking works waits⟩)
      · exact Or.inr ⟨_, _, _, tasks_tick_of_answer orderly.line front works answered,
          Phase.work?_withWork works _, rfl⟩

theorem halted_tick (regular : session.Regular) (front : session.tasks = ⟨number, phase⟩ :: rest) :
    (session.tick number).Halted number rest ∨
      ∃ plan, (session.tick number).Going number rest plan := by
  have line := regular.orderly.line
  have found := phase?_of_front front
  cases phase with
  | loading source =>
      rw [tick_of_loading found]
      exact Or.inl (Or.inr ⟨_, front, .loading source⟩)
  | reading source guest =>
      rw [tick_of_reading found]
      exact Or.inl (Or.inr ⟨_, front, .reading source guest⟩)
  | booting work plan => exact halted_tick_of_work regular front rfl
  | running work => exact halted_tick_of_work regular front rfl
  | queued source =>
      have ready := line.guest?_of_not_isBoot (mem_tasks_of_phase? found) rfl
      have turn : session.lock.holder? = some number := by
        rw [line.lock_of_ready ready, Lock.holder?_ofLine, numbers, front]
        rfl
      rw [tick, found]
      cases there : session.guest? with
      | none =>
          rw [there] at ready
          cases ready
      | some guest =>
          simp only [tickQueued, there, turn, if_true]
          exact Or.inr ⟨_, _, _, tasks_setPhase front (fun _ => line.number_ne_of_mem front) _, rfl,
            rfl⟩

theorem halted_drive (regular : session.Regular)
    (front : session.tasks = ⟨number, phase⟩ :: rest) :
    (session.drive number).Halted number rest := by
  have distinct : ∀ other ∈ rest, other.number ≠ number :=
    fun _ => regular.orderly.line.number_ne_of_mem front
  change (pursueAll number ((session.tick number).planOf number) (session.tick number)).Halted
    number rest
  rcases halted_tick regular front with halted | ⟨plan, going⟩
  · rw [pursueAll_of_halted halted distinct]
    exact halted
  · have left : (session.tick number).planOf number = plan := by
      rcases going with ⟨phase, activity, front, works, same⟩
      rw [planOf_of_front front, same]
    rw [left]
    exact halted_pursueAll (regular.move (.tick number)) distinct going

/-!
# One round over the line
-/

theorem atRest_of_nil (idle : session.tasks = []) : session.AtRest := by
  intro task
  rw [tick, phase?_of_not_mem (by rw [idle]; exact fun _ mem => by cases mem)]

theorem InLine.tick_of_ne (line : session.InLine)
    (front : session.tasks = ⟨number, phase⟩ :: rest) {other : Nat} (apart : other ≠ number) :
    session.tick other = session := by
  rw [tick]
  cases found : session.phase? other with
  | none => rfl
  | some waiting =>
      have mem := mem_tasks_of_phase? found
      rw [front] at mem
      rcases List.mem_cons.1 mem with same | later
      · cases same
        exact absurd rfl apart
      · have queued := line.queued_of_mem front later
        cases waiting with
        | queued source =>
            have ready := line.guest?_of_not_isBoot (mem_tasks_of_phase? found) rfl
            have turn : ¬ session.lock.holder? = some other := by
              rw [line.lock_of_ready ready, Lock.holder?_ofLine, numbers, front]
              intro same
              injection same with same
              exact apart same.symm
            simp only [tickQueued, turn, if_false]
            split
            · rfl
            · rfl
        | _ => cases queued

theorem Blocked.atRest (blocked : Blocked session phase) (orderly : session.Orderly)
    (front : session.tasks = ⟨number, phase⟩ :: rest) : session.AtRest := by
  intro task
  by_cases same : task = number
  · rw [same]
    exact blocked.tick_eq orderly front
  · exact orderly.line.tick_of_ne front same

theorem AtRest.foldl_drive_eq (rests : session.AtRest) (tasks : List Nat) :
    tasks.foldl drive session = session := by
  induction tasks with
  | nil => rfl
  | cons task tasks ih => rw [List.foldl_cons, rests.drive_eq, ih]

/-- Every task goes on as far as it can in one round over the line. -/
theorem Regular.atRest_settle (regular : session.Regular) : session.settle.AtRest := by
  have round (tasks : List (Task γ)) (session : Session γ) (regular : session.Regular)
      (line : session.tasks = tasks) : ((tasks.map Task.number).foldl drive session).AtRest := by
    induction tasks generalizing session with
    | nil => exact atRest_of_nil line
    | cons first rest ih =>
        have driven := regular.goesOn (goesOnTo_drive session first.number)
        rw [List.map_cons, List.foldl_cons]
        rcases halted_drive regular line with gone | ⟨phase, front, blocked⟩
        · exact ih _ driven gone
        -- Behind a task that has to wait nothing moves any more.
        · have rests := blocked.atRest driven.orderly front
          rw [rests.foldl_drive_eq]
          exact rests
  exact round session.tasks session regular rfl

theorem AtRest.blocked (rests : session.AtRest) (regular : session.Regular)
    (front : session.tasks = ⟨number, phase⟩ :: rest) : Blocked session phase := by
  -- Driving the task changes nothing, so it stands where driving leaves it.
  have halted := halted_drive regular front
  rw [rests.drive_eq] at halted
  rcases halted with gone | ⟨found, again, blocked⟩
  · rw [front] at gone
    exact absurd gone (List.cons_ne_self _ _)
  · rw [front] at again
    cases again
    exact blocked

end Session
end HangulConsole
