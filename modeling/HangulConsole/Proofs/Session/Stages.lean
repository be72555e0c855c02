import HangulConsole.Proofs.Session.Notes

/-!
# Stages of a session

The status of a session says how far its boot has come: every task that is not over has
just that to do which the status announces, and a move leaves the status or takes it to
the next.
-/

namespace HangulConsole

/-!
# One status after another
-/

namespace Status

inductive Next : Status -> Status -> Prop where
  | loadingRuntime : Next .idle (.booting .loadingRuntime)
  | fetchingKeywords : Next (.booting .loadingRuntime) (.booting .fetchingKeywords)
  | injectingBridges : Next (.booting .fetchingKeywords) (.booting .injectingBridges)
  | loadingKeywords : Next (.booting .injectingBridges) (.booting .loadingKeywords)
  | ready : Next (.booting .loadingKeywords) .ready
  | refused (reason : String) : Next .idle (.failed reason)
  | broken (stage : BootStage) (reason : String) : Next (.booting stage) (.failed reason)

def isFinal : Status -> Bool
  | ready | failed _ => true
  | idle | booting _ => false

/-- The place of a status on the way from idle to the end. -/
def rank : Status -> Nat
  | idle => 0
  | booting .loadingRuntime => 1
  | booting .fetchingKeywords => 2
  | booting .injectingBridges => 3
  | booting .loadingKeywords => 4
  | ready | failed _ => 5

variable {status later : Status}

theorem Next.rank_lt (next : status.Next later) : status.rank < later.rank := by
  cases next with
  | broken stage reason => cases stage <;> simp [rank]
  | _ => simp [rank]

theorem Next.isFinal_eq (next : status.Next later) : status.isFinal = false := by
  cases next with
  | _ => rfl

end Status

/-!
# Phases and the status
-/

def Work.Made {γ : Type} : Work γ -> Prop
  | going _ => True
  | asking ticket _ _ => ∃ number, ticket = .waiting number

namespace Phase

variable {γ : Type} {settings : Settings} {phase : Phase γ} {status : Status} {work : Work γ}

/-- What a task has to do is what the status announces. -/
inductive Fits (settings : Settings) : Phase γ -> Status -> Prop where
  | loading (source : Keywords.Source) :
      Fits settings (.loading source) (.booting .loadingRuntime)
  | reading (source : Keywords.Source) (guest : γ) :
      Fits settings (.reading source guest) (.booting .fetchingKeywords)
  | binding {work : Work γ} (made : work.Made) (script : String) :
      Fits settings
        (.booting work
          [(.injectingBridges, .exec (Keywords.inputOverride settings.bridge)),
            (.loadingKeywords, .exec script)])
        (.booting .injectingBridges)
  | overriding {work : Work γ} (made : work.Made) (script : String) :
      Fits settings (.booting work [(.loadingKeywords, .exec script)]) (.booting .injectingBridges)
  | installing {work : Work γ} (made : work.Made) :
      Fits settings (.booting work []) (.booting .loadingKeywords)
  | queued (source : String) : Fits settings (.queued source) .ready
  | running {work : Work γ} (made : work.Made) : Fits settings (.running work) .ready

theorem Fits.eq_booting (fits : phase.Fits settings status) (boot : phase.isBoot = true) :
    ∃ stage, status = .booting stage := by
  cases fits with
  | queued source => cases boot
  | running made => cases boot
  | _ => exact ⟨_, rfl⟩

theorem Fits.eq_ready (fits : phase.Fits settings status) (run : phase.isBoot = false) :
    status = .ready := by
  cases fits with
  | queued source => rfl
  | running made => rfl
  | _ => cases run

theorem Fits.eq_loading {source : Keywords.Source}
    (fits : (Phase.loading source : Phase γ).Fits settings status) :
    status = .booting .loadingRuntime := by
  cases fits with
  | loading source => rfl

theorem Fits.eq_reading {source : Keywords.Source} {guest : γ}
    (fits : (Phase.reading source guest).Fits settings status) :
    status = .booting .fetchingKeywords := by
  cases fits with
  | reading source guest => rfl

theorem Fits.eq_installing (fits : (Phase.booting work []).Fits settings status) :
    status = .booting .loadingKeywords := by
  cases fits with
  | installing => rfl

theorem Fits.withWork {later : Work γ} (fits : phase.Fits settings status) (made : later.Made) :
    (phase.withWork later).Fits settings status := by
  cases fits with
  | loading source => exact .loading source
  | reading source guest => exact .reading source guest
  | binding _ script => exact .binding made script
  | overriding _ script => exact .overriding made script
  | installing _ => exact .installing made
  | queued source => exact .queued source
  | running _ => exact .running made

theorem Fits.made (fits : phase.Fits settings status) (works : phase.work? = some work) :
    work.Made := by
  cases fits with
  | loading source => cases works
  | reading source guest => cases works
  | queued source => cases works
  | binding made script =>
      cases works
      exact made
  | overriding made script =>
      cases works
      exact made
  | installing made =>
      cases works
      exact made
  | running made =>
      cases works
      exact made

end Phase

namespace Session

variable {γ : Type} {session after : Session γ} {number : Nat} {phase : Phase γ}
  {rest : List (Task γ)}

/-- All tasks have to do what the status announces, and the session has a guest exactly if it is
ready. -/
structure Staged (session : Session γ) : Prop where
  asked : session.bootAsked = false -> session.status = .idle
  ready : session.status = .ready ↔ session.guest?.isSome = true
  fits : ∀ task ∈ session.tasks, task.phase.Fits session.settings session.status

structure Advance (session after : Session γ) : Prop where
  staged : after.Staged
  settings : after.settings = session.settings
  status : after.status = session.status ∨ session.status.Next after.status

theorem staged_start (abilities : Guest Unit γ) (addresses : Keywords.AddressReader)
    (settings : Settings) (names : Calls.Names) :
    (start abilities addresses settings names).Staged where
  asked := fun _ => rfl
  ready := by
    constructor
    · intro ready
      cases ready
    · intro booted
      cases booted
  fits := by
    intro task mem
    cases mem

/-!
# Frames

What the guest does for a task touches the line input and the notes alone.
-/

theorem await_eq (session : Session γ) (task : Nat) (ticket : LineInput.Ticket) (guest : γ)
    (resume : Except String String -> Activity Unit γ) :
    ∃ input notes, (session.await task ticket guest resume).1 = { session with input, notes } := by
  rw [await]
  cases session.input.poll ticket with
  | mk input rest =>
      rcases rest with ⟨later, progress⟩
      cases progress with
      | _ => exact ⟨input, _, rfl⟩

theorem workOn_eq (session : Session γ) (task : Nat) (work : Work γ) :
    ∃ input notes, (session.workOn task work).1 = { session with input, notes } := by
  cases work with
  | asking ticket guest resume => exact session.await_eq task ticket guest resume
  | going activity =>
      cases activity with
      | ended result guest => exact ⟨session.input, session.notes, rfl⟩
      | deliver piece guest resume => exact ⟨_, _, rfl⟩
      | call function arguments guest resume =>
          rcases (session.note task (.asked arguments)).await_eq task (.ofArguments arguments) guest
            resume with ⟨input, notes, eq⟩
          exact ⟨input, notes, eq⟩

theorem made_await (session : Session γ) (task : Nat) {ticket : LineInput.Ticket}
    (unfinished : ticket ≠ .closed) (guest : γ) (resume : Except String String -> Activity Unit γ) :
    (session.await task ticket guest resume).2.Made := by
  have polled := session.input.poll_of_ne_closed unfinished
  rw [await]
  cases result : session.input.poll ticket with
  | mk input later =>
      rw [result] at polled
      rcases polled with ⟨number, rfl⟩ | ⟨line, rfl⟩ | ⟨failure, rfl⟩
      · exact ⟨number, rfl⟩
      · trivial
      · trivial

theorem made_workOn (session : Session γ) (task : Nat) {work : Work γ} (made : work.Made) :
    (session.workOn task work).2.Made := by
  cases work with
  | asking ticket guest resume =>
      rcases made with ⟨number, rfl⟩
      exact session.made_await task (fun closed => by cases closed) guest resume
  | going activity =>
      cases activity with
      | ended result guest => trivial
      | deliver piece guest resume => trivial
      | call function arguments guest resume =>
          exact (session.note task (.asked arguments)).made_await task
            (fun closed => by cases closed) guest resume

theorem mem_tasks_setPhase {task : Task γ} (mem : task ∈ (session.setPhase number phase).tasks) :
    task ∈ session.tasks ∨ task.phase = phase := by
  rw [setPhase] at mem
  rcases List.mem_map.1 mem with ⟨old, also, eq⟩
  rw [← eq]
  split
  · exact Or.inr rfl
  · exact Or.inl also

theorem Advance.of_next (settings : after.settings = session.settings)
    (next : session.status.Next after.status) (bootAsked : after.bootAsked = true)
    (ready : after.status = .ready ↔ after.guest?.isSome = true)
    (tasks : ∀ task ∈ after.tasks, task.phase.Fits after.settings after.status) :
    Advance session after := by
  refine ⟨⟨?_, ready, tasks⟩, settings, Or.inr next⟩
  intro unasked
  rw [bootAsked] at unasked
  cases unasked

theorem ready_iff_of_none (status : after.status ≠ .ready) (none : after.guest? = none) :
    after.status = .ready ↔ after.guest?.isSome = true := by
  rw [none]
  constructor
  · intro ready
    exact absurd ready status
  · intro booted
    cases booted

theorem boot_of_asked (asked : session.bootAsked = true) :
    session.newTask beginBoot =
      { session with
        nextTask := session.nextTask + 1
        finished := session.finished ++ [⟨session.nextTask, .error .alreadyBooted⟩] } := by
  rw [newTask, beginBoot]
  exact if_pos asked

theorem boot_of_error {failure : Failure} (asked : session.bootAsked = false)
    (wanted : session.keywordSource = .error failure) :
    session.newTask beginBoot =
      ({ session with nextTask := session.nextTask + 1, bootAsked := true }).failBoot
        session.nextTask failure := by
  rw [newTask, beginBoot]
  simp only [asked, wanted, Bool.false_eq_true, if_false]

theorem boot_of_ok {source : Keywords.Source} (asked : session.bootAsked = false)
    (wanted : session.keywordSource = .ok source) :
    session.newTask beginBoot =
      (({ session with
          nextTask := session.nextTask + 1
          bootAsked := true
          status := .booting .loadingRuntime }).addTask session.nextTask
            (.loading source)).note session.nextTask .load := by
  rw [newTask, beginBoot]
  simp only [asked, wanted, Bool.false_eq_true, if_false]

/-!
# The plan of a boot
-/

theorem InLine.becomeReady_eq (line : session.InLine)
    (front : session.tasks = ⟨number, phase⟩ :: rest)
    (boot : phase.isBoot = true) (guest : γ) :
    session.becomeReady number guest =
      (({ session with status := .ready, guest? := some guest }).removeTask number).finish number
        (.ok ()) := by
  have mem : ⟨number, phase⟩ ∈ session.tasks := by
    rw [front]
    exact List.mem_cons_self
  rw [becomeReady, line.guest?_of_isBoot mem boot]

theorem InLine.followPlan_cons (line : session.InLine)
    (front : session.tasks = ⟨number, phase⟩ :: rest) (boot : phase.isBoot = true)
    {stage : BootStage}
    {demand : Demand} {plan : BootPlan}
    (status : session.status = .booting stage ∨ session.status.Next (.booting stage))
    (fits : ∀ {work : Work γ}, work.Made ->
      (Phase.booting work plan).Fits session.settings (.booting stage))
    (guest : γ) :
    Advance session (session.followPlan number guest ((stage, demand) :: plan)) := by
  have mem : ⟨number, phase⟩ ∈ session.tasks := by
    rw [front]
    exact List.mem_cons_self
  have unready := line.guest?_of_isBoot mem boot
  have asked := line.bootAsked_of_mem mem
  have alone := line.alone_of_isBoot front boot
  rw [alone] at front
  have tasks := tasks_setPhase front (fun other mem => by cases mem)
    (.booting (.going (session.activityOf guest demand)) plan)
  refine ⟨⟨?_, ?_, ?_⟩, rfl, status.imp Eq.symm id⟩
  · intro unasked
    change session.bootAsked = false at unasked
    rw [asked] at unasked
    cases unasked
  · exact ready_iff_of_none (fun ready => by cases ready) unready
  · intro task also
    change task ∈ (session.setPhase number _).tasks at also
    rw [tasks, List.mem_singleton] at also
    rw [also]
    exact fits trivial

namespace Staged

theorem of_same (staged : session.Staged) (settings : after.settings = session.settings)
    (status : after.status = session.status)
    (guest? : after.guest?.isSome = session.guest?.isSome)
    (bootAsked : after.bootAsked = false -> session.bootAsked = false)
    (tasks : ∀ task ∈ after.tasks,
      task ∈ session.tasks ∨ task.phase.Fits session.settings session.status) :
    Advance session after := by
  refine ⟨⟨?_, ?_, ?_⟩, settings, Or.inl status⟩
  · intro unasked
    rw [status]
    exact staged.asked (bootAsked unasked)
  · rw [status, guest?]
    exact staged.ready
  · intro task mem
    rw [settings, status]
    rcases tasks task mem with old | fits
    · exact staged.fits task old
    · exact fits

theorem refl (staged : session.Staged) : Advance session session :=
  staged.of_same rfl rfl rfl id fun _ => Or.inl

theorem fits_front (staged : session.Staged) (front : session.tasks = ⟨number, phase⟩ :: rest) :
    phase.Fits session.settings session.status :=
  staged.fits ⟨number, phase⟩ (by rw [front]; exact List.mem_cons_self)

/-!
# Steps of boots
-/

theorem failBoot (staged : session.Staged) (line : session.InLine)
    (front : session.tasks = ⟨number, phase⟩ :: rest) (boot : phase.isBoot = true)
    (failure : Failure) : Advance session (session.failBoot number failure) := by
  have mem : ⟨number, phase⟩ ∈ session.tasks := by
    rw [front]
    exact List.mem_cons_self
  have none := line.guest?_of_isBoot mem boot
  have alone := line.alone_of_isBoot front boot
  rw [alone] at front
  rcases (staged.fits _ mem).eq_booting boot with ⟨stage, status⟩
  have tasks : (session.failBoot number failure).tasks = [] :=
    tasks_removeTask front fun other mem => by cases mem
  refine .of_next rfl ?_ (line.bootAsked_of_mem mem) ?_ ?_
  · rw [status]
    exact .broken stage _
  · exact ready_iff_of_none (fun ready => by cases ready) none
  · intro task also
    rw [tasks] at also
    cases also

theorem becomeReady (staged : session.Staged) (line : session.InLine) {work : Work γ}
    (front : session.tasks = ⟨number, .booting work []⟩ :: rest) (guest : γ) :
    Advance session (session.becomeReady number guest) := by
  have mem : ⟨number, .booting work []⟩ ∈ session.tasks := by
    rw [front]
    exact List.mem_cons_self
  have alone := line.alone_of_isBoot front rfl
  rw [line.becomeReady_eq front rfl]
  rw [alone] at front
  have status : session.status = .booting .loadingKeywords := (staged.fits _ mem).eq_installing
  refine .of_next rfl ?_ (line.bootAsked_of_mem mem) ⟨fun _ => rfl, fun _ => rfl⟩ ?_
  · rw [status]
    exact .ready
  · have none : (session.removeTask number).tasks = [] :=
      tasks_removeTask front fun other mem => by cases mem
    intro task also
    change task ∈ (session.removeTask number).tasks at also
    rw [none] at also
    cases also

theorem followPlan (staged : session.Staged) (line : session.InLine) {work : Work γ}
    {plan : BootPlan} (front : session.tasks = ⟨number, .booting work plan⟩ :: rest) (guest : γ) :
    Advance session (session.followPlan number guest plan) := by
  have fits := staged.fits_front front
  -- What is left of the plan is known from the stage and from `Fits`.
  cases status : session.status with
  | booting stage =>
      rw [status] at fits
      cases fits with
      | binding _ script =>
          exact line.followPlan_cons front rfl (Or.inl status) (fun made => .overriding made script)
            guest
      | overriding _ script =>
          refine line.followPlan_cons front rfl (Or.inr ?_) (fun made => .installing made) guest
          rw [status]
          exact .loadingKeywords
      | installing _ => exact staged.becomeReady line front guest
  | _ =>
      rw [status] at fits
      cases fits

theorem workOn (staged : session.Staged) (work : Work γ)
    (fits : phase.Fits session.settings session.status) :
    Advance session ((session.workOn number work).1.setPhase number phase) := by
  rcases session.workOn_eq number work with ⟨input, notes, eq⟩
  rw [eq]
  refine staged.of_same rfl rfl rfl id ?_
  intro task mem
  rcases mem_tasks_setPhase mem with old | same
  · exact Or.inl old
  · rw [same]
    exact Or.inr fits

/-!
# Steps of runs
-/

theorem startRun (staged : session.Staged) {source : String}
    (found : session.phase? number = some (.queued source)) (guest : γ) :
    Advance session (session.startRun number source guest) := by
  have ready := (staged.fits _ (mem_tasks_of_phase? found)).eq_ready rfl
  refine staged.of_same rfl rfl rfl id ?_
  intro task mem
  rcases mem_tasks_setPhase mem with old | same
  · exact Or.inl old
  · rw [same, ready]
    exact Or.inr (.running trivial)

theorem of_fewer (staged : session.Staged) (settings : after.settings = session.settings)
    (status : after.status = session.status)
    (guest? : after.guest?.isSome = session.guest?.isSome)
    (bootAsked : after.bootAsked = session.bootAsked) {keep : Task γ -> Bool}
    (tasks : after.tasks = session.tasks.filter keep) : Advance session after := by
  refine staged.of_same settings status guest? (by rw [bootAsked]; exact id) ?_
  intro task mem
  rw [tasks] at mem
  exact Or.inl (List.mem_filter.1 mem).1

theorem endRun (staged : session.Staged) (line : session.InLine)
    (mem : ⟨number, phase⟩ ∈ session.tasks) (run : phase.isBoot = false)
    (result : Except Failure Unit) (guest : γ) :
    Advance session (session.endRun number result guest) := by
  have ready := line.guest?_of_not_isBoot mem run
  cases result with
  | ok done => exact staged.of_fewer rfl rfl ready.symm rfl rfl
  | error failure => exact staged.of_fewer rfl rfl ready.symm rfl rfl

theorem tick (staged : session.Staged) (line : session.InLine) (task : Nat) :
    Advance session (session.tick task) := by
  have ticked := session.ticked task
  generalize session.tick task = after at ticked ⊢
  cases ticked with
  | rests => exact staged.refl
  | works found works =>
      have fits := staged.fits _ (mem_tasks_of_phase? found)
      exact staged.workOn _ (fits.withWork (session.made_workOn task (fits.made works)))
  | bootFails found =>
      rcases line.front_of_mem (mem_tasks_of_phase? found) rfl with ⟨rest, front⟩
      exact staged.failBoot line front rfl _
  | bootGoesOn found =>
      rcases line.front_of_mem (mem_tasks_of_phase? found) rfl with ⟨rest, front⟩
      exact staged.followPlan line front _
  | runStarts found _ _ => exact staged.startRun found _
  | runEnds found => exact staged.endRun line (mem_tasks_of_phase? found) rfl _ _

/-!
# Operations
-/

theorem boot (staged : session.Staged) (line : session.InLine) :
    Advance session (session.newTask beginBoot) := by
  cases asked : session.bootAsked with
  | true =>
      rw [boot_of_asked asked]
      exact staged.of_same rfl rfl rfl id fun _ => Or.inl
  | false =>
      rcases line.asked asked with ⟨none, unready⟩
      have idle := staged.asked asked
      cases wanted : session.keywordSource with
      | error failure =>
          rw [boot_of_error asked wanted]
          refine .of_next rfl ?_ rfl ?_ ?_
          · rw [idle]
            exact .refused _
          · exact ready_iff_of_none (fun ready => by cases ready) unready
          · intro task mem
            change task ∈ session.tasks.filter _ at mem
            rw [none] at mem
            cases mem
      | ok source =>
          rw [boot_of_ok asked wanted]
          refine .of_next rfl ?_ rfl ?_ ?_
          · rw [idle]
            exact .loadingRuntime
          · exact ready_iff_of_none (fun ready => by cases ready) unready
          · intro task mem
            change task ∈ session.tasks ++ [_] at mem
            rw [none, List.nil_append, List.mem_singleton] at mem
            rw [mem]
            exact .loading source

theorem takeGuest (staged : session.Staged) (line : session.InLine)
    (result : Except Failure γ) : Advance session (session.takeGuest result) := by
  unfold Session.takeGuest
  cases found : session.loading? with
  | none => exact staged.refl
  | some waiting =>
      rcases waiting with ⟨number, source⟩
      have mem := mem_tasks_of_loading? found
      rcases line.front_of_mem mem rfl with ⟨rest, front⟩
      cases result with
      | error failure => exact staged.failBoot line front rfl failure
      | ok guest =>
          have unready := line.guest?_of_isBoot mem rfl
          have alone := line.alone_of_isBoot front rfl
          rw [alone] at front
          have status : session.status = .booting .loadingRuntime := (staged.fits _ mem).eq_loading
          refine .of_next rfl ?_ (line.bootAsked_of_mem mem) ?_ ?_
          · rw [status]
            exact .fetchingKeywords
          · exact ready_iff_of_none (fun ready => by cases ready) unready
          · intro task also
            change task ∈ (session.setPhase number _).tasks at also
            rw [tasks_setPhase front (fun other mem => by cases mem), List.mem_singleton] at also
            rw [also]
            exact .reading source guest

theorem takeScript (staged : session.Staged) (line : session.InLine)
    (result : Except Failure String) : Advance session (session.takeScript result) := by
  unfold Session.takeScript
  cases found : session.reading? with
  | none => exact staged.refl
  | some waiting =>
      rcases waiting with ⟨number, source, guest⟩
      have mem := mem_tasks_of_reading? found
      rcases line.front_of_mem mem rfl with ⟨rest, front⟩
      cases result with
      | error failure => exact staged.failBoot line front rfl failure
      | ok script =>
          have status : session.status = .booting .fetchingKeywords :=
            (staged.fits _ mem).eq_reading
          refine line.followPlan_cons front rfl (Or.inr ?_) (fun made => .binding made script) guest
          rw [status]
          exact .injectingBridges

theorem run (staged : session.Staged) (source : String) :
    Advance session (session.newTask fun session task => session.beginRun task source) := by
  dsimp only [newTask]
  by_cases ready : session.isReady = true
  · have queued : { session with nextTask := session.nextTask + 1 }.isReady = true := ready
    rw [beginRun_of_ready queued]
    refine staged.of_same rfl rfl rfl id ?_
    intro task mem
    rcases List.mem_append.1 mem with old | new
    · exact Or.inl old
    · rw [List.mem_singleton] at new
      rw [new, staged.ready.2 ready]
      exact Or.inr (.queued source)
  · have refused : ¬ { session with nextTask := session.nextTask + 1 }.isReady = true := ready
    rw [beginRun_of_not_ready refused]
    exact staged.of_same rfl rfl rfl id fun _ => Or.inl

theorem cancel (staged : session.Staged) (line : session.InLine) (task : Nat) :
    Advance session (session.cancel task) := by
  rw [Session.cancel]
  cases found : session.phase? task with
  | none => exact staged.refl
  | some phase =>
      have mem := mem_tasks_of_phase? found
      cases phase with
      | loading source => exact staged.of_fewer rfl rfl rfl rfl rfl
      | reading source guest => exact staged.of_fewer rfl rfl rfl rfl rfl
      | queued source => exact staged.of_fewer rfl rfl rfl rfl rfl
      | booting work plan =>
          rcases session.abandon_eq work with ⟨input, eq⟩
          simp only [dropTask]
          rw [eq]
          exact staged.of_fewer rfl rfl rfl rfl rfl
      | running work =>
          have ready := line.guest?_of_not_isBoot mem rfl
          rcases session.abandon_eq work with ⟨input, eq⟩
          simp only [dropTask]
          rw [eq]
          exact staged.of_fewer rfl rfl ready.symm rfl rfl

theorem apply (staged : session.Staged) (line : session.InLine) (operation : Operation γ) :
    Advance session (session.apply operation) := by
  cases operation with
  | boot => exact staged.boot line
  | loaded result => exact staged.takeGuest line result
  | scriptRead result => exact staged.takeScript line result
  | run source => exact staged.run source
  | cancel task => exact staged.cancel line task
  | _ => exact staged.of_same rfl rfl rfl id fun _ => Or.inl

theorem move (staged : session.Staged) (line : session.InLine) (move : Move γ) :
    Advance session (session.move move) := by
  cases move with
  | operation operation => exact staged.apply line operation
  | tick task => exact staged.tick line task

end Staged

/-!
# Any number of moves
-/

/-- The tasks stand in order, and all have to do what the status announces. -/
structure Regular (session : Session γ) : Prop where
  orderly : session.Orderly
  staged : session.Staged

theorem regular_start (abilities : Guest Unit γ) (addresses : Keywords.AddressReader)
    (settings : Settings) (names : Calls.Names) :
    (start abilities addresses settings names).Regular where
  orderly := orderly_start abilities addresses settings names
  staged := staged_start abilities addresses settings names

namespace Regular

theorem advance (regular : session.Regular) (move : Move γ) :
    Advance session (session.move move) :=
  regular.staged.move regular.orderly.line move

theorem move (regular : session.Regular) (move : Move γ) : (session.move move).Regular where
  orderly := regular.orderly.move move
  staged := (regular.advance move).staged

theorem moves (regular : session.Regular) (list : List (Move γ)) :
    (session.moves list).Regular := by
  induction list generalizing session with
  | nil => exact regular
  | cons first rest ih => exact ih (regular.move first)

theorem settings_moves (regular : session.Regular) (list : List (Move γ)) :
    (session.moves list).settings = session.settings := by
  induction list generalizing session with
  | nil => rfl
  | cons first rest ih => exact (ih (regular.move first)).trans (regular.advance first).settings

end Regular

end Session
end HangulConsole
