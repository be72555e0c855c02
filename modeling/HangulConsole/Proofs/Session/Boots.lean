import HangulConsole.Proofs.Session.Outcomes
import HangulConsole.Proofs.Session.Rest

/-!
# The boot of a session

A session boots once, and its guest is called for the boot before it is called for any
run.  A move leaves the boot where it stands, takes it to its next call, or ends it; what
it can do is said here once for all moves.
-/

namespace HangulConsole

def Deed.isCall : Deed -> Bool
  | load | bind _ | exec _ => true
  | wrote _ | asked _ | returned _ | refused _ => false

theorem Demand.isCall_deed (demand : Demand) : demand.deed.isCall = true := by
  cases demand with
  | bind name => rfl
  | exec script => rfl

namespace Session

variable {γ : Type} {session after : Session γ} {number : Nat} {phase : Phase γ}
  {rest : List (Task γ)}

def calls (session : Session γ) : List Deed :=
  (session.notes.map Note.deed).filter Deed.isCall

def boots (session : Session γ) : List (Task γ) :=
  session.tasks.filter fun task => task.phase.isBoot

/-- Why a boot breaks in a move: it does not know its script, its guest is not made, its script is
not read, or its guest fails in what it was called to do last. -/
inductive Breaks (session : Session γ) (task : Nat) : Move γ -> Failure -> Prop where
  | source {failure : Failure} :
      session.bootAsked = false -> session.keywordSource = .error failure ->
      task = session.nextTask -> Breaks session task (.operation .boot) failure
  | loader {source : Keywords.Source} {failure : Failure} :
      session.phase? task = some (.loading source) ->
      Breaks session task (.operation (.loaded (.error failure))) failure
  | script {source : Keywords.Source} {guest : γ} {failure : Failure} :
      session.phase? task = some (.reading source guest) ->
      Breaks session task (.operation (.scriptRead (.error failure))) failure
  | guest {failure : Failure} {guest : γ} {plan : BootPlan} :
      session.phase? task = some (.booting (.going (.ended (.error failure) guest)) plan) ->
      Breaks session task (.tick task) failure

structure SameBoot (session after : Session γ) : Prop where
  status : after.status = session.status
  isReady : after.isReady = session.isReady
  bootAsked : after.bootAsked = session.bootAsked

/-- What a move does to the boot of a session and to the calls of its guest. -/
inductive BootMove (session : Session γ) : Move γ -> Session γ -> Prop where
  | rests {move : Move γ} {after : Session γ} :
      SameBoot session after -> after.boots = session.boots -> after.calls = session.calls ->
      BootMove session move after
  | works {move : Move γ} {after : Session γ} {number : Nat} {phase : Phase γ} (work : Work γ) :
      SameBoot session after -> session.boots = [⟨number, phase⟩] ->
      after.boots = [⟨number, phase.withWork work⟩] -> after.calls = session.calls ->
      BootMove session move after
  | runStarts {after : Session γ} {number : Nat} {source : String} :
      SameBoot session after -> session.isReady = true ->
      session.phase? number = some (.queued source) -> after.boots = [] ->
      after.calls = session.calls ++ [.exec (session.prepare source).2.wrapped] ->
      BootMove session (.tick number) after
  | begins {after : Session γ} {source : Keywords.Source} :
      session.bootAsked = false -> session.keywordSource = .ok source ->
      after.boots = [⟨session.nextTask, .loading source⟩] ->
      after.calls = session.calls ++ [.load] -> after.status = .booting .loadingRuntime ->
      after.isReady = false -> after.bootAsked = true -> BootMove session (.operation .boot) after
  | makes {after : Session γ} {number : Nat} {source : Keywords.Source} {guest : γ} :
      session.loading? = some (number, source) -> session.boots = [⟨number, .loading source⟩] ->
      after.boots = [⟨number, .reading source guest⟩] -> after.calls = session.calls ->
      after.status = .booting .fetchingKeywords -> after.isReady = false ->
      after.bootAsked = true -> BootMove session (.operation (.loaded (.ok guest))) after
  | reads {after : Session γ} {number : Nat} {source : Keywords.Source} {guest : γ}
      {script : String} {activity : Activity Unit γ} :
      session.reading? = some (number, source, guest) ->
      session.boots = [⟨number, .reading source guest⟩] ->
      after.boots = [⟨number, .booting (.going activity)
        [(.injectingBridges, .exec (Keywords.inputOverride session.settings.bridge)),
          (.loadingKeywords, .exec script)]⟩] ->
      after.calls = session.calls ++ [.bind session.settings.bridge] ->
      after.status = .booting .injectingBridges -> after.isReady = false ->
      after.bootAsked = true -> BootMove session (.operation (.scriptRead (.ok script))) after
  | goesOn {after : Session γ} {number : Nat} {guest : γ} {stage : BootStage} {demand : Demand}
      {plan : BootPlan} {activity : Activity Unit γ} :
      session.phase? number =
        some (.booting (.going (.ended (.ok ()) guest)) ((stage, demand) :: plan)) ->
      session.boots =
        [⟨number, .booting (.going (.ended (.ok ()) guest)) ((stage, demand) :: plan)⟩] ->
      after.boots = [⟨number, .booting (.going activity) plan⟩] ->
      after.calls = session.calls ++ [demand.deed] -> after.status = .booting stage ->
      after.isReady = false -> after.bootAsked = true -> BootMove session (.tick number) after
  | completes {after : Session γ} {number : Nat} {guest : γ} :
      session.phase? number = some (.booting (.going (.ended (.ok ()) guest)) []) ->
      session.boots = [⟨number, .booting (.going (.ended (.ok ()) guest)) []⟩] ->
      after.boots = [] -> after.calls = session.calls -> after.status = .ready ->
      after.isReady = true -> after.bootAsked = true -> BootMove session (.tick number) after
  | unsourced {after : Session γ} {failure : Failure} :
      Breaks session session.nextTask (.operation .boot) failure -> session.boots = [] ->
      after.boots = [] -> after.calls = session.calls ->
      after = ({ session with nextTask := session.nextTask + 1, bootAsked := true }).failBoot
        session.nextTask failure ->
      after.isReady = false -> BootMove session (.operation .boot) after
  | fails {move : Move γ} {after : Session γ} {number : Nat} {phase : Phase γ}
      {failure : Failure} :
      Breaks session number move failure -> session.boots = [⟨number, phase⟩] ->
      after.boots = [] -> after.calls = session.calls ->
      after = session.failBoot number failure -> after.isReady = false ->
      after.bootAsked = true -> BootMove session move after
  | givenUp {after : Session γ} {number : Nat} {phase : Phase γ} :
      session.phase? number = some phase -> session.boots = [⟨number, phase⟩] ->
      after.boots = [] -> after.calls = session.calls -> after.status = session.status ->
      after.isReady = false -> after.bootAsked = true ->
      BootMove session (.operation (.cancel number)) after

/-!
# Calls
-/

theorem calls_append {task : Nat} {deed : Deed} {status : Status}
    (notes : after.notes = session.notes ++ [⟨task, deed, status⟩]) (call : deed.isCall = true) :
    after.calls = session.calls ++ [deed] := by
  rw [calls, calls, notes, List.map_append, List.filter_append, List.map_singleton,
    List.filter_cons_of_pos call, List.filter_nil]

theorem calls_append_of_not {task : Nat} {deed : Deed} {status : Status}
    (notes : after.notes = session.notes ++ [⟨task, deed, status⟩]) (other : deed.isCall = false) :
    after.calls = session.calls := by
  rw [calls, calls, notes, List.map_append, List.filter_append, List.map_singleton,
    List.filter_cons_of_neg (by rw [other]; exact Bool.false_ne_true), List.filter_nil,
    List.append_nil]

theorem calls_await (session : Session γ) (task : Nat) (ticket : LineInput.Ticket) (guest : γ)
    (resume : Except String String -> Activity Unit γ) :
    (session.await task ticket guest resume).1.calls = session.calls := by
  rw [await]
  cases session.input.poll ticket with
  | mk input later =>
      rcases later with ⟨ticket, progress⟩
      cases progress with
      | answered line => exact calls_append_of_not rfl rfl
      | refused failure => exact calls_append_of_not rfl rfl
      | waiting => rfl
      | gone => rfl

theorem calls_workOn (session : Session γ) (task : Nat) (work : Work γ) :
    (session.workOn task work).1.calls = session.calls := by
  cases work with
  | asking ticket guest resume => exact session.calls_await task ticket guest resume
  | going activity =>
      cases activity with
      | ended result guest => rfl
      | deliver piece guest resume =>
          have noted : ((session.deliver piece).note task (.wrote piece)).calls =
              (session.deliver piece).calls := calls_append_of_not rfl rfl
          exact noted
      | call function arguments guest resume =>
          have noted : (session.note task (.asked arguments)).calls = session.calls :=
            calls_append_of_not rfl rfl
          exact (calls_await _ task _ guest resume).trans noted

/-!
# Boots
-/

theorem boots_of_tasks_nil (none : session.tasks = []) : session.boots = [] := by
  rw [boots, none]
  rfl

theorem boots_of_tasks_singleton (alone : session.tasks = [⟨number, phase⟩])
    (boot : phase.isBoot = true) : session.boots = [⟨number, phase⟩] := by
  rw [boots, alone]
  exact List.filter_cons_of_pos boot

theorem InLine.boots_of_ready (line : session.InLine) (ready : session.isReady = true) :
    session.boots = [] := by
  rw [boots, List.filter_eq_nil_iff]
  intro task mem
  rw [line.isBoot task mem, ← Option.not_isSome]
  rw [isReady] at ready
  rw [ready]
  exact Bool.false_ne_true

theorem InLine.tasks_of_isBoot (line : session.InLine) (mem : ⟨number, phase⟩ ∈ session.tasks)
    (boot : phase.isBoot = true) : session.tasks = [⟨number, phase⟩] := by
  have busy : phase.isQueued = false := by
    cases phase with
    | queued source => cases boot
    | _ => rfl
  rcases line.front_of_mem mem busy with ⟨rest, front⟩
  rw [front, line.alone_of_isBoot front boot]

theorem InLine.not_ready_of_isBoot (line : session.InLine) (mem : ⟨number, phase⟩ ∈ session.tasks)
    (boot : phase.isBoot = true) : session.isReady = false := by
  rw [isReady, line.guest?_of_isBoot mem boot]
  rfl

/-!
# Moves that leave the boot
-/

theorem sameBoot_refl (session : Session γ) : SameBoot session session :=
  ⟨rfl, rfl, rfl⟩

theorem InLine.rests_of_ready {move : Move γ} (line : session.InLine) (later : after.InLine)
    (ready : session.isReady = true) (same : SameBoot session after)
    (calls : after.calls = session.calls) : BootMove session move after := by
  refine .rests same ?_ calls
  rw [line.boots_of_ready ready, later.boots_of_ready (same.isReady.trans ready)]

theorem InLine.isReady_of_mem (line : session.InLine) (mem : ⟨number, phase⟩ ∈ session.tasks)
    (run : phase.isBoot = false) : session.isReady = true :=
  line.guest?_of_not_isBoot mem run

theorem sameBoot_workOn (session : Session γ) (task : Nat) (work : Work γ) :
    SameBoot session (session.workOn task work).1 := by
  rcases session.workOn_eq task work with ⟨input, notes, eq⟩
  rw [eq]
  exact ⟨rfl, rfl, rfl⟩

/-!
# Steps of tasks
-/

theorem Regular.bootMove_works {work : Work γ} (regular : session.Regular)
    (found : session.phase? number = some phase)
    (later : ((session.workOn number work).1.setPhase number
      (phase.withWork (session.workOn number work).2)).InLine) :
    BootMove session (.tick number) ((session.workOn number work).1.setPhase number
      (phase.withWork (session.workOn number work).2)) := by
  have line := regular.orderly.line
  have mem := mem_tasks_of_phase? found
  have worked := session.sameBoot_workOn number work
  have calls := session.calls_workOn number work
  have same : SameBoot session ((session.workOn number work).1.setPhase number
      (phase.withWork (session.workOn number work).2)) :=
    ⟨worked.status, worked.isReady, worked.bootAsked⟩
  cases boot : phase.isBoot with
  | false => exact line.rests_of_ready later (line.isReady_of_mem mem boot) same calls
  | true =>
      have alone := line.tasks_of_isBoot mem boot
      rcases session.workOn_eq number work with ⟨input, notes, eq⟩
      have tasks : ((session.workOn number work).1.setPhase number
          (phase.withWork (session.workOn number work).2)).tasks =
            [⟨number, phase.withWork (session.workOn number work).2⟩] := by
        have working : (session.workOn number work).1.tasks = [⟨number, phase⟩] := by
          rw [eq]
          exact alone
        exact tasks_setPhase working (fun other mem => by cases mem) _
      refine .works (session.workOn number work).2 same (boots_of_tasks_singleton alone boot) ?_
        calls
      exact boots_of_tasks_singleton tasks ((phase.isBoot_withWork _).trans boot)

theorem InLine.bootMove_failBoot {move : Move γ} {failure : Failure} (line : session.InLine)
    (mem : ⟨number, phase⟩ ∈ session.tasks) (boot : phase.isBoot = true)
    (breaks : Breaks session number move failure) :
    BootMove session move (session.failBoot number failure) := by
  have alone := line.tasks_of_isBoot mem boot
  have gone : (session.failBoot number failure).tasks = [] :=
    tasks_removeTask alone (fun other mem => by cases mem)
  exact .fails breaks (boots_of_tasks_singleton alone boot) (boots_of_tasks_nil gone) rfl rfl
    (line.not_ready_of_isBoot mem boot) (line.bootAsked_of_mem mem)

theorem InLine.bootMove_followPlan {guest : γ} {plan : BootPlan} (line : session.InLine)
    (found : session.phase? number = some (.booting (.going (.ended (.ok ()) guest)) plan)) :
    BootMove session (.tick number) (session.followPlan number guest plan) := by
  have mem := mem_tasks_of_phase? found
  have alone := line.tasks_of_isBoot mem rfl
  have boots := boots_of_tasks_singleton alone rfl
  have asked := line.bootAsked_of_mem mem
  cases plan with
  | nil =>
      have ready := line.becomeReady_eq alone rfl guest
      have gone : (session.becomeReady number guest).tasks = [] := by
        rw [ready]
        exact tasks_removeTask alone (fun other mem => by cases mem)
      change BootMove session (.tick number) (session.becomeReady number guest)
      refine .completes found boots (boots_of_tasks_nil gone) ?_ ?_ ?_ ?_
      · rw [ready]
        rfl
      · rw [ready]
        rfl
      · rw [ready]
        rfl
      · rw [ready]
        exact asked
  | cons next plan =>
      rcases next with ⟨stage, demand⟩
      have tasks : (session.followPlan number guest ((stage, demand) :: plan)).tasks =
          [⟨number, .booting (.going (session.activityOf guest demand)) plan⟩] :=
        tasks_setPhase alone (fun other mem => by cases mem) _
      refine .goesOn found boots (boots_of_tasks_singleton tasks rfl) ?_ rfl
        (line.not_ready_of_isBoot mem rfl) asked
      exact calls_append rfl demand.isCall_deed

theorem Regular.bootMove_tick (regular : session.Regular) (task : Nat) :
    BootMove session (.tick task) (session.tick task) := by
  have line := regular.orderly.line
  have later := (regular.move (.tick task)).orderly.line
  change (session.tick task).InLine at later
  have ticked := session.ticked task
  generalize session.tick task = after at ticked later ⊢
  cases ticked with
  | rests => exact .rests session.sameBoot_refl rfl rfl
  | works found _ => exact regular.bootMove_works found later
  | bootFails found => exact line.bootMove_failBoot (mem_tasks_of_phase? found) rfl (.guest found)
  | bootGoesOn found => exact line.bootMove_followPlan found
  | runStarts found there turn =>
      have ready := line.isReady_of_mem (mem_tasks_of_phase? found) rfl
      exact .runStarts ⟨rfl, rfl, rfl⟩ ready found (later.boots_of_ready ready)
        (calls_append rfl rfl)
  | @runEnds result guest found =>
      have ready := line.isReady_of_mem (mem_tasks_of_phase? found) rfl
      cases result with
      | ok done => exact line.rests_of_ready later ready ⟨rfl, ready.symm, rfl⟩ rfl
      | error failure => exact line.rests_of_ready later ready ⟨rfl, ready.symm, rfl⟩ rfl

/-!
# Operations
-/

theorem Regular.bootMove_boot (regular : session.Regular) :
    BootMove session (.operation .boot) (session.newTask beginBoot) := by
  cases asked : session.bootAsked with
  | true =>
      rw [boot_of_asked asked]
      exact .rests ⟨rfl, rfl, rfl⟩ rfl rfl
  | false =>
      rcases regular.orderly.line.asked asked with ⟨none, unready⟩
      have notReady : session.isReady = false := by
        rw [isReady, unready]
        rfl
      cases wanted : session.keywordSource with
      | error failure =>
          rw [boot_of_error asked wanted]
          refine .unsourced (.source asked wanted rfl) (boots_of_tasks_nil none) ?_ rfl rfl notReady
          refine boots_of_tasks_nil ?_
          change session.tasks.filter _ = []
          rw [none]
          rfl
      | ok source =>
          rw [boot_of_ok asked wanted]
          refine .begins asked wanted ?_ (calls_append rfl rfl) rfl notReady rfl
          refine boots_of_tasks_singleton ?_ rfl
          change session.tasks ++ [_] = [_]
          rw [none, List.nil_append]

theorem Regular.bootMove_takeGuest (regular : session.Regular) (result : Except Failure γ) :
    BootMove session (.operation (.loaded result)) (session.takeGuest result) := by
  have line := regular.orderly.line
  unfold takeGuest
  cases found : session.loading? with
  | none => exact .rests session.sameBoot_refl rfl rfl
  | some waiting =>
      rcases waiting with ⟨number, source⟩
      have mem := mem_tasks_of_loading? found
      have alone := line.tasks_of_isBoot mem rfl
      cases result with
      | error failure => exact line.bootMove_failBoot mem rfl (.loader (phase?_of_front alone))
      | ok guest =>
          have tasks : (({ session with status := .booting .fetchingKeywords }).setPhase number
              (.reading source guest)).tasks = [⟨number, .reading source guest⟩] :=
            tasks_setPhase alone (fun other mem => by cases mem) _
          exact .makes found (boots_of_tasks_singleton alone rfl)
            (boots_of_tasks_singleton tasks rfl) rfl rfl (line.not_ready_of_isBoot mem rfl)
            (line.bootAsked_of_mem mem)

theorem Regular.bootMove_takeScript (regular : session.Regular) (result : Except Failure String) :
    BootMove session (.operation (.scriptRead result)) (session.takeScript result) := by
  have line := regular.orderly.line
  unfold takeScript
  cases found : session.reading? with
  | none => exact .rests session.sameBoot_refl rfl rfl
  | some waiting =>
      rcases waiting with ⟨number, source, guest⟩
      have mem := mem_tasks_of_reading? found
      have alone := line.tasks_of_isBoot mem rfl
      cases result with
      | error failure => exact line.bootMove_failBoot mem rfl (.script (phase?_of_front alone))
      | ok script =>
          have tasks :
              (session.followPlan number guest (bootPlan session.settings script)).tasks = _ :=
            tasks_setPhase alone (fun other mem => by cases mem) _
          exact .reads found (boots_of_tasks_singleton alone rfl)
            (boots_of_tasks_singleton tasks rfl) (calls_append rfl rfl) rfl
            (line.not_ready_of_isBoot mem rfl) (line.bootAsked_of_mem mem)

theorem move_run_of_not_ready (unready : session.isReady = false) (source : String) :
    session.move (.operation (.run source)) =
      { session with
        input := { session.input with
          transcript := session.transcript.appendLine session.messages.notReady }
        nextTask := session.nextTask + 1
        finished := session.finished ++ [⟨session.nextTask, .error .notReady⟩] } := by
  have refused : ¬ { session with nextTask := session.nextTask + 1 }.isReady = true := by
    change ¬ session.isReady = true
    rw [unready]
    exact Bool.false_ne_true
  change ({ session with nextTask := session.nextTask + 1 }).beginRun session.nextTask source = _
  rw [beginRun_of_not_ready refused]
  rfl

theorem Regular.bootMove_run (regular : session.Regular) (source : String)
    (later : (session.newTask fun session task => session.beginRun task source).InLine) :
    BootMove session (.operation (.run source))
      (session.newTask fun session task => session.beginRun task source) := by
  dsimp only [newTask] at later ⊢
  by_cases ready : session.isReady = true
  · have queued : { session with nextTask := session.nextTask + 1 }.isReady = true := ready
    rw [beginRun_of_ready queued] at later ⊢
    exact regular.orderly.line.rests_of_ready later ready ⟨rfl, rfl, rfl⟩ rfl
  · have refused : ¬ { session with nextTask := session.nextTask + 1 }.isReady = true := ready
    rw [beginRun_of_not_ready refused]
    exact .rests ⟨rfl, rfl, rfl⟩ rfl rfl

theorem InLine.bootMove_removeBoot {input : LineInput} (line : session.InLine)
    (found : session.phase? number = some phase) (boot : phase.isBoot = true) :
    BootMove session (.operation (.cancel number)) ({ session with input }.removeTask number) := by
  have mem := mem_tasks_of_phase? found
  have alone := line.tasks_of_isBoot mem boot
  have gone : ({ session with input }.removeTask number).tasks = [] :=
    tasks_removeTask alone (fun other mem => by cases mem)
  exact .givenUp found (boots_of_tasks_singleton alone boot) (boots_of_tasks_nil gone) rfl rfl
    (line.not_ready_of_isBoot mem boot) (line.bootAsked_of_mem mem)

theorem Regular.bootMove_cancel (regular : session.Regular) (task : Nat)
    (later : (session.cancel task).InLine) :
    BootMove session (.operation (.cancel task)) (session.cancel task) := by
  have line := regular.orderly.line
  rw [cancel] at later ⊢
  cases found : session.phase? task with
  | none => exact .rests session.sameBoot_refl rfl rfl
  | some phase =>
      rw [found] at later
      have mem := mem_tasks_of_phase? found
      cases phase with
      | loading source => exact line.bootMove_removeBoot found rfl
      | reading source guest => exact line.bootMove_removeBoot found rfl
      | booting work plan =>
          rcases session.abandon_eq work with ⟨input, eq⟩
          simp only [dropTask]
          rw [eq]
          exact line.bootMove_removeBoot found rfl
      | queued source =>
          exact line.rests_of_ready later (line.isReady_of_mem mem rfl) ⟨rfl, rfl, rfl⟩ rfl
      | running work =>
          have ready := line.isReady_of_mem mem rfl
          rcases session.abandon_eq work with ⟨input, eq⟩
          simp only [dropTask] at later ⊢
          rw [eq] at later ⊢
          exact line.rests_of_ready later ready ⟨rfl, ready.symm, rfl⟩ rfl

theorem Regular.bootMove (regular : session.Regular) (move : Move γ) :
    BootMove session move (session.move move) := by
  have later := (regular.move move).orderly.line
  cases move with
  | tick task => exact regular.bootMove_tick task
  | operation operation =>
      cases operation with
      | boot => exact regular.bootMove_boot
      | loaded result => exact regular.bootMove_takeGuest result
      | scriptRead result => exact regular.bootMove_takeScript result
      | run source => exact regular.bootMove_run source later
      | cancel task => exact regular.bootMove_cancel task later
      | _ => exact .rests ⟨rfl, rfl, rfl⟩ rfl rfl

end Session
end HangulConsole
