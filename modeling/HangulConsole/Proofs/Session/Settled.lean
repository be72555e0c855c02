import HangulConsole.Proofs.Session.Growth
import HangulConsole.Proofs.Session.Rest

/-!
# Settled sessions

When no task can go on, the run control and the input control tell how the session
stands: a ready session has a run that is not over exactly if its run control is off, and
exactly if its input control waits for a line, which is then for the oldest of the runs.
-/

namespace HangulConsole
namespace Session

variable {γ : Type} {session : Session γ} {number : Nat} {phase : Phase γ} {rest : List (Task γ)}

def runs (session : Session γ) : List (Task γ) :=
  session.tasks.filter fun task => !task.phase.isBoot

/-- The controls tell how a session stands whose tasks cannot go on. -/
structure Settled (session : Session γ) : Prop where
  /-- A ready session has a run that is not over exactly if no other would start at once, and
  exactly if its line input waits, which is then for the oldest run. -/
  ready : session.isReady = true ->
    (session.runs ≠ [] ↔ session.runEnabled = false) ∧
      (session.runs ≠ [] ↔ session.input.isWaiting = true) ∧
      ∀ request, session.input.waiting? = some request ->
        ∃ number guest resume,
          ⟨number, .running (.asking (.waiting request.number) guest resume)⟩ ∈ session.runs ∧
            ∀ other ∈ session.runs, number ≤ other.number
  /-- Before that there are no runs, and only the boot can wait for a line, in a call of its
  guest. -/
  unready : session.isReady = false ->
    session.runs = [] ∧ session.runEnabled = false ∧
      ∀ request, session.input.waiting? = some request ->
        ∃ number guest resume plan, session.tasks =
          [⟨number, .booting (.asking (.waiting request.number) guest resume) plan⟩]
  control : session.input.Controlled

/-- The tasks of a session always get to a point where none can go on, and whenever they are there,
in whatever order they got there, the controls tell how the session stands. -/
structure Settles (session : Session γ) : Prop where
  rests : ∀ list, GoesOnTo (session.moves list) (session.moves list).settle ∧
    (session.moves list).settle.AtRest
  settled : ∀ list, (session.moves list).AtRest -> (session.moves list).Settled

/-!
# Runs and boots
-/

theorem InLine.runs_of_ready (line : session.InLine) (ready : session.isReady = true) :
    session.runs = session.tasks := by
  rw [runs, List.filter_eq_self]
  intro task mem
  rw [line.isBoot task mem, ← Option.not_isSome, Bool.not_not]
  exact ready

theorem InLine.runs_of_not_ready (line : session.InLine) (unready : session.isReady = false) :
    session.runs = [] := by
  rw [runs, List.filter_eq_nil_iff]
  intro task mem
  rw [line.isBoot task mem, ← Option.not_isSome, Bool.not_not]
  exact fun ready => Bool.false_ne_true (unready.symm.trans ready)

theorem InLine.runEnabled_of_ready (line : session.InLine)
    (front : session.tasks = ⟨number, phase⟩ :: rest) (ready : session.isReady = true) :
    session.runEnabled = !phase.isRunning := by
  rw [runEnabled, ready, line.running_front front, Bool.true_and]

theorem runEnabled_of_not_ready (unready : session.isReady = false) :
    session.runEnabled = false := by
  rw [runEnabled, unready, Bool.false_and]

/-!
# Sessions at rest
-/

theorem Orderly.settled_of_nil (orderly : session.Orderly) (control : session.input.Controlled)
    (none : session.tasks = []) : session.Settled := by
  have runs : session.runs = [] := by rw [runs, none]; rfl
  have idle : session.input.waiting? = Option.none :=
    orderly.idle_of_closed (by rw [ticket, none])
  have stands : session.running = false := by rw [orderly.line.running, none]; rfl
  have unasked (request : Request) : session.input.waiting? ≠ some request := by
    rw [idle]
    exact fun same => by cases same
  constructor
  · intro ready
    refine ⟨?_, ?_, fun request waits => absurd waits (unasked request)⟩
    · rw [runs, runEnabled, ready, stands]
      simp
    · rw [runs, LineInput.isWaiting_of_idle idle]
      simp
  · intro unready
    exact ⟨runs, runEnabled_of_not_ready unready,
      fun request waits => absurd waits (unasked request)⟩
  · exact control

theorem Orderly.settled_of_boot (orderly : session.Orderly) (control : session.input.Controlled)
    (front : session.tasks = ⟨number, phase⟩ :: rest) (boot : phase.isBoot = true)
    (blocked : Blocked session phase) : session.Settled := by
  have line := orderly.line
  have unready : session.isReady = false := by
    rw [isReady, line.guest?_of_isBoot (by rw [front]; exact List.mem_cons_self) boot]
    rfl
  have alone := line.alone_of_isBoot front boot
  constructor
  · intro ready
    rw [unready] at ready
    cases ready
  · intro _
    refine ⟨line.runs_of_not_ready unready, runEnabled_of_not_ready unready, ?_⟩
    intro request waits
    cases blocked with
    | running waitsFor => cases boot
    | loading source =>
        rw [orderly.idle_of_closed (by rw [ticket_of_front front]; rfl)] at waits
        cases waits
    | reading source guest =>
        rw [orderly.idle_of_closed (by rw [ticket_of_front front]; rfl)] at waits
        cases waits
    | booting waitsFor =>
        have same := orderly.number_eq_of_front front rfl waits
        rw [same, alone] at front
        exact ⟨_, _, _, _, front⟩
  · exact control

theorem Orderly.settled_of_run {request : Nat} {guest : γ}
    {resume : Except String String -> Activity Unit γ} (orderly : session.Orderly)
    (control : session.input.Controlled)
    (front : session.tasks = ⟨number, .running (.asking (.waiting request) guest resume)⟩ :: rest)
    (waits : session.input.waitsFor request = true) : session.Settled := by
  have line := orderly.line
  have ready : session.isReady = true :=
    line.guest?_of_not_isBoot (by rw [front]; exact List.mem_cons_self) rfl
  have runs := (line.runs_of_ready ready).trans front
  rcases LineInput.waitsFor_iff.1 waits with ⟨asked, waiting, _⟩
  constructor
  · intro _
    refine ⟨?_, ?_, ?_⟩
    · rw [runs, line.runEnabled_of_ready front ready]
      simp [Phase.isRunning]
    · rw [runs, LineInput.isWaiting_of_waiting? waiting]
      simp
    · intro other waiting
      have same := orderly.number_eq_of_front front rfl waiting
      rw [runs, ← same]
      refine ⟨number, guest, resume, List.mem_cons_self, ?_⟩
      intro other mem
      rcases List.mem_cons.1 mem with rfl | later
      · exact Nat.le_refl _
      · exact Nat.le_of_lt (line.lt_of_mem front later)
  · intro unready
    rw [ready] at unready
    cases unready
  · exact control

theorem Regular.settled (regular : session.Regular) (control : session.input.Controlled)
    (rests : session.AtRest) : session.Settled := by
  have orderly := regular.orderly
  cases front : session.tasks with
  | nil => exact orderly.settled_of_nil control front
  | cons first others =>
      have blocked := rests.blocked regular front
      rcases first with ⟨number, phase⟩
      cases blocked with
      | loading source => exact orderly.settled_of_boot control front rfl (.loading source)
      | reading source guest =>
          exact orderly.settled_of_boot control front rfl (.reading source guest)
      | booting waits => exact orderly.settled_of_boot control front rfl (.booting waits)
      | running waits => exact orderly.settled_of_run control front waits

theorem Regular.settles (regular : session.Regular) (control : session.input.Controlled) :
    session.Settles where
  rests list := ⟨goesOnTo_settle _, (regular.moves list).atRest_settle⟩
  settled list rests :=
    (regular.moves list).settled (control.reaches (session.reaches_moves list)) rests

theorem Regular.atRest_steps (regular : session.Regular) (rests : session.AtRest)
    (operations : List (Operation γ)) : (session.steps operations).AtRest := by
  induction operations generalizing session with
  | nil => exact rests
  | cons operation later ih =>
      have applied := regular.move (.operation operation)
      exact ih (applied.goesOn (goesOnTo_settle _)) applied.atRest_settle

/-- Whatever the guest is and whatever was asked of a session, once its tasks have gone on as far
as they can, neither the run control nor the input control is stuck. -/
theorem settles_start (abilities : Guest Unit γ) (addresses : Keywords.AddressReader)
    (settings : Settings) (names : Calls.Names) :
    (start abilities addresses settings names).Settles ∧
      ∀ operations, ((start abilities addresses settings names).steps operations).AtRest ∧
        ((start abilities addresses settings names).steps operations).Settled := by
  have regular := regular_start abilities addresses settings names
  have settles := regular.settles LineInput.controlled_empty
  refine ⟨settles, fun operations => ?_⟩
  have rests := regular.atRest_steps (atRest_of_nil rfl) operations
  refine ⟨rests, ?_⟩
  rcases steps_eq_moves (start abilities addresses settings names) operations with ⟨list, same⟩
  rw [same] at rests ⊢
  exact settles.settled list rests

end Session
end HangulConsole
