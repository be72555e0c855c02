import HangulConsole.Proofs.Session.Stages

/-!
# The guest at work

Only the first task in line has the guest, and the line input serves that task alone.  So
one step of a guest at work writes a piece, makes a request, waits for the line that it
has asked for, or takes it; no call for a line is refused.
-/

namespace HangulConsole
namespace Session

open LineInput

variable {γ : Type} {session after : Session γ} {number : Nat} {phase : Phase γ}
  {rest : List (Task γ)}

/-!
# The first task
-/

theorem phase?_of_front (front : session.tasks = ⟨number, phase⟩ :: rest) :
    session.phase? number = some phase := by
  simp [phase?, front]

theorem holds_of_front {request : Nat} {guest : γ}
    {resume : Except String String -> Activity Unit γ}
    (front : session.tasks = ⟨number, phase⟩ :: rest)
    (works : phase.work? = some (.asking (.waiting request) guest resume)) :
    CallTable.Holds ⟨session.input, [session.ticket]⟩ 0 request := by
  rw [ticket_of_work front works]
  rfl

theorem setPhase_self (front : session.tasks = ⟨number, phase⟩ :: rest)
    (distinct : ∀ other ∈ rest, other.number ≠ number) :
    session.setPhase number phase = session := by
  have tasks := (tasks_setPhase front distinct phase).trans front.symm
  change { session with tasks := (session.setPhase number phase).tasks } = session
  rw [tasks]

theorem Orderly.idle_of_closed (orderly : session.Orderly) (closed : session.ticket = .closed) :
    session.input.waiting? = none := by
  have serves := orderly.serves
  rw [closed] at serves
  rw [Option.eq_none_iff_forall_ne_some]
  intro request waits
  rcases serves.holder waits with ⟨slot, held⟩
  cases slot with
  | zero => cases held
  | succ slot => cases held

theorem Orderly.number_eq_of_front {request : Request} {found : Nat} {guest : γ}
    {resume : Except String String -> Activity Unit γ} (orderly : session.Orderly)
    (front : session.tasks = ⟨number, phase⟩ :: rest)
    (works : phase.work? = some (.asking (.waiting found) guest resume))
    (waits : session.input.waiting? = some request) : found = request.number := by
  have held := holds_of_front front works
  rcases orderly.serves.holder waits with ⟨slot, also⟩
  cases slot with
  | zero => exact held.number_eq also
  | succ slot => cases also

theorem Regular.front_of_waiting? {request : Request} (regular : session.Regular)
    (waits : session.input.waiting? = some request) :
    ∃ number phase guest resume rest, session.tasks = ⟨number, phase⟩ :: rest ∧
      phase.work? = some (.asking (.waiting request.number) guest resume) := by
  have orderly := regular.orderly
  have held : session.ticket ≠ .closed := by
    intro closed
    rw [orderly.idle_of_closed closed] at waits
    cases waits
  cases front : session.tasks with
  | nil => exact absurd (by rw [ticket, front]) held
  | cons first rest =>
      rcases first with ⟨number, phase⟩
      rw [ticket_of_front front, Phase.ticket] at held
      cases works : phase.work? with
      | none => rw [works] at held; exact absurd rfl held
      | some work =>
          cases work with
          | going activity => rw [works] at held; exact absurd rfl held
          | asking ticket guest resume =>
              rcases (regular.staged.fits_front front).made works with ⟨found, rfl⟩
              rw [orderly.number_eq_of_front front works waits] at works
              exact ⟨number, phase, guest, resume, rest, rfl, works⟩

/-!
# One step of the guest
-/

/-- One thing that a guest at work for a task does with its host, and what it has to do then. -/
inductive Exchange (session : Session γ) (task : Nat) : Work γ -> Session γ -> Work γ -> Prop where
  | rests {result : Except Failure Unit} {guest : γ} :
      Exchange session task (.going (.ended result guest)) session (.going (.ended result guest))
  | writes {piece : Piece} {guest : γ} {resume : Except String Unit -> Activity Unit γ} :
      Exchange session task (.going (.deliver piece guest resume))
        ((session.deliver piece).note task (.wrote piece)) (.going (resume (.ok ())))
  | asks {function : Unit} {arguments : List String} {guest : γ}
      {resume : Except String String -> Activity Unit γ} {input : LineInput} :
      Asked session.input (arguments.head?.getD "") input ->
      input.transcript = session.transcript.appendRaw (arguments.head?.getD "") ->
      Exchange session task (.going (.call function arguments guest resume))
        { session.note task (.asked arguments) with input }
        (.asking (.waiting session.input.nextNumber) guest resume)
  | waits {request : Nat} {guest : γ} {resume : Except String String -> Activity Unit γ} :
      session.input.waitsFor request = true ->
      Exchange session task (.asking (.waiting request) guest resume) session
        (.asking (.waiting request) guest resume)
  | takes {request : Nat} {guest : γ} {resume : Except String String -> Activity Unit γ}
      {line : String} :
      session.input.answer? request = some line ->
      Exchange session task (.asking (.waiting request) guest resume)
        (({ session with input := session.input.forget request }).note task (.returned line))
        (.going (resume (.ok line)))

theorem exchange_call (session : Session γ) (task : Nat) (idle : session.input.waiting? = none)
    (function : Unit) (arguments : List String) (guest : γ)
    (resume : Except String String -> Activity Unit γ) :
    Exchange session task (.going (.call function arguments guest resume))
      (session.workOn task (.going (.call function arguments guest resume))).1
      (session.workOn task (.going (.call function arguments guest resume))).2 := by
  have shown := transcript_ask_of_idle idle (arguments.head?.getD "")
  rcases ask_of_idle idle (arguments.head?.getD "") with ⟨input, asks, asked⟩
  rw [asks] at shown
  have polled : (session.note task (.asked arguments)).input.poll (.ofArguments arguments) =
      (input, .waiting session.input.nextNumber, .waiting) := asks
  rw [workOn, await, polled]
  exact .asks asked shown

theorem workOn_of_waits {request : Nat} (unanswered : session.input.answer? request = none)
    (waits : session.input.waitsFor request = true) (task : Nat) (guest : γ)
    (resume : Except String String -> Activity Unit γ) :
    session.workOn task (.asking (.waiting request) guest resume) =
      (session, .asking (.waiting request) guest resume) := by
  have polled : session.input.poll (.waiting request) =
      (session.input, .waiting request, .waiting) := by
    rw [poll, unanswered]
    exact if_pos waits
  rw [workOn, await, polled]

theorem workOn_of_answered {request : Nat} {line : String}
    (answered : session.input.answer? request = some line) (task : Nat) (guest : γ)
    (resume : Except String String -> Activity Unit γ) :
    session.workOn task (.asking (.waiting request) guest resume) =
      (({ session with input := session.input.forget request }).note task (.returned line),
        .going (resume (.ok line))) := by
  have polled : session.input.poll (.waiting request) =
      (session.input.forget request, .closed, .answered line) := by
    rw [poll, answered]
  rw [workOn, await, polled]

theorem Regular.exchange {work : Work γ} (regular : session.Regular)
    (front : session.tasks = ⟨number, phase⟩ :: rest) (works : phase.work? = some work) :
    Exchange session number work (session.workOn number work).1 (session.workOn number work).2 := by
  have orderly := regular.orderly
  cases work with
  | going activity =>
      cases activity with
      | ended result guest => exact .rests
      | deliver piece guest resume => exact .writes
      | call function arguments guest resume =>
          have idle := orderly.idle_of_closed (ticket_of_work front works)
          exact session.exchange_call number idle function arguments guest resume
  | asking ticket guest resume =>
      rcases (regular.staged.fits_front front).made works with ⟨request, rfl⟩
      rcases CallTable.Sound.waits_or_answered orderly.serves (holds_of_front front works) with
        ⟨waits, unanswered⟩ | ⟨_, line, answered⟩
      · rw [workOn_of_waits unanswered waits]
        exact .waits waits
      · rw [workOn_of_answered answered]
        exact .takes answered

/-!
# One step of the first task
-/

theorem tasks_tick_of_work {work : Work γ} (line : session.InLine)
    (front : session.tasks = ⟨number, phase⟩ :: rest) (works : phase.work? = some work)
    (unended : ∀ result guest, work ≠ .going (.ended result guest)) :
    (session.tick number).tasks =
      ⟨number, phase.withWork (session.workOn number work).2⟩ :: rest := by
  rw [tick_of_work (phase?_of_front front) works unended]
  rcases session.workOn_eq number work with ⟨input, notes, eq⟩
  rw [eq]
  exact tasks_setPhase front (fun _ => line.number_ne_of_mem front) _

theorem input_tick_of_work {work : Work γ} (front : session.tasks = ⟨number, phase⟩ :: rest)
    (works : phase.work? = some work)
    (unended : ∀ result guest, work ≠ .going (.ended result guest)) :
    (session.tick number).input = (session.workOn number work).1.input := by
  rw [tick_of_work (phase?_of_front front) works unended]
  rfl

theorem tasks_tick_of_deliver {piece : Piece} {guest : γ}
    {resume : Except String Unit -> Activity Unit γ} (line : session.InLine)
    (front : session.tasks = ⟨number, phase⟩ :: rest)
    (works : phase.work? = some (.going (.deliver piece guest resume))) :
    (session.tick number).tasks =
      ⟨number, phase.withWork (.going (resume (.ok ())))⟩ :: rest :=
  tasks_tick_of_work line front works (fun _ _ same => by cases same)

theorem tasks_tick_of_call {function : Unit} {arguments : List String} {guest : γ}
    {resume : Except String String -> Activity Unit γ} (regular : session.Regular)
    (front : session.tasks = ⟨number, phase⟩ :: rest)
    (works : phase.work? = some (.going (.call function arguments guest resume))) :
    ∃ request, (session.tick number).tasks =
        ⟨number, phase.withWork (.asking (.waiting request) guest resume)⟩ :: rest ∧
      (session.tick number).input.waitsFor request = true := by
  have exchange := regular.exchange front works
  have tasks := tasks_tick_of_work regular.orderly.line front works (fun _ _ same => by cases same)
  have input := input_tick_of_work front works (fun _ _ same => by cases same)
  generalize session.workOn number _ = worked at exchange tasks input
  rcases worked with ⟨after, later⟩
  cases exchange with
  | asks asked _ =>
      refine ⟨session.input.nextNumber, tasks, ?_⟩
      rw [input]
      exact waitsFor_iff.2 ⟨_, asked.waiting?, rfl⟩

theorem tasks_tick_of_answer {request : Nat} {guest : γ} {text : String}
    {resume : Except String String -> Activity Unit γ} (line : session.InLine)
    (front : session.tasks = ⟨number, phase⟩ :: rest)
    (works : phase.work? = some (.asking (.waiting request) guest resume))
    (answered : session.input.answer? request = some text) :
    (session.tick number).tasks =
      ⟨number, phase.withWork (.going (resume (.ok text)))⟩ :: rest := by
  have tasks := tasks_tick_of_work line front works (fun _ _ same => by cases same)
  rw [workOn_of_answered answered] at tasks
  exact tasks

theorem tick_of_asking {request : Nat} {guest : γ}
    {resume : Except String String -> Activity Unit γ} (orderly : session.Orderly)
    (front : session.tasks = ⟨number, phase⟩ :: rest)
    (works : phase.work? = some (.asking (.waiting request) guest resume))
    (waits : session.input.waitsFor request = true) : session.tick number = session := by
  have unanswered : session.input.answer? request = none :=
    CallTable.Sound.answer?_of_waitsFor orderly.serves (holds_of_front front works) waits
  rw [tick_of_work (phase?_of_front front) works (fun _ _ same => by cases same),
    workOn_of_waits unanswered waits, Phase.withWork_self works]
  exact setPhase_self front fun _ => orderly.line.number_ne_of_mem front

end Session
end HangulConsole
