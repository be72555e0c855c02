import HangulConsole.Proofs.Session.Boots
import HangulConsole.Proofs.Session.Programs
import HangulConsole.Proofs.Transcript

/-!
# What runs tell

A program that is executed tells its user something with each thing that it does: a piece
of output, a prompt, a line that was submitted.  In a ready session, every move that adds to
the transcript begins a run, ends one, or lets the one at work tell what it would tell alone.
-/

namespace HangulConsole

/-!
# A program alone
-/

inductive Stand (γ : Type) where
  | going (activity : Activity Unit γ)
  /-- The program has shown its prompt and waits for a line. -/
  | waits (guest : γ) (resume : Except String String -> Activity Unit γ)
  | answered (line : String) (guest : γ) (resume : Except String String -> Activity Unit γ)

namespace Stand

variable {γ : Type}

def left : Stand γ -> γ
  | going activity => activity.left
  | waits guest _ => guest
  | answered _ guest _ => guest

/-- A program goes on: what it tells its user with that, and the lines that its user submits. -/
inductive Tells (marker : String) : Stand γ -> String -> List String -> Stand γ -> Prop where
  | writes {piece : Piece} {guest : γ} {resume : Except String Unit -> Activity Unit γ} :
      Tells marker (going (.deliver piece guest resume)) (piece.shown marker) []
        (going (resume (.ok ())))
  | asks {function : Unit} {arguments : List String} {guest : γ}
      {resume : Except String String -> Activity Unit γ} :
      Tells marker (going (.call function arguments guest resume)) (arguments.head?.getD "") []
        (waits guest resume)
  | submits {guest : γ} {resume : Except String String -> Activity Unit γ} (line : String) :
      Tells marker (waits guest resume) (line ++ "\n") [line] (answered line guest resume)
  | goesOn {line : String} {guest : γ} {resume : Except String String -> Activity Unit γ} :
      Tells marker (answered line guest resume) "" [] (going (resume (.ok line)))

end Stand

/-- A program has told its user this text, and its user has submitted these lines, when it has come
this far; nothing else is going on. -/
inductive Told {γ : Type} (marker : String) (activity : Activity Unit γ) :
    String -> List String -> Stand γ -> Prop where
  | begins : Told marker activity "" [] (.going activity)
  | goesOn {text more : String} {lines submitted : List String} {stand next : Stand γ} :
      Told marker activity text lines stand -> stand.Tells marker more submitted next ->
      Told marker activity (text ++ more) (lines ++ submitted) next

def Deed.script? : Deed -> Option String
  | exec script => some script
  | _ => none

namespace Session

open LineInput

variable {γ : Type} {session after : Session γ} {number : Nat} {phase : Phase γ}
  {rest : List (Task γ)}

/-!
# The run at work
-/

def standOf (session : Session γ) : Work γ -> Stand γ
  | .going activity => .going activity
  | .asking (.waiting request) guest resume =>
      match session.input.answer? request with
      | some line => .answered line guest resume
      | none => .waits guest resume
  | .asking _ guest resume => .waits guest resume

def stand? (session : Session γ) : Option (Nat × Stand γ) :=
  match session.tasks with
  | ⟨number, .running work⟩ :: _ => some (number, session.standOf work)
  | _ => none

def executions (session : Session γ) : List (Nat × String) :=
  session.notes.filterMap fun note => note.deed.script?.map fun script => (note.task, script)

def submission? (session : Session γ) : Move γ -> Option String
  | .operation .submit => session.input.waiting?.map fun _ => session.input.control.content
  | .operation (.press .enter) => session.input.waiting?.map fun _ => session.input.control.content
  | .operation (.submitLine text) => session.input.waiting?.map fun _ => text
  | _ => none

def submissions (session : Session γ) : List (Move γ) -> List String
  | [] => []
  | move :: rest => (session.submission? move).toList ++ (session.move move).submissions rest

def reportOf (messages : Messages) : Except Failure Unit -> String
  | .ok _ => ""
  | .error failure => messages.executionError ++ " " ++ failure.message ++ "\n"

/-- What a move adds to the transcript, to the programs that were begun and to the tasks that are
over. -/
structure Adds (session after : Session γ) (text : String) (programs : List (Nat × String))
    (ended : List Finished) : Prop where
  text : after.transcript.text = session.transcript.text ++ text
  executions : after.executions = session.executions ++ programs
  finished : after.finished = session.finished ++ ended

/-- What a move does to the runs of a ready session. -/
inductive RunMove (session : Session γ) : Move γ -> Session γ -> Prop where
  | rests {move : Move γ} {after : Session γ} {ended : List Finished} :
      after.stand? = session.stand? -> after.guest? = session.guest? ->
      Adds session after "" [] ended -> session.submission? move = none ->
      RunMove session move after
  | starts {after : Session γ} {number : Nat} {source : String} {guest : γ} :
      session.stand? = none -> session.phase? number = some (.queued source) ->
      session.guest? = some guest ->
      after.stand? =
        some (number, .going (session.activityOf guest (.exec (session.program source)))) ->
      Adds session after (session.messages.runSeparator ++ "\n") [(number, session.program source)]
        [] -> RunMove session (.tick number) after
  | tells {move : Move γ} {after : Session γ} {number : Nat} {stand next : Stand γ} {more : String}
      {lines : List String} :
      session.stand? = some (number, stand) ->
      stand.Tells session.messages.stderrMarker more lines next ->
      after.stand? = some (number, next) -> Adds session after more [] [] ->
      (session.submission? move).toList = lines -> RunMove session move after
  | ends {after : Session γ} {number : Nat} {result : Except Failure Unit} {guest : γ} :
      session.stand? = some (number, .going (.ended result guest)) -> after.stand? = none ->
      after.guest? = some guest ->
      Adds session after (reportOf session.messages result) [] [⟨number, result⟩] ->
      RunMove session (.tick number) after
  | givenUp {after : Session γ} {number : Nat} {stand : Stand γ} :
      session.stand? = some (number, stand) -> after.stand? = none ->
      after.guest? = some stand.left -> Adds session after "" [] [] ->
      RunMove session (.operation (.cancel number)) after

/-!
# Additions
-/

theorem executions_of_notes (notes : after.notes = session.notes) :
    after.executions = session.executions := by
  rw [executions, executions, notes]

theorem executions_append {task : Nat} {deed : Deed} {status : Status}
    (notes : after.notes = session.notes ++ [⟨task, deed, status⟩]) :
    after.executions = session.executions ++
      (deed.script?.map fun script => (task, script)).toList := by
  rw [executions, executions, notes, List.filterMap_append]
  cases deed with
  | _ => rfl

theorem exists_note_of_execution {task : Nat} {script : String}
    (mem : (task, script) ∈ session.executions) : ∃ note ∈ session.notes, note.task = task := by
  rcases List.mem_filterMap.1 mem with ⟨note, noted, found⟩
  rcases Option.map_eq_some_iff.1 found with ⟨_, _, same⟩
  cases same
  exact ⟨note, noted, rfl⟩

theorem adds_nothing (transcript : after.transcript.text = session.transcript.text)
    (notes : after.notes = session.notes) (finished : after.finished = session.finished) :
    Adds session after "" [] [] where
  text := by rw [transcript, String.append_empty]
  executions := by rw [executions_of_notes notes, List.append_nil]
  finished := by rw [finished, List.append_nil]

theorem adds_of_note {task : Nat} {deed : Deed} {status : Status} {text : String}
    (transcript : after.transcript.text = session.transcript.text ++ text)
    (notes : after.notes = session.notes ++ [⟨task, deed, status⟩]) (other : deed.script? = none)
    (finished : after.finished = session.finished) : Adds session after text [] [] where
  text := transcript
  executions := by
    rw [executions_append notes, other]
    rfl
  finished := by rw [finished, List.append_nil]

/-!
# The run at work
-/

theorem stand?_of_front {work : Work γ} (front : session.tasks = ⟨number, .running work⟩ :: rest) :
    session.stand? = some (number, session.standOf work) := by
  rw [stand?, front]

theorem stand?_of_queued (queued : ∀ task ∈ session.tasks, task.phase.isQueued = true) :
    session.stand? = none := by
  rw [stand?]
  split
  · rename_i number work others front
    have also := queued ⟨number, .running work⟩ (by rw [front]; exact List.mem_cons_self)
    cases also
  · rfl

theorem InLine.stand?_of_rest (line : session.InLine)
    (front : session.tasks = ⟨number, phase⟩ :: rest) (tasks : after.tasks = rest) :
    after.stand? = none := by
  apply stand?_of_queued
  rw [tasks]
  exact fun _ => line.queued_of_mem front

theorem standOf_of_answers (same : ∀ request, after.input.answer? request =
    session.input.answer? request) (work : Work γ) : after.standOf work = session.standOf work := by
  cases work with
  | going activity => rfl
  | asking ticket guest resume =>
      cases ticket with
      | waiting request => rw [standOf, standOf, same]
      | prepared prompt => rfl
      | closed => rfl

theorem stand?_of_first {first : Task γ} {others : List (Task γ)}
    (before : session.tasks = first :: rest) (later : after.tasks = first :: others)
    (input : after.input = session.input) : after.stand? = session.stand? := by
  have answers (work : Work γ) : after.standOf work = session.standOf work :=
    standOf_of_answers (fun request => by rw [input]) work
  rcases first with ⟨number, phase⟩
  rw [stand?, stand?, before, later]
  cases phase with
  | running work => exact congrArg (fun stand => some (number, stand)) (answers work)
  | _ => rfl

theorem stand?_of_runQueues {source : String}
    (tasks : after.tasks = session.tasks ++ [⟨number, .queued source⟩])
    (input : after.input = session.input) : after.stand? = session.stand? := by
  cases front : session.tasks with
  | nil =>
      rw [front, List.nil_append] at tasks
      rw [stand?, stand?, tasks, front]
  | cons first rest =>
      rw [front, List.cons_append] at tasks
      exact stand?_of_first front tasks input

theorem stand?_of_same (tasks : after.tasks = session.tasks)
    (answers : ∀ request, after.input.answer? request = session.input.answer? request) :
    after.stand? = session.stand? := by
  rw [stand?, stand?, tasks]
  split
  · rw [standOf_of_answers answers]
  · rfl

theorem left_standOf (session : Session γ) (work : Work γ) :
    (session.standOf work).left = work.left := by
  cases work with
  | going activity => rfl
  | asking ticket guest resume =>
      cases ticket with
      | prepared prompt => rfl
      | closed => rfl
      | waiting request =>
          rw [standOf]
          cases session.input.answer? request with
          | none => rfl
          | some line => rfl

theorem InLine.front_of_running {work : Work γ} (line : session.InLine)
    (found : session.phase? number = some (.running work)) :
    ∃ rest, session.tasks = ⟨number, .running work⟩ :: rest :=
  line.front_of_mem (mem_tasks_of_phase? found) rfl

/-!
# Steps of tasks
-/

theorem runMove_refl (session : Session γ) {move : Move γ}
    (silent : session.submission? move = none) : RunMove session move session :=
  .rests rfl rfl (adds_nothing rfl rfl rfl) silent

theorem InLine.runMove_tells {work later : Work γ} {between : Session γ} {more : String}
    (line : session.InLine) (front : session.tasks = ⟨number, .running work⟩ :: rest)
    (tasks : between.tasks = session.tasks)
    (tells : (session.standOf work).Tells session.messages.stderrMarker more []
      (between.standOf later))
    (adds : Adds session between more [] []) :
    RunMove session (.tick number) (between.setPhase number (.running later)) := by
  have moved := tasks_setPhase (tasks.trans front) (fun _ => line.number_ne_of_mem front)
    (.running later)
  exact .tells (stand?_of_front front) tells (stand?_of_front moved)
    ⟨adds.text, adds.executions, adds.finished⟩ rfl

theorem Regular.runMove_works {work : Work γ} (regular : session.Regular)
    (front : session.tasks = ⟨number, .running work⟩ :: rest) :
    RunMove session (.tick number) ((session.workOn number work).1.setPhase number
      (.running (session.workOn number work).2)) := by
  have line := regular.orderly.line
  have distinct : ∀ other ∈ rest, other.number ≠ number := fun _ => line.number_ne_of_mem front
  have exchange := regular.exchange front rfl
  generalize session.workOn number work = worked at exchange ⊢
  rcases worked with ⟨between, later⟩
  dsimp only at exchange ⊢
  cases exchange with
  | rests =>
      rw [setPhase_self front distinct]
      exact runMove_refl _ rfl
  | waits _ =>
      rw [setPhase_self front distinct]
      exact runMove_refl _ rfl
  | @writes piece guest resume =>
      have adds : Adds session ((session.deliver piece).note number (.wrote piece))
          (piece.shown session.messages.stderrMarker) [] [] :=
        adds_of_note (Transcript.text_receive _ _ _) rfl rfl rfl
      exact line.runMove_tells front rfl .writes adds
  | @asks function arguments guest resume input asked shown =>
      have adds : Adds session { session.note number (.asked arguments) with input }
          (arguments.head?.getD "") [] [] := by
        refine adds_of_note ?_ rfl rfl rfl
        show input.transcript.text = _
        rw [shown]
        exact Transcript.text_appendRaw _ _
      have unanswered : input.answer? session.input.nextNumber = none := by
        rw [answer?, asked.answers]
        exact CallTable.Sound.answer?_next regular.orderly.serves
      have waits : standOf { session.note number (.asked arguments) with input }
          (.asking (.waiting session.input.nextNumber) guest resume) = .waits guest resume := by
        rw [standOf, unanswered]
      refine line.runMove_tells front rfl ?_ adds
      rw [waits]
      exact .asks
  | @takes request guest resume text answered =>
      have adds : Adds session
          (({ session with input := session.input.forget request }).note number (.returned text))
          "" [] [] :=
        adds_of_note String.append_empty.symm rfl rfl rfl
      have answers : session.standOf (.asking (.waiting request) guest resume) =
          .answered text guest resume := by
        rw [standOf, answered]
      refine line.runMove_tells front rfl ?_ adds
      rw [answers]
      exact .goesOn

theorem InLine.runMove_startRun {source : String} {guest : γ} (line : session.InLine)
    (front : session.tasks = ⟨number, .queued source⟩ :: rest)
    (there : session.guest? = some guest) :
    RunMove session (.tick number) (session.startRun number source guest) := by
  have idle : session.stand? = none := by
    apply stand?_of_queued
    rw [front]
    intro task mem
    rcases List.mem_cons.1 mem with rfl | later
    · rfl
    · exact line.queued_of_mem front later
  have moved : (session.startRun number source guest).tasks =
      ⟨number, .running (.going (session.activityOf guest (.exec (session.program source))))⟩ ::
        rest :=
    tasks_setPhase front (fun _ => line.number_ne_of_mem front) _
  have noted : (session.startRun number source guest).notes =
      session.notes ++ [⟨number, .exec (session.program source), session.status⟩] := rfl
  exact .starts idle (phase?_of_front front) there (stand?_of_front moved)
    ⟨rfl, executions_append noted, (List.append_nil _).symm⟩

theorem InLine.runMove_endRun {result : Except Failure Unit} {guest : γ} (line : session.InLine)
    (front : session.tasks = ⟨number, .running (.going (.ended result guest))⟩ :: rest) :
    RunMove session (.tick number) (session.endRun number result guest) := by
  have distinct : ∀ other ∈ rest, other.number ≠ number := fun _ => line.number_ne_of_mem front
  have gone : (session.endRun number result guest).tasks = rest := by
    cases result with
    | ok done => exact tasks_removeTask front distinct
    | error failure => exact tasks_removeTask front distinct
  refine .ends (stand?_of_front front) (line.stand?_of_rest front gone) rfl ?_
  cases result with
  | ok done =>
      exact ⟨String.append_empty.symm, (List.append_nil _).symm, rfl⟩
  | error failure => exact ⟨rfl, (List.append_nil _).symm, rfl⟩

theorem Regular.runMove_tick (regular : session.Regular) (ready : session.isReady = true)
    (task : Nat) : RunMove session (.tick task) (session.tick task) := by
  have line := regular.orderly.line
  have unready {phase : Phase γ} (found : session.phase? task = some phase)
      (boot : phase.isBoot = true) : False := by
    rw [line.not_ready_of_isBoot (mem_tasks_of_phase? found) boot] at ready
    cases ready
  have ticked := session.ticked task
  generalize session.tick task = after at ticked ⊢
  cases ticked with
  | rests => exact session.runMove_refl rfl
  | bootFails found => exact (unready found rfl).elim
  | bootGoesOn found => exact (unready found rfl).elim
  | @works phase work found works =>
      cases phase with
      | running now =>
          cases works
          rcases line.front_of_running found with ⟨rest, front⟩
          exact regular.runMove_works front
      | booting now plan => exact (unready found rfl).elim
      | _ => cases works
  | runStarts found there turn =>
      rcases line.front_of_turn (mem_tasks_of_phase? found) ready turn with ⟨rest, front⟩
      exact line.runMove_startRun front there
  | runEnds found =>
      rcases line.front_of_running found with ⟨rest, front⟩
      exact line.runMove_endRun front

/-!
# Operations
-/

theorem runMove_of_sameRequests {input : LineInput} {move : Move γ}
    (same : SameRequests session.input input)
    (transcript : input.transcript = session.transcript)
    (silent : session.submission? move = none) :
    RunMove session move { session with input } := by
  have stands : { session with input }.stand? = session.stand? := stand?_of_same rfl same.answer?
  refine .rests stands rfl (adds_nothing ?_ rfl rfl) silent
  exact congrArg Transcript.text transcript

theorem Regular.runMove_submits {request : Request} {line : String} {input : LineInput}
    {move : Move γ} (regular : session.Regular) (ready : session.isReady = true)
    (submitted : Submitted session.input request line input)
    (shown : input.transcript = session.transcript.appendLine line)
    (submits : session.submission? move = some line) :
    RunMove session move { session with input } := by
  rcases regular.front_of_waiting? submitted.before with
    ⟨number, phase, guest, resume, rest, front, works⟩
  have mem : ⟨number, phase⟩ ∈ session.tasks := by
    rw [front]
    exact List.mem_cons_self
  cases phase with
  | booting work plan =>
      rw [regular.orderly.line.not_ready_of_isBoot mem rfl] at ready
      cases ready
  | loading source => cases works
  | reading source guest => cases works
  | queued source => cases works
  | running work =>
      cases works
      have unanswered : session.input.answer? request.number = none :=
        CallTable.Sound.answer?_of_waitsFor regular.orderly.serves (holds_of_front front rfl)
          (waitsFor_iff.2 ⟨request, submitted.before, rfl⟩)
      have answered : input.answer? request.number = some line := by
        rw [submitted.answer?, unanswered, if_pos rfl, Option.none_or]
      have before : session.stand? = some (number, .waits guest resume) := by
        rw [stand?_of_front front, standOf, unanswered]
      have later : { session with input }.stand? = some (number, .answered line guest resume) := by
        have moved : { session with input }.tasks = _ := front
        rw [stand?_of_front moved, standOf, answered]
      refine .tells before (.submits line) later ⟨?_, ?_, ?_⟩ (by rw [submits]; rfl)
      · exact congrArg Transcript.text shown
      · exact (List.append_nil _).symm
      · exact (List.append_nil _).symm

theorem adds_of_abandon {work : Work γ} (transcript : after.transcript =
      (session.abandon work).transcript)
    (notes : after.notes = (session.abandon work).notes)
    (finished : after.finished = (session.abandon work).finished) :
    Adds session after "" [] [] := by
  cases work with
  | going activity => exact adds_nothing (congrArg Transcript.text transcript) notes finished
  | asking ticket guest resume =>
      refine adds_nothing ?_ notes finished
      rw [transcript]
      exact congrArg Transcript.text (session.input.transcript_abandon ticket)

theorem Regular.runMove_cancel (regular : session.Regular) (ready : session.isReady = true)
    (task : Nat) : RunMove session (.operation (.cancel task)) (session.cancel task) := by
  have line := regular.orderly.line
  rw [cancel]
  cases found : session.phase? task with
  | none => exact runMove_refl session rfl
  | some phase =>
      have mem := mem_tasks_of_phase? found
      have run : phase.isBoot = false := by
        rw [← Bool.not_eq_true]
        intro boot
        rw [line.not_ready_of_isBoot mem boot] at ready
        cases ready
      cases phase with
      | loading source => cases run
      | reading source guest => cases run
      | booting work plan => cases run
      | queued source =>
          have left : (session.dropTask task (.queued source)).stand? = session.stand? := by
            have filtered : (session.dropTask task (.queued source)).tasks =
                session.tasks.filter fun found => found.number != task := rfl
            rcases line.front_of_leaves rfl mem filtered with
              ⟨first, rest, others, before, later⟩ | ⟨before, later⟩
            · exact stand?_of_first before later rfl
            · exact (stand?_of_queued later).trans (stand?_of_queued before).symm
          exact .rests left rfl (adds_nothing rfl rfl rfl) rfl
      | running work =>
          rcases line.front_of_running found with ⟨rest, front⟩
          have distinct : ∀ other ∈ rest, other.number ≠ task :=
            fun _ => line.number_ne_of_mem front
          have gone : (session.dropTask task (.running work)).tasks = rest := by
            rcases session.abandon_eq work with ⟨input, eq⟩
            simp only [dropTask]
            rw [eq]
            exact tasks_removeTask front distinct
          have kept : (session.dropTask task (.running work)).guest? =
              some (session.standOf work).left := by
            rw [left_standOf]
            rfl
          refine .givenUp (stand?_of_front front) (line.stand?_of_rest front gone) kept ?_
          exact adds_of_abandon rfl rfl rfl

theorem Regular.runMove_submit (regular : session.Regular) (ready : session.isReady = true)
    {move : Move γ} (submits : session.submission? move =
      session.input.waiting?.map fun _ => session.input.control.content) :
    RunMove session move { session with input := session.input.submit.1 } := by
  cases waits : session.input.waiting? with
  | none =>
      rw [waits] at submits
      rw [submit_of_idle waits]
      exact runMove_refl session submits
  | some request =>
      rw [waits] at submits
      exact regular.runMove_submits ready (submit_of_waiting? waits).1
        (transcript_submit_of_waiting? waits) submits

theorem Regular.runMove_submitLine (regular : session.Regular) (ready : session.isReady = true)
    (text : String) : RunMove session (.operation (.submitLine text))
      { session with input := (session.input.submitLine text).1 } := by
  have submits : session.submission? (.operation (.submitLine text)) =
      session.input.waiting?.map fun _ => text := rfl
  cases waits : session.input.waiting? with
  | none =>
      rw [waits] at submits
      rw [submitLine_of_idle waits]
      exact runMove_refl session submits
  | some request =>
      rw [waits] at submits
      exact regular.runMove_submits ready (submitLine_of_waiting? waits text).1
        (transcript_submitLine_of_waiting? waits text) submits

theorem Regular.runMove_boot (regular : session.Regular) (ready : session.isReady = true) :
    RunMove session (.operation .boot) (session.newTask beginBoot) := by
  have asked : session.bootAsked = true := by
    rw [← Bool.not_eq_false]
    intro unasked
    have status := regular.staged.ready.2 ready
    rw [regular.staged.asked unasked] at status
    cases status
  rw [boot_of_asked asked]
  exact .rests rfl rfl ⟨String.append_empty.symm, (List.append_nil _).symm, rfl⟩ rfl

theorem InLine.runMove_takeGuest (line : session.InLine) (ready : session.isReady = true)
    (result : Except Failure γ) :
    RunMove session (.operation (.loaded result)) (session.takeGuest result) := by
  unfold takeGuest
  cases found : session.loading? with
  | none => exact runMove_refl session rfl
  | some waiting =>
      rw [line.not_ready_of_isBoot (mem_tasks_of_loading? found) rfl] at ready
      cases ready

theorem InLine.runMove_takeScript (line : session.InLine) (ready : session.isReady = true)
    (result : Except Failure String) :
    RunMove session (.operation (.scriptRead result)) (session.takeScript result) := by
  unfold takeScript
  cases found : session.reading? with
  | none => exact runMove_refl session rfl
  | some waiting =>
      rw [line.not_ready_of_isBoot (mem_tasks_of_reading? found) rfl] at ready
      cases ready

theorem runMove_run (ready : session.isReady = true) (source : String) :
    RunMove session (.operation (.run source))
      (session.newTask fun session task => session.beginRun task source) := by
  dsimp only [newTask]
  have queued : { session with nextTask := session.nextTask + 1 }.isReady = true := ready
  rw [beginRun_of_ready queued]
  exact .rests (stand?_of_runQueues rfl rfl) rfl (adds_nothing rfl rfl rfl) rfl

theorem Regular.runMove_apply (regular : session.Regular) (ready : session.isReady = true)
    {operation : Operation γ} (keeps : operation ≠ .clear) :
    RunMove session (.operation operation) (session.apply operation) := by
  have line := regular.orderly.line
  cases operation with
  | clear => exact absurd rfl keeps
  | boot => exact regular.runMove_boot ready
  | loaded result => exact line.runMove_takeGuest ready result
  | scriptRead result => exact line.runMove_takeScript ready result
  | run source => exact runMove_run ready source
  | cancel task => exact regular.runMove_cancel ready task
  | prepare source => exact .rests rfl rfl (adds_nothing rfl rfl rfl) rfl
  | submit => exact regular.runMove_submit ready rfl
  | submitLine text => exact regular.runMove_submitLine ready text
  | press key =>
      cases key with
      | enter => exact regular.runMove_submit ready rfl
      | other => exact runMove_of_sameRequests (.refl _) rfl rfl
  | type text => exact runMove_of_sameRequests (.type _ text) rfl rfl
  | setContent text => exact runMove_of_sameRequests (.setContent _ text) rfl rfl

theorem Regular.runMove (regular : session.Regular) (ready : session.isReady = true)
    {move : Move γ} (keeps : move ≠ .operation .clear) :
    RunMove session move (session.move move) := by
  cases move with
  | tick task => exact regular.runMove_tick ready task
  | operation operation =>
      exact regular.runMove_apply ready (fun same => keeps (by rw [same]))

end Session
end HangulConsole
