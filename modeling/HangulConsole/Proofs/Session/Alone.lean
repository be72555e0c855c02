import HangulConsole.Proofs.Session.Booted
import HangulConsole.Proofs.Session.Boots
import HangulConsole.Proofs.Session.Conversation
import HangulConsole.Proofs.Session.Rest

/-!
# A run alone

Where no other task is there, a run that is asked for begins at once, and it comes just
as far as its conversation does: to its end, or to the request that waits for a line.
-/

namespace HangulConsole
namespace Session

open LineInput

variable {γ : Type} {before between session after : Session γ} {number : Nat} {phase : Phase γ}
  {activity : Activity Unit γ} {conversation : Conversation γ}

def deeds (session : Session γ) : List Deed :=
  session.notes.map Note.deed

def results (session : Session γ) : List (Except Failure Unit) :=
  session.finished.map Finished.result

def execution (session : Session γ) (guest : γ) (source : String) : Activity Unit γ :=
  session.activityOf guest (.exec (session.program source))

/-- What was done since a session stood elsewhere, and the tasks that are over since then. -/
structure Since (before after : Session γ) (deeds : List Deed) (ended : List Finished) : Prop where
  deeds : after.deeds = before.deeds ++ deeds
  finished : after.finished = before.finished ++ ended

/-- A run took a session as far as a conversation goes: the run is over and no task is left, or it
is the only task and waits for a line. -/
inductive Reaches (before : Session γ) (number : Nat) : Conversation γ -> Session γ -> Prop where
  | ended {deeds : List Deed} {result : Except Failure Unit} {guest : γ} {unread : List String}
      {after : Session γ} :
      after.tasks = [] -> after.guest? = some guest ->
      Since before after deeds [⟨number, result⟩] ->
      Reaches before number (.ended deeds result guest unread) after
  | asks {deeds : List Deed} {prompt : String} {guest : γ}
      {resume : Except String String -> Activity Unit γ} {request : Nat} {after : Session γ} :
      after.tasks = [⟨number, .running (.asking (.waiting request) guest resume)⟩] ->
      after.input.waiting? = some ⟨request, prompt⟩ -> after.guest? = before.guest? ->
      Since before after deeds [] -> Reaches before number (.asks deeds prompt guest resume) after

/-!
# One thing after another
-/

theorem since_of_note {deed : Deed} {status : Status}
    (notes : after.notes = session.notes ++ [⟨number, deed, status⟩])
    (finished : after.finished = session.finished) : Since session after [deed] [] where
  deeds := by
    rw [deeds, deeds, notes, List.map_append]
    rfl
  finished := by rw [finished, List.append_nil]

theorem Since.trans {early late : List Deed} {ended : List Finished}
    (first : Since before between early []) (second : Since between after late ended) :
    Since before after (early ++ late) ended where
  deeds := by rw [second.deeds, first.deeds, List.append_assoc]
  finished := by rw [second.finished, first.finished, List.append_nil]

theorem Since.results {deeds : List Deed} {ended : List Finished}
    (since : Since before after deeds ended) :
    after.results = before.results ++ ended.map Finished.result := by
  rw [Session.results, since.finished, List.map_append]
  rfl

theorem Reaches.follows {deeds : List Deed} (since : Since before between deeds [])
    (guest? : between.guest? = before.guest?)
    (reaches : Reaches between number conversation after) :
    Reaches before number (conversation.after deeds) after := by
  cases reaches with
  | ended none guest later => exact .ended none guest (since.trans later)
  | asks only waits same later => exact .asks only waits (same.trans guest?) (since.trans later)

/-!
# As far as a run goes
-/

theorem reaches_of_ended {result : Except Failure Unit} {guest : γ}
    (only : session.tasks = [⟨number, .running (.going (.ended result guest))⟩]) :
    Reaches session number (.ended [] result guest []) (session.tick number) := by
  rw [tick, phase?_of_front only]
  change Reaches session number _ (session.endRun number result guest)
  cases result with
  | ok done =>
      exact .ended (tasks_removeTask only fun _ mem => by cases mem) rfl
        ⟨(List.append_nil _).symm, rfl⟩
  | error failure =>
      exact .ended (tasks_removeTask only fun _ mem => by cases mem) rfl
        ⟨(List.append_nil _).symm, rfl⟩

theorem tick_of_deliver {piece : Piece} {guest : γ}
    {resume : Except String Unit -> Activity Unit γ}
    (only : session.tasks = [⟨number, .running (.going (.deliver piece guest resume))⟩]) :
    session.tick number = ((session.deliver piece).note number (.wrote piece)).setPhase number
      (.running (.going (resume (.ok ())))) := by
  rw [tick, phase?_of_front only]
  rfl

theorem reaches_of_call {function : Unit} {arguments : List String} {guest : γ}
    {resume : Except String String -> Activity Unit γ} (regular : session.Regular)
    (only : session.tasks =
      [⟨number, .running (.going (.call function arguments guest resume))⟩]) :
    Reaches session number (.asks [.asked arguments] (arguments.head?.getD "") guest resume)
      (session.tick number) := by
  have exchange := regular.exchange only rfl
  rw [tick_of_work (phase?_of_front only) rfl (fun _ _ same => by cases same)]
  generalize session.workOn number _ = worked at exchange ⊢
  rcases worked with ⟨next, later⟩
  cases exchange with
  | asks asked _ =>
      refine .asks (tasks_setPhase only (fun _ mem => by cases mem) _) asked.waiting? rfl ?_
      exact since_of_note rfl rfl

theorem Regular.reaches_pursue (regular : session.Regular)
    (only : session.tasks = [⟨number, .running (.going activity)⟩]) :
    Reaches session number (activity.converse []) (session.pursue number activity) := by
  induction activity generalizing session with
  | ended result guest => exact reaches_of_ended only
  | deliver piece guest resume ih =>
      have ticked := tick_of_deliver only
      have further := ih (.ok ()) (regular.move (.tick number))
        (tasks_tick_of_deliver regular.orderly.line only rfl)
      refine Reaches.follows ?_ ?_ further
      · change Since session (session.tick number) _ _
        rw [ticked]
        exact since_of_note rfl rfl
      · change (session.tick number).guest? = _
        rw [ticked]
        rfl
  | call function arguments guest resume ih =>
      have idle := regular.orderly.idle_of_closed (ticket_of_work only rfl)
      rcases ask_of_idle idle (arguments.head?.getD "") with ⟨input, asks, _⟩
      have polled : session.input.poll (.ofArguments arguments) =
          (input, .waiting session.input.nextNumber, .waiting) := asks
      rw [pursue, polled]
      exact reaches_of_call regular only

theorem settle_of_tick (only : session.tasks = [⟨number, phase⟩])
    (goes : (session.tick number).tasks = [⟨number, .running (.going activity)⟩]) :
    session.settle = (session.tick number).pursue number activity := by
  have planned : (session.tick number).planOf number = [] := planOf_of_front goes
  rw [settle, only]
  change pursueAll number ((session.tick number).planOf number) (session.tick number) = _
  rw [planned, pursueAll, pursueWork, phase?_of_front goes]
  rfl

/-!
# Asking for a run
-/

theorem tick_of_turn {source : String} {guest : γ} (line : session.InLine)
    (only : session.tasks = [⟨number, .queued source⟩]) (there : session.guest? = some guest) :
    session.tick number = session.startRun number source guest := by
  have ready : session.guest?.isSome = true := by rw [there]; rfl
  have turn : session.lock.holder? = some number := by
    rw [line.lock_of_ready ready, Lock.holder?_ofLine, numbers, only]
    rfl
  rw [tick, phase?_of_front only]
  simp only [tickQueued, there, turn, if_true]

theorem Regular.reaches_run {guest : γ} (regular : session.Regular) (idle : session.tasks = [])
    (there : session.guest? = some guest) (source : String) :
    Reaches session session.nextTask
      (((session.execution guest source).converse []).after [.exec (session.program source)])
      (session.step (.run source)) := by
  have ready : { session with nextTask := session.nextTask + 1 }.isReady = true := by
    rw [isReady, there]
    rfl
  have asked := regular.move (.operation (.run source))
  have queues : session.apply (.run source) =
      { { session with nextTask := session.nextTask + 1 }.addTask session.nextTask
          (.queued source) with lock := session.lock.ask session.nextTask } :=
    beginRun_of_ready ready session.nextTask source
  change (session.apply (.run source)).Regular at asked
  have only : (session.apply (.run source)).tasks = [⟨session.nextTask, .queued source⟩] := by
    rw [queues]
    change session.tasks ++ _ = _
    rw [idle, List.nil_append]
  have has : (session.apply (.run source)).guest? = some guest := by
    rw [queues]
    exact there
  have starts := tick_of_turn asked.orderly.line only has
  have goes : ((session.apply (.run source)).tick session.nextTask).tasks =
      [⟨session.nextTask, .running (.going (session.execution guest source))⟩] := by
    rw [starts]
    refine (tasks_setPhase only (fun _ mem => by cases mem) _).trans ?_
    rw [queues]
    rfl
  rw [step, settle_of_tick only goes]
  refine Reaches.follows ?_ ?_
    (Regular.reaches_pursue (asked.move (.tick session.nextTask)) goes)
  · rw [starts, queues]
    exact since_of_note rfl rfl
  · rw [starts, queues]
    rfl

theorem step_run_of_not_ready (idle : session.tasks = []) (unready : session.guest? = none)
    (source : String) :
    (session.step (.run source)).tasks = [] ∧ (session.step (.run source)).guest? = none ∧
      Since session (session.step (.run source)) [] [⟨session.nextTask, .error .notReady⟩] := by
  have moved := move_run_of_not_ready (by rw [isReady, unready]; rfl) source
  change session.apply (.run source) = _ at moved
  have none : (session.apply (.run source)).tasks = [] := by
    rw [moved]
    exact idle
  have settled : (session.apply (.run source)).settle = session.apply (.run source) :=
    (atRest_of_nil none).foldl_drive_eq _
  rw [step, settled]
  refine ⟨none, ?_, ?_⟩
  · rw [moved]
    exact unready
  · rw [moved]
    exact ⟨(List.append_nil _).symm, rfl⟩

/-!
# Answering a run
-/

theorem tick_of_answered {request : Nat} {guest : γ} {line : String}
    {resume : Except String String -> Activity Unit γ}
    (only : session.tasks = [⟨number, .running (.asking (.waiting request) guest resume)⟩])
    (answered : session.input.answer? request = some line) :
    session.tick number =
      (({ session with input := session.input.forget request }).note number
        (.returned line)).setPhase number (.running (.going (resume (.ok line)))) := by
  rw [tick_of_work (phase?_of_front only) rfl (fun _ _ same => by cases same),
    workOn_of_answered answered]
  rfl

theorem Regular.reaches_submitLine {request : Nat} {prompt : String} {guest : γ}
    {resume : Except String String -> Activity Unit γ} (regular : session.Regular)
    (only : session.tasks = [⟨number, .running (.asking (.waiting request) guest resume)⟩])
    (waits : session.input.waiting? = some ⟨request, prompt⟩) (line : String) :
    Reaches session number (((resume (.ok line)).converse []).after [.returned line])
      (session.step (.submitLine line)) := by
  have asked := regular.move (.operation (.submitLine line))
  change (session.apply (.submitLine line)).Regular at asked
  have still : (session.apply (.submitLine line)).tasks =
      [⟨number, .running (.asking (.waiting request) guest resume)⟩] := only
  have unanswered : session.input.answer? request = none :=
    CallTable.Sound.answer?_of_waitsFor regular.orderly.serves (holds_of_front only rfl)
      (waitsFor_iff.2 ⟨_, waits, rfl⟩)
  have submitted := (submitLine_of_waiting? waits line).1
  have answered : (session.apply (.submitLine line)).input.answer? request = some line := by
    change (session.input.submitLine line).1.answer? request = _
    rw [submitted.answer?, unanswered, if_pos rfl, Option.none_or]
  have takes := tick_of_answered still answered
  have goes := tasks_tick_of_answer asked.orderly.line still rfl answered
  rw [step, settle_of_tick still goes]
  refine Reaches.follows ?_ ?_ (Regular.reaches_pursue (asked.move (.tick number)) goes)
  · rw [takes]
    exact since_of_note rfl rfl
  · rw [takes]
    rfl

theorem step_cancel_of_asking {request : Nat} {guest : γ}
    {resume : Except String String -> Activity Unit γ}
    (only : session.tasks = [⟨number, .running (.asking (.waiting request) guest resume)⟩]) :
    (session.step (.cancel number)).tasks = [] ∧
      (session.step (.cancel number)).guest? = some guest ∧
        Since session (session.step (.cancel number)) [] [] := by
  have dropped : session.apply (.cancel number) =
      { ({ session with input := session.input.abandon (.waiting request) }).removeTask number with
        guest? := some guest
        running := false
        lock := session.lock.release } := by
    change session.cancel number = _
    rw [cancel, phase?_of_front only]
    rfl
  have none : (session.apply (.cancel number)).tasks = [] := by
    rw [dropped]
    exact tasks_removeTask only fun _ mem => by cases mem
  have settled : (session.apply (.cancel number)).settle = session.apply (.cancel number) :=
    (atRest_of_nil none).foldl_drive_eq _
  rw [step, settled]
  refine ⟨none, ?_, ?_⟩
  · rw [dropped]
  · rw [dropped]
    exact ⟨(List.append_nil _).symm, (List.append_nil _).symm⟩

theorem Regular.idle_of_nil (regular : session.Regular) (none : session.tasks = []) :
    session.input.waiting? = Option.none :=
  regular.orderly.idle_of_closed (by rw [ticket, none])

end Session
end HangulConsole
