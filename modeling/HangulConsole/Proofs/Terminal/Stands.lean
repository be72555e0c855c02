import HangulConsole.Proofs.Terminal.Changes
import HangulConsole.Proofs.Terminal.Desk

/-!
# Where a terminal stands

A terminal that takes one line after another stands at every moment where its lines lead.
Whenever the next line is for a run, the request of that run waits; otherwise no request
waits and no task is left.
-/

namespace HangulConsole

/-!
# Acts side by side
-/

section Acts

variable {World α β δ ε : Type} {relation : α -> β -> Prop} {goal : δ -> ε -> Prop}

theorem run_pure (answer : α) (world : World) :
    ((pure answer : StateM World α).run world).1 = answer := rfl

/-- Two acts do the same in every world, and their answers are related. -/
def Alike (relation : α -> β -> Prop) (act : StateM World α) (other : StateM World β) : Prop :=
  ∀ world, relation (act.run world).1 (other.run world).1 ∧
    (act.run world).2 = (other.run world).2

theorem alike_pure {answer : α} {other : β} (related : relation answer other) :
    Alike relation (pure answer : StateM World α) (pure other) := by
  intro world
  exact ⟨related, rfl⟩

theorem alike_bind {act : StateM World α} {other : StateM World β} {next : α -> StateM World δ}
    {later : β -> StateM World ε} (first : Alike relation act other)
    (second : ∀ answer also, relation answer also -> Alike goal (next answer) (later also)) :
    Alike goal (act >>= next) (other >>= later) := by
  intro world
  rcases first world with ⟨related, same⟩
  have further := second _ _ related (act.run world).2
  change goal (((next (act.run world).1).run (act.run world).2).1)
      (((later (other.run world).1).run (other.run world).2).1) ∧
    ((next (act.run world).1).run (act.run world).2).2 =
      ((later (other.run world).1).run (other.run world).2).2
  rw [← same]
  exact further

theorem alike_bind_same {act : StateM World α} {next : α -> StateM World δ}
    {later : α -> StateM World ε} (second : ∀ answer, Alike goal (next answer) (later answer)) :
    Alike goal (act >>= next) (act >>= later) := by
  intro world
  exact second _ (act.run world).2

theorem alike_map_right {act : StateM World α} {other : StateM World β} {change : β -> ε}
    {goal : α -> ε -> Prop} (first : Alike relation act other)
    (second : ∀ answer result, relation answer result -> goal answer (change result)) :
    Alike goal act (change <$> other) := by
  intro world
  exact ⟨second _ _ (first world).1, (first world).2⟩

theorem alike_map {act : StateM World α} {other : StateM World β} {change : α -> δ}
    {also : β -> ε} (first : Alike relation act other)
    (second : ∀ answer result, relation answer result -> goal (change answer) (also result)) :
    Alike goal (change <$> act) (also <$> other) := by
  intro world
  exact ⟨second _ _ (first world).1, (first world).2⟩

end Acts

/-!
# Sessions between two lines
-/

namespace Session

variable {γ : Type} {setup session after : Session γ}

/-- A session with the guest, settings and names that it was set up with, whose tasks stand in
order. -/
structure Steady (setup session : Session γ) : Prop where
  regular : session.Regular
  past : session.Past
  same : SameSetup setup session

theorem Past.moves (past : session.Past) (regular : session.Regular) (list : List (Move γ)) :
    (session.moves list).Past := by
  induction list generalizing session with
  | nil => exact past
  | cons first rest ih => exact ih (past.move regular.orderly.line first) (regular.move first)

theorem Steady.moves (steady : Steady setup session) (list : List (Move γ)) :
    Steady setup (session.moves list) where
  regular := steady.regular.moves list
  past := steady.past.moves steady.regular list
  same := steady.same.trans (session.sameSetup_moves list)

theorem Steady.step (steady : Steady setup session) (operation : Operation γ) :
    Steady setup (session.step operation) := by
  rcases session.steps_eq_moves [operation] with ⟨list, same⟩
  change session.step operation = session.moves list at same
  rw [same]
  exact steady.moves list

theorem Regular.mapTranscript (regular : session.Regular) (change : Transcript -> Transcript) :
    (session.mapTranscript change).Regular where
  orderly := by
    rcases regular.orderly with ⟨line, serves, notes⟩
    refine ⟨?_, serves.sameRequests ⟨rfl, rfl, rfl⟩, ?_⟩
    · exact ⟨line.numbers_sorted, line.numbers_lt, line.behind, line.isBoot, line.lock, line.asked,
        line.running⟩
    · exact ⟨notes.sorted, notes.task_lt, notes.task_le, notes.not_queued, notes.not_refused⟩
  staged := ⟨regular.staged.asked, regular.staged.ready, regular.staged.fits⟩

theorem Steady.mapTranscript (steady : Steady setup session) (change : Transcript -> Transcript) :
    Steady setup (session.mapTranscript change) where
  regular := steady.regular.mapTranscript change
  past := steady.past
  same := ⟨steady.same.abilities, steady.same.settings, steady.same.names⟩

theorem Steady.conversation_eq (steady : Steady setup session) (guest : γ) (source : String)
    (lines : List String) :
    session.conversation guest source lines = setup.conversation guest source lines := by
  rw [conversation, conversation, execution, execution, steady.same.program_eq,
    steady.same.activityOf_eq]

/-!
# Ends of runs
-/

variable {number : Nat} {deeds : List Deed}

theorem Since.result?_eq (since : Since session after deeds []) (number : Nat) :
    after.result? number = session.result? number := by
  rw [result?, result?, since.finished, List.append_nil]

theorem Since.result?_of_ended {result : Except Failure Unit}
    (since : Since session after deeds [⟨number, result⟩])
    (unfinished : session.result? number = none) : after.result? number = some result := by
  rw [result?, Option.map_eq_none_iff] at unfinished
  rw [result?, since.finished, List.find?_append, unfinished, Option.none_or]
  simp

def desk (session : Session γ) (editor : Editor) : Desk γ where
  guest? := session.guest?
  editor := editor
  deeds := session.deeds
  results := session.results

end Session

namespace Terminal

variable {γ : Type} {setup : Session γ} {terminal : Terminal γ}

def desk (terminal : Terminal γ) : Desk γ :=
  terminal.session.desk terminal.editor

/-- A terminal stands somewhere.  A line is for a run exactly if a request of that run waits. -/
inductive Stands (setup : Session γ) (terminal : Terminal γ) : Standing γ -> Prop where
  | commanding {desk : Desk γ} :
      terminal.mode = .commanding -> Session.Steady setup terminal.session ->
      terminal.session.tasks = [] -> terminal.desk = desk ->
      Stands setup terminal (.commanding desk)
  | asking {number request : Nat} {only : Bool} {prompt : String} {guest : γ}
      {resume : Except String String -> Activity Unit γ} {desk : Desk γ} :
      terminal.mode = .running number only -> Session.Steady setup terminal.session ->
      terminal.session.tasks = [⟨number, .running (.asking (.waiting request) guest resume)⟩] ->
      terminal.session.input.waiting? = some ⟨request, prompt⟩ ->
      terminal.session.result? number = none -> terminal.desk = desk ->
      Stands setup terminal (.asking only prompt guest resume desk)
  | stuck : terminal.mode = .stuck -> Stands setup terminal .stuck
  | closed {exit : Exit} {desk : Desk γ} :
      terminal.mode = .closed exit -> Session.Steady setup terminal.session ->
      terminal.session.tasks = [] -> terminal.desk = desk ->
      Stands setup terminal (.closed exit desk)

/-!
# One line
-/

theorem stands_close {desk : Desk γ} (steady : Session.Steady setup terminal.session)
    (none : terminal.session.tasks = []) (same : terminal.desk = desk) (exit : Exit) :
    (terminal.close exit).Stands setup (.closed exit desk) :=
  .closed rfl steady none same

theorem stands_follow_of_result {number : Nat} {result : Except Failure Unit} {desk : Desk γ}
    (steady : Session.Steady setup terminal.session) (none : terminal.session.tasks = [])
    (same : terminal.desk = desk) (finished : terminal.session.result? number = some result)
    (only : Bool) :
    (terminal.follow number only).Stands setup
      (if only then .closed (exitAfter result) desk else .commanding desk) := by
  rw [follow, finished]
  cases only with
  | true => exact stands_close steady none same _
  | false => exact .commanding rfl steady none same

theorem stands_follow {before : Session γ} {number : Nat} {conversation : Conversation γ}
    (steady : Session.Steady setup terminal.session)
    (reaches : Session.Reaches before number conversation terminal.session)
    (unfinished : before.result? number = none) (only : Bool) :
    (terminal.follow number only).Stands setup
      ((before.desk terminal.editor).standAt only conversation) := by
  cases conversation with
  | ended deeds result guest unread =>
      cases reaches with
      | ended none has since =>
          refine stands_follow_of_result steady none ?_ (since.result?_of_ended unfinished) only
          rw [desk, Session.desk, has, since.deeds, since.results]
          rfl
  | asks deeds prompt guest resume =>
      cases reaches with
      | asks alone waits has since =>
          have unended := (since.result?_eq number).trans unfinished
          rw [follow, unended]
          refine .asking rfl steady alone waits unended ?_
          change terminal.desk = _
          rw [desk, Session.desk, has, since.deeds, since.results, List.map_nil, List.append_nil]
          rfl

theorem start_eq (terminal : Terminal γ) (source : String) (only : Bool) :
    terminal.start source only =
      ({ terminal.idle with
        session := terminal.session.step (.run source) } : Terminal γ).idle.follow
          terminal.session.nextTask only := rfl

theorem answer_eq (terminal : Terminal γ) (number : Nat) (only : Bool) (line : String) :
    terminal.answer number only line =
      ({ terminal with
          session := terminal.session.step (.submitLine line)
          screen := (terminal.mapSession fun session =>
            { session with input := (terminal.session.input.submitLine line).1 }).idle.screen } :
        Terminal γ).idle.follow number only := rfl

theorem stands_start {guest : γ} (steady : Session.Steady setup terminal.session)
    (none : terminal.session.tasks = []) (there : terminal.session.guest? = some guest)
    (source : String) (only : Bool) :
    (terminal.start source only).Stands setup
      (terminal.desk.standAt only (setup.conversation guest source [])) := by
  have reaches : Session.Reaches terminal.session terminal.session.nextTask
      (terminal.session.conversation guest source []) (terminal.session.step (.run source)) :=
    steady.regular.reaches_run none there source
  rw [steady.conversation_eq] at reaches
  have begun : Session.Steady setup (terminal.session.step (.run source)) := steady.step _
  rw [start_eq]
  exact stands_follow begun reaches steady.past.result?_nextTask only

theorem stands_start_of_not_ready (steady : Session.Steady setup terminal.session)
    (none : terminal.session.tasks = []) (unready : terminal.session.guest? = Option.none)
    (source : String) :
    (terminal.start source false).Stands setup (.commanding terminal.desk.refusing) := by
  rcases Session.step_run_of_not_ready none unready source with ⟨still, lacks, since⟩
  have finished := since.result?_of_ended steady.past.result?_nextTask
  have refused : Session.Steady setup (terminal.session.step (.run source)) := steady.step _
  rw [start_eq]
  refine stands_follow_of_result refused still ?_ finished false
  change (terminal.session.step (.run source)).desk terminal.editor = _
  rw [Session.desk, lacks, since.deeds, since.results, List.append_nil, desk, Session.desk, unready]
  rfl

theorem stands_answer {number request : Nat} {prompt : String} {guest : γ}
    {resume : Except String String -> Activity Unit γ}
    (steady : Session.Steady setup terminal.session)
    (asking : terminal.session.tasks =
      [⟨number, .running (.asking (.waiting request) guest resume)⟩])
    (waits : terminal.session.input.waiting? = some ⟨request, prompt⟩)
    (unfinished : terminal.session.result? number = none) (only : Bool) (line : String) :
    (terminal.answer number only line).Stands setup
      (terminal.desk.standAt only (((resume (.ok line)).converse []).after [.returned line])) := by
  have reaches := steady.regular.reaches_submitLine asking waits line
  have answered : Session.Steady setup (terminal.session.step (.submitLine line)) := steady.step _
  rw [answer_eq]
  exact stands_follow answered reaches unfinished only

/-!
# Commands
-/

namespace Stands

variable {standing : Standing γ} {desk : Desk γ}

theorem idle (stands : terminal.Stands setup standing) : terminal.idle.Stands setup standing := by
  cases stands with
  | commanding mode steady none same => exact .commanding mode steady none same
  | asking mode steady alone waits unfinished same =>
      exact .asking mode steady alone waits unfinished same
  | stuck mode => exact .stuck mode
  | closed mode steady none same => exact .closed mode steady none same

theorem await (stands : terminal.Stands setup standing) (line : IncomingLine) :
    (terminal.await line).Stands setup standing := by
  rw [Terminal.await]
  split
  · exact stands.idle
  · exact stands

theorem mapTranscript (stands : terminal.Stands setup (.commanding desk))
    (change : Transcript -> Transcript) :
    (terminal.mapTranscript change).Stands setup (.commanding desk) := by
  cases stands with
  | commanding mode steady none same =>
      exact .commanding mode (steady.mapTranscript change) none same

theorem report (stands : terminal.Stands setup (.commanding desk)) (line : String) :
    (terminal.report line).Stands setup (.commanding desk) :=
  stands.mapTranscript fun transcript => transcript.appendLine line

theorem mapEditor (stands : terminal.Stands setup (.commanding desk)) (change : Editor -> Editor) :
    (terminal.mapEditor change).Stands setup (.commanding (desk.mapEditor change)) := by
  cases stands with
  | commanding mode steady none same =>
      refine .commanding mode steady none ?_
      rw [← same]
      rfl

theorem editor_eq (stands : terminal.Stands setup (.commanding desk)) :
    terminal.editor = desk.editor := by
  cases stands with
  | commanding mode steady none same =>
      rw [← same]
      rfl

theorem showProgram (stands : terminal.Stands setup (.commanding desk)) :
    terminal.showProgram.Stands setup (.commanding desk) := by
  rw [Terminal.showProgram]
  generalize listing terminal.editor = lines
  induction lines generalizing terminal with
  | nil => exact stands
  | cons line rest ih => exact ih (stands.report line)

variable {World : Type} (surroundings : Surroundings (StateM World))

abbrev AtDesk (setup : Session γ) (terminal : Terminal γ) (desk : Desk γ) : Prop :=
  terminal.Stands setup (.commanding desk)

theorem saveAs (stands : terminal.Stands setup (.commanding desk)) (name : String) :
    Alike (AtDesk setup) (terminal.saveAs surroundings name) (do
      let _ ← Program.save surroundings.disk "." name desk.editor.text
      return desk) := by
  have written := stands.idle.editor_eq
  rw [Terminal.saveAs, ← written]
  refine alike_bind_same ?_
  intro saved
  cases saved with
  | ok path => exact alike_pure (stands.idle.mapTranscript _)
  | error failure => exact alike_pure (stands.idle.report _)

theorem saveProgram (stands : terminal.Stands setup (.commanding desk)) (name : String) :
    Alike (AtDesk setup) (terminal.saveProgram surroundings name)
      (desk.obey surroundings (.save name)) := by
  rw [Terminal.saveProgram, Desk.obey]
  cases name.isEmpty with
  | true => exact alike_bind_same fun now => stands.saveAs surroundings _
  | false => exact stands.saveAs surroundings name

theorem fetch (stands : terminal.Stands setup standing) (path : String) :
    Alike (fun fetched answer => fetched.1.Stands setup standing ∧ fetched.2 = answer)
      (terminal.fetch surroundings path) (Program.load surroundings.disk path) := by
  have still : (if Program.isProgramFile path then terminal.idle else terminal).Stands setup
      standing := by
    split
    · exact stands.idle
    · exact stands
  intro world
  exact ⟨⟨still, rfl⟩, rfl⟩

theorem loadProgram (stands : terminal.Stands setup (.commanding desk)) (path : String) :
    Alike (AtDesk setup) (terminal.loadProgram surroundings path)
      (desk.obey surroundings (.load path)) := by
  refine alike_bind (stands.fetch surroundings path) ?_
  rintro ⟨fetched, source⟩ answer ⟨still, rfl⟩
  cases source with
  | ok text => exact alike_pure ((still.mapEditor _).mapTranscript _)
  | error failure => exact alike_pure (still.report _)

theorem obey (stands : terminal.Stands setup (.commanding desk)) {command : Command}
    (stays : command ≠ .quit) (apart : command ≠ .run) (given : ∀ line, command ≠ .append line) :
    Alike (AtDesk setup) (terminal.obey surroundings command)
      (desk.obey surroundings command) := by
  cases command with
  | run => exact absurd rfl apart
  | quit => exact absurd rfl stays
  | append line => exact absurd rfl (given line)
  | startAfresh => exact alike_pure (stands.mapEditor _)
  | insertHelp => exact alike_pure (stands.mapEditor _)
  | insertExample => exact alike_pure (stands.mapEditor _)
  | clearScreen => exact alike_pure (stands.mapTranscript _)
  | save name => exact stands.saveProgram surroundings name
  | load path => exact stands.loadProgram surroundings path
  | list => exact alike_pure stands.showProgram
  | explain => exact alike_pure (stands.report _)

theorem run (stands : terminal.Stands setup (.commanding desk)) :
    (terminal.start terminal.editor.text false).Stands setup
      (match desk.guest? with
        | none => .commanding desk.refusing
        | some guest =>
            desk.standAt false (setup.conversation guest desk.editor.text [])) := by
  cases stands with
  | commanding mode steady none same =>
      subst same
      cases there : terminal.session.guest? with
      | none =>
          have lacks : terminal.desk.guest? = Option.none := there
          rw [lacks]
          exact stands_start_of_not_ready steady none there _
      | some guest =>
          have has : terminal.desk.guest? = some guest := there
          rw [has]
          exact stands_start steady none there _ false

theorem obey_ofLine (stands : terminal.Stands setup (.commanding desk)) (line : String) :
    Alike (Stands setup) (terminal.obey surroundings (.ofLine line))
      (desk.take setup surroundings line) := by
  rw [Desk.take]
  cases given : Command.isGiven line with
  | false =>
      rw [Command.ofLine_of_not_isGiven given]
      exact alike_pure (stands.mapEditor _)
  | true =>
      have other := Command.ofLine_ne_append given
      rw [if_pos rfl]
      generalize Command.ofLine line = command at other
      split
      · have runs := stands.run
        cases there : desk.guest? with
        | none =>
            rw [there] at runs
            exact alike_pure runs
        | some guest =>
            rw [there] at runs
            exact alike_pure runs
      · cases stands with
        | commanding mode steady none same => exact alike_pure (stands_close steady none same _)
      · rename_i apart stays
        exact alike_map_right (stands.obey surroundings stays apart other) fun _ _ still => still

theorem take (stands : terminal.Stands setup standing) (line : IncomingLine) :
    Alike (Stands setup) (terminal.take surroundings line)
      (standing.take setup surroundings line.text) := by
  have awaited := stands.await line
  cases stands with
  | commanding mode steady none same =>
      rw [Terminal.take, mode]
      exact awaited.obey_ofLine surroundings line.text
  | stuck mode =>
      rw [Terminal.take, mode]
      exact alike_pure (.stuck mode)
  | closed mode steady none same =>
      rw [Terminal.take, mode]
      exact alike_pure (.closed mode steady none same)
  | asking mode steady alone waits unfinished same =>
      subst same
      rw [Terminal.take, mode]
      refine alike_pure ?_
      rw [Terminal.await]
      split
      · have waited : Session.Steady setup terminal.idle.session := steady
        exact stands_answer waited alone waits unfinished _ _
      · exact stands_answer steady alone waits unfinished _ _

theorem takeAll (stands : terminal.Stands setup standing) (lines : List IncomingLine) :
    Alike (Stands setup) (terminal.takeAll surroundings lines)
      (standing.goOn setup surroundings (lines.map IncomingLine.text)) := by
  induction lines generalizing terminal standing with
  | nil =>
      rw [List.map_nil, Standing.goOn_nil]
      exact alike_pure stands
  | cons line rest ih =>
      rw [takeAll_cons, List.map_cons, Standing.goOn_cons]
      exact alike_bind (stands.take surroundings line) fun _ _ still => ih still

theorem takeEnd (stands : terminal.Stands setup standing) :
    terminal.takeEnd.Stands setup standing.atEnd := by
  cases stands with
  | commanding mode steady none same =>
      rw [Terminal.takeEnd, mode]
      exact .closed rfl steady none same
  | stuck mode =>
      rw [Terminal.takeEnd, mode]
      exact .stuck mode
  | closed mode steady none same =>
      rw [Terminal.takeEnd, mode]
      exact .closed mode steady none same
  | @asking number request only prompt guest resume desk mode steady alone waits unfinished same =>
      rcases Session.step_cancel_of_asking alone with ⟨none, left, since⟩
      have givenUp : Session.Steady setup (terminal.session.step (.cancel number)) := steady.step _
      rw [Terminal.takeEnd, mode]
      refine .closed rfl givenUp none ?_
      change (terminal.session.step (.cancel number)).desk terminal.editor = _
      rw [← same, Session.desk, left, since.deeds, since.results, List.append_nil, List.map_nil,
        List.append_nil]
      rfl

end Stands

end Terminal
end HangulConsole
