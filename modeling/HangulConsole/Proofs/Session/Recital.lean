import HangulConsole.Proofs.Session.Lifecycle
import HangulConsole.Proofs.Session.Report
import HangulConsole.Proofs.Session.Serial
import HangulConsole.Proofs.Session.Telling

/-!
# The transcript of a session, run by run

However the runs of a ready session wait for each other, are given up and are answered, its
transcript reads as if they were executed one after another by one who does nothing else:
it is made of blocks, one for each run that was started, in this order.
-/

namespace HangulConsole

/-- What a run that was started has put into the transcript. -/
structure Block (γ : Type) where
  task : Nat
  source : String
  /-- The guest that was called to execute it. -/
  guest : γ
  told : String
  /-- The lines that were submitted to it. -/
  lines : List String
  stand : Stand γ
  /-- How the run ended, if it was not given up. -/
  result? : Option (Except Failure Unit)

namespace Block

variable {γ : Type}

/-- A block is a separator, what the program tells, and the report if the run fails. -/
def text (messages : Messages) (block : Block γ) : String :=
  messages.runSeparator ++ "\n" ++ block.told ++
    (block.result?.map (Session.reportOf messages)).getD ""

theorem text_of_open (messages : Messages) {block : Block γ} (none : block.result? = none) :
    block.text messages = messages.runSeparator ++ "\n" ++ block.told := by
  rw [text, none]
  exact String.append_empty

def textOf (messages : Messages) (blocks : List (Block γ)) : String :=
  String.join (blocks.map (text messages))

theorem textOf_concat (messages : Messages) (blocks : List (Block γ)) (block : Block γ) :
    textOf messages (blocks ++ [block]) = textOf messages blocks ++ block.text messages := by
  rw [textOf, textOf, List.map_append, String.join_append, List.map_singleton]
  simp

end Block

namespace Session

variable {γ : Type} {session after booted : Session γ} {number : Nat} {phase : Phase γ}
  {rest : List (Task γ)} {list : List (Move γ)} {move : Move γ} {stand : Stand γ}
  {result? : Option (Except Failure Unit)} {blocks : List (Block γ)}

inductive Closes (session : Session γ) (number : Nat) (stand : Stand γ) :
    Move γ -> Option (Except Failure Unit) -> Prop where
  | givenUp :
      session.stand? = some (number, stand) ->
      Closes session number stand (.operation (.cancel number)) none
  | returns {move : Move γ} {result : Except Failure Unit} :
      session.stand? = some (number, stand) ->
      (session.move move).finished = session.finished ++ [⟨number, result⟩] ->
      Closes session number stand move (some result)

structure ClosedBy (booted : Session γ) (first : List (Move γ)) (move : Move γ)
    (early : List (Block γ)) (block : Block γ) : Prop where
  closes : (booted.moves first).Closes block.task block.stand move block.result?
  text : (booted.moves (first ++ [move])).transcript.text =
    booted.transcript.text ++ Block.textOf booted.messages (early ++ [block])

def ClosedIn (booted : Session γ) (list : List (Move γ)) (early : List (Block γ))
    (block : Block γ) : Prop :=
  ∃ first move second, list = first ++ move :: second ∧ ClosedBy booted first move early block

/-- The guest that is there after some runs. -/
def guestAfter (booted : Session γ) (blocks : List (Block γ)) : Option γ :=
  match blocks.getLast? with
  | some block => some block.stand.left
  | none => booted.guest?

/-- What a guest tells that executes a source alone, when these lines are submitted to it. -/
def TellsAlone (booted : Session γ) (source : String) (guest : γ) :
    String -> List String -> Stand γ -> Prop :=
  Told booted.messages.stderrMarker (booted.activityOf guest (.exec (booted.program source)))

/-- Blocks as one has them who executes the runs that were asked for one after another. -/
structure Sequential (booted : Session γ) (list : List (Move γ)) (blocks : List (Block γ)) :
    Prop where
  once : (blocks.map Block.task).Nodup
  requested : ∀ block ∈ blocks, booted.Requested list block.task block.source
  /-- Each run has the guest that the run before has left. -/
  guests : ∀ early block late, blocks = early ++ block :: late ->
    booted.guestAfter early = some block.guest
  told : ∀ block ∈ blocks,
    booted.TellsAlone block.source block.guest block.told block.lines block.stand
  /-- A run that has returned has told everything. -/
  complete : ∀ block ∈ blocks, ∀ result, block.result? = some result ->
    ∃ guest, block.stand = .going (.ended result guest)

/-- The blocks of the runs that were started in some moves of a session which was just booted. -/
structure Recites (booted : Session γ) (list : List (Move γ)) (blocks : List (Block γ)) : Prop
    extends Sequential booted list blocks where
  text : (booted.moves list).transcript.text =
    booted.transcript.text ++ Block.textOf booted.messages blocks
  /-- There is a block for each run that was started, in this order. -/
  started : (booted.moves list).executions =
    booted.executions ++ blocks.map fun block => (block.task, booted.program block.source)
  /-- Every line that was submitted is in one block, and no other line. -/
  lines : blocks.flatMap Block.lines = booted.submissions list
  /-- A block ends where its run was over, or the run is at work. -/
  stops : ∀ early block late, blocks = early ++ block :: late ->
    ClosedIn booted list early block ∨
    late = [] ∧ block.result? = none ∧
      (booted.moves list).stand? = some (block.task, block.stand)
  /-- A run that is over has a block that ends with this. -/
  closed : ∀ first move second number stand result?, list = first ++ move :: second ->
    (booted.moves first).Closes number stand move result? ->
    ∃ early block late, blocks = early ++ block :: late ∧ block.task = number ∧
      block.result? = result? ∧ ClosedBy booted first move early block ∧
      (late = [] -> (booted.moves list).stand? = none)

/-- The blocks of a session, and how it stands after the last. -/
structure Reciting (booted : Session γ) (list : List (Move γ)) (blocks : List (Block γ)) : Prop
    extends Recites booted list blocks where
  atWork : ∀ number stand, (booted.moves list).stand? = some (number, stand) ->
    ∃ early block, blocks = early ++ [block] ∧ block.task = number ∧ block.stand = stand ∧
      block.result? = none
  idle : (booted.moves list).stand? = none ->
    (booted.moves list).guest? = booted.guestAfter blocks

/-!
# The end of a run
-/

theorem front_of_stand? (found : session.stand? = some (number, stand)) :
    ∃ work rest, session.tasks = ⟨number, .running work⟩ :: rest ∧
      stand = session.standOf work := by
  rw [stand?] at found
  split at found
  · rename_i other work rest front
    cases found
    exact ⟨work, rest, front, rfl⟩
  · cases found

theorem finished_cancel (session : Session γ) (task : Nat) :
    (session.cancel task).finished = session.finished := by
  rw [cancel]
  cases session.phase? task with
  | none => rfl
  | some phase =>
      cases phase with
      | booting work plan => cases work <;> rfl
      | running work => cases work <;> rfl
      | _ => rfl

namespace Closes

theorem stand?_eq (closes : session.Closes number stand move result?) :
    session.stand? = some (number, stand) := by
  cases closes with
  | givenUp found => exact found
  | returns found _ => exact found

theorem stand?_move (closes : session.Closes number stand move result?) (line : session.InLine) :
    (session.move move).stand? = none := by
  rcases front_of_stand? closes.stand?_eq with ⟨work, rest, front, _⟩
  have distinct : ∀ other ∈ rest, other.number ≠ number := fun _ => line.number_ne_of_mem front
  have found := phase?_of_front front
  cases closes with
  | givenUp _ =>
      apply line.stand?_of_rest front
      show (session.cancel number).tasks = rest
      rw [cancel, found]
      cases work with
      | going activity => exact tasks_removeTask front distinct
      | asking ticket guest resume => exact tasks_removeTask front distinct
  | @returns _ result _ finished =>
      rcases (line.outcome move).runEnds_of_finished line (mem_tasks_of_phase? found) rfl finished
        with ⟨guest, _, ended⟩
      apply line.stand?_of_rest front
      rw [ended]
      cases result with
      | ok done => exact tasks_removeTask front distinct
      | error failure => exact tasks_removeTask front distinct

theorem result?_eq {other : Nat} {stand' : Stand γ} {result?' : Option (Except Failure Unit)}
    (closes : session.Closes number stand move result?)
    (also : session.Closes other stand' move result?') : result? = result?' := by
  cases closes with
  | givenUp found =>
      cases also with
      | givenUp _ => rfl
      | returns _ finished =>
          have same : (session.move (.operation (.cancel number))).finished = session.finished :=
            session.finished_cancel number
          rw [same] at finished
          cases List.self_eq_append_right.1 finished
  | returns found finished =>
      cases also with
      | givenUp _ =>
          have same : (session.move (.operation (.cancel other))).finished = session.finished :=
            session.finished_cancel other
          rw [same] at finished
          cases List.self_eq_append_right.1 finished
      | returns _ finished' =>
          cases eq_of_finished finished finished'
          rfl

end Closes

/-!
# Lists of moves that grow
-/

theorem submissions_concat (session : Session γ) (list : List (Move γ)) (move : Move γ) :
    session.submissions (list ++ [move]) =
      session.submissions list ++ ((session.moves list).submission? move).toList := by
  induction list generalizing session with
  | nil => exact List.append_nil _
  | cons first rest ih =>
      rw [List.cons_append, submissions, ih, submissions, moves_cons, List.append_assoc]

theorem ClosedIn.concat {early : List (Block γ)} {block : Block γ}
    (closed : ClosedIn booted list early block) (move : Move γ) :
    ClosedIn booted (list ++ [move]) early block := by
  rcases closed with ⟨first, other, second, rfl, closed⟩
  exact ⟨first, other, second ++ [move], by rw [List.append_assoc, List.cons_append], closed⟩

theorem messages_moves (booted : Session γ) (list : List (Move γ)) :
    (booted.moves list).messages = booted.messages := by
  rw [messages, messages, (booted.sameSetup_moves list).settings]

theorem guestAfter_concat (booted : Session γ) (blocks : List (Block γ)) (block : Block γ) :
    booted.guestAfter (blocks ++ [block]) = some block.stand.left := by
  rw [guestAfter, List.getLast?_concat]

namespace Sequential

theorem later (sequential : Sequential booted list blocks) (move : Move γ) :
    Sequential booted (list ++ [move]) blocks where
  once := sequential.once
  requested block mem := (sequential.requested block mem).concat move
  guests := sequential.guests
  told := sequential.told
  complete := sequential.complete

theorem early {early : List (Block γ)} {block : Block γ}
    (sequential : Sequential booted list (early ++ [block])) : Sequential booted list early where
  once := by
    have once := sequential.once
    rw [List.map_append, List.nodup_append] at once
    exact once.1
  requested := (List.forall_mem_append.1 sequential.requested).1
  guests := by
    rintro before other late rfl
    apply sequential.guests before other (late ++ [block])
    rw [List.append_assoc, List.cons_append]
  told := (List.forall_mem_append.1 sequential.told).1
  complete := (List.forall_mem_append.1 sequential.complete).1

theorem concat {block : Block γ} (sequential : Sequential booted list blocks)
    (once : ∀ other ∈ blocks, other.task ≠ block.task)
    (requested : booted.Requested list block.task block.source)
    (guest : booted.guestAfter blocks = some block.guest)
    (told : booted.TellsAlone block.source block.guest block.told block.lines block.stand)
    (complete : ∀ result, block.result? = some result ->
      ∃ guest, block.stand = .going (.ended result guest)) :
    Sequential booted list (blocks ++ [block]) := by
  constructor
  · rw [List.map_append, List.map_singleton, List.nodup_append]
    refine ⟨sequential.once, List.nodup_singleton _, ?_⟩
    intro task mem _ new
    rcases List.mem_map.1 mem with ⟨other, old, rfl⟩
    rw [List.mem_singleton.1 new]
    exact once other old
  · exact List.forall_mem_append.2 ⟨sequential.requested, List.forall_mem_singleton.2 requested⟩
  · intro early other late split
    rcases append_singleton_eq_append_cons split with ⟨_, rfl, rfl⟩ | ⟨others, _, old⟩
    · exact guest
    · exact sequential.guests early other others old
  · exact List.forall_mem_append.2 ⟨sequential.told, List.forall_mem_singleton.2 told⟩
  · exact List.forall_mem_append.2 ⟨sequential.complete, List.forall_mem_singleton.2 complete⟩

theorem replace {early : List (Block γ)} {block : Block γ} {told : String} {lines : List String}
    {next : Stand γ} (sequential : Sequential booted list (early ++ [block]))
    (tells : booted.TellsAlone block.source block.guest told lines next)
    (complete : ∀ result, result? = some result -> ∃ guest, next = .going (.ended result guest)) :
    Sequential booted list (early ++ [{ block with told, lines, stand := next, result? }]) := by
  have once := sequential.once
  rw [List.map_append, List.nodup_append] at once
  apply sequential.early.concat
  · exact fun other old => once.2.2 _ (List.mem_map_of_mem old) _ (List.mem_singleton_self _)
  · exact sequential.requested block (List.mem_append_right _ List.mem_cons_self)
  · exact sequential.guests early block [] rfl
  · exact tells
  · exact complete

end Sequential

/-!
# One more move
-/

namespace Reciting

theorem rests {ended : List Finished} (reciting : Reciting booted list blocks)
    (line : (booted.moves list).InLine)
    (stands : ((booted.moves list).move move).stand? = (booted.moves list).stand?)
    (guest? : ((booted.moves list).move move).guest? = (booted.moves list).guest?)
    (adds : Adds (booted.moves list) ((booted.moves list).move move) "" [] ended)
    (silent : (booted.moves list).submission? move = none) :
    Reciting booted (list ++ [move]) blocks := by
  rcases adds with ⟨text, executions, _⟩
  constructor
  · constructor
    · exact reciting.later move
    · rw [moves_concat, text, String.append_empty]
      exact reciting.text
    · rw [moves_concat, executions, List.append_nil]
      exact reciting.started
    · rw [submissions_concat, silent]
      exact reciting.lines.trans (List.append_nil _).symm
    · intro early block late split
      rw [moves_concat, stands]
      exact (reciting.stops early block late split).imp (fun closed => closed.concat move) id
    · intro first other second number stand result? split closes
      rw [moves_concat, stands]
      rcases append_singleton_eq_append_cons split with ⟨_, rfl, rfl⟩ | ⟨others, _, before⟩
      · -- after a move that ends the run at work there is none
        have gone := closes.stand?_move line
        rw [stands, closes.stand?_eq] at gone
        cases gone
      · exact reciting.closed first other others number stand result? before closes
  · rw [moves_concat, stands]
    exact reciting.atWork
  · rw [moves_concat, stands, guest?]
    exact reciting.idle

end Reciting

/-- Blocks that do not change any more: all their runs are over. -/
structure Fixed (booted : Session γ) (list : List (Move γ)) (blocks : List (Block γ)) : Prop where
  stops : ∀ early block late, blocks = early ++ block :: late -> ClosedIn booted list early block
  closed : ∀ first move second number stand result?, list = first ++ move :: second ->
    (booted.moves first).Closes number stand move result? ->
    ∃ early block late, blocks = early ++ block :: late ∧ block.task = number ∧
      block.result? = result? ∧ ClosedBy booted first move early block

/-- The block of the run that is at work after a move or was until then. -/
structure Latest (booted : Session γ) (list : List (Move γ)) (move : Move γ)
    (early : List (Block γ)) (block : Block γ) : Prop where
  sequential : Sequential booted list (early ++ [block])
  text : ((booted.moves list).move move).transcript.text =
    booted.transcript.text ++ Block.textOf booted.messages (early ++ [block])
  started : ((booted.moves list).move move).executions =
    booted.executions ++ (early ++ [block]).map fun block =>
      (block.task, booted.program block.source)
  lines : (early ++ [block]).flatMap Block.lines =
    booted.submissions list ++ ((booted.moves list).submission? move).toList
  ends : (booted.moves list).Closes block.task block.stand move block.result? ∧
      ((booted.moves list).move move).guest? = some block.stand.left ∨
    block.result? = none ∧
      ((booted.moves list).move move).stand? = some (block.task, block.stand)
  only : ∀ number stand result?, (booted.moves list).Closes number stand move result? ->
    number = block.task

theorem Latest.closedBy {early : List (Block γ)} {block : Block γ}
    (latest : Latest booted list move early block)
    (closes : (booted.moves list).Closes block.task block.stand move block.result?) :
    ClosedBy booted list move early block :=
  ⟨closes, by rw [moves_concat]; exact latest.text⟩

namespace Fixed

variable {early : List (Block γ)} {block : Block γ}

theorem stops_concat (fixed : Fixed booted list early)
    (latest : Latest booted list move early block) {before late : List (Block γ)}
    {found : Block γ}
    (split : early ++ [block] = before ++ found :: late) :
    ClosedIn booted (list ++ [move]) before found ∨
    late = [] ∧ found.result? = none ∧
      (booted.moves (list ++ [move])).stand? = some (found.task, found.stand) := by
  rcases append_singleton_eq_append_cons split with ⟨rfl, rfl, rfl⟩ | ⟨others, _, old⟩
  · rcases latest.ends with ⟨closes, _⟩ | ⟨open_, stands⟩
    · exact Or.inl ⟨list, move, [], rfl, latest.closedBy closes⟩
    · rw [moves_concat]
      exact Or.inr ⟨rfl, open_, stands⟩
  · exact Or.inl ((fixed.stops before found others old).concat move)

theorem closed_concat (fixed : Fixed booted list early) (line : (booted.moves list).InLine)
    (latest : Latest booted list move early block) {first second : List (Move γ)} {other : Move γ}
    (split : list ++ [move] = first ++ other :: second)
    (closes : (booted.moves first).Closes number stand other result?) :
    ∃ before found late, early ++ [block] = before ++ found :: late ∧ found.task = number ∧
      found.result? = result? ∧ ClosedBy booted first other before found ∧
      (late = [] -> (booted.moves (list ++ [move])).stand? = none) := by
  rcases append_singleton_eq_append_cons split with ⟨_, rfl, rfl⟩ | ⟨others, _, earlier⟩
  · rcases latest.ends with ⟨ends, _⟩ | ⟨_, stands⟩
    · refine ⟨early, block, [], rfl, (latest.only number stand result? closes).symm, ?_,
        latest.closedBy ends, ?_⟩
      · exact ends.result?_eq closes
      · rw [moves_concat]
        exact fun _ => closes.stand?_move line
    · rw [closes.stand?_move line] at stands
      cases stands
  · rcases fixed.closed first other others number stand result? earlier closes with
      ⟨before, found, late, rfl, same, result, closed⟩
    refine ⟨before, found, late ++ [block], ?_, same, result, closed, ?_⟩
    · rw [List.append_assoc, List.cons_append]
    · intro none
      cases List.append_ne_nil_of_right_ne_nil late (List.cons_ne_nil block []) none

theorem reciting (fixed : Fixed booted list early) (line : (booted.moves list).InLine)
    (latest : Latest booted list move early block) :
    Reciting booted (list ++ [move]) (early ++ [block]) := by
  constructor
  · constructor
    · exact latest.sequential.later move
    · rw [moves_concat]
      exact latest.text
    · rw [moves_concat]
      exact latest.started
    · rw [submissions_concat]
      exact latest.lines
    · exact fun _ _ _ => fixed.stops_concat latest
    · exact fun _ _ _ _ _ _ => fixed.closed_concat line latest
  · intro number stand found
    rw [moves_concat] at found
    rcases latest.ends with ⟨closes, _⟩ | ⟨open_, stands⟩
    · rw [closes.stand?_move line] at found
      cases found
    · rw [stands] at found
      cases found
      exact ⟨early, block, rfl, rfl, rfl, open_⟩
  · intro idle
    rw [moves_concat] at idle ⊢
    rw [guestAfter_concat]
    rcases latest.ends with ⟨_, left⟩ | ⟨_, stands⟩
    · exact left
    · rw [stands] at idle
      cases idle

end Fixed

namespace Reciting

theorem fixed (reciting : Reciting booted list blocks)
    (idle : (booted.moves list).stand? = none) : Fixed booted list blocks where
  stops := by
    intro early block late split
    rcases reciting.stops early block late split with closed | ⟨_, _, stands⟩
    · exact closed
    · rw [idle] at stands
      cases stands
  closed := by
    intro first move second number stand result? split closes
    rcases reciting.closed first move second number stand result? split closes with
      ⟨early, block, late, eq, same, result, closed, _⟩
    exact ⟨early, block, late, eq, same, result, closed⟩

theorem fixed_early {early : List (Block γ)} {block : Block γ}
    (reciting : Reciting booted list (early ++ [block]))
    (stands : (booted.moves list).stand? = some (number, stand)) : Fixed booted list early where
  stops := by
    rintro before other late rfl
    rcases reciting.stops before other (late ++ [block])
      (by rw [List.append_assoc, List.cons_append]) with closed | ⟨none, _, _⟩
    · exact closed
    · cases List.append_ne_nil_of_right_ne_nil late (List.cons_ne_nil block []) none
  closed := by
    intro first move second number stand result? split closes
    rcases reciting.closed first move second number stand result? split closes with
      ⟨before, other, late, eq, same, result, closed, idle⟩
    rcases append_singleton_eq_append_cons eq with ⟨none, _, _⟩ | ⟨others, _, old⟩
    · rw [idle none] at stands
      cases stands
    · exact ⟨before, other, others, old, same, result, closed⟩

theorem latest_starts {source : String} {guest : γ} (reciting : Reciting booted list blocks)
    (orderly : (booted.moves list).Orderly) (empty : booted.tasks = [])
    (idle : (booted.moves list).stand? = none)
    (queued : (booted.moves list).phase? number = some (.queued source))
    (there : (booted.moves list).guest? = some guest)
    (stands : ((booted.moves list).move (.tick number)).stand? = some (number,
      .going ((booted.moves list).activityOf guest (.exec ((booted.moves list).program source)))))
    (adds : Adds (booted.moves list) ((booted.moves list).move (.tick number))
      ((booted.moves list).messages.runSeparator ++ "\n")
      [(number, (booted.moves list).program source)] []) :
    Latest booted list (.tick number) blocks ⟨number, source, guest, "", [],
      .going (booted.activityOf guest (.exec (booted.program source))), none⟩ := by
  have setup := booted.sameSetup_moves list
  have mem := mem_tasks_of_phase? queued
  rcases adds with ⟨text, executions, _⟩
  rw [setup.program_eq] at executions stands
  rw [setup.activityOf_eq] at stands
  constructor
  · apply reciting.toSequential.concat
    · -- a run that still waits was never noted, and each block has a note
      intro other old same
      have begun : (other.task, booted.program other.source) ∈ (booted.moves list).executions := by
        rw [reciting.started]
        exact List.mem_append_right _ (List.mem_map_of_mem old)
      rcases exists_note_of_execution begun with ⟨note, noted, owner⟩
      exact orderly.notes.not_queued note noted _ mem rfl (owner.trans same)
    · exact requested_of_queued empty list mem
    · rw [← reciting.idle idle]
      exact there
    · exact .begins
    · intro result ended
      cases ended
  · rw [text, reciting.text, messages_moves, Block.textOf_concat, Block.text_of_open _ rfl,
      String.append_empty, String.append_assoc]
  · rw [executions, reciting.started, List.map_append, List.append_assoc]
    rfl
  · rw [List.flatMap_append, reciting.lines]
    rfl
  · exact Or.inr ⟨rfl, stands⟩
  · intro other stand result? closes
    have found := closes.stand?_eq
    rw [idle] at found
    cases found

theorem latest {early : List (Block γ)} {block : Block γ} {told more : String}
    {lines : List String} {next : Stand γ} {ended : List Finished}
    (reciting : Reciting booted list (early ++ [block]))
    (stands : (booted.moves list).stand? = some (block.task, stand))
    (adds : Adds (booted.moves list) ((booted.moves list).move move) more [] ended)
    (text : Block.text booted.messages { block with told, lines, stand := next, result? } =
      block.text booted.messages ++ more)
    (submits : lines = block.lines ++ ((booted.moves list).submission? move).toList)
    (tells : booted.TellsAlone block.source block.guest told lines next)
    (complete : ∀ result, result? = some result -> ∃ guest, next = .going (.ended result guest))
    (ends : (booted.moves list).Closes block.task next move result? ∧
        ((booted.moves list).move move).guest? = some next.left ∨
      result? = none ∧ ((booted.moves list).move move).stand? = some (block.task, next)) :
    Latest booted list move early { block with told, lines, stand := next, result? } where
  sequential := reciting.replace tells complete
  text := by
    rw [adds.text, reciting.text, Block.textOf_concat, Block.textOf_concat, text,
      String.append_assoc, String.append_assoc]
  started := by
    rw [adds.executions, List.append_nil, reciting.started, List.map_append, List.map_append]
    rfl
  lines := by
    have lines := reciting.lines
    rw [List.flatMap_append, List.flatMap_singleton] at lines ⊢
    rw [← lines, submits, List.append_assoc]
  ends := ends
  only := by
    intro other stand result? closes
    have found := closes.stand?_eq
    rw [stands] at found
    cases found
    rfl

theorem concat (reciting : Reciting booted list blocks) (regular : (booted.moves list).Regular)
    (ready : (booted.moves list).isReady = true) (empty : booted.tasks = [])
    (keeps : move ≠ .operation .clear) : ∃ blocks, Reciting booted (list ++ [move]) blocks := by
  have line := regular.orderly.line
  have moved := regular.runMove ready keeps
  generalize later : (booted.moves list).move move = after at moved
  cases moved with
  | rests stands guest? adds silent =>
      subst later
      exact ⟨blocks, reciting.rests line stands guest? adds silent⟩
  | starts idle queued there stands adds =>
      subst later
      exact ⟨_, (reciting.fixed idle).reciting line
        (reciting.latest_starts regular.orderly empty idle queued there stands adds)⟩
  | @tells move after number stand next more lines stands tells next_stands adds submits =>
      subst later
      rcases reciting.atWork number stand stands with ⟨early, block, rfl, rfl, rfl, open_⟩
      have told : booted.TellsAlone block.source block.guest (block.told ++ more)
          (block.lines ++ lines) next := by
        rw [messages_moves] at tells
        exact (reciting.told block (List.mem_append_right _ List.mem_cons_self)).goesOn tells
      refine ⟨_, (reciting.fixed_early stands).reciting line
        (reciting.latest stands adds ?_ ?_ told ?_ (Or.inr ⟨rfl, next_stands⟩))⟩
      · rw [Block.text_of_open _ rfl, Block.text_of_open _ open_]
        exact String.append_assoc.symm
      · rw [submits]
      · intro result ended
        cases ended
  | @ends after number result guest stands idle left adds =>
      subst later
      rcases reciting.atWork number _ stands with ⟨early, block, rfl, rfl, same, open_⟩
      have told := reciting.told block (List.mem_append_right _ List.mem_cons_self)
      rw [same] at told
      refine ⟨_, (reciting.fixed_early stands).reciting line
        (reciting.latest stands adds ?_ (List.append_nil _).symm told ?_
          (Or.inl ⟨.returns stands adds.finished, left⟩))⟩
      · rw [Block.text_of_open _ open_, Block.text, messages_moves]
        rfl
      · intro other ended
        cases ended
        exact ⟨guest, rfl⟩
  | @givenUp after number stand stands idle left adds =>
      subst later
      rcases reciting.atWork number stand stands with ⟨early, block, rfl, rfl, rfl, open_⟩
      have told := reciting.told block (List.mem_append_right _ List.mem_cons_self)
      refine ⟨_, (reciting.fixed_early stands).reciting line
        (reciting.latest stands adds ?_ (List.append_nil _).symm told ?_
          (Or.inl ⟨.givenUp stands, left⟩))⟩
      · rw [Block.text_of_open _ open_, Block.text_of_open _ rfl, String.append_empty]
      · intro result ended
        cases ended

end Reciting

/-!
# Any number of moves
-/

theorem Orderly.tasks_of_booted (orderly : session.Orderly) (unready : session.isReady = false)
    (ready : (session.move move).isReady = true) : (session.move move).tasks = [] := by
  have unchanged (same : (session.move move).guest? = session.guest?) : False := by
    rw [isReady, same] at ready
    rw [isReady, ready] at unready
    cases unready
  cases orderly.effect move with
  | rests _ guest? _ _ _ _ _ _ => exact (unchanged guest?).elim
  | goesOn _ _ _ _ _ kept _ _ => exact (unchanged kept.guest?).elim
  | bootEnds _ _ gone _ _ _ _ _ _ => exact gone
  | @runEnds task rest front run _ _ _ _ _ _ _ =>
      have mem : task ∈ session.tasks := by
        rw [front]
        exact List.mem_cons_self
      rw [orderly.line.isReady_of_mem mem run] at unready
      cases unready
  | leaves _ _ _ guest? _ _ _ _ _ _ => exact (unchanged guest?).elim
  | bootBegins _ _ guest? _ _ _ _ _ _ => exact (unchanged guest?).elim
  | runQueues there _ _ _ _ _ _ _ _ =>
      rw [isReady, there] at unready
      cases unready

theorem Regular.isReady_moves (regular : session.Regular) (ready : session.isReady = true)
    (list : List (Move γ)) : (session.moves list).isReady = true := by
  have status := regular.staged.ready.2 ready
  apply (regular.moves list).staged.ready.1
  rw [regular.status_of_isFinal (by rw [status]; rfl) list, status]

theorem reciting_nil (empty : booted.tasks = []) : Reciting booted [] [] := by
  have idle : booted.stand? = none := by
    rw [stand?, empty]
  constructor
  · constructor
    · constructor
      · exact List.nodup_nil
      · exact List.forall_mem_nil _
      · intro early block late split
        simp at split
      · exact List.forall_mem_nil _
      · exact List.forall_mem_nil _
    · exact String.append_empty.symm
    · exact (List.append_nil _).symm
    · rfl
    · intro early block late split
      simp at split
    · intro first move second number stand result? split
      simp at split
  · intro number stand found
    rw [moves_nil, idle] at found
    cases found
  · exact fun _ => rfl

theorem Regular.reciting (regular : booted.Regular) (ready : booted.isReady = true)
    (empty : booted.tasks = []) (list : List (Move γ))
    (keeps : .operation .clear ∉ list) : ∃ blocks, Reciting booted list blocks := by
  induction list using List.reverseRecOn with
  | nil => exact ⟨[], reciting_nil empty⟩
  | append_singleton list move ih =>
      rcases ih (fun mem => keeps (List.mem_append_left _ mem)) with ⟨blocks, reciting⟩
      apply reciting.concat (regular.moves list) (regular.isReady_moves ready list) empty
      rintro rfl
      exact keeps (List.mem_append_right _ List.mem_cons_self)

/-- What it means that a transcript reads as if runs were executed one after another.  The moves may
be any that do not clear it: requests, operations on the line input, steps of any tasks and their
ends, in any order. -/
structure Recital (booted : Session γ) : Prop where
  recites : ∀ list, .operation .clear ∉ list -> ∃ blocks, Recites booted list blocks
  /-- A run that is given up before its turn has no block. -/
  skipped : ∀ first task source second blocks,
    (booted.moves first).phase? task = some (.queued source) ->
    Recites booted (first ++ .operation (.cancel task) :: second) blocks ->
    ∀ block ∈ blocks, block.task ≠ task
  type : ∀ list text, (booted.moves (list ++ [.operation (.type text)])).transcript =
    (booted.moves list).transcript
  setContent : ∀ list text, (booted.moves (list ++ [.operation (.setContent text)])).transcript =
    (booted.moves list).transcript

theorem Regular.recital (regular : booted.Regular) (ready : booted.isReady = true)
    (empty : booted.tasks = []) : Recital booted where
  recites list keeps := by
    rcases regular.reciting ready empty list keeps with ⟨blocks, reciting⟩
    exact ⟨blocks, reciting.toRecites⟩
  skipped := by
    intro first task source second blocks queued recites block mem
    have orderly := regular.orderly.moves first
    have unnoted := (orderly.unnoted_of_cancel queued).moves
      (orderly.move (.operation (.cancel task))) second
    have begun : (block.task, booted.program block.source) ∈
        (booted.moves (first ++ .operation (.cancel task) :: second)).executions := by
      rw [recites.started]
      exact List.mem_append_right _ (List.mem_map_of_mem mem)
    rw [moves_append, moves_cons] at begun
    rcases exists_note_of_execution begun with ⟨note, noted, owner⟩
    rw [← owner]
    exact unnoted.task_ne note noted
  type list text := by
    rw [moves_concat]
    rfl
  setContent list text := by
    rw [moves_concat]
    rfl

/-- Whatever the guest is and however the session got ready, what it shows from then on are its runs
one after another; and operations that let every task go on are made of such moves. -/
theorem recital_of_ready (abilities : Guest Unit γ) (addresses : Keywords.AddressReader)
    (settings : Settings) (names : Calls.Names)
    (first : List (Move γ)) (last : Move γ)
    (unready : ((start abilities addresses settings names).moves first).isReady = false)
    (ready : (((start abilities addresses settings names).moves first).move last).isReady = true) :
    let booted := ((start abilities addresses settings names).moves first).move last
    Recital booted ∧ ∀ operations, .clear ∉ operations ->
      ∃ list, .operation .clear ∉ list ∧ booted.steps operations = booted.moves list := by
  intro booted
  have before : ((start abilities addresses settings names).moves first).Regular :=
    (regular_start abilities addresses settings names).moves first
  have regular : booted.Regular := before.move last
  refine ⟨regular.recital ready (before.orderly.tasks_of_booted unready ready), ?_⟩
  intro operations keeps
  rcases booted.exists_moves_of_steps operations with ⟨list, same, known⟩
  exact ⟨list, fun mem => keeps (known .clear mem), same⟩

theorem recital_of_ready_rehearsal :
    let unready := (start Player.abilities .none .standard .standard).moves
      [.operation .boot, .operation (.loaded (.ok ⟨[], none⟩)), .operation (.scriptRead (.ok "")),
        .tick 1, .tick 1]
    let booted := unready.move (.tick 1)
    (unready.isReady = false ∧ booted.isReady = true) ∧
      Recital booted ∧ ∀ operations, .clear ∉ operations ->
        ∃ list, .operation .clear ∉ list ∧ booted.steps operations = booted.moves list := by
  intro unready booted
  have boots : unready.isReady = false ∧ booted.isReady = true := by
    decide +kernel
  exact ⟨boots,
    recital_of_ready Player.abilities .none .standard .standard _ (.tick 1) boots.1 boots.2⟩

end Session
end HangulConsole
