import HangulConsole.Proofs.Guest.ErrorOutput

/-!
# Receivers that refuse

A receiver may refuse a piece of output.  That ends the program, whatever it was about to do, and
the pieces behind the refused one are lost.  The guest keeps the names that it has at that moment.
-/

namespace HangulConsole

inductive Exchange (φ : Type) where
  | received (piece : Piece)
  | refused (piece : Piece) (reason : String)
  | called (function : φ) (arguments : List String)
deriving Repr, DecidableEq

inductive Receiver.Takes {σ : Type} (receiver : Receiver σ) : List Piece -> σ -> σ -> Prop where
  | nil {state : σ} : receiver.Takes [] state state
  | cons {piece : Piece} {rest : List Piece} {state between later : σ} :
      receiver.receive piece state = .ok between -> receiver.Takes rest between later ->
      receiver.Takes (piece :: rest) state later

namespace Activity

variable {φ γ σ : Type} {receiver : Receiver σ}
  {answer : φ -> List String -> σ -> Except String String × σ}

def exchanges (receiver : Receiver σ)
    (answer : φ -> List String -> σ -> Except String String × σ) :
    Activity φ γ -> σ -> List (Exchange φ)
  | .ended _ _, _ => []
  | .deliver piece _ resume, state =>
      match receiver.receive piece state with
      | .ok later => .received piece :: exchanges receiver answer (resume (.ok ())) later
      | .error reason =>
          .refused piece reason :: exchanges receiver answer (resume (.error reason)) state
  | .call function arguments _ resume, state =>
      .called function arguments ::
        exchanges receiver answer (resume (answer function arguments state).1)
          (answer function arguments state).2

end Activity

def Exchange.told {φ σ : Type} (receiver : Receiver σ)
    (answer : φ -> List String -> σ -> Except String String × σ) (state : σ) : Exchange φ -> σ
  | .received piece => (receiver.receive piece state).toOption.getD state
  | .refused _ _ => state
  | .called function arguments => (answer function arguments state).2

namespace Activity

variable {φ γ σ : Type} {receiver : Receiver σ}
  {answer : φ -> List String -> σ -> Except String String × σ}

theorem perform_state (activity : Activity φ γ) (state : σ) :
    (activity.perform receiver answer state).2 =
      (activity.exchanges receiver answer state).foldl (Exchange.told receiver answer) state := by
  induction activity generalizing state with
  | ended result guest => rfl
  | deliver piece guest resume ih =>
      rw [perform, exchanges]
      cases receives : receiver.receive piece state with
      | ok later =>
          dsimp only
          rw [List.foldl_cons, Exchange.told, receives]
          exact ih _ later
      | error reason => exact ih _ state
  | call function arguments guest resume ih => exact ih _ _

theorem perform_state_of_refused {activity : Activity φ γ} {state : σ} {piece : Piece}
    {reason : String} {before : List (Exchange φ)}
    (refused : activity.exchanges receiver answer state = before ++ [.refused piece reason]) :
    (activity.perform receiver answer state).2 =
      before.foldl (Exchange.told receiver answer) state := by
  rw [perform_state, refused, List.foldl_append]
  rfl

variable {pieces : List Piece} {guest : γ} {next : Activity φ γ} {state : σ}
  {before after : List (Exchange φ)} {piece : Piece} {reason : String}

/-!
# Handing over
-/

theorem deliverAll_refused
    (refused : exchanges receiver answer (deliverAll pieces guest next) state =
      before ++ .refused piece reason :: after) :
    (∃ delivered lost final, pieces = delivered ++ piece :: lost ∧
      before = delivered.map .received ∧ after = [] ∧
      perform receiver answer (deliverAll pieces guest next) state =
        ((.error (.host reason), guest), final)) ∨
    ∃ between behind, receiver.Takes pieces state between ∧
      before = pieces.map .received ++ behind ∧
      exchanges receiver answer next between = behind ++ .refused piece reason :: after ∧
      perform receiver answer (deliverAll pieces guest next) state =
        perform receiver answer next between := by
  induction pieces generalizing state before with
  | nil => exact .inr ⟨state, before, .nil, rfl, refused, rfl⟩
  | cons first rest ih =>
      rw [deliverAll, exchanges] at refused
      rw [deliverAll, perform]
      cases receives : receiver.receive first state with
      | ok later =>
          rw [receives] at refused
          dsimp only at refused ⊢
          cases before with
          | nil => cases refused
          | cons exchange before =>
              rw [List.cons_append, List.cons.injEq] at refused
              rcases refused with ⟨rfl, refused⟩
              rcases ih refused with ⟨delivered, lost, final, rfl, rfl, ended, outcome⟩ |
                ⟨between, behind, takes, rfl, goesOn, outcome⟩
              · exact .inl ⟨first :: delivered, lost, final, rfl, rfl, ended, outcome⟩
              · exact .inr ⟨between, behind, .cons receives takes, rfl, goesOn, outcome⟩
      | error why =>
          rw [receives] at refused
          dsimp only at refused ⊢
          have none_behind : exchanges receiver answer (fail (.host why) guest) state = [] := rfl
          rw [none_behind] at refused
          rcases List.singleton_eq_append_iff.1 refused with ⟨rfl, same⟩ | ⟨rfl, same⟩
          · cases same
            exact .inl ⟨[], rest, state, rfl, rfl, rfl, rfl⟩
          · cases same

end Activity

namespace Guest

open Activity

variable {φ σ : Type} {receiver : Receiver σ}
  {answer : φ -> List String -> σ -> Except String String × σ} {interpreter later : Interpreter φ}
  {state : σ}

/-!
# Instructions that are carried out
-/

/-- A wait for the host when the output has been taken. -/
def Interpreter.pose (interpreter : Interpreter φ) (awaited : Interpreter.Awaited)
    (next : Interpreter φ -> Except Exception String -> Activity φ (Interpreter φ)) :
    Activity φ (Interpreter φ) :=
  match awaited with
  | .nothing => next interpreter (.error .notHostCall)
  | .call name arguments =>
      match interpreter.function? name with
      | none => next interpreter (.error (.unboundHost name))
      | some function =>
          .call function arguments interpreter fun answer =>
            next interpreter (answer.mapError .hostFailed)

theorem Interpreter.await_eq (interpreter : Interpreter φ) (awaited : Interpreter.Awaited)
    (next : Interpreter φ -> Except Exception String -> Activity φ (Interpreter φ)) :
    interpreter.await awaited next = interpreter.drain fun emptied => emptied.pose awaited next :=
  rfl

/-- What comes of the wait: what the program gets, the call that was made for it, and the host
behind it. -/
def Interpreter.response (answer : φ -> List String -> σ -> Except String String × σ)
    (interpreter : Interpreter φ) (state : σ) :
    Interpreter.Awaited -> Except Exception String × List (Exchange φ) × σ
  | .nothing => (.error .notHostCall, [], state)
  | .call name arguments =>
      match interpreter.function? name with
      | none => (.error (.unboundHost name), [], state)
      | some function =>
          ((answer function arguments state).1.mapError .hostFailed, [.called function arguments],
            (answer function arguments state).2)

theorem exchanges_pose (interpreter : Interpreter φ) (awaited : Interpreter.Awaited)
    (next : Interpreter φ -> Except Exception String -> Activity φ (Interpreter φ)) (state : σ) :
    exchanges receiver answer (interpreter.pose awaited next) state =
      (interpreter.response answer state awaited).2.1 ++
        exchanges receiver answer (next interpreter (interpreter.response answer state awaited).1)
          (interpreter.response answer state awaited).2.2 := by
  cases awaited with
  | nothing => rfl
  | call name arguments =>
      rw [Interpreter.pose, Interpreter.response]
      cases interpreter.function? name with
      | none => rfl
      | some function => rfl

theorem perform_pose (interpreter : Interpreter φ) (awaited : Interpreter.Awaited)
    (next : Interpreter φ -> Except Exception String -> Activity φ (Interpreter φ)) (state : σ) :
    (interpreter.pose awaited next).perform receiver answer state =
      (next interpreter (interpreter.response answer state awaited).1).perform receiver answer
        (interpreter.response answer state awaited).2.2 := by
  cases awaited with
  | nothing => rfl
  | call name arguments =>
      rw [Interpreter.pose, Interpreter.response]
      cases interpreter.function? name with
      | none => rfl
      | some function => rfl

theorem refused_not_mem_response (interpreter : Interpreter φ) (state : σ)
    (awaited : Interpreter.Awaited) (piece : Piece) (reason : String) :
    .refused piece reason ∉ (interpreter.response answer state awaited).2.1 := by
  cases awaited with
  | nothing => exact List.not_mem_nil
  | call name arguments =>
      rw [Interpreter.response]
      cases interpreter.function? name with
      | none => exact List.not_mem_nil
      | some function => nofun

inductive Advances (receiver : Receiver σ)
    (answer : φ -> List String -> σ -> Except String String × σ) :
    Interpreter φ -> σ -> Instruction -> List (Exchange φ) -> Interpreter φ -> σ -> Prop where
  /-- The instruction does not wait for the host. -/
  | stepped {interpreter later : Interpreter φ} {state : σ} {instruction : Instruction} :
      interpreter.awaited? instruction = none -> interpreter.step instruction = .ok later ->
      Advances receiver answer interpreter state instruction [] later state
  /-- The guest hands over its output, waits and uses what it gets. -/
  | waited {interpreter later : Interpreter φ} {state between : σ} {instruction : Instruction}
      {awaited : Interpreter.Awaited} {use : Use} :
      interpreter.awaited? instruction = some (.ok (awaited, use)) ->
      receiver.Takes interpreter.output.pieces state between ->
      interpreter.emptied.answered use (interpreter.emptied.response answer between awaited).1 =
        .ok later ->
      Advances receiver answer interpreter state instruction
        (interpreter.output.pieces.map .received ++
          (interpreter.emptied.response answer between awaited).2.1)
        later (interpreter.emptied.response answer between awaited).2.2

inductive Carries (receiver : Receiver σ)
    (answer : φ -> List String -> σ -> Except String String × σ) :
    Interpreter φ -> σ -> List Instruction -> List (Exchange φ) -> Interpreter φ -> σ -> Prop where
  | nil {interpreter : Interpreter φ} {state : σ} :
      Carries receiver answer interpreter state [] [] interpreter state
  | cons {interpreter between later : Interpreter φ} {state middle final : σ}
      {instruction : Instruction} {rest : List Instruction} {first more : List (Exchange φ)} :
      Advances receiver answer interpreter state instruction first between middle ->
      Carries receiver answer between middle rest more later final ->
      Carries receiver answer interpreter state (instruction :: rest) (first ++ more) later final

/-- The output is handed over before a program does anything more: it is at its end, or its next
instruction waits for the host or raises. -/
def Interpreter.Pauses (interpreter : Interpreter φ) : List Instruction -> Prop
  | [] => True
  | instruction :: _ => ∀ later, interpreter.awaited? instruction = none ->
      interpreter.step instruction ≠ .ok later

/-!
# The end of a program
-/

/-- How far a program had come when a piece of its output was refused. -/
structure Stop (φ : Type) where
  done : List Instruction
  rest : List Instruction
  /-- What passed between the guest and its host for the instructions that were carried out. -/
  earlier : List (Exchange φ)
  reached : Interpreter φ
  /-- The pieces in the queue in front of the refused one, and those behind it. -/
  delivered : List Piece
  lost : List Piece

/-- A program ends where a piece is refused. -/
structure StopsAt (receiver : Receiver σ)
    (answer : φ -> List String -> σ -> Except String String × σ) (interpreter : Interpreter φ)
    (state : σ) (suspendable : Bool) (program : List Instruction) (before : List (Exchange φ))
    (piece : Piece) (reason : String) (after : List (Exchange φ)) (stop : Stop φ) : Prop where
  /-- The instructions up to some place of the program were carried out. -/
  program_eq : program = stop.done ++ stop.rest
  carries : ∃ between,
    Carries receiver answer interpreter state stop.done stop.earlier stop.reached between
  pauses : stop.reached.Pauses stop.rest
  /-- All that was queued in front of the piece was received, in this order. -/
  queued : stop.reached.output.pieces = stop.delivered ++ piece :: stop.lost
  before_eq : before = stop.earlier ++ stop.delivered.map .received
  /-- Nothing passes between the guest and its host any more. -/
  last : after = []
  /-- The failure is that of the receiver, and the guest keeps its names and has nothing queued. -/
  outcome : ∃ final,
    (interpreter.execFrom suspendable program).perform receiver answer state =
      ((.error (.host reason), ⟨stop.reached.globals, stop.reached.functions, .empty⟩), final)

variable {before after : List (Exchange φ)} {piece : Piece} {reason : String}
  {suspendable : Bool} {instruction : Instruction} {program rest : List Instruction}

theorem stopsAt_of_finish {result : Except Failure Unit} (pauses : interpreter.Pauses program)
    (finishes : interpreter.execFrom suspendable program = interpreter.finish result)
    (refused : exchanges receiver answer (interpreter.finish result) state =
      before ++ .refused piece reason :: after) :
    ∃ stop, StopsAt receiver answer interpreter state suspendable program before piece reason after
      stop := by
  rcases deliverAll_refused refused with
    ⟨delivered, lost, final, queued, before_eq, last, outcome⟩ |
    ⟨between, behind, takes, before_eq, goesOn, outcome⟩
  · refine ⟨⟨[], program, [], interpreter, delivered, lost⟩, ⟨rfl, ⟨state, .nil⟩, pauses, queued,
      before_eq, last, final, ?_⟩⟩
    rw [finishes]
    exact outcome
  · rw [exchanges] at goesOn
    exact absurd goesOn.symm (List.append_ne_nil_of_right_ne_nil _ (List.cons_ne_nil _ _))

theorem StopsAt.cons {first : List (Exchange φ)} {middle : σ} {stop : Stop φ}
    (advances : Advances receiver answer interpreter state instruction first later middle)
    (goesOn :
      (interpreter.execFrom suspendable (instruction :: rest)).perform receiver answer state =
        (later.execFrom suspendable rest).perform receiver answer middle)
    (stops : StopsAt receiver answer later middle suspendable rest before piece reason after stop) :
    StopsAt receiver answer interpreter state suspendable (instruction :: rest) (first ++ before)
      piece reason after
      { stop with done := instruction :: stop.done, earlier := first ++ stop.earlier } where
  program_eq := by rw [stops.program_eq, List.cons_append]
  carries := by
    rcases stops.carries with ⟨between, carries⟩
    exact ⟨between, .cons advances carries⟩
  pauses := stops.pauses
  queued := stops.queued
  before_eq := by rw [stops.before_eq, List.append_assoc]
  last := stops.last
  outcome := by
    rw [goesOn]
    exact stops.outcome

theorem exists_behind {α : Type} {first rest front back : List α} {x : α}
    (same : first ++ rest = front ++ x :: back) (free : x ∉ first) :
    ∃ behind, front = first ++ behind ∧ rest = behind ++ x :: back := by
  rcases List.append_eq_append_iff.1 same with ⟨behind, split, there⟩ | ⟨more, split, there⟩
  · exact ⟨behind, split, there⟩
  · cases more with
    | nil => exact ⟨[], by rw [split, List.append_nil, List.append_nil], there.symm⟩
    | cons y more =>
        rw [List.cons_append, List.cons.injEq] at there
        rw [split, there.1] at free
        exact absurd (List.mem_append_right front List.mem_cons_self) free

theorem await_refused {awaited : Interpreter.Awaited}
    {next : Interpreter φ -> Except Exception String -> Activity φ (Interpreter φ)}
    (refused : exchanges receiver answer (interpreter.await awaited next) state =
      before ++ .refused piece reason :: after) :
    (∃ delivered lost final, interpreter.output.pieces = delivered ++ piece :: lost ∧
      before = delivered.map .received ∧ after = [] ∧
      (interpreter.await awaited next).perform receiver answer state =
        ((.error (.host reason), interpreter.emptied), final)) ∨
    ∃ between behind, receiver.Takes interpreter.output.pieces state between ∧
      before = interpreter.output.pieces.map .received ++
        (interpreter.emptied.response answer between awaited).2.1 ++ behind ∧
      exchanges receiver answer
          (next interpreter.emptied (interpreter.emptied.response answer between awaited).1)
          (interpreter.emptied.response answer between awaited).2.2 =
        behind ++ .refused piece reason :: after ∧
      (interpreter.await awaited next).perform receiver answer state =
        (next interpreter.emptied (interpreter.emptied.response answer between awaited).1).perform
          receiver answer (interpreter.emptied.response answer between awaited).2.2 := by
  rw [Interpreter.await_eq] at refused ⊢
  rcases deliverAll_refused refused with here | ⟨between, behind, takes, rfl, goesOn, outcome⟩
  · exact .inl here
  · rw [exchanges_pose] at goesOn
    rcases exists_behind goesOn (refused_not_mem_response _ _ _ _ _) with ⟨more, rfl, rest⟩
    refine .inr ⟨between, more, takes, (List.append_assoc _ _ _).symm, rest, ?_⟩
    rw [← perform_pose]
    exact outcome

theorem exists_stopsAt
    (refused : exchanges receiver answer (interpreter.execFrom suspendable program) state =
      before ++ .refused piece reason :: after) :
    ∃ stop, StopsAt receiver answer interpreter state suspendable program before piece reason after
      stop := by
  induction program generalizing interpreter state before with
  | nil => exact stopsAt_of_finish trivial rfl refused
  | cons instruction rest ih =>
      cases waits : interpreter.awaited? instruction with
      | none =>
          cases steps : interpreter.step instruction with
          | ok later =>
              have same : interpreter.execFrom suspendable (instruction :: rest) =
                  later.execFrom suspendable rest :=
                Interpreter.execFrom_of_step_ok waits steps
              rw [same] at refused
              rcases ih refused with ⟨stop, stops⟩
              exact ⟨_, stops.cons (.stepped waits steps) (by rw [same])⟩
          | error raised =>
              have same : interpreter.execFrom suspendable (instruction :: rest) =
                  interpreter.raised suspendable raised :=
                Interpreter.execFrom_of_step_error waits steps
              have pauses : interpreter.Pauses (instruction :: rest) := by
                intro later _ goesOn
                rw [steps] at goesOn
                cases goesOn
              rw [same] at refused
              exact stopsAt_of_finish pauses same refused
      | some found =>
          have pauses : interpreter.Pauses (instruction :: rest) := by
            intro later none
            rw [waits] at none
            cases none
          cases found with
          | error raised =>
              have same : interpreter.execFrom suspendable (instruction :: rest) =
                  interpreter.raised suspendable raised := by
                rw [Interpreter.execFrom, waits]
              rw [same] at refused
              exact stopsAt_of_finish pauses same refused
          | ok found =>
              rcases found with ⟨awaited, use⟩
              rw [Interpreter.execFrom, waits] at refused
              rcases await_refused refused with
                ⟨delivered, lost, final, queued, before_eq, last, outcome⟩ |
                ⟨between, behind, takes, rfl, goesOn, outcome⟩
              · refine ⟨⟨[], instruction :: rest, [], interpreter, delivered, lost⟩,
                  ⟨rfl, ⟨state, .nil⟩, pauses, queued, before_eq, last, final, ?_⟩⟩
                rw [Interpreter.execFrom, waits]
                exact outcome
              · cases used : interpreter.emptied.answered use
                    (interpreter.emptied.response answer between awaited).1 with
                | error raised =>
                    -- The queue has just been taken, so there is nothing left to be refused.
                    rw [used] at goesOn
                    exact absurd goesOn.symm
                      (List.append_ne_nil_of_right_ne_nil _ (List.cons_ne_nil _ _))
                | ok later =>
                    rw [used] at goesOn outcome
                    rcases ih goesOn with ⟨stop, stops⟩
                    refine ⟨_, stops.cons (.waited waits takes used) ?_⟩
                    rw [Interpreter.execFrom, waits]
                    exact outcome

/-- The first piece that its receiver refuses ends a program with the failure of the receiver,
whatever the program was about to do.  What was queued in front of the piece was received, and
nothing passes between the guest and its host afterwards: the host is as what passed before has
left it, and the guest as it was after the instructions that it had carried out, with nothing
queued.  So whatever it is told to do later, its receiver gets what the guest writes from then on,
and nothing of what was lost. -/
theorem stopsAt_refusal [Compiler]
    (refused : exchanges receiver answer (interpreter.exec program) state =
      before ++ .refused piece reason :: after) :
    ∃ stop, StopsAt receiver answer interpreter state (Guest.suspendable program) program before
        piece reason after stop ∧
      ((interpreter.exec program).perform receiver answer state).2 =
        before.foldl (Exchange.told receiver answer) state ∧
      ∀ commands, DeliversAll commands [] stop.reached.emptied stop.reached.emptied.bare := by
  rcases exists_stopsAt refused with ⟨stop, stops⟩
  rw [stops.last] at refused
  exact ⟨stop, stops, perform_state_of_refused refused,
    fun commands => (agrees_bare rfl).deliversAll commands⟩

/-!
# A line that is refused
-/

local instance : Compiler := .reserving "class"

def deafToB : Receiver (List String) :=
  .ofLines fun _ text heard => if text = "b" then .error "refused b" else .ok (heard ++ [text])

def blankAnswer (_ : Unit) (_ : List String) (heard : List String) :
    Except String String × List String :=
  (.ok "", heard)

def failingProgram : List Instruction :=
  [.write .stdout "a\nb\nc\n", .set "v" (.int 1), .raise "ValueError" (some "x")]

theorem stopsAt_refusal_failingProgram :
    exchanges deafToB blankAnswer (oneFunction.exec failingProgram) [] =
        [.received ⟨.stdout, "a", true⟩] ++ .refused ⟨.stdout, "b", true⟩ "refused b" :: [] ∧
      ∃ stop, StopsAt deafToB blankAnswer oneFunction [] (Guest.suspendable failingProgram)
          failingProgram [.received ⟨.stdout, "a", true⟩] ⟨.stdout, "b", true⟩ "refused b" [] stop ∧
        ((oneFunction.exec failingProgram).perform deafToB blankAnswer []).2 =
          [.received ⟨.stdout, "a", true⟩].foldl (Exchange.told deafToB blankAnswer) [] ∧
        ∀ commands, DeliversAll commands [] stop.reached.emptied stop.reached.emptied.bare := by
  have refused : exchanges deafToB blankAnswer (oneFunction.exec failingProgram) [] =
      [.received ⟨.stdout, "a", true⟩] ++ .refused ⟨.stdout, "b", true⟩ "refused b" :: [] := by
    decide +kernel
  exact ⟨refused, stopsAt_refusal refused⟩

end Guest
end HangulConsole
