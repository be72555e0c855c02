import HangulConsole.Proofs.Guest.Direct
import HangulConsole.Proofs.Output.Queue

/-!
# Output is delivered in time

A program whose output is queued does the same as one that writes at once, and whenever
it calls its host or ends, its host has received all that was written.
-/

namespace HangulConsole

/-!
# Activities with and without deliveries
-/

namespace Activity

variable {φ γ δ : Type} {atCall atEnd : List Piece -> γ -> δ -> Prop} {received : List Piece}
  {activity : Activity φ γ} {direct : Activity φ δ}

/-- An activity does what another does that delivers nothing: whatever the host answers, it makes
the same calls and ends in the same way, and each time the pieces that its receiver has got, none
of which was refused, and the states of both guests fit. -/
inductive Delivers (atCall atEnd : List Piece -> γ -> δ -> Prop) :
    List Piece -> Activity φ γ -> Activity φ δ -> Prop where
  | ended {received : List Piece} {result : Except Failure Unit} {guest : γ} {other : δ} :
      atEnd received guest other ->
      Delivers atCall atEnd received (.ended result guest) (.ended result other)
  | deliver {received : List Piece} {piece : Piece} {guest : γ}
      {resume : Except String Unit -> Activity φ γ} {direct : Activity φ δ} :
      Delivers atCall atEnd (received ++ [piece]) (resume (.ok ())) direct ->
      Delivers atCall atEnd received (.deliver piece guest resume) direct
  | call {received : List Piece} {function : φ} {arguments : List String} {guest : γ} {other : δ}
      {resume : Except String String -> Activity φ γ}
      {direct : Except String String -> Activity φ δ} :
      atCall received guest other ->
      (∀ answer, Delivers atCall atEnd received (resume answer) (direct answer)) ->
      Delivers atCall atEnd received (.call function arguments guest resume)
        (.call function arguments other direct)

theorem Delivers.imp {later : List Piece -> γ -> δ -> Prop}
    (delivers : Delivers atCall atEnd received activity direct)
    (implied : ∀ received guest other, atEnd received guest other -> later received guest other) :
    Delivers atCall later received activity direct := by
  induction delivers with
  | ended fits => exact .ended (implied _ _ _ fits)
  | deliver _ ih => exact .deliver ih
  | call fits _ ih => exact .call fits ih

theorem Delivers.deliverAll {pieces : List Piece} {guest : γ}
    (delivers : Delivers atCall atEnd (received ++ pieces) activity direct) :
    Delivers atCall atEnd received (.deliverAll pieces guest activity) direct := by
  induction pieces generalizing received with
  | nil =>
      rw [List.append_nil] at delivers
      exact delivers
  | cons piece rest ih =>
      refine .deliver (ih ?_)
      rw [List.append_assoc]
      exact delivers

end Activity

namespace Guest

open Activity (Delivers)

variable {φ : Type} {received : List Piece} {interpreter : Interpreter φ} {direct : Direct φ}

/-- What was received is what was written, nothing is queued, and both guests know the same
names. -/
structure Agrees (received : List Piece) (interpreter : Interpreter φ) (direct : Direct φ) :
    Prop where
  values : ∀ name, interpreter.globals.get? name = direct.values name
  functions : ∀ name, interpreter.function? name = direct.functions name
  received : ∀ stream, Piece.writtenTo stream received = direct.written stream
  queue : interpreter.output = .empty

/-- What was received and what is queued is what was written. -/
structure Follows (received : List Piece) (interpreter : Interpreter φ) (direct : Direct φ) :
    Prop where
  values : ∀ name, interpreter.globals.get? name = direct.values name
  functions : ∀ name, interpreter.function? name = direct.functions name
  written : ∀ stream, Piece.writtenTo stream received ++ interpreter.output.unread stream =
    direct.written stream

theorem Agrees.follows (agrees : Agrees received interpreter direct) :
    Follows received interpreter direct where
  values := agrees.values
  functions := agrees.functions
  written := by
    intro stream
    rw [agrees.queue, OutputQueue.unread_empty, String.append_empty]
    exact agrees.received stream

/-!
# Writing and names
-/

namespace Follows

theorem write (follows : Follows received interpreter direct) (stream : OutputStream)
    (text : String) :
    Follows received (interpreter.write stream text) (direct.write stream text) where
  values := follows.values
  functions := follows.functions
  written := by
    intro other
    rw [Interpreter.write, OutputQueue.unread_write, Direct.written_write]
    by_cases same : other = stream
    · rw [if_pos same, if_pos same, ← String.append_assoc, follows.written other, same]
    · rw [if_neg same, if_neg same]
      exact follows.written other

theorem writeLine (follows : Follows received interpreter direct) (text : String) :
    Follows received (interpreter.writeLine text) (direct.writeLine text) :=
  follows.write .stdout (text ++ "\n")

theorem set (follows : Follows received interpreter direct) (name : String) (value : Value) :
    Follows received (interpreter.setGlobal name value) (direct.set name value) where
  values := by
    intro other
    rw [Interpreter.setGlobal, Direct.values_set]
    by_cases same : other = name
    · rw [if_pos same, same, Scope.get?_put_self]
    · rw [if_neg same, Scope.get?_put_of_ne _ _ same]
      exact follows.values other
  functions := follows.functions
  written := follows.written

end Follows

theorem Interpreter.function?_addFunction (interpreter : Interpreter φ) (name : String)
    (function : φ) (other : String) :
    (interpreter.addFunction name function).function? other =
      if other = name then some function else interpreter.function? other := by
  rw [function?, function?, addFunction]
  dsimp only
  split
  · rename_i known
    have same : ((fun entry : String × φ => entry.1 == other) ∘ fun entry =>
        if entry.1 == name then (name, function) else entry) = fun entry => entry.1 == other := by
      funext entry
      by_cases eq : entry.1 = name
      · simp [eq]
      · simp [eq]
    rw [List.find?_map, same]
    cases found : interpreter.functions.find? fun entry => entry.1 == other with
    | none =>
        have apart : ¬ other = name := by
          rintro rfl
          rw [List.find?_eq_none] at found
          rcases List.any_eq_true.1 known with ⟨entry, mem, eq⟩
          exact found entry mem eq
        rw [if_neg apart]
        rfl
    | some entry =>
        have eq := List.find?_some found
        rw [beq_iff_eq] at eq
        by_cases replaced : other = name
        · simp [eq, replaced]
        · simp [eq, replaced]
  · rename_i unknown
    rw [List.find?_append]
    by_cases eq : other = name
    · have none : interpreter.functions.find? (fun entry => entry.1 == name) = none := by
        rw [List.find?_eq_none]
        intro entry mem found
        exact unknown (List.any_eq_true.2 ⟨entry, mem, found⟩)
      simp [eq, none]
    · simp [eq, Ne.symm eq]

/-!
# Handing over
-/

theorem Follows.emptied (follows : Follows received interpreter direct) :
    Agrees (received ++ interpreter.output.pieces) interpreter.emptied direct where
  values := follows.values
  functions := follows.functions
  received := by
    intro stream
    rw [Piece.writtenTo_append, OutputQueue.writtenTo_pieces]
    exact follows.written stream
  queue := rfl

theorem delivers_drain {next : Interpreter φ -> Activity φ (Interpreter φ)}
    {activity : Activity φ (Direct φ)} (follows : Follows received interpreter direct)
    (delivers : ∀ {later : List Piece} {emptied : Interpreter φ}, Agrees later emptied direct ->
      Delivers Agrees Agrees later (next emptied) activity) :
    Delivers Agrees Agrees received (interpreter.drain next) activity :=
  .deliverAll (delivers follows.emptied)

theorem delivers_finish (follows : Follows received interpreter direct)
    (result : Except Failure Unit) :
    Delivers Agrees Agrees received (interpreter.finish result) (.ended result direct) :=
  delivers_drain follows .ended

theorem delivers_raised (follows : Follows received interpreter direct) (suspendable : Bool)
    (raised : Exception) :
    Delivers Agrees Agrees received (interpreter.raised suspendable raised)
      (direct.raise suspendable raised) :=
  delivers_finish follows _

/-!
# Executing
-/

theorem Follows.lookup_of_none {name : String} (follows : Follows received interpreter direct)
    (unknown : direct.values name = none) :
    interpreter.lookup name = .error (.undefined name) := by
  rw [Interpreter.lookup, follows.values, unknown]

theorem Follows.lookup_of_some {name : String} {value : Value}
    (follows : Follows received interpreter direct) (known : direct.values name = some value) :
    interpreter.lookup name = .ok value := by
  rw [Interpreter.lookup, follows.values, known]

theorem Follows.callee (follows : Follows received interpreter direct) (name : String) :
    interpreter.callee name = direct.callee name := by
  rw [Interpreter.callee, Direct.callee]
  cases known : direct.values name with
  | none => rw [follows.lookup_of_none known]
  | some value =>
      rw [follows.lookup_of_some known]
      cases value with
      | _ => rfl

namespace Interpreter

variable {suspendable : Bool} {instruction : Instruction} {rest : List Instruction}

theorem execFrom_of_step_ok {later : Interpreter φ}
    (waits : interpreter.awaited? instruction = none)
    (step : interpreter.step instruction = .ok later) :
    interpreter.execFrom suspendable (instruction :: rest) = later.execFrom suspendable rest := by
  rw [execFrom, waits]
  dsimp only
  rw [step]

theorem execFrom_of_step_error {raised : Exception}
    (waits : interpreter.awaited? instruction = none)
    (step : interpreter.step instruction = .error raised) :
    interpreter.execFrom suspendable (instruction :: rest) =
      interpreter.raised suspendable raised := by
  rw [execFrom, waits]
  dsimp only
  rw [step]

theorem execFrom_of_callee_error {function : String} {arguments : List Value} {use : Use}
    {raised : Exception} (fails : interpreter.callee function = .error raised) :
    interpreter.execFrom suspendable (.call function arguments use :: rest) =
      interpreter.raised suspendable raised := by
  rw [execFrom, awaited?, fails]
  rfl

theorem execFrom_of_callee_ok {function target : String} {arguments : List Value} {use : Use}
    (calls : interpreter.callee function = .ok target) :
    interpreter.execFrom suspendable (.call function arguments use :: rest) =
      interpreter.await (.call target (arguments.map Value.str)) fun interpreter answer =>
        match interpreter.answered use answer with
        | .ok interpreter => execFrom suspendable interpreter rest
        | .error raised => interpreter.raised suspendable raised := by
  rw [execFrom, awaited?, calls]
  rfl

end Interpreter

theorem delivers_answered {next : Interpreter φ -> Activity φ (Interpreter φ)}
    {nextDirect : Direct φ -> Activity φ (Direct φ)} (follows : Follows received interpreter direct)
    (suspendable : Bool) (use : Use) (answer : Except Exception String)
    (goesOn : ∀ {interpreter direct}, Follows received interpreter direct ->
      Delivers Agrees Agrees received (next interpreter) (nextDirect direct)) :
    Delivers Agrees Agrees received
      (match interpreter.answered use answer with
        | .ok interpreter => next interpreter
        | .error raised => interpreter.raised suspendable raised)
      (direct.resume suspendable use nextDirect answer) := by
  cases answer with
  | ok answer =>
      cases use with
      | forget => exact goesOn follows
      | «show» => exact goesOn (follows.writeLine answer)
      | guarded => exact goesOn (follows.writeLine answer)
  | error raised =>
      cases use with
      | forget => exact delivers_raised follows suspendable raised
      | «show» => exact delivers_raised follows suspendable raised
      | guarded => exact goesOn (follows.writeLine _)

theorem delivers_await
    {next : Interpreter φ -> Except Exception String -> Activity φ (Interpreter φ)}
    {nextDirect : Except Exception String -> Activity φ (Direct φ)}
    (follows : Follows received interpreter direct) (function : String) (arguments : List String)
    (goesOn : ∀ {later emptied} answer, Agrees later emptied direct ->
      Delivers Agrees Agrees later (next emptied answer) (nextDirect answer)) :
    Delivers Agrees Agrees received (interpreter.await (.call function arguments) next)
      (direct.call function arguments nextDirect) := by
  refine delivers_drain follows fun {later emptied} agrees => ?_
  rw [Direct.call, ← agrees.functions function]
  dsimp only
  cases emptied.function? function with
  | none => exact goesOn _ agrees
  | some known => exact .call agrees fun answer => goesOn _ agrees

theorem delivers_execFrom (follows : Follows received interpreter direct) (suspendable : Bool)
    (program : List Instruction) :
    Delivers Agrees Agrees received (interpreter.execFrom suspendable program)
      (direct.execFrom suspendable program) := by
  -- Between two waits output is queued, so `Follows` is carried along and not `Agrees`.
  induction program generalizing received interpreter direct with
  | nil => exact delivers_finish follows _
  | cons instruction rest ih =>
      cases instruction with
      | write stream text => exact ih (follows.write stream text)
      | count stream text => exact ih ((follows.write stream text).writeLine _)
      | flush => exact ih follows
      | describeOutput => exact ih (follows.writeLine _)
      | set name value => exact ih (follows.set name value)
      | raise kind text? => exact delivers_raised follows suspendable _
      | append name value =>
          rw [Direct.execFrom]
          cases known : direct.values name with
          | none =>
              have step : interpreter.step (.append name value) = .error (.undefined name) := by
                rw [Interpreter.step, follows.lookup_of_none known]
              rw [Interpreter.execFrom_of_step_error rfl step]
              exact delivers_raised follows suspendable _
          | some old =>
              have found := follows.lookup_of_some known
              dsimp only
              cases added : old.add value with
              | ok sum =>
                  have step : interpreter.step (.append name value) =
                      .ok (interpreter.setGlobal name sum) := by
                    rw [Interpreter.step, found]
                    dsimp only
                    rw [added]
                  rw [Interpreter.execFrom_of_step_ok rfl step]
                  exact ih (follows.set name sum)
              | error reason =>
                  have step :
                      interpreter.step (.append name value) = .error (.wrongType reason) := by
                    rw [Interpreter.step, found]
                    dsimp only
                    rw [added]
                  rw [Interpreter.execFrom_of_step_error rfl step]
                  exact delivers_raised follows suspendable _
      | «show» name =>
          rw [Direct.execFrom]
          cases known : direct.values name with
          | none =>
              have step : interpreter.step (.show name) = .error (.undefined name) := by
                rw [Interpreter.step, follows.lookup_of_none known]
                rfl
              rw [Interpreter.execFrom_of_step_error rfl step]
              exact delivers_raised follows suspendable _
          | some value =>
              have step :
                  interpreter.step (.show name) = .ok (interpreter.writeLine value.str) := by
                rw [Interpreter.step, follows.lookup_of_some known]
                rfl
              rw [Interpreter.execFrom_of_step_ok rfl step]
              exact ih (follows.writeLine _)
      | call function arguments use =>
          rw [Direct.execFrom]
          cases found : direct.callee function with
          | error raised =>
              rw [Interpreter.execFrom_of_callee_error ((follows.callee function).trans found)]
              exact delivers_raised follows suspendable raised
          | ok target =>
              rw [Interpreter.execFrom_of_callee_ok ((follows.callee function).trans found)]
              exact delivers_await follows target _ fun answer agrees =>
                delivers_answered agrees.follows suspendable use answer ih
      | hostCall function arguments use =>
          rw [Interpreter.execFrom, Interpreter.awaited?, Direct.execFrom]
          cases arguments.mapM Value.text? with
          | some texts =>
              exact delivers_await follows function texts fun answer agrees =>
                delivers_answered agrees.follows suspendable use answer ih
          | none =>
              exact delivers_drain follows fun agrees =>
                delivers_answered agrees.follows suspendable use _ ih
      | wait value use =>
          exact delivers_drain follows fun agrees =>
            delivers_answered agrees.follows suspendable use _ ih

/-!
# Commands one after another
-/

def Interpreter.obey [Compiler] (interpreter : Interpreter φ) :
    Command φ -> Activity φ (Interpreter φ)
  | .bind name function => interpreter.bind name function
  | .exec program => interpreter.exec program

theorem Agrees.addFunction (agrees : Agrees received interpreter direct) (name : String)
    (function : φ) :
    Agrees received (interpreter.addFunction name function) (direct.addFunction name function) where
  values := agrees.values
  functions := by
    intro other
    rw [Interpreter.function?_addFunction, Direct.functions_addFunction, agrees.functions]
  received := agrees.received
  queue := agrees.queue

theorem delivers_bind [Compiler] (agrees : Agrees received interpreter direct) (name : String)
    (function : φ) :
    Delivers Agrees Agrees received (interpreter.bind name function)
      (direct.bind name function) := by
  have known := (agrees.addFunction name function).follows
  rw [Interpreter.bind, Direct.bind]
  split
  · dsimp only
    cases Compiler.define name with
    | error raised => exact delivers_raised known false _
    | ok global => exact delivers_finish (known.set global _) _
  · exact .ended agrees

theorem delivers_obey [Compiler] (agrees : Agrees received interpreter direct)
    (command : Command φ) :
    Delivers Agrees Agrees received (interpreter.obey command) (direct.obey command) := by
  cases command with
  | bind name function => exact delivers_bind agrees name function
  | exec program => exact delivers_execFrom agrees.follows (suspendable program) program

/-- Commands are carried out one after another, whatever each of them comes to and whatever the host
answers.  At every call and at both ends of every command, what was received is what was written and
nothing is queued. -/
def DeliversAll [Compiler] : List (Command φ) -> List Piece -> Interpreter φ -> Direct φ -> Prop
  | [], received, interpreter, direct => Agrees received interpreter direct
  | command :: rest, received, interpreter, direct =>
      Agrees received interpreter direct ∧
        Delivers Agrees (DeliversAll rest) received (interpreter.obey command) (direct.obey command)

theorem Agrees.deliversAll [Compiler] (agrees : Agrees received interpreter direct)
    (commands : List (Command φ)) : DeliversAll commands received interpreter direct := by
  induction commands generalizing received interpreter direct with
  | nil => exact agrees
  | cons command rest ih =>
      exact ⟨agrees, (delivers_obey agrees command).imp fun _ _ _ agrees => ih agrees⟩

theorem agrees_empty : Agrees [] (.empty : Interpreter φ) .empty where
  values _ := rfl
  functions _ := rfl
  received _ := rfl
  queue := rfl

/-- Whatever a new interpreter is told to do, with whatever functions of its host: whenever it calls
its host and whenever it has carried out a command, its receiver has got all that was written to
either stream, and nothing is queued. -/
theorem deliversAll_empty [Compiler] (commands : List (Command φ)) :
    DeliversAll commands [] .empty .empty :=
  agrees_empty.deliversAll commands

end Guest
end HangulConsole
