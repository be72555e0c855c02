import HangulConsole.Proofs.Guest.Refusal

/-!
# Bindings that fail

The host has a function under its new name before the guest has defined it.  If the guest
refuses the definition, the function stays where it is, and a program that calls the host by
that name gets to it.
-/

namespace HangulConsole
namespace Guest

open Activity

/-- Two guests know the same names, and find the same functions of their host. -/
structure Alike {φ : Type} (interpreter other : Interpreter φ) : Prop where
  globals : ∀ name, interpreter.globals.get? name = other.globals.get? name
  functions : ∀ name, interpreter.function? name = other.function? name

variable {φ σ : Type} {receiver : Receiver σ}
  {answer : φ -> List String -> σ -> Except String String × σ} {interpreter later : Interpreter φ}
  {name : String} {function : φ} {failure : Failure} {state final : σ}

theorem Alike.refl (interpreter : Interpreter φ) : Alike interpreter interpreter :=
  ⟨fun _ => rfl, fun _ => rfl⟩

/-!
# What a binding leaves
-/

theorem perform_finish (interpreter : Interpreter φ) (result : Except Failure Unit) (state : σ) :
    ((interpreter.finish result).perform receiver answer state).1.2 = interpreter.emptied := by
  have handsOver (pieces : List Piece) : ((deliverAll pieces interpreter.emptied
      (.ended result interpreter.emptied)).perform receiver answer state).1.2 =
        interpreter.emptied := by
    induction pieces generalizing state with
    | nil => rfl
    | cons piece rest ih =>
        rw [deliverAll, perform]
        cases receiver.receive piece state with
        | ok between => exact ih between
        | error reason => rfl
  exact handsOver _

theorem perform_finish_of_unqueued (unqueued : interpreter.output = .empty)
    (result : Except Failure Unit) (state : σ) :
    (interpreter.finish result).perform receiver answer state =
      ((result, interpreter.emptied), state) := by
  rw [Interpreter.finish, Interpreter.drain, unqueued]
  rfl

theorem addFunction_alike_iff :
    (∀ other, (interpreter.addFunction name function).function? other =
      interpreter.function? other) ↔ interpreter.function? name = some function := by
  constructor
  · intro same
    rw [← same name, Interpreter.function?_addFunction, if_pos rfl]
  · intro known other
    rw [Interpreter.function?_addFunction]
    split
    · rename_i eq
      rw [eq, known]
    · rfl

theorem put_alike_iff {scope : Scope Value} {value : Value} :
    (∀ other, (scope.put name value).get? other = scope.get? other) ↔
      scope.get? name = some value := by
  constructor
  · intro same
    rw [← same name, Scope.get?_put_self]
  · intro known other
    by_cases eq : other = name
    · rw [eq, Scope.get?_put_self, known]
    · rw [Scope.get?_put_of_ne _ _ eq]

theorem guest_of_bind [Compiler]
    (bound : (interpreter.bind name function).perform receiver answer state =
      ((.error failure, later), final)) :
    (isBindable name = false ∧ later = interpreter) ∨
      isBindable name = true ∧
        ((∃ raised, Compiler.define name = .error raised ∧
            later = (interpreter.addFunction name function).emptied) ∨
          ∃ global, Compiler.define name = .ok global ∧ interpreter.output ≠ .empty ∧
            later = ((interpreter.addFunction name function).setGlobal global
              (.function name)).emptied) := by
  rw [Interpreter.bind] at bound
  cases bindable : isBindable name with
  | false =>
      rw [bindable] at bound
      cases bound
      exact .inl ⟨rfl, rfl⟩
  | true =>
      refine .inr ⟨rfl, ?_⟩
      rw [bindable, if_pos rfl] at bound
      cases compiled : Compiler.define name with
      | error raised =>
          rw [compiled] at bound
          have left := congrArg (·.1.2) bound
          exact .inl ⟨raised, rfl, left.symm.trans (perform_finish _ _ _)⟩
      | ok global =>
          rw [compiled] at bound
          have left := congrArg (·.1.2) bound
          refine .inr ⟨global, rfl, fun unqueued => ?_, left.symm.trans (perform_finish _ _ _)⟩
          have none_queued : ((interpreter.addFunction name function).setGlobal global
              (.function name)).output = .empty := unqueued
          have ended := bound.symm.trans (perform_finish_of_unqueued none_queued _ _)
          cases ended

/-!
# Calls by name
-/

/-- A program that calls its host by a name gets to a function, whatever the host answers. -/
def Interpreter.Reaches (interpreter : Interpreter φ) (name : String) (function : φ) : Prop :=
  ∀ (answer : φ -> List String -> List Piece -> Except String String × List Piece)
    (arguments : List String),
    .called function arguments ∈ exchanges Receiver.keeper answer
      (interpreter.exec [.hostCall name (arguments.map .text) .forget]) []

theorem exchanges_drain_keeper
    {answer : φ -> List String -> List Piece -> Except String String × List Piece}
    (interpreter : Interpreter φ) (next : Interpreter φ -> Activity φ (Interpreter φ))
    (kept : List Piece) :
    exchanges Receiver.keeper answer (interpreter.drain next) kept =
      interpreter.output.pieces.map .received ++
        exchanges Receiver.keeper answer (next interpreter.emptied)
          (kept ++ interpreter.output.pieces) := by
  rw [Interpreter.drain, OutputQueue.take]
  dsimp only
  generalize interpreter.output.pieces = pieces
  induction pieces generalizing kept with
  | nil => rw [List.append_nil]; rfl
  | cons piece rest ih =>
      rw [deliverAll, exchanges, Receiver.receive_keeper]
      dsimp only
      rw [ih, List.append_assoc, List.singleton_append, List.map_cons, List.cons_append]

theorem mapM_text? (arguments : List String) :
    (arguments.map Value.text).mapM Value.text? = some arguments := by
  induction arguments with
  | nil => rfl
  | cons argument arguments ih =>
      rw [List.map_cons, List.mapM_cons, ih]
      rfl

theorem reaches_iff :
    interpreter.Reaches name function ↔ interpreter.function? name = some function := by
  have request (answer : φ -> List String -> List Piece -> Except String String × List Piece)
      (arguments : List String) :
      .called function arguments ∈ exchanges Receiver.keeper answer
          (interpreter.exec [.hostCall name (arguments.map .text) .forget]) [] ↔
        interpreter.function? name = some function := by
    rw [Interpreter.exec, Interpreter.execFrom, Interpreter.awaited?, mapM_text?]
    dsimp only
    rw [Interpreter.await_eq, exchanges_drain_keeper, exchanges_pose, Interpreter.response]
    have known : interpreter.emptied.function? name = interpreter.function? name := rfl
    have deliveries : .called function arguments ∉
        interpreter.output.pieces.map (Exchange.received (φ := φ)) := by
      intro mem
      rcases List.mem_map.1 mem with ⟨piece, -, same⟩
      cases same
    rw [known, List.mem_append, or_iff_right deliveries]
    cases interpreter.function? name with
    | none =>
        constructor
        · intro mem
          cases mem
        · intro same
          cases same
    | some other =>
        dsimp only
        rw [List.mem_append, List.mem_singleton]
        constructor
        · rintro (same | behind)
          · cases same
            rfl
          · -- The queue is empty behind the call, and the program is at its end.
            cases reply : (answer other arguments ([] ++ interpreter.output.pieces)).1 with
            | ok line =>
                rw [reply] at behind
                cases behind
            | error reason =>
                rw [reply] at behind
                cases behind
        · intro same
          cases same
          exact .inl rfl
  constructor
  · intro reaches
    exact (request (fun _ _ kept => (.ok "", kept)) []).1 (reaches _ _)
  · intro known answer arguments
    exact (request answer arguments).2 known

/-!
# Failures
-/

section Failures

variable [Compiler]

/-- What a binding leaves behind when it has failed. -/
structure FailedBinding (interpreter : Interpreter φ) (name : String) (function : φ)
    (later : Interpreter φ) : Prop where
  /-- Everything is as before if and only if the host refused the name, or had the function under it
  already.  If the guest accepted the definition and only older output was refused, the global that
  it sets must have had its value already, too. -/
  alike_iff : Alike later interpreter ↔ isBindable name = false ∨
    interpreter.function? name = some function ∧
      ∀ global, Compiler.define name = .ok global ->
        interpreter.globals.get? global = some (.function name)
  globals : interpreter.output = .empty -> later.globals = interpreter.globals
  other_functions : ∀ other, other ≠ name -> later.function? other = interpreter.function? other
  /-- Nothing is changed but the global of a definition that the guest accepted. -/
  other_globals : ∀ other, Compiler.define name ≠ .ok other ->
    later.globals.get? other = interpreter.globals.get? other
  /-- A program gets to the function, unless the host refused the name. -/
  reaches_iff : later.Reaches name function ↔
    isBindable name = true ∨ interpreter.Reaches name function

theorem failedBinding_refl (refused : isBindable name = false) :
    FailedBinding interpreter name function interpreter where
  alike_iff := iff_of_true (.refl interpreter) (.inl refused)
  globals _ := rfl
  other_functions _ _ := rfl
  other_globals _ _ := rfl
  reaches_iff := by
    rw [refused]
    exact (or_iff_right Bool.false_ne_true).symm

theorem failedBinding_of_known (bindable : isBindable name = true) {globals : Scope Value}
    (kept : (∀ other, globals.get? other = interpreter.globals.get? other) ↔
      ∀ global, Compiler.define name = .ok global ->
        interpreter.globals.get? global = some (.function name))
    (unqueued : interpreter.output = .empty -> globals = interpreter.globals)
    (others : ∀ other, Compiler.define name ≠ .ok other ->
      globals.get? other = interpreter.globals.get? other) :
    FailedBinding interpreter name function
      { (interpreter.addFunction name function).emptied with globals } where
  alike_iff := by
    have refused : ¬isBindable name = false := by
      rw [bindable]
      nofun
    rw [or_iff_right refused, ← kept, ← addFunction_alike_iff]
    exact ⟨fun alike => ⟨alike.functions, alike.globals⟩, fun both => ⟨both.2, both.1⟩⟩
  globals := unqueued
  other_functions := by
    intro other ne
    have added := interpreter.function?_addFunction name function other
    rw [if_neg ne] at added
    exact added
  other_globals := others
  reaches_iff := by
    have added := interpreter.function?_addFunction name function name
    rw [if_pos rfl] at added
    exact iff_of_true (Guest.reaches_iff.2 added) (.inl bindable)

/-- A binding that fails leaves the host and the guest as they were if and only if the host
refused the name, or nothing was to be changed.  What the guest's compiler says of the name is
left open. -/
theorem failedBinding
    (bound : (interpreter.bind name function).perform receiver answer state =
      ((.error failure, later), final)) :
    FailedBinding interpreter name function later := by
  rcases guest_of_bind bound with ⟨refused, rfl⟩ | ⟨bindable, ⟨raised, compiled, rfl⟩ |
    ⟨global, compiled, queued, rfl⟩⟩
  · exact failedBinding_refl refused
  · refine failedBinding_of_known bindable (iff_of_true (fun _ => rfl) fun global accepted => ?_)
      (fun _ => rfl) fun _ _ => rfl
    rw [compiled] at accepted
    cases accepted
  · have put : (∀ other, (interpreter.globals.put global (.function name)).get? other =
        interpreter.globals.get? other) ↔
          interpreter.globals.get? global = some (.function name) :=
      put_alike_iff
    refine failedBinding_of_known bindable ?_ (fun unqueued => absurd unqueued queued)
      fun other ne => Scope.get?_put_of_ne _ _ fun same => ne (same ▸ compiled)
    constructor
    · intro same other accepted
      rw [compiled] at accepted
      cases accepted
      exact put.1 same
    · intro known
      exact put.2 (known global compiled)

end Failures

/-!
# A word that is no name
-/

local instance : Compiler := .reserving "class"

/-- A word of the guest's language is no name for a function, but the host takes it. -/
theorem failedBinding_class :
    ((Interpreter.empty : Interpreter Unit).bind "class" ()).perform Receiver.keeper
        (fun _ _ kept => (.ok "", kept)) [] =
      ((.error (.guest "SyntaxError: invalid syntax (<hangpy>, line 1)"),
        ⟨.empty, [("class", ())], .empty⟩), []) ∧
      FailedBinding (.empty : Interpreter Unit) "class" () ⟨.empty, [("class", ())], .empty⟩ := by
  have bound : ((Interpreter.empty : Interpreter Unit).bind "class" ()).perform Receiver.keeper
        (fun _ _ kept => (.ok "", kept)) [] =
      ((.error (.guest "SyntaxError: invalid syntax (<hangpy>, line 1)"),
        ⟨.empty, [("class", ())], .empty⟩), []) := by
    rfl
  exact ⟨bound, failedBinding bound⟩

/-- The function is in the table, and a program gets to it. -/
theorem not_alike_of_class :
    ((Interpreter.empty : Interpreter Unit).bind "class" ()).perform Receiver.keeper
        (fun _ _ kept => (.ok "", kept)) [] =
      ((.error (.guest "SyntaxError: invalid syntax (<hangpy>, line 1)"),
        ⟨.empty, [("class", ())], .empty⟩), []) ∧
      (Interpreter.empty : Interpreter Unit).function? "class" = none ∧
      ¬Alike (⟨.empty, [("class", ())], .empty⟩ : Interpreter Unit) .empty ∧
      (⟨.empty, [("class", ())], .empty⟩ : Interpreter Unit).Reaches "class" () := by
  refine ⟨rfl, rfl, fun alike => ?_, Guest.reaches_iff.2 rfl⟩
  have same := alike.functions "class"
  cases same

end Guest
end HangulConsole
