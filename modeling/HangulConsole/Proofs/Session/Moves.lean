import HangulConsole.Session.Step

/-!
# Moves of a session

The tasks of a session need not go on as far as they can before the next thing
happens: an operation can come between any two steps of any tasks.  A move is an
operation or one step of a task, and an operation that lets every task go on is a
sequence of moves.
-/

namespace HangulConsole
namespace Session

variable {γ : Type}

inductive Move (γ : Type) where
  /-- Something is asked of the session. -/
  | operation (operation : Operation γ)
  /-- A task goes on by one step. -/
  | tick (task : Nat)

def move (session : Session γ) : Move γ -> Session γ
  | .operation operation => session.apply operation
  | .tick task => session.tick task

def moves (session : Session γ) (list : List (Move γ)) : Session γ :=
  list.foldl move session

@[simp] theorem moves_nil (session : Session γ) : session.moves [] = session := rfl

@[simp] theorem moves_cons (session : Session γ) (first : Move γ) (rest : List (Move γ)) :
    session.moves (first :: rest) = (session.move first).moves rest := rfl

theorem moves_append (session : Session γ) (first second : List (Move γ)) :
    session.moves (first ++ second) = (session.moves first).moves second := by
  simp [moves]

/-- One session comes out of another by steps of tasks alone. -/
def GoesOnTo (session after : Session γ) : Prop :=
  ∃ tasks : List Nat, after = session.moves (tasks.map Move.tick)

namespace GoesOnTo

theorem refl (session : Session γ) : GoesOnTo session session :=
  ⟨[], rfl⟩

theorem tick (session : Session γ) (task : Nat) : GoesOnTo session (session.tick task) :=
  ⟨[task], rfl⟩

theorem trans {session between after : Session γ} (first : GoesOnTo session between)
    (second : GoesOnTo between after) : GoesOnTo session after := by
  rcases first with ⟨tasks, rfl⟩
  rcases second with ⟨others, rfl⟩
  exact ⟨tasks ++ others, by rw [List.map_append, moves_append]⟩

end GoesOnTo

/-!
# Operations as moves
-/

theorem goesOnTo_pursue (session : Session γ) (task : Nat) (activity : Activity Unit γ) :
    GoesOnTo session (session.pursue task activity) := by
  induction activity generalizing session with
  | ended result guest => exact GoesOnTo.tick session task
  | deliver piece guest resume ih =>
      rw [pursue]
      exact (GoesOnTo.tick session task).trans (ih _ _)
  | call function arguments guest resume ih =>
      rw [pursue]
      split
      · exact (GoesOnTo.tick session task).trans (ih _ _)
      · exact GoesOnTo.tick session task

theorem goesOnTo_pursueWork (session : Session γ) (task : Nat) :
    GoesOnTo session (session.pursueWork task) := by
  rw [pursueWork]
  split
  · exact goesOnTo_pursue session task _
  · exact GoesOnTo.refl session

theorem goesOnTo_pursueAll (task : Nat) (plan : BootPlan) (session : Session γ) :
    GoesOnTo session (pursueAll task plan session) := by
  induction plan generalizing session with
  | nil => exact goesOnTo_pursueWork session task
  | cons stage plan ih => exact (goesOnTo_pursueWork session task).trans (ih _)

theorem goesOnTo_drive (session : Session γ) (task : Nat) :
    GoesOnTo session (session.drive task) :=
  (GoesOnTo.tick session task).trans (goesOnTo_pursueAll task _ _)

theorem goesOnTo_settle (session : Session γ) : GoesOnTo session session.settle := by
  have round (tasks : List Nat) (session : Session γ) :
      GoesOnTo session (tasks.foldl drive session) := by
    induction tasks generalizing session with
    | nil => exact GoesOnTo.refl session
    | cons task tasks ih => exact (goesOnTo_drive session task).trans (ih _)
  exact round _ session

theorem exists_moves_of_steps (session : Session γ) (operations : List (Operation γ)) :
    ∃ list, session.steps operations = session.moves list ∧
      ∀ operation, .operation operation ∈ list -> operation ∈ operations := by
  induction operations generalizing session with
  | nil => exact ⟨[], rfl, fun operation mem => by cases mem⟩
  | cons operation rest ih =>
      rcases goesOnTo_settle (session.apply operation) with ⟨tasks, settled⟩
      rcases ih (session.step operation) with ⟨others, later, known⟩
      refine ⟨.operation operation :: tasks.map Move.tick ++ others, ?_, ?_⟩
      · rw [steps_cons, later, step, settled, List.cons_append, moves_cons, moves_append]
        rfl
      · intro other mem
        rw [List.cons_append, List.mem_cons, List.mem_append] at mem
        rcases mem with same | ticked | mem
        · cases same
          exact List.mem_cons_self
        · rcases List.mem_map.1 ticked with ⟨task, _, same⟩
          cases same
        · exact List.mem_cons_of_mem _ (known other mem)

theorem steps_eq_moves (session : Session γ) (operations : List (Operation γ)) :
    ∃ list, session.steps operations = session.moves list := by
  rcases session.exists_moves_of_steps operations with ⟨list, same, _⟩
  exact ⟨list, same⟩

end Session
end HangulConsole
