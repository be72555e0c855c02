import HangulConsole.Proofs.Session.Outcomes

/-!
# The life of a session

However the moves of a session follow one another, its status only goes forward: from
idle through the stages of the boot to ready, or from any of them to failed.  A session
is ready exactly if it has a guest, and it is booted once.
-/

namespace HangulConsole
namespace Session

variable {γ : Type} {session after : Session γ}

/-!
# No way back
-/

theorem Advance.rank_le (advance : Advance session after) :
    session.status.rank ≤ after.status.rank := by
  rcases advance.status with same | next
  · exact Nat.le_of_eq (congrArg Status.rank same.symm)
  · exact Nat.le_of_lt next.rank_lt

theorem Regular.rank_le_moves (regular : session.Regular) (list : List (Move γ)) :
    session.status.rank ≤ (session.moves list).status.rank := by
  induction list generalizing session with
  | nil => exact Nat.le_refl _
  | cons first rest ih =>
      exact Nat.le_trans (regular.advance first).rank_le (ih (regular.move first))

theorem Regular.status_eq_of_rank_le (regular : session.Regular) (list : List (Move γ))
    (back : (session.moves list).status.rank ≤ session.status.rank) :
    (session.moves list).status = session.status := by
  induction list generalizing session with
  | nil => rfl
  | cons first rest ih =>
      have on := (regular.move first).rank_le_moves rest
      rw [moves_cons] at back ⊢
      rcases (regular.advance first).status with same | next
      · rw [← same] at back ⊢
        exact ih (regular.move first) back
      · have less := next.rank_lt
        omega

theorem Regular.status_of_isFinal (regular : session.Regular)
    (final : session.status.isFinal = true) (list : List (Move γ)) :
    (session.moves list).status = session.status := by
  induction list generalizing session with
  | nil => rfl
  | cons first rest ih =>
      rcases (regular.advance first).status with same | next
      · rw [moves_cons, ← same]
        exact ih (regular.move first) (by rw [same]; exact final)
      · rw [next.isFinal_eq] at final
        cases final

/-!
# Boots after the first
-/

theorem Effect.bootAsked (effect : Effect session after) (asked : session.bootAsked = true) :
    after.bootAsked = true := by
  cases effect with
  | rests _ _ _ _ _ bootAsked _ _ => exact bootAsked asked
  | goesOn _ _ _ _ _ kept _ _ => exact kept.bootAsked.trans asked
  | bootEnds _ _ _ _ _ _ bootAsked _ _ => exact bootAsked.trans asked
  | runEnds _ _ _ _ _ _ _ bootAsked _ _ => exact bootAsked.trans asked
  | leaves _ _ _ _ _ _ _ bootAsked _ _ => exact bootAsked.trans asked
  | bootBegins _ _ _ _ _ _ bootAsked _ _ => exact bootAsked
  | runQueues _ _ _ _ _ _ bootAsked _ _ => exact bootAsked.trans asked

theorem Orderly.bootAsked_moves (orderly : session.Orderly) (asked : session.bootAsked = true)
    (list : List (Move γ)) : (session.moves list).bootAsked = true := by
  induction list generalizing session with
  | nil => exact asked
  | cons first rest ih => exact ih (orderly.move first) ((orderly.effect first).bootAsked asked)

theorem bootAsked_boot (session : Session γ) :
    (session.move (.operation .boot)).bootAsked = true := by
  change (session.newTask beginBoot).bootAsked = true
  cases asked : session.bootAsked with
  | true =>
      rw [boot_of_asked asked]
      exact asked
  | false =>
      cases wanted : session.keywordSource with
      | error failure =>
          rw [boot_of_error asked wanted]
          rfl
      | ok source =>
          rw [boot_of_ok asked wanted]
          rfl

theorem Orderly.move_boot (orderly : session.Orderly) (asked : session.bootAsked = true)
    (list : List (Move γ)) :
    (session.moves list).move (.operation .boot) =
      { session.moves list with
        nextTask := (session.moves list).nextTask + 1
        finished := (session.moves list).finished ++
          [⟨(session.moves list).nextTask, .error .alreadyBooted⟩] } :=
  boot_of_asked (orderly.bootAsked_moves asked list)

theorem Outcome.not_alreadyBooted (outcome : Outcome session after) (line : session.InLine)
    {number : Nat} {phase : Phase γ} (mem : ⟨number, phase⟩ ∈ session.tasks)
    (boot : phase.isBoot = true) :
    after.finished ≠ session.finished ++ [⟨number, .error .alreadyBooted⟩] := by
  intro ended
  have new := line.ne_nextTask mem
  cases outcome with
  | none same =>
      rw [same] at ended
      cases List.self_eq_append_right.1 ended
  | bootRefused _ finished =>
      cases eq_of_finished finished ended
      exact new rfl
  | runRefused _ finished => cases eq_of_finished finished ended
  | bootUnsourced _ eq => cases eq_of_finished (by rw [eq]; rfl) ended
  | bootFails _ _ eq => cases eq_of_finished (by rw [eq]; rfl) ended
  | bootEnds _ eq => cases eq_of_finished (by rw [eq]; rfl) ended
  | @runEnds other result guest also eq =>
      have same : (⟨other, result⟩ : Finished) = ⟨number, .error .alreadyBooted⟩ := by
        refine eq_of_finished ?_ ended
        rw [eq]
        cases result with
        | _ => rfl
      cases same
      cases line.eq_of_number also mem rfl
      cases boot

theorem InLine.tick_of_booted (line : session.InLine) {number : Nat} {guest : γ}
    (found : session.phase? number = some (.booting (.going (.ended (.ok ()) guest)) [])) :
    session.guest? = none ∧
      session.tick number =
        (({ session with status := .ready, guest? := some guest }).removeTask number).finish number
          (.ok ()) := by
  have mem := mem_tasks_of_phase? found
  rcases line.front_of_mem mem rfl with ⟨rest, front⟩
  refine ⟨line.guest?_of_isBoot mem rfl, ?_⟩
  rw [tick, found]
  exact line.becomeReady_eq front rfl guest

/-!
# Every session
-/

/-- The life of a session, whatever moves are made: boots, requests for runs, operations on the line
input, steps of any tasks and their ends, in any order. -/
structure Lifecycle (session : Session γ) : Prop where
  begins : session.status = .idle
  forward : ∀ list move,
    ((session.moves list).move move).status = (session.moves list).status ∨
      (session.moves list).status.Next ((session.moves list).move move).status
  /-- A status that was left does not come back. -/
  once : ∀ first second third,
    (session.moves (first ++ second ++ third)).status = (session.moves first).status ->
    (session.moves (first ++ second)).status = (session.moves first).status
  /-- A session that is ready or failed stays so. -/
  final : ∀ first second, (session.moves first).status.isFinal = true ->
    (session.moves (first ++ second)).status = (session.moves first).status
  ready : ∀ list,
    ((session.moves list).status = .ready ↔ (session.moves list).isReady = true) ∧
      ((session.moves list).isReady = true ↔ ∃ guest, (session.moves list).guest? = some guest)
  /-- Every boot after the first is refused at once and changes nothing but the numbers of later
  tasks. -/
  again : ∀ first second before,
    before = session.moves (first ++ .operation .boot :: second) ->
    before.move (.operation .boot) =
      { before with
        nextTask := before.nextTask + 1
        finished := before.finished ++ [⟨before.nextTask, .error .alreadyBooted⟩] }
  /-- No boot that was begun is refused in the end. -/
  not_refused : ∀ list move task phase,
    (session.moves list).phase? task = some phase -> phase.isBoot = true ->
    ((session.moves list).move move).finished ≠
      (session.moves list).finished ++ [⟨task, .error .alreadyBooted⟩]
  /-- A boot whose plan is done finds no guest in the session and puts its own there. -/
  completes : ∀ list task guest before,
    before = session.moves list ->
    before.phase? task = some (.booting (.going (.ended (.ok ()) guest)) []) ->
    before.guest? = none ∧ before.move (.tick task) =
      (({ before with status := .ready, guest? := some guest }).removeTask task).finish task
        (.ok ())

theorem lifecycle_of_regular (regular : session.Regular) (begins : session.status = .idle) :
    session.Lifecycle where
  begins := begins
  forward list move := ((regular.moves list).advance move).status
  once := by
    intro first second third back
    have regular := regular.moves first
    rw [moves_append, moves_append] at back
    rw [moves_append]
    -- The rank never falls, so it is the same at both ends and in between.
    refine regular.status_eq_of_rank_le second ?_
    rw [← back]
    exact (regular.moves second).rank_le_moves third
  final := by
    intro first second final
    rw [moves_append]
    exact (regular.moves first).status_of_isFinal final second
  ready list := ⟨(regular.moves list).staged.ready, Option.isSome_iff_exists⟩
  again := by
    rintro first second before rfl
    rw [moves_append, moves_cons]
    have orderly := (regular.moves first).orderly.move (.operation .boot)
    exact orderly.move_boot (bootAsked_boot _) second
  not_refused := by
    intro list move task phase found boot
    have line := (regular.moves list).orderly.line
    exact (line.outcome move).not_alreadyBooted line (mem_tasks_of_phase? found) boot
  completes := by
    rintro list task guest before rfl found
    exact (regular.moves list).orderly.line.tick_of_booted found

/-- Whatever the guest is and whatever happens to a new session, its status goes forward through the
stages of one boot; and all that operations come to by letting every task go on is made of such
moves. -/
theorem lifecycle_start (abilities : Guest Unit γ) (addresses : Keywords.AddressReader)
    (settings : Settings) (names : Calls.Names) :
    (start abilities addresses settings names).Lifecycle ∧
      ∀ operations, ∃ list, (start abilities addresses settings names).steps operations =
        (start abilities addresses settings names).moves list :=
  ⟨lifecycle_of_regular (regular_start abilities addresses settings names) rfl, steps_eq_moves _⟩

end Session
end HangulConsole
