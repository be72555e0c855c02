import HangulConsole.Proofs.Session.Boots
import HangulConsole.Proofs.Session.Lifecycle
import HangulConsole.Proofs.Session.Programs
import HangulConsole.Rehearsal

/-!
# Boots that are given up

A boot that is not over comes to its end if it is carried on: its guest is made or not, its
script is read or not, and whatever the guest then asks for is answered.  A boot that is given
up comes to none.  Its status stays, and since a session is booted once, nothing changes
that any more.
-/

namespace HangulConsole
namespace Session

open LineInput

variable {γ : Type} {session after : Session γ} {number : Nat} {phase : Phase γ}
  {list : List (Move γ)} {move : Move γ}

/-!
# Boots that are carried on
-/

section CarriedOn

variable {made : Except Failure γ} {script : Except Failure String}

inductive CarriesOn (made : Except Failure γ) (script : Except Failure String) :
    Move γ -> Prop where
  | tick (task : Nat) : CarriesOn made script (.tick task)
  | submit : CarriesOn made script (.operation .submit)
  | loaded : CarriesOn made script (.operation (.loaded made))
  | scriptRead : CarriesOn made script (.operation (.scriptRead script))

def Finishes (session : Session γ) (made : Except Failure γ)
    (script : Except Failure String) : Prop :=
  ∃ list, (∀ move ∈ list, CarriesOn made script move) ∧
    (session.moves list).status.isFinal = true

theorem finishes_of_isFinal (final : session.status.isFinal = true) :
    session.Finishes made script := by
  refine ⟨[], ?_, final⟩
  intro move mem
  cases mem

theorem Finishes.of_move (carries : CarriesOn made script move)
    (finishes : (session.move move).Finishes made script) : session.Finishes made script := by
  rcases finishes with ⟨list, others, final⟩
  refine ⟨move :: list, ?_, final⟩
  intro other mem
  rcases List.mem_cons.1 mem with rfl | mem
  · exact carries
  · exact others other mem

theorem finishes_of_failBoot (number : Nat) (failure : Failure)
    (carries : CarriesOn made script move)
    (fails : session.move move = session.failBoot number failure) :
    session.Finishes made script := by
  apply Finishes.of_move carries
  rw [fails]
  exact finishes_of_isFinal rfl

theorem finishes_of_asking {request : Nat} {guest : γ}
    {resume : Except String String -> Activity Unit γ} {plan : BootPlan}
    (onward : ∀ (session : Session γ) (line : String), session.Regular ->
      session.tasks = [⟨number, .booting (.going (resume (.ok line))) plan⟩] ->
      session.Finishes made script)
    (regular : session.Regular)
    (alone : session.tasks =
      [⟨number, .booting (.asking (.waiting request) guest resume) plan⟩]) :
    session.Finishes made script := by
  -- Whoever submitted the line, the guest takes it in its next step.
  have takes (session : Session γ) (regular : session.Regular)
      (alone : session.tasks =
        [⟨number, .booting (.asking (.waiting request) guest resume) plan⟩])
      {line : String} (answered : session.input.answer? request = some line) :
      session.Finishes made script :=
    .of_move (.tick number) (onward _ line (regular.move (.tick number))
      (tasks_tick_of_answer regular.orderly.line alone rfl answered))
  rcases CallTable.Sound.waits_or_answered regular.orderly.serves (holds_of_front alone rfl) with
    ⟨waits, unanswered⟩ | ⟨_, line, answered⟩
  · rcases waitsFor_iff.1 waits with ⟨asked, waiting, same⟩
    rcases submit_of_waiting? waiting with ⟨submitted, _⟩
    have answer := submitted.answer? request
    change session.input.answer? request = none at unanswered
    rw [unanswered, if_pos same, Option.none_or] at answer
    exact .of_move .submit (takes _ (regular.move (.operation .submit)) alone answer)
  · exact takes session regular alone answered

theorem finishes_of_going {activity : Activity Unit γ} {plan : BootPlan}
    (onward : ∀ (session : Session γ) (guest : γ), session.Regular ->
      session.tasks = [⟨number, .booting (.going (.ended (.ok ()) guest)) plan⟩] ->
      session.Finishes made script)
    (regular : session.Regular)
    (alone : session.tasks = [⟨number, .booting (.going activity) plan⟩]) :
    session.Finishes made script := by
  induction activity generalizing session with
  | ended result guest =>
      cases result with
      | ok done => exact onward session guest regular alone
      | error failure =>
          refine finishes_of_failBoot number failure (.tick number) ?_
          show session.tick number = session.failBoot number failure
          rw [tick, phase?_of_front alone]
          rfl
  | deliver piece guest resume ih =>
      exact .of_move (.tick number) (ih (.ok ()) (regular.move (.tick number))
        (tasks_tick_of_deliver regular.orderly.line alone rfl))
  | call function arguments guest resume ih =>
      rcases tasks_tick_of_call regular alone rfl with ⟨request, asking, _⟩
      exact .of_move (.tick number) (finishes_of_asking
        (fun _ line regular alone => ih (.ok line) regular alone)
        (regular.move (.tick number)) asking)

theorem finishes_of_ended {guest : γ} {plan : BootPlan} (regular : session.Regular)
    (alone : session.tasks = [⟨number, .booting (.going (.ended (.ok ()) guest)) plan⟩]) :
    session.Finishes made script := by
  -- Every round takes one demand off the plan.
  induction plan generalizing session guest with
  | nil =>
      rcases regular.orderly.line.tick_of_booted (phase?_of_front alone) with ⟨_, ready⟩
      refine .of_move (.tick number) ?_
      rw [move, ready]
      exact finishes_of_isFinal rfl
  | cons next plan ih =>
      rcases next with ⟨stage, demand⟩
      have tasks : (session.tick number).tasks =
          [⟨number, .booting (.going (session.activityOf guest demand)) plan⟩] := by
        rw [tick, phase?_of_front alone]
        exact tasks_setPhase alone (fun other mem => by cases mem) _
      exact .of_move (.tick number) (finishes_of_going (fun _ _ regular alone => ih regular alone)
        (regular.move (.tick number)) tasks)

theorem finishes_of_booting {work : Work γ} {plan : BootPlan} (regular : session.Regular)
    (alone : session.tasks = [⟨number, .booting work plan⟩]) : session.Finishes made script := by
  have going {activity : Activity Unit γ} (session : Session γ) (regular : session.Regular)
      (alone : session.tasks = [⟨number, .booting (.going activity) plan⟩]) :
      session.Finishes made script :=
    finishes_of_going (fun _ _ regular alone => finishes_of_ended regular alone) regular alone
  cases work with
  | going activity => exact going session regular alone
  | asking ticket guest resume =>
      rcases (regular.staged.fits_front alone).made rfl with ⟨request, rfl⟩
      exact finishes_of_asking (fun session _ regular alone => going session regular alone) regular
        alone

theorem finishes_of_reading {source : Keywords.Source} {guest : γ} (regular : session.Regular)
    (alone : session.tasks = [⟨number, .reading source guest⟩]) : session.Finishes made script := by
  have found : session.reading? = some (number, source, guest) := by
    rw [reading?, alone]
    rfl
  cases script with
  | error failure =>
      refine finishes_of_failBoot number failure .scriptRead ?_
      show session.takeScript (.error failure) = session.failBoot number failure
      unfold takeScript
      rw [found]
  | ok text =>
      have tasks : (session.takeScript (.ok text)).tasks =
          [⟨number, .booting (.going (session.abilities.bind guest session.settings.bridge ()))
            (bootPlan session.settings text).tail⟩] := by
        unfold takeScript
        rw [found]
        exact tasks_setPhase alone (fun other mem => by cases mem) _
      exact .of_move .scriptRead
        (finishes_of_booting (regular.move (.operation (.scriptRead (.ok text)))) tasks)

theorem finishes_of_loading {source : Keywords.Source} (regular : session.Regular)
    (alone : session.tasks = [⟨number, .loading source⟩]) : session.Finishes made script := by
  have found : session.loading? = some (number, source) := by
    rw [loading?, alone]
    rfl
  cases made with
  | error failure =>
      refine finishes_of_failBoot number failure .loaded ?_
      show session.takeGuest (.error failure) = session.failBoot number failure
      unfold takeGuest
      rw [found]
  | ok guest =>
      have tasks : (session.takeGuest (.ok guest)).tasks = [⟨number, .reading source guest⟩] := by
        unfold takeGuest
        rw [found]
        exact tasks_setPhase alone (fun other mem => by cases mem) _
      exact .of_move .loaded
        (finishes_of_reading (regular.move (.operation (.loaded (.ok guest)))) tasks)

theorem Regular.finishes (regular : session.Regular) (booting : session.isBooting = true)
    (made : Except Failure γ) (script : Except Failure String) : session.Finishes made script := by
  rw [isBooting, List.any_eq_true] at booting
  rcases booting with ⟨⟨number, phase⟩, mem, boot⟩
  have alone := regular.orderly.line.tasks_of_isBoot mem boot
  cases phase with
  | loading source => exact finishes_of_loading regular alone
  | reading source guest => exact finishes_of_reading regular alone
  | booting work plan => exact finishes_of_booting regular alone
  | queued source => cases boot
  | running work => cases boot

end CarriedOn

/-!
# Boots that are given up
-/

/-- The boot of a session is given up in a move, at whatever point it has come to. -/
def GivesUpBoot (session : Session γ) (move : Move γ) : Prop :=
  ∃ task phase, move = .operation (.cancel task) ∧ session.phase? task = some phase ∧
    phase.isBoot = true

def GaveUpBoot (session : Session γ) (list : List (Move γ)) : Prop :=
  ∃ first move second, list = first ++ move :: second ∧ (session.moves first).GivesUpBoot move

theorem not_gaveUpBoot_nil (session : Session γ) : ¬ session.GaveUpBoot [] := by
  rintro ⟨first, move, second, split, _⟩
  exact List.append_ne_nil_of_right_ne_nil first (List.cons_ne_nil move second) split.symm

theorem GaveUpBoot.concat (gave : session.GaveUpBoot list) (move : Move γ) :
    session.GaveUpBoot (list ++ [move]) := by
  rcases gave with ⟨first, cancel, second, rfl, gives⟩
  exact ⟨first, cancel, second ++ [move], by rw [List.append_assoc, List.cons_append], gives⟩

theorem gaveUpBoot_concat (gives : (session.moves list).GivesUpBoot move) :
    session.GaveUpBoot (list ++ [move]) :=
  ⟨list, move, [], rfl, gives⟩

theorem not_gaveUpBoot_concat (kept : ¬ session.GaveUpBoot list)
    (keeps : ¬ (session.moves list).GivesUpBoot move) : ¬ session.GaveUpBoot (list ++ [move]) := by
  rintro ⟨first, cancel, second, split, gives⟩
  rcases append_singleton_eq_append_cons split with ⟨_, rfl, rfl⟩ | ⟨others, _, rfl⟩
  · exact keeps gives
  · exact kept ⟨first, cancel, others, rfl, gives⟩

theorem isBooting_eq_false_iff : session.isBooting = false ↔ session.boots = [] := by
  rw [isBooting, boots, List.filter_eq_nil_iff, List.any_eq_false]

theorem mem_tasks_of_boots {task : Task γ} (boots : session.boots = [task]) :
    task ∈ session.tasks ∧ task.phase.isBoot = true := by
  apply List.mem_filter.1
  show task ∈ session.boots
  rw [boots]
  exact List.mem_singleton_self task

theorem GivesUpBoot.boots_ne_nil (gives : session.GivesUpBoot move) : session.boots ≠ [] := by
  rcases gives with ⟨task, phase, _, found, boot⟩
  exact List.ne_nil_of_mem (List.mem_filter.2 ⟨mem_tasks_of_phase? found, boot⟩)

theorem GivesUpBoot.boots_move (gives : session.GivesUpBoot move) (line : session.InLine) :
    (session.move move).boots = [] := by
  rcases gives with ⟨task, phase, rfl, found, boot⟩
  have alone := line.tasks_of_isBoot (mem_tasks_of_phase? found) boot
  apply boots_of_tasks_nil
  show (session.cancel task).tasks = []
  rw [cancel, found]
  have removed (input : LineInput) : ({ session with input }.removeTask task).tasks = [] :=
    tasks_removeTask alone (fun other mem => by cases mem)
  cases phase with
  | loading source => exact removed session.input
  | reading source guest => exact removed session.input
  | booting work plan =>
      rcases session.abandon_eq work with ⟨input, eq⟩
      simp only [dropTask]
      rw [eq]
      exact removed input
  | queued source => cases boot
  | running work => cases boot

theorem not_givesUpBoot_of_boots (line : session.InLine) (left : (session.move move).boots ≠ []) :
    ¬ session.GivesUpBoot move :=
  fun gives => left (gives.boots_move line)

theorem not_givesUpBoot_tick (session : Session γ) (task : Nat) :
    ¬ session.GivesUpBoot (.tick task) := by
  rintro ⟨_, _, same, _⟩
  cases same

theorem not_givesUpBoot_boot (session : Session γ) : ¬ session.GivesUpBoot (.operation .boot) := by
  rintro ⟨_, _, same, _⟩
  cases same

theorem Breaks.not_givesUpBoot {failure : Failure}
    (breaks : session.Breaks number move failure) : ¬ session.GivesUpBoot move := by
  rintro ⟨_, _, rfl, _⟩
  cases breaks

/-!
# How the boot stands
-/

inductive BootStands (session : Session γ) (list : List (Move γ)) : Prop where
  | unasked :
      (session.moves list).bootAsked = false -> (session.moves list).status = .idle ->
      (session.moves list).boots = [] -> ¬ session.GaveUpBoot list -> BootStands session list
  | begun {task : Task γ} :
      (session.moves list).bootAsked = true -> (session.moves list).boots = [task] ->
      ¬ session.GaveUpBoot list -> BootStands session list
  | settled :
      (session.moves list).bootAsked = true -> (session.moves list).status.isFinal = true ->
      (session.moves list).boots = [] -> ¬ session.GaveUpBoot list -> BootStands session list
  | givenUp {stage : BootStage} :
      (session.moves list).bootAsked = true -> (session.moves list).status = .booting stage ->
      (session.moves list).boots = [] -> session.GaveUpBoot list -> BootStands session list

namespace BootStands

theorem start (abilities : Guest Unit γ) (addresses : Keywords.AddressReader)
    (settings : Settings) (names : Calls.Names) :
    (start abilities addresses settings names).BootStands [] :=
  .unasked rfl rfl rfl (not_gaveUpBoot_nil _)

theorem kept_of_unasked (stands : session.BootStands list)
    (unasked : (session.moves list).bootAsked = false) : ¬ session.GaveUpBoot list := by
  cases stands with
  | unasked _ _ _ kept => exact kept
  | begun asked _ _ => rw [unasked] at asked; cases asked
  | settled asked _ _ _ => rw [unasked] at asked; cases asked
  | givenUp asked _ _ _ => rw [unasked] at asked; cases asked

theorem kept_of_boots {task : Task γ} (stands : session.BootStands list)
    (boots : (session.moves list).boots = [task]) : ¬ session.GaveUpBoot list := by
  cases stands with
  | unasked _ _ _ kept => exact kept
  | begun _ _ kept => exact kept
  | settled _ _ _ kept => exact kept
  | givenUp _ _ none _ => rw [none] at boots; cases boots

theorem rests (stands : session.BootStands list)
    (same : SameBoot (session.moves list) ((session.moves list).move move))
    (boots : ((session.moves list).move move).boots = (session.moves list).boots)
    (keeps : ¬ (session.moves list).GivesUpBoot move) : session.BootStands (list ++ [move]) := by
  rcases same with ⟨status, _, bootAsked⟩
  rw [← moves_concat] at status bootAsked boots
  cases stands with
  | unasked asked idle none kept =>
      exact .unasked (bootAsked.trans asked) (status.trans idle) (boots.trans none)
        (not_gaveUpBoot_concat kept keeps)
  | begun asked one kept =>
      exact .begun (bootAsked.trans asked) (boots.trans one) (not_gaveUpBoot_concat kept keeps)
  | settled asked final none kept =>
      exact .settled (bootAsked.trans asked) (by rw [status]; exact final) (boots.trans none)
        (not_gaveUpBoot_concat kept keeps)
  | givenUp asked booting none gave =>
      exact .givenUp (bootAsked.trans asked) (status.trans booting) (boots.trans none)
        (gave.concat move)

theorem goesOn {task : Task γ} (kept : ¬ session.GaveUpBoot list)
    (line : (session.moves list).InLine)
    (asked : ((session.moves list).move move).bootAsked = true)
    (boots : ((session.moves list).move move).boots = [task]) :
    session.BootStands (list ++ [move]) := by
  have keeps : ¬ (session.moves list).GivesUpBoot move :=
    not_givesUpBoot_of_boots line (by rw [boots]; exact List.cons_ne_nil _ _)
  rw [← moves_concat] at asked boots
  exact .begun asked boots (not_gaveUpBoot_concat kept keeps)

theorem ends (kept : ¬ session.GaveUpBoot list) (keeps : ¬ (session.moves list).GivesUpBoot move)
    (asked : ((session.moves list).move move).bootAsked = true)
    (final : ((session.moves list).move move).status.isFinal = true)
    (boots : ((session.moves list).move move).boots = []) :
    session.BootStands (list ++ [move]) := by
  rw [← moves_concat] at asked final boots
  exact .settled asked final boots (not_gaveUpBoot_concat kept keeps)

theorem of_move (stands : session.BootStands list) (regular : session.Regular) (move : Move γ) :
    session.BootStands (list ++ [move]) := by
  have regular := regular.moves list
  have line := regular.orderly.line
  have moved := regular.bootMove move
  generalize eq : (session.moves list).move move = after at moved
  cases moved with
  | rests same boots _ =>
      subst eq
      refine stands.rests same boots ?_
      intro gives
      exact gives.boots_ne_nil (boots.symm.trans (gives.boots_move line))
  | works work same boots later _ =>
      subst eq
      have asked := line.bootAsked_of_mem (mem_tasks_of_boots boots).1
      exact goesOn (stands.kept_of_boots boots) line (same.bootAsked.trans asked) later
  | runStarts same ready _ none _ =>
      subst eq
      exact stands.rests same (none.trans (line.boots_of_ready ready).symm)
        (not_givesUpBoot_tick _ _)
  | begins unasked _ boots _ _ _ asked =>
      subst eq
      exact goesOn (stands.kept_of_unasked unasked) line asked boots
  | makes _ boots later _ _ _ asked =>
      subst eq
      exact goesOn (stands.kept_of_boots boots) line asked later
  | reads _ boots later _ _ _ asked =>
      subst eq
      exact goesOn (stands.kept_of_boots boots) line asked later
  | goesOn _ boots later _ _ _ asked =>
      subst eq
      exact goesOn (stands.kept_of_boots boots) line asked later
  | completes _ boots none _ status _ asked =>
      subst eq
      exact ends (stands.kept_of_boots boots) (not_givesUpBoot_tick _ _) asked
        (by rw [status]; rfl) none
  | unsourced breaks _ none _ failed _ =>
      subst eq
      cases breaks with
      | source unasked _ _ =>
          refine ends (stands.kept_of_unasked unasked) (not_givesUpBoot_boot _) ?_ ?_ none
          · rw [failed]
            rfl
          · rw [failed]
            rfl
  | fails breaks boots none _ failed _ asked =>
      subst eq
      refine ends (stands.kept_of_boots boots) breaks.not_givesUpBoot asked ?_ none
      rw [failed]
      rfl
  | givenUp found boots none _ status _ asked =>
      rcases mem_tasks_of_boots boots with ⟨mem, boot⟩
      rcases (regular.staged.fits _ mem).eq_booting boot with ⟨stage, booting⟩
      have gave := gaveUpBoot_concat ⟨_, _, rfl, found, boot⟩
      rw [← eq, ← moves_concat] at asked status none
      exact .givenUp asked (status.trans booting) none gave

end BootStands

theorem bootStands (abilities : Guest Unit γ) (addresses : Keywords.AddressReader)
    (settings : Settings) (names : Calls.Names)
    (list : List (Move γ)) : (start abilities addresses settings names).BootStands list := by
  induction list using List.reverseRecOn with
  | nil => exact .start abilities addresses settings names
  | append_singleton list move ih =>
      exact ih.of_move (regular_start abilities addresses settings names) move

theorem BootMove.same_of_boots_nil (moved : BootMove session move after)
    (asked : session.bootAsked = true) (none : session.boots = []) :
    SameBoot session after ∧ after.boots = [] := by
  cases moved with
  | rests same boots _ => exact ⟨same, boots.trans none⟩
  | runStarts same _ _ later _ => exact ⟨same, later⟩
  | begins unasked _ _ _ _ _ _ => rw [asked] at unasked; cases unasked
  | unsourced breaks _ _ _ _ _ =>
      cases breaks with
      | source unasked _ _ => rw [asked] at unasked; cases unasked
  | works _ _ boots _ _ => rw [none] at boots; cases boots
  | makes _ boots _ _ _ _ _ => rw [none] at boots; cases boots
  | reads _ boots _ _ _ _ _ => rw [none] at boots; cases boots
  | goesOn _ boots _ _ _ _ _ => rw [none] at boots; cases boots
  | completes _ boots _ _ _ _ _ => rw [none] at boots; cases boots
  | fails _ boots _ _ _ _ _ => rw [none] at boots; cases boots
  | givenUp _ boots _ _ _ _ _ => rw [none] at boots; cases boots

theorem Regular.status_of_boots_nil (regular : session.Regular) (asked : session.bootAsked = true)
    (none : session.boots = []) (list : List (Move γ)) :
    (session.moves list).status = session.status := by
  induction list generalizing session with
  | nil => rfl
  | cons first rest ih =>
      rcases (regular.bootMove first).same_of_boots_nil asked none with ⟨same, later⟩
      have still := ih (regular.move first) (same.bootAsked.trans asked) later
      exact still.trans same.status

/-!
# Every session
-/

/-- What becomes of the boot of a session, whatever moves are made: boots, requests for runs,
operations on the line input, steps of any tasks and their ends, in any order. -/
structure Abandonment (session : Session γ) : Prop where
  /-- The status tells of a boot that is no longer there exactly if the boot was given up. -/
  stranded : ∀ list,
    ((∃ stage, (session.moves list).status = .booting stage) ∧
      (session.moves list).isBooting = false) ↔ session.GaveUpBoot list
  /-- Once a boot was asked for and is no longer there, the session is ready or has failed, unless
  the boot was given up. -/
  final : ∀ list, (session.moves list).bootAsked = true ->
    (session.moves list).isBooting = false ->
    ((session.moves list).status.isFinal = true ↔ ¬ session.GaveUpBoot list)
  /-- A boot that is there comes to its end if it is carried on. -/
  finishes : ∀ list, (session.moves list).isBooting = true ->
    ∀ made script, (session.moves list).Finishes made script
  /-- After a boot that was given up the status never changes. -/
  stays : ∀ list more, session.GaveUpBoot list ->
    (session.moves (list ++ more)).status = (session.moves list).status

namespace BootStands

theorem stranded_iff (stands : session.BootStands list) :
    ((∃ stage, (session.moves list).status = .booting stage) ∧
      (session.moves list).isBooting = false) ↔ session.GaveUpBoot list := by
  rw [isBooting_eq_false_iff]
  cases stands with
  | unasked _ idle _ kept =>
      rw [idle]
      constructor
      · rintro ⟨⟨stage, same⟩, _⟩
        cases same
      · exact fun gave => absurd gave kept
  | begun _ one kept =>
      rw [one]
      constructor
      · rintro ⟨_, none⟩
        cases none
      · exact fun gave => absurd gave kept
  | settled _ final _ kept =>
      constructor
      · rintro ⟨⟨stage, same⟩, _⟩
        rw [same] at final
        cases final
      · exact fun gave => absurd gave kept
  | givenUp _ booting none gave => exact ⟨fun _ => gave, fun _ => ⟨⟨_, booting⟩, none⟩⟩

theorem isFinal_iff (stands : session.BootStands list)
    (asked : (session.moves list).bootAsked = true)
    (ended : (session.moves list).isBooting = false) :
    (session.moves list).status.isFinal = true ↔ ¬ session.GaveUpBoot list := by
  rw [isBooting_eq_false_iff] at ended
  cases stands with
  | unasked unasked _ _ _ => rw [asked] at unasked; cases unasked
  | begun _ one _ => rw [ended] at one; cases one
  | settled _ final _ kept => exact ⟨fun _ => kept, fun _ => final⟩
  | givenUp _ booting _ gave =>
      rw [booting]
      constructor
      · intro final
        cases final
      · exact fun kept => absurd gave kept

theorem status_of_gaveUp (stands : session.BootStands list) (regular : session.Regular)
    (gave : session.GaveUpBoot list) (more : List (Move γ)) :
    (session.moves (list ++ more)).status = (session.moves list).status := by
  rw [moves_append]
  cases stands with
  | unasked _ _ _ kept => exact absurd gave kept
  | begun _ _ kept => exact absurd gave kept
  | settled _ _ _ kept => exact absurd gave kept
  | givenUp asked _ none _ => exact (regular.moves list).status_of_boots_nil asked none more

end BootStands

/-- Whatever the guest is and whatever happens to a new session, its boot comes to an end unless
it is given up, and then it never does; and all that operations come to by letting every task go
on is made of such moves. -/
theorem abandonment_start (abilities : Guest Unit γ) (addresses : Keywords.AddressReader)
    (settings : Settings) (names : Calls.Names) :
    (start abilities addresses settings names).Abandonment ∧
      ∀ operations, ∃ list, (start abilities addresses settings names).steps operations =
        (start abilities addresses settings names).moves list := by
  have regular := regular_start abilities addresses settings names
  have stands := bootStands abilities addresses settings names
  refine ⟨⟨?_, ?_, ?_, ?_⟩, steps_eq_moves _⟩
  · exact fun list => (stands list).stranded_iff
  · exact fun list asked ended => (stands list).isFinal_iff asked ended
  · exact fun list booting made script => (regular.moves list).finishes booting made script
  · exact fun list more gave => (stands list).status_of_gaveUp regular gave more

/-- A boot that is given up while its guest is made leaves a session that is neither ready nor
failed, and that never will be. -/
theorem booting_of_cancel :
    let session := (start Player.abilities .none .standard .standard).moves
      [.operation .boot, .operation (.cancel 1)]
    session.status = .booting .loadingRuntime ∧ session.bootAsked = true ∧
      session.isBooting = false ∧ ∀ more, (session.moves more).status.isFinal = false := by
  intro session
  have stranded : session.status = .booting .loadingRuntime ∧ session.bootAsked = true ∧
      session.isBooting = false := by
    decide +kernel
  rcases stranded with ⟨status, asked, ended⟩
  refine ⟨status, asked, ended, fun more => ?_⟩
  have regular : session.Regular :=
    (regular_start Player.abilities .none .standard .standard).moves _
  rw [regular.status_of_boots_nil asked (isBooting_eq_false_iff.1 ended) more, status]
  rfl

end Session
end HangulConsole
