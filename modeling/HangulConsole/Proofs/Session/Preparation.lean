import HangulConsole.Proofs.Session.Boots
import HangulConsole.Proofs.Session.Programs

/-!
# Preparation of the guest

Before the guest of a session sees a program it is made, it is told of the line input,
it takes that for its own, and it learns the keywords.  Each of these calls is made once,
and only after all earlier ones have succeeded.
-/

namespace HangulConsole

def bootCalls (settings : Settings) (script : String) : List Deed :=
  [
    .load,
    .bind settings.bridge,
    .exec (Keywords.inputOverride settings.bridge),
    .exec script
  ]

namespace Session

variable {γ : Type} {session after : Session γ} {number : Nat} {phase : Phase γ}
  {list : List (Move γ)} {script : String}

inductive Succeeds (session : Session γ) : Move γ -> Prop where
  | made {task : Nat} {source : Keywords.Source} {guest : γ} :
      session.loading? = some (task, source) ->
      Succeeds session (.operation (.loaded (.ok guest)))
  | done {task : Nat} {guest : γ} {plan : BootPlan} :
      session.phase? task = some (.booting (.going (.ended (.ok ()) guest)) plan) ->
      Succeeds session (.tick task)

/-- The guest had been called for these deeds when the latest of the calls succeeded. -/
def Achieved (session : Session γ) (list : List (Move γ)) (calls : List Deed) : Prop :=
  ∃ first move second, list = first ++ move :: second ∧
    (session.moves first).calls = calls ∧ (session.moves first).Succeeds move

def CalledForRuns (session : Session γ) (list : List (Move γ)) (script : String) : Prop :=
  ∃ sources : List String,
    (session.moves list).calls = bootCalls session.settings script ++
      sources.map (fun source => .exec (session.program source)) ∧
    ∀ source ∈ sources, .operation (.run source) ∈ list

/-- A call that another one follows had succeeded before, as far as the boot goes; and after the
making of the guest it was called only once the keyword script was read. -/
structure InOrder (session : Session γ) (list : List (Move γ)) (script : String) : Prop where
  succeeded : ∀ early deed late, (session.moves list).calls = early ++ deed :: late ->
    late ≠ [] -> early.length < 4 -> session.Achieved list (early ++ [deed])
  read : 1 < (session.moves list).calls.length -> ∃ first second,
    list = first ++ .operation (.scriptRead (.ok script)) :: second ∧
      (session.moves first).calls = [.load] ∧ (session.moves first).reading?.isSome = true

/-!
# Calls that are followed by others
-/

theorem Achieved.concat {calls : List Deed} (achieved : session.Achieved list calls)
    (move : Move γ) : session.Achieved (list ++ [move]) calls := by
  rcases achieved with ⟨first, success, second, rfl, made, succeeds⟩
  exact ⟨first, success, second ++ [move], by rw [List.append_assoc, List.cons_append], made,
    succeeds⟩

theorem achieved_of_succeeds {move : Move γ} {calls : List Deed}
    (made : (session.moves list).calls = calls) (succeeds : (session.moves list).Succeeds move) :
    session.Achieved (list ++ [move]) calls :=
  ⟨list, move, [], rfl, made, succeeds⟩

theorem succeeded_concat {calls : List Deed} {new : Deed} {move : Move γ}
    (old : ∀ early deed late, calls = early ++ deed :: late -> late ≠ [] -> early.length < 4 ->
      session.Achieved list (early ++ [deed]))
    (latest : calls ≠ [] -> calls.length ≤ 4 -> session.Achieved (list ++ [move]) calls) :
    ∀ early deed late, calls ++ [new] = early ++ deed :: late -> late ≠ [] -> early.length < 4 ->
      session.Achieved (list ++ [move]) (early ++ [deed]) := by
  intro early deed late split more few
  rcases append_singleton_eq_append_cons split with ⟨none, _, _⟩ | ⟨others, _, before⟩
  · exact absurd none more
  · cases others with
    | nil =>
        rw [before] at latest
        refine latest (by simp) ?_
        rw [List.length_append, List.length_singleton]
        exact few
    | cons next others =>
        exact (old early deed (next :: others) before (List.cons_ne_nil _ _) few).concat move

/-!
# How far the boot has come
-/

inductive Called (settings : Settings) (script : String) : Phase γ -> List Deed -> Prop where
  | loading (source : Keywords.Source) : Called settings script (.loading source) [.load]
  | reading (source : Keywords.Source) (guest : γ) :
      Called settings script (.reading source guest) [.load]
  | binding (work : Work γ) :
      Called settings script
        (.booting work
          [(.injectingBridges, .exec (Keywords.inputOverride settings.bridge)),
            (.loadingKeywords, .exec script)])
        [.load, .bind settings.bridge]
  | overriding (work : Work γ) :
      Called settings script (.booting work [(.loadingKeywords, .exec script)])
        [.load, .bind settings.bridge, .exec (Keywords.inputOverride settings.bridge)]
  | installing (work : Work γ) :
      Called settings script (.booting work []) (bootCalls settings script)

theorem Called.withWork {settings : Settings} {calls : List Deed}
    (called : Called settings script phase calls) (work : Work γ) :
    Called settings script (phase.withWork work) calls := by
  cases called with
  | loading source => exact .loading source
  | reading source guest => exact .reading source guest
  | binding _ => exact .binding work
  | overriding _ => exact .overriding work
  | installing _ => exact .installing work

theorem Called.isPrefix {settings : Settings} {calls : List Deed}
    (called : Called settings script phase calls) : calls <+: bootCalls settings script := by
  cases called with
  | loading source => exact ⟨_, rfl⟩
  | reading source guest => exact ⟨_, rfl⟩
  | binding work => exact ⟨_, rfl⟩
  | overriding work => exact ⟨_, rfl⟩
  | installing work => exact ⟨[], List.append_nil _⟩

theorem Called.eq_load_of_loading {settings : Settings} {calls : List Deed}
    {source : Keywords.Source}
    (called : Called settings script (.loading source : Phase γ) calls) : calls = [.load] := by
  cases called with
  | loading source => rfl

theorem Called.eq_load_of_reading {settings : Settings} {calls : List Deed}
    {source : Keywords.Source} {guest : γ}
    (called : Called settings script (.reading source guest) calls) : calls = [.load] := by
  cases called with
  | reading source guest => rfl

theorem Called.eq_bootCalls {settings : Settings} {calls : List Deed} {work : Work γ}
    (called : Called settings script (.booting work []) calls) :
    calls = bootCalls settings script := by
  cases called with
  | installing work => rfl

theorem Called.one_lt_length {settings : Settings} {calls : List Deed} {work : Work γ}
    {plan : BootPlan} (called : Called settings script (.booting work plan) calls) :
    1 < calls.length := by
  cases called with
  | binding work => simp
  | overriding work => simp
  | installing work => simp [bootCalls]

theorem Called.next {settings : Settings} {calls : List Deed} {work later : Work γ}
    {stage : BootStage} {demand : Demand} {plan : BootPlan}
    (called : Called settings script (.booting work ((stage, demand) :: plan)) calls) :
    Called settings script (.booting later plan) (calls ++ [demand.deed]) := by
  cases called with
  | binding _ => exact .overriding later
  | overriding _ => exact .installing later

structure Preparing (session : Session γ) (list : List (Move γ)) (script : String) : Prop where
  inOrder : session.InOrder list script
  unasked : (session.moves list).bootAsked = false -> (session.moves list).calls = []
  boots : ∀ task ∈ (session.moves list).boots,
    Called session.settings script task.phase (session.moves list).calls
  made : ∀ number source guest, ⟨number, .reading source guest⟩ ∈ (session.moves list).boots ->
    session.Achieved list [.load]
  unready : (session.moves list).isReady = false ->
    (session.moves list).calls <+: bootCalls session.settings script
  ready : (session.moves list).isReady = true ->
    session.Achieved list (bootCalls session.settings script) ∧ session.CalledForRuns list script

/-!
# One more move
-/

variable {move : Move γ}

theorem CalledForRuns.concat (called : session.CalledForRuns list script)
    (same : ((session.moves list).move move).calls = (session.moves list).calls) :
    session.CalledForRuns (list ++ [move]) script := by
  rcases called with ⟨sources, calls, asked⟩
  refine ⟨sources, ?_, fun source mem => List.mem_append_left _ (asked source mem)⟩
  rw [moves_concat, same]
  exact calls

theorem read_concat (read : ∃ first second,
      list = first ++ .operation (.scriptRead (.ok script)) :: second ∧
        (session.moves first).calls = [.load] ∧ (session.moves first).reading?.isSome = true) :
    ∃ first second, list ++ [move] = first ++ .operation (.scriptRead (.ok script)) :: second ∧
      (session.moves first).calls = [.load] ∧ (session.moves first).reading?.isSome = true := by
  rcases read with ⟨first, second, rfl, calls, reading⟩
  exact ⟨first, second ++ [move], by rw [List.append_assoc, List.cons_append], calls, reading⟩

theorem InOrder.rests (order : session.InOrder list script)
    (same : ((session.moves list).move move).calls = (session.moves list).calls) :
    session.InOrder (list ++ [move]) script where
  succeeded := by
    intro early deed late split more few
    rw [moves_concat, same] at split
    exact (order.succeeded early deed late split more few).concat move
  read := by
    intro more
    rw [moves_concat, same] at more
    exact read_concat (order.read more)

theorem InOrder.calls {new : Deed} (order : session.InOrder list script)
    (calls : ((session.moves list).move move).calls = (session.moves list).calls ++ [new])
    (latest : (session.moves list).calls ≠ [] -> (session.moves list).calls.length ≤ 4 ->
      session.Achieved (list ++ [move]) (session.moves list).calls)
    (read : (session.moves list).calls ≠ [] -> ∃ first second,
      list ++ [move] = first ++ .operation (.scriptRead (.ok script)) :: second ∧
        (session.moves first).calls = [.load] ∧ (session.moves first).reading?.isSome = true) :
    session.InOrder (list ++ [move]) script where
  succeeded := by
    intro early deed late split more few
    rw [moves_concat, calls] at split
    exact succeeded_concat order.succeeded latest early deed late split more few
  read := by
    intro more
    rw [moves_concat, calls, List.length_append, List.length_singleton] at more
    exact read (List.ne_nil_of_length_pos (by omega))

namespace Preparing

theorem start (abilities : Guest Unit γ) (addresses : Keywords.AddressReader)
    (settings : Settings) (names : Calls.Names) :
    (start abilities addresses settings names).Preparing [] script where
  inOrder := by
    constructor
    · intro early deed late split
      cases early with
      | nil => cases split
      | cons first rest => cases split
    · intro more
      cases more
  unasked := fun _ => rfl
  boots := by
    intro task mem
    cases mem
  made := by
    intro number source guest mem
    cases mem
  unready := fun _ => ⟨_, rfl⟩
  ready := by
    intro ready
    cases ready

theorem of_same (preparing : session.Preparing list script)
    (same : ((session.moves list).move move).calls = (session.moves list).calls)
    (asked : ((session.moves list).move move).bootAsked = false ->
      (session.moves list).bootAsked = false)
    (boots : ∀ task ∈ ((session.moves list).move move).boots,
      Called session.settings script task.phase (session.moves list).calls)
    (made : ∀ number source guest,
      ⟨number, .reading source guest⟩ ∈ ((session.moves list).move move).boots ->
      session.Achieved (list ++ [move]) [.load])
    (unready : ((session.moves list).move move).isReady = false ->
      (session.moves list).calls <+: bootCalls session.settings script)
    (ready : ((session.moves list).move move).isReady = true ->
      session.Achieved (list ++ [move]) (bootCalls session.settings script) ∧
        session.CalledForRuns (list ++ [move]) script) :
    session.Preparing (list ++ [move]) script where
  inOrder := preparing.inOrder.rests same
  unasked := by
    rw [moves_concat, same]
    exact fun unasked => preparing.unasked (asked unasked)
  boots := by
    rw [moves_concat, same]
    exact boots
  made := by
    rw [moves_concat]
    exact made
  unready := by
    rw [moves_concat, same]
    exact unready
  ready := by
    rw [moves_concat]
    exact ready

theorem of_boots_nil (preparing : session.Preparing list script)
    (none : ((session.moves list).move move).boots = [])
    (same : ((session.moves list).move move).calls = (session.moves list).calls)
    (asked : ((session.moves list).move move).bootAsked = false ->
      (session.moves list).bootAsked = false)
    (few : (session.moves list).calls <+: bootCalls session.settings script)
    (unready : ((session.moves list).move move).isReady = false) :
    session.Preparing (list ++ [move]) script := by
  refine preparing.of_same same asked ?_ ?_ (fun _ => few) ?_
  · rw [none]
    exact fun task mem => by cases mem
  · rw [none]
    exact fun number source guest mem => by cases mem
  · rw [unready]
    exact fun ready => by cases ready

theorem called_of_boots (preparing : session.Preparing list script)
    (boots : (session.moves list).boots = [⟨number, phase⟩]) :
    Called session.settings script phase (session.moves list).calls :=
  preparing.boots ⟨number, phase⟩ (by rw [boots]; exact List.mem_cons_self)

theorem rests (preparing : session.Preparing list script)
    (same : SameBoot (session.moves list) ((session.moves list).move move))
    (boots : ((session.moves list).move move).boots = (session.moves list).boots)
    (calls : ((session.moves list).move move).calls = (session.moves list).calls) :
    session.Preparing (list ++ [move]) script := by
  refine preparing.of_same calls ?_ ?_ ?_ ?_ ?_
  · rw [same.bootAsked]
    exact id
  · rw [boots]
    exact preparing.boots
  · rw [boots]
    exact fun number source guest mem => (preparing.made number source guest mem).concat move
  · rw [same.isReady]
    exact preparing.unready
  · rw [same.isReady]
    intro ready
    rcases preparing.ready ready with ⟨achieved, called⟩
    exact ⟨achieved.concat move, called.concat calls⟩

theorem works {work : Work γ} (preparing : session.Preparing list script)
    (same : SameBoot (session.moves list) ((session.moves list).move move))
    (boots : (session.moves list).boots = [⟨number, phase⟩])
    (later : ((session.moves list).move move).boots = [⟨number, phase.withWork work⟩])
    (calls : ((session.moves list).move move).calls = (session.moves list).calls) :
    session.Preparing (list ++ [move]) script := by
  refine preparing.of_same calls ?_ ?_ ?_ ?_ ?_
  · rw [same.bootAsked]
    exact id
  · rw [later]
    intro task mem
    rw [List.mem_singleton] at mem
    rw [mem]
    exact (preparing.called_of_boots boots).withWork work
  · rw [later]
    intro number source guest mem
    rw [List.mem_singleton] at mem
    cases phase with
    | reading source guest =>
        exact (preparing.made _ source guest (by rw [boots]; exact List.mem_cons_self)).concat move
    | _ => cases mem
  · rw [same.isReady]
    exact preparing.unready
  · rw [same.isReady]
    intro ready
    rcases preparing.ready ready with ⟨achieved, called⟩
    exact ⟨achieved.concat move, called.concat calls⟩

theorem begins {source : Keywords.Source} (preparing : session.Preparing list script)
    (unasked : (session.moves list).bootAsked = false)
    (boots : ((session.moves list).move move).boots = [⟨number, .loading source⟩])
    (calls : ((session.moves list).move move).calls = (session.moves list).calls ++ [.load])
    (unready : ((session.moves list).move move).isReady = false)
    (asked : ((session.moves list).move move).bootAsked = true) :
    session.Preparing (list ++ [move]) script := by
  have none := preparing.unasked unasked
  constructor
  · exact preparing.inOrder.calls calls (fun some => absurd none some)
      (fun some => absurd none some)
  · rw [moves_concat, asked]
    exact fun unasked => by cases unasked
  · rw [moves_concat, boots, calls, none]
    intro task mem
    rw [List.mem_singleton] at mem
    rw [mem]
    exact .loading source
  · rw [moves_concat, boots]
    intro number source guest mem
    rw [List.mem_singleton] at mem
    cases mem
  · rw [moves_concat, calls, none]
    exact fun _ => ⟨_, rfl⟩
  · rw [moves_concat, unready]
    exact fun ready => by cases ready

theorem makes {source : Keywords.Source} {guest : γ} (preparing : session.Preparing list script)
    (found : (session.moves list).loading? = some (number, source))
    (boots : (session.moves list).boots = [⟨number, .loading source⟩])
    (later : ((session.moves list).move (.operation (.loaded (.ok guest)))).boots =
      [⟨number, .reading source guest⟩])
    (calls : ((session.moves list).move (.operation (.loaded (.ok guest)))).calls =
      (session.moves list).calls)
    (unready : ((session.moves list).move (.operation (.loaded (.ok guest)))).isReady = false)
    (asked : ((session.moves list).move (.operation (.loaded (.ok guest)))).bootAsked = true) :
    session.Preparing (list ++ [.operation (.loaded (.ok guest))]) script := by
  have called := preparing.called_of_boots boots
  have load := called.eq_load_of_loading
  refine preparing.of_same calls ?_ ?_ ?_ ?_ ?_
  · rw [asked]
    exact fun unasked => by cases unasked
  · rw [later, load]
    intro task mem
    rw [List.mem_singleton] at mem
    rw [mem]
    exact .reading source guest
  · intro _ _ _ _
    exact achieved_of_succeeds load (.made found)
  · exact fun _ => called.isPrefix
  · rw [unready]
    exact fun ready => by cases ready

theorem reads {source : Keywords.Source} {guest : γ} {known : String} {activity : Activity Unit γ}
    (preparing : session.Preparing list known)
    (found : (session.moves list).reading? = some (number, source, guest))
    (boots : (session.moves list).boots = [⟨number, .reading source guest⟩])
    (later : ((session.moves list).move (.operation (.scriptRead (.ok script)))).boots =
      [⟨number, .booting (.going activity)
        [(.injectingBridges, .exec (Keywords.inputOverride session.settings.bridge)),
          (.loadingKeywords, .exec script)]⟩])
    (calls : ((session.moves list).move (.operation (.scriptRead (.ok script)))).calls =
      (session.moves list).calls ++ [.bind session.settings.bridge])
    (unready : ((session.moves list).move (.operation (.scriptRead (.ok script)))).isReady = false)
    (asked : ((session.moves list).move (.operation (.scriptRead (.ok script)))).bootAsked = true) :
    session.Preparing (list ++ [.operation (.scriptRead (.ok script))]) script := by
  have load := (preparing.called_of_boots boots).eq_load_of_reading
  have made := preparing.made number source guest (by rw [boots]; exact List.mem_cons_self)
  -- So far the guest was only made, and that does not depend on the script.
  have before : session.InOrder list script := by
    refine ⟨preparing.inOrder.succeeded, fun more => ?_⟩
    rw [load] at more
    cases more with
    | step less => cases less
  have reading : (session.moves list).reading?.isSome = true := by
    rw [found]
    rfl
  constructor
  · refine before.calls calls (fun _ _ => ?_) (fun _ => ⟨list, [], rfl, load, reading⟩)
    rw [load]
    exact made.concat _
  · rw [moves_concat, asked]
    exact fun unasked => by cases unasked
  · rw [moves_concat, later, calls, load]
    intro task mem
    rw [List.mem_singleton] at mem
    rw [mem]
    exact .binding _
  · rw [moves_concat, later]
    intro number source guest mem
    rw [List.mem_singleton] at mem
    cases mem
  · rw [moves_concat, calls, load]
    exact fun _ => ⟨_, rfl⟩
  · rw [moves_concat, unready]
    exact fun ready => by cases ready

theorem goesOn {guest : γ} {stage : BootStage} {demand : Demand} {plan : BootPlan}
    {activity : Activity Unit γ} (preparing : session.Preparing list script)
    (found : (session.moves list).phase? number =
      some (.booting (.going (.ended (.ok ()) guest)) ((stage, demand) :: plan)))
    (boots : (session.moves list).boots =
      [⟨number, .booting (.going (.ended (.ok ()) guest)) ((stage, demand) :: plan)⟩])
    (later : ((session.moves list).move (.tick number)).boots =
      [⟨number, .booting (.going activity) plan⟩])
    (calls : ((session.moves list).move (.tick number)).calls =
      (session.moves list).calls ++ [demand.deed])
    (unready : ((session.moves list).move (.tick number)).isReady = false)
    (asked : ((session.moves list).move (.tick number)).bootAsked = true) :
    session.Preparing (list ++ [.tick number]) script := by
  have called := preparing.called_of_boots boots
  have next : Called session.settings script (.booting (.going activity) plan)
      ((session.moves list).calls ++ [demand.deed]) := called.next
  constructor
  · exact preparing.inOrder.calls calls (fun _ _ => achieved_of_succeeds rfl (.done found))
      (fun _ => read_concat (preparing.inOrder.read called.one_lt_length))
  · rw [moves_concat, asked]
    exact fun unasked => by cases unasked
  · rw [moves_concat, later, calls]
    intro task mem
    rw [List.mem_singleton] at mem
    rw [mem]
    exact next
  · rw [moves_concat, later]
    intro number source guest mem
    rw [List.mem_singleton] at mem
    cases mem
  · rw [moves_concat, calls]
    exact fun _ => next.isPrefix
  · rw [moves_concat, unready]
    exact fun ready => by cases ready

theorem completes {guest : γ} (preparing : session.Preparing list script)
    (found : (session.moves list).phase? number =
      some (.booting (.going (.ended (.ok ()) guest)) []))
    (boots : (session.moves list).boots = [⟨number, .booting (.going (.ended (.ok ()) guest)) []⟩])
    (later : ((session.moves list).move (.tick number)).boots = [])
    (calls : ((session.moves list).move (.tick number)).calls = (session.moves list).calls)
    (asked : ((session.moves list).move (.tick number)).bootAsked = true) :
    session.Preparing (list ++ [.tick number]) script := by
  have called := preparing.called_of_boots boots
  have all := called.eq_bootCalls
  refine preparing.of_same calls ?_ ?_ ?_ (fun _ => called.isPrefix) ?_
  · rw [asked]
    exact fun unasked => by cases unasked
  · rw [later]
    exact fun task mem => by cases mem
  · rw [later]
    exact fun number source guest mem => by cases mem
  · intro _
    refine ⟨achieved_of_succeeds all (.done found), [], ?_, fun source mem => by cases mem⟩
    rw [moves_concat, calls, all, List.map_nil, List.append_nil]

theorem runStarts {source : String} (preparing : session.Preparing list script)
    (none : session.tasks = [])
    (same : SameBoot (session.moves list) ((session.moves list).move (.tick number)))
    (ready : (session.moves list).isReady = true)
    (found : (session.moves list).phase? number = some (.queued source))
    (boots : ((session.moves list).move (.tick number)).boots = [])
    (calls : ((session.moves list).move (.tick number)).calls =
      (session.moves list).calls ++ [.exec ((session.moves list).prepare source).2.wrapped]) :
    session.Preparing (list ++ [.tick number]) script := by
  rcases preparing.ready ready with ⟨achieved, sources, before, asked⟩
  have requested : .operation (.run source) ∈ list := by
    rcases requested_of_queued none list (mem_tasks_of_phase? found) with ⟨first, second, rfl, _⟩
    simp
  rw [wrapped_prepare, (session.sameSetup_moves list).program_eq] at calls
  have many : 1 < (session.moves list).calls.length := by
    rw [before, List.length_append]
    exact Nat.lt_of_lt_of_le (by decide : 1 < 4) (Nat.le_add_right 4 _)
  constructor
  · refine preparing.inOrder.calls calls (fun _ few => ?_)
      (fun _ => read_concat (preparing.inOrder.read many))
    -- The first program follows the boot itself; before later ones nothing is asked of the boot.
    have first : sources = [] := by
      rw [before, List.length_append, List.length_map] at few
      have four : (bootCalls session.settings script).length = 4 := rfl
      exact List.eq_nil_of_length_eq_zero (by omega)
    rw [before, first, List.map_nil, List.append_nil]
    exact achieved.concat _
  · rw [moves_concat, same.bootAsked, calls]
    intro unasked
    rw [preparing.unasked unasked] at many
    cases many
  · rw [moves_concat, boots]
    exact fun task mem => by cases mem
  · rw [moves_concat, boots]
    exact fun number source guest mem => by cases mem
  · rw [moves_concat, same.isReady, ready]
    exact fun unready => by cases unready
  · intro _
    refine ⟨achieved.concat _, sources ++ [source], ?_, ?_⟩
    · rw [moves_concat, calls, before, List.map_append, List.append_assoc]
      rfl
    · intro other mem
      rcases List.mem_append.1 mem with old | new
      · exact List.mem_append_left _ (asked other old)
      · rw [List.mem_singleton] at new
        rw [new]
        exact List.mem_append_left _ requested

end Preparing

/-!
# Any number of moves
-/

theorem Preparing.of_move (preparing : session.Preparing list script) (regular : session.Regular)
    (none : session.tasks = []) (move : Move γ) :
    ∃ script, session.Preparing (list ++ [move]) script := by
  have moved := (regular.moves list).bootMove move
  have settings := regular.settings_moves list
  generalize eq : (session.moves list).move move = after at moved
  cases moved with
  | rests same boots calls =>
      subst eq
      exact ⟨script, preparing.rests same boots calls⟩
  | works work same boots later calls =>
      subst eq
      exact ⟨script, preparing.works same boots later calls⟩
  | runStarts same ready found boots calls =>
      subst eq
      exact ⟨script, preparing.runStarts none same ready found boots calls⟩
  | begins unasked _ boots calls _ unready asked =>
      subst eq
      exact ⟨script, preparing.begins unasked boots calls unready asked⟩
  | makes found boots later calls _ unready asked =>
      subst eq
      exact ⟨script, preparing.makes found boots later calls unready asked⟩
  | reads found boots later calls _ unready asked =>
      subst eq
      rw [settings] at later calls
      exact ⟨_, preparing.reads found boots later calls unready asked⟩
  | goesOn found boots later calls _ unready asked =>
      subst eq
      exact ⟨script, preparing.goesOn found boots later calls unready asked⟩
  | completes found boots later calls _ _ asked =>
      subst eq
      exact ⟨script, preparing.completes found boots later calls asked⟩
  | unsourced breaks _ later calls _ unready =>
      subst eq
      cases breaks with
      | source unasked _ _ =>
          have few : (session.moves list).calls <+: bootCalls session.settings script := by
            rw [preparing.unasked unasked]
            exact ⟨_, rfl⟩
          exact ⟨script, preparing.of_boots_nil later calls (fun _ => unasked) few unready⟩
  | fails _ boots later calls _ unready asked =>
      subst eq
      have few := (preparing.called_of_boots boots).isPrefix
      refine ⟨script, preparing.of_boots_nil later calls (fun unasked => ?_) few unready⟩
      rw [asked] at unasked
      cases unasked
  | givenUp _ boots later calls _ unready asked =>
      subst eq
      have few := (preparing.called_of_boots boots).isPrefix
      refine ⟨script, preparing.of_boots_nil later calls (fun unasked => ?_) few unready⟩
      rw [asked] at unasked
      cases unasked

theorem exists_preparing (abilities : Guest Unit γ) (addresses : Keywords.AddressReader)
    (settings : Settings) (names : Calls.Names)
    (list : List (Move γ)) :
    ∃ script, (start abilities addresses settings names).Preparing list script := by
  induction list using List.reverseRecOn with
  | nil => exact ⟨"", .start abilities addresses settings names⟩
  | append_singleton list move ih =>
      rcases ih with ⟨script, preparing⟩
      exact preparing.of_move (regular_start abilities addresses settings names) rfl move

/-!
# Every session
-/

/-- What it means that the guest of a session never sees a program before it is fully prepared,
whatever moves are made: boots, requests for runs, operations on the line input, steps of any tasks
and their ends, in any order. -/
structure Preparation (session : Session γ) : Prop where
  /-- The guest was called for the first few deeds of one boot; or for all of them and then, since
  the session is ready, for programs that were asked for.  Each call of the boot came after the
  success of the one before, and the second also after the keyword script was read. -/
  calls : ∀ list, ∃ script, session.InOrder list script ∧
    ((session.moves list).calls <+: bootCalls session.settings script ∨
      (session.moves list).isReady = true ∧ session.CalledForRuns list script)
  /-- A run that is asked for before the session is ready is over at once, and all that comes of
  it is a line in the transcript. -/
  refused : ∀ list source before, before = session.moves list -> before.isReady = false ->
    before.move (.operation (.run source)) =
      { before with
        input := { before.input with
          transcript := before.transcript.appendLine session.messages.notReady }
        nextTask := before.nextTask + 1
        finished := before.finished ++ [⟨before.nextTask, .error .notReady⟩] }

/-- Whatever the guest is and whatever happens to a new session, the guest is called for one boot,
step by step, and for runs only afterwards; and all that operations come to by letting every task
go on is made of such moves. -/
theorem preparation_start (abilities : Guest Unit γ) (addresses : Keywords.AddressReader)
    (settings : Settings) (names : Calls.Names) :
    (start abilities addresses settings names).Preparation ∧
      ∀ operations, ∃ list, (start abilities addresses settings names).steps operations =
        (start abilities addresses settings names).moves list := by
  refine ⟨⟨?_, ?_⟩, steps_eq_moves _⟩
  · intro list
    rcases exists_preparing abilities addresses settings names list with ⟨script, preparing⟩
    refine ⟨script, preparing.inOrder, ?_⟩
    cases ready : ((start abilities addresses settings names).moves list).isReady with
    | false => exact Or.inl (preparing.unready ready)
    | true => exact Or.inr ⟨rfl, (preparing.ready ready).2⟩
  · rintro list source before rfl unready
    have same : ((start abilities addresses settings names).moves list).messages =
        (start abilities addresses settings names).messages := by
      rw [messages, messages,
        (regular_start abilities addresses settings names).settings_moves list]
    have refused := move_run_of_not_ready unready source
    rw [same] at refused
    exact refused

end Session
end HangulConsole
