import HangulConsole.Proofs.Session.Boots
import HangulConsole.Proofs.Session.Report

/-!
# Boots that fail

A boot fails in the very move in which one of its steps fails.  Its result, the status
and the report in the transcript give one and the same reason, and after that the guest is
never called again: whatever is asked of the session is refused.
-/

namespace HangulConsole
namespace Session

variable {γ : Type} {session after : Session γ} {number : Nat} {phase : Phase γ}
  {move : Move γ} {failure : Failure} {reason : String}

inductive IsBoot (session : Session γ) (task : Nat) : Move γ -> Prop where
  | begun {move : Move γ} {phase : Phase γ} :
      session.phase? task = some phase -> phase.isBoot = true -> IsBoot session task move
  | asked : task = session.nextTask -> IsBoot session task (.operation .boot)

/-- What is said of a failure that breaks a boot. -/
structure Explains (failure : Failure) (reason : String) : Prop where
  /-- A failure of the boot itself is not wrapped once more. -/
  inner : ∀ text, failure = .boot text -> reason = text
  message : (∀ text, failure ≠ .boot text) -> reason = failure.message

theorem explains_bootReason (failure : Failure) : Explains failure (bootReason failure) := by
  constructor
  · rintro text rfl
    rfl
  · intro other
    cases failure with
    | boot text => exact absurd rfl (other text)
    | _ => rfl

/-!
# The end of a boot
-/

/-- What is left behind by a boot that fails in a move. -/
structure BootBreaks (session after : Session γ) (task : Nat) (move : Move γ)
    (reason : String) : Prop where
  breaks : ∃ failure, session.Breaks task move failure ∧ Explains failure reason
  status : after.status = .failed reason
  transcript : after.transcript =
    session.transcript.appendLine (session.messages.bootError ++ " " ++ reason)
  notes : after.notes = session.notes
  tasks : after.tasks = []

theorem bootBreaks_failBoot (breaks : session.Breaks number move failure)
    (failed : after = session.failBoot number failure) (none : after.tasks = []) :
    BootBreaks session after number move (bootReason failure) := by
  subst failed
  exact ⟨⟨failure, breaks, explains_bootReason failure⟩, rfl, rfl, rfl, none⟩

theorem bootBreaks_unsourced
    (breaks : session.Breaks session.nextTask (.operation .boot) failure)
    (failed : after =
      ({ session with nextTask := session.nextTask + 1, bootAsked := true }).failBoot
        session.nextTask failure) (none : after.tasks = []) :
    BootBreaks session after session.nextTask (.operation .boot) (bootReason failure) := by
  subst failed
  exact ⟨⟨failure, breaks, explains_bootReason failure⟩, rfl, rfl, rfl, none⟩

theorem Outcome.status_of_finished (outcome : Outcome session after) (line : session.InLine)
    (boot : session.IsBoot number move)
    (ended : after.finished = session.finished ++ [⟨number, .error (.boot reason)⟩]) :
    after.status = .failed reason := by
  cases outcome with
  | none same =>
      rw [same] at ended
      cases List.self_eq_append_right.1 ended
  | bootRefused _ finished => cases eq_of_finished finished ended
  | runRefused _ finished => cases eq_of_finished finished ended
  | bootUnsourced _ eq =>
      cases eq_of_finished (by rw [eq]; rfl) ended
      rw [eq]
      rfl
  | bootFails _ _ eq =>
      cases eq_of_finished (by rw [eq]; rfl) ended
      rw [eq]
      rfl
  | bootEnds _ eq => cases eq_of_finished (by rw [eq]; rfl) ended
  | @runEnds other result guest also eq =>
      have same : (⟨other, result⟩ : Finished) = ⟨number, .error (.boot reason)⟩ := by
        refine eq_of_finished ?_ ended
        rw [eq]
        cases result with
        | _ => rfl
      cases same
      cases boot with
      | begun found boot =>
          cases line.eq_of_number also (mem_tasks_of_phase? found) rfl
          cases boot
      | asked new => exact absurd new (line.ne_nextTask also)

theorem Regular.isFinal_of_finished (regular : session.Regular)
    (boot : session.IsBoot number move)
    (ended : (session.move move).finished =
      session.finished ++ [⟨number, .error (.boot reason)⟩]) :
    session.status.isFinal = false := by
  cases boot with
  | begun found boot =>
      rcases (regular.staged.fits _ (mem_tasks_of_phase? found)).eq_booting boot with
        ⟨stage, status⟩
      rw [status]
      rfl
  | asked new =>
      cases asked : session.bootAsked with
      | false =>
          rw [regular.staged.asked asked]
          rfl
      | true =>
          have refused : (session.move (.operation .boot)).finished =
              session.finished ++ [⟨session.nextTask, .error .alreadyBooted⟩] :=
            congrArg finished (boot_of_asked asked)
          cases eq_of_finished refused ended

theorem InLine.tasks_of_not_ready (line : session.InLine) (unready : session.isReady = false)
    (none : session.boots = []) : session.tasks = [] := by
  have all : session.boots = session.tasks := by
    rw [boots, List.filter_eq_self]
    intro task mem
    rw [line.isBoot task mem, ← Option.not_isSome]
    rw [isReady] at unready
    rw [unready]
    rfl
  exact all.symm.trans none

theorem Regular.bootBreaks_of_finished (regular : session.Regular)
    (boot : session.IsBoot number move)
    (ended : (session.move move).finished =
      session.finished ++ [⟨number, .error (.boot reason)⟩]) :
    BootBreaks session (session.move move) number move reason := by
  have line := regular.orderly.line
  have undecided := regular.isFinal_of_finished boot ended
  have status := (line.outcome move).status_of_finished line boot ended
  have later := (regular.move move).orderly.line
  have moved := regular.bootMove move
  generalize session.move move = after at ended status later moved ⊢
  -- A move that leaves the status does not fail the boot, and no other but these two fails it.
  have decides (same : after.status = session.status) : False := by
    rw [← same, status] at undecided
    cases undecided
  cases moved with
  | unsourced breaks _ none _ failed unready =>
      cases eq_of_finished (by rw [failed]; rfl) ended
      exact bootBreaks_unsourced breaks failed (later.tasks_of_not_ready unready none)
  | fails breaks _ none _ failed unready _ =>
      cases eq_of_finished (by rw [failed]; rfl) ended
      exact bootBreaks_failBoot breaks failed (later.tasks_of_not_ready unready none)
  | rests same _ _ => exact (decides same.status).elim
  | works _ same _ _ _ => exact (decides same.status).elim
  | runStarts same _ _ _ _ => exact (decides same.status).elim
  | givenUp _ _ _ _ same _ _ => exact (decides same).elim
  | begins _ _ _ _ booting _ _ => rw [status] at booting; cases booting
  | makes _ _ _ _ booting _ _ => rw [status] at booting; cases booting
  | reads _ _ _ _ booting _ _ => rw [status] at booting; cases booting
  | goesOn _ _ _ _ booting _ _ => rw [status] at booting; cases booting
  | completes _ _ _ _ ready _ _ => rw [status] at ready; cases ready

/-!
# After the boot has failed
-/

/-- The guest did nothing, and nothing but refusals of runs was written; the transcript may have
been cleared. -/
structure OnlyRefuses (session after : Session γ) : Prop where
  settings : after.settings = session.settings
  notes : after.notes = session.notes
  published : ∃ events, after.transcript.published = session.transcript.published ++ events ∧
    ∀ event ∈ events, event = .appended (session.messages.notReady ++ "\n") ∨ event = .cleared

namespace OnlyRefuses

theorem of_transcript (settings : after.settings = session.settings)
    (notes : after.notes = session.notes) (transcript : after.transcript = session.transcript) :
    OnlyRefuses session after := by
  refine ⟨settings, notes, [], ?_, ?_⟩
  · rw [transcript, List.append_nil]
  · intro event mem
    cases mem

theorem of_event {event : TranscriptEvent} (settings : after.settings = session.settings)
    (notes : after.notes = session.notes)
    (published : after.transcript.published = session.transcript.published ++ [event])
    (known : event = .appended (session.messages.notReady ++ "\n") ∨ event = .cleared) :
    OnlyRefuses session after := by
  refine ⟨settings, notes, [event], published, ?_⟩
  intro other mem
  rw [List.mem_singleton] at mem
  rw [mem]
  exact known

theorem trans {between : Session γ} (first : OnlyRefuses session between)
    (second : OnlyRefuses between after) : OnlyRefuses session after := by
  rcases first with ⟨settings, notes, early, published, fine⟩
  rcases second with ⟨settings', notes', late, published', fine'⟩
  refine ⟨settings'.trans settings, notes'.trans notes, early ++ late, ?_, ?_⟩
  · rw [published', published, List.append_assoc]
  · intro event mem
    rcases List.mem_append.1 mem with mem | mem
    · exact fine event mem
    · have known := fine' event mem
      rw [messages, settings] at known
      exact known

end OnlyRefuses

structure Broken (session : Session γ) (reason : String) : Prop where
  status : session.status = .failed reason
  tasks : session.tasks = []

namespace Broken

theorem isReady (broken : session.Broken reason) (staged : session.Staged) :
    session.isReady = false := by
  rw [← Bool.not_eq_true]
  intro ready
  have status := staged.ready.2 ready
  rw [broken.status] at status
  cases status

theorem bootAsked (broken : session.Broken reason) (staged : session.Staged) :
    session.bootAsked = true := by
  rw [← Bool.not_eq_false]
  intro unasked
  have status := staged.asked unasked
  rw [broken.status] at status
  cases status

theorem phase? (broken : session.Broken reason) (task : Nat) : session.phase? task = none := by
  rw [Session.phase?, broken.tasks]
  rfl

theorem waiting? (broken : session.Broken reason) (orderly : session.Orderly) :
    session.input.waiting? = none :=
  orderly.idle_of_closed (by rw [ticket, broken.tasks])

theorem onlyRefuses (broken : session.Broken reason) (regular : session.Regular)
    (move : Move γ) :
    (session.move move).Broken reason ∧ OnlyRefuses session (session.move move) := by
  have still {after : Session γ} (status : after.status = session.status)
      (tasks : after.tasks = session.tasks) (rests : OnlyRefuses session after) :
      after.Broken reason ∧ OnlyRefuses session after :=
    ⟨⟨status.trans broken.status, tasks.trans broken.tasks⟩, rests⟩
  have same : session.Broken reason ∧ OnlyRefuses session session :=
    still rfl rfl (.of_transcript rfl rfl rfl)
  have idle := broken.waiting? regular.orderly
  cases move with
  | tick task =>
      show (session.tick task).Broken reason ∧ OnlyRefuses session (session.tick task)
      rw [tick_of_none (broken.phase? task)]
      exact same
  | operation operation =>
      cases operation with
      | boot =>
          show (session.newTask beginBoot).Broken reason ∧
            OnlyRefuses session (session.newTask beginBoot)
          rw [boot_of_asked (broken.bootAsked regular.staged)]
          exact still rfl rfl (.of_transcript rfl rfl rfl)
      | loaded result =>
          have none : session.loading? = none := by rw [loading?, broken.tasks]; rfl
          show (session.takeGuest result).Broken reason ∧
            OnlyRefuses session (session.takeGuest result)
          unfold takeGuest
          rw [none]
          exact same
      | scriptRead result =>
          have none : session.reading? = none := by rw [reading?, broken.tasks]; rfl
          show (session.takeScript result).Broken reason ∧
            OnlyRefuses session (session.takeScript result)
          unfold takeScript
          rw [none]
          exact same
      | run source =>
          rw [move_run_of_not_ready (broken.isReady regular.staged)]
          exact still rfl rfl (.of_event rfl rfl rfl (Or.inl rfl))
      | cancel task =>
          show (session.cancel task).Broken reason ∧ OnlyRefuses session (session.cancel task)
          rw [cancel, broken.phase? task]
          exact same
      | prepare source => exact still rfl rfl (.of_transcript rfl rfl rfl)
      | submit =>
          refine still rfl rfl (.of_transcript rfl rfl ?_)
          show session.input.submit.1.transcript = session.transcript
          rw [LineInput.submit_of_idle idle]
          rfl
      | submitLine text =>
          refine still rfl rfl (.of_transcript rfl rfl ?_)
          show (session.input.submitLine text).1.transcript = session.transcript
          rw [LineInput.submitLine_of_idle idle]
          rfl
      | press key =>
          refine still rfl rfl (.of_transcript rfl rfl ?_)
          show (session.input.press key).1.transcript = session.transcript
          cases key with
          | other => rfl
          | enter =>
              rw [LineInput.press, LineInput.submit_of_idle idle]
              rfl
      | type text => exact still rfl rfl (.of_transcript rfl rfl rfl)
      | setContent text => exact still rfl rfl (.of_transcript rfl rfl rfl)
      | clear => exact still rfl rfl (.of_event rfl rfl rfl (Or.inr rfl))

theorem moves (broken : session.Broken reason) (regular : session.Regular)
    (list : List (Move γ)) :
    (session.moves list).Broken reason ∧ OnlyRefuses session (session.moves list) := by
  induction list generalizing session with
  | nil => exact ⟨broken, .of_transcript rfl rfl rfl⟩
  | cons first rest ih =>
      rcases broken.onlyRefuses regular first with ⟨still, refuses⟩
      rcases ih still (regular.move first) with ⟨later, others⟩
      exact ⟨later, refuses.trans others⟩

end Broken

/-!
# Every session
-/

/-- A session stays as a boot left it that failed: whatever moves are made after it, the guest is
not called, nothing but refusals is written, and every run and every boot is refused. -/
structure StaysFailed (session after : Session γ) (reason : String) : Prop where
  status : after.status = .failed reason
  isReady : after.isReady = false
  refuses : OnlyRefuses session after
  run : ∀ source, (after.move (.operation (.run source))).finished =
    after.finished ++ [⟨after.nextTask, .error .notReady⟩]
  boot : (after.move (.operation .boot)).finished =
    after.finished ++ [⟨after.nextTask, .error .alreadyBooted⟩]

theorem Broken.staysFailed (broken : session.Broken reason) (regular : session.Regular)
    (list : List (Move γ)) : StaysFailed session (session.moves list) reason := by
  rcases broken.moves regular list with ⟨still, refuses⟩
  have staged := (regular.moves list).staged
  refine ⟨still.status, still.isReady staged, refuses, ?_, ?_⟩
  · intro source
    rw [move_run_of_not_ready (still.isReady staged)]
  · exact congrArg finished (boot_of_asked (still.bootAsked staged))

/-- However a boot comes to fail, its result, the status and the report agree on the reason, the
guest does nothing more for it, and the session stays as it is then for good. -/
theorem bootBreaks_of_failed (abilities : Guest Unit γ) (addresses : Keywords.AddressReader)
    (settings : Settings) (names : Calls.Names) (list : List (Move γ)) (move : Move γ) (task : Nat)
    (reason : String)
    (boot : ((start abilities addresses settings names).moves list).IsBoot task move)
    (failed : (((start abilities addresses settings names).moves list).move move).finished =
      ((start abilities addresses settings names).moves list).finished ++
        [⟨task, .error (.boot reason)⟩]) :
    let before := (start abilities addresses settings names).moves list
    let after := before.move move
    BootBreaks before after task move reason ∧
      (∀ more, StaysFailed after (after.moves more) reason) ∧
      ∀ operations, StaysFailed after (after.steps operations) reason := by
  intro before after
  have regular : before.Regular := (regular_start abilities addresses settings names).moves list
  have breaks := regular.bootBreaks_of_finished boot failed
  have broken : after.Broken reason := ⟨breaks.status, breaks.tasks⟩
  have stays := broken.staysFailed (regular.move move)
  refine ⟨breaks, stays, fun operations => ?_⟩
  rcases steps_eq_moves after operations with ⟨more, same⟩
  rw [same]
  exact stays more

/-- The keyword script writes a line and then fails. -/
theorem bootBreaks_of_failed_rehearsal :
    let before := (start Player.abilities .none .standard .standard).moves
      [.operation .boot, .operation (.loaded (.ok ⟨[], none⟩)),
        .operation (.scriptRead (.ok "#out hello\n#raise boom")), .tick 1, .tick 1, .tick 1]
    let after := before.move (.tick 1)
    before.IsBoot 1 (.tick 1) ∧
      after.finished = before.finished ++ [⟨1, .error (.boot "boom")⟩] ∧
      BootBreaks before after 1 (.tick 1) "boom" ∧
      (∀ more, StaysFailed after (after.moves more) "boom") ∧
      ∀ operations, StaysFailed after (after.steps operations) "boom" := by
  intro before after
  have fails : (before.phase? 1).map Phase.isBoot = some true ∧
      after.finished = before.finished ++ [⟨1, .error (.boot "boom")⟩] := by
    decide +kernel
  rcases Option.map_eq_some_iff.1 fails.1 with ⟨phase, found, boot⟩
  have begun : before.IsBoot 1 (.tick 1) := .begun found boot
  exact ⟨begun, fails.2, bootBreaks_of_failed Player.abilities .none .standard .standard _
    (.tick 1) 1 "boom" begun fails.2⟩

end Session
end HangulConsole
