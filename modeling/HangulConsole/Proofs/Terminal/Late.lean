import HangulConsole.Proofs.Terminal.Shown

/-!
# What comes too early for a screen

A terminal that was opened for commands tells what they are before it waits for the first
time, unless it had to wait for its keyword script.  Its screen becomes a subscriber too late
then, and what it shows is never everything, however fast it is.
-/

namespace HangulConsole

/-!
# Beginning a boot
-/

namespace Session

variable {γ : Type} {session : Session γ}

theorem settle_of_waiting {task : Nat} {phase : Phase γ} (only : session.tasks = [⟨task, phase⟩])
    (waits : (∃ source, phase = .loading source) ∨ ∃ source guest, phase = .reading source guest) :
    session.settle = session := by
  have found : session.phase? task = some phase := by
    simp [phase?, only]
  rcases waits with ⟨source, same⟩ | ⟨source, guest, same⟩
  · simp [settle, only, drive, tick, planOf, pursueAll, pursueWork, found, same, Phase.work?]
  · simp [settle, only, drive, tick, planOf, pursueAll, pursueWork, found, same, Phase.work?]

theorem settle_of_nil (idle : session.tasks = []) : session.settle = session := by
  rw [settle, idle]
  rfl

theorem tasks_failBoot {task : Nat} {phase : Phase γ} (only : session.tasks = [⟨task, phase⟩])
    (failure : Failure) : (session.failBoot task failure).tasks = [] := by
  simp [failBoot, report, mapTranscript, removeTask, finish, only]

theorem tasks_boot [addresses : Keywords.AddressReader] (abilities : Guest Unit γ)
    (settings : Settings) (names : Calls.Names) :
    (start abilities addresses settings names).boot.1.tasks =
      match settings.keywordSource with
      | .error _ => []
      | .ok source => [⟨1, .loading source⟩] := by
  cases parsed : settings.keywordSource with
  | error failure =>
      have failed : ((start abilities addresses settings names).apply .boot).tasks = [] := by
        simp [apply, newTask, beginBoot, start, parsed, failBoot, report, mapTranscript,
          removeTask, finish]
      rw [boot, step, settle_of_nil failed]
      exact failed
  | ok source =>
      have begun : ((start abilities addresses settings names).apply .boot).tasks =
          [⟨1, .loading source⟩] := by
        simp [apply, newTask, beginBoot, start, parsed, addTask, note]
      rw [boot, step, settle_of_waiting begun (.inl ⟨source, rfl⟩)]
      exact begun

theorem wantedSource?_of_nil (idle : session.tasks = []) : session.wantedSource? = none := by
  simp [wantedSource?, reading?, idle]

theorem wantedSource?_loaded {task : Nat} {source wanted : Keywords.Source}
    (only : session.tasks = [⟨task, .loading source⟩]) (made : Except Failure γ)
    (wants : (session.loaded made).wantedSource? = some wanted) : wanted = source := by
  have awaited : session.loading? = some (task, source) := by
    simp [loading?, only]
  cases made with
  | error failure =>
      have failed : (session.apply (.loaded (.error failure))).tasks = [] := by
        simp [apply, takeGuest, awaited, tasks_failBoot only]
      rw [loaded, step, settle_of_nil failed, wantedSource?_of_nil failed] at wants
      cases wants
  | ok guest =>
      have reads : (session.apply (.loaded (.ok guest))).tasks =
          [⟨task, .reading source guest⟩] := by
        simp [apply, takeGuest, awaited, setPhase, only]
      rw [loaded, step, settle_of_waiting reads (.inr ⟨source, guest, rfl⟩)] at wants
      simpa [wantedSource?, reading?, reads] using wants.symm

theorem keywordSource_of_wanted [addresses : Keywords.AddressReader] {abilities : Guest Unit γ}
    {settings : Settings} (accepted : ofSettings abilities settings = .ok session)
    (made : Except Failure γ) {wanted : Keywords.Source}
    (wants : (session.boot.1.loaded made).wantedSource? = some wanted) :
    settings.keywordSource = .ok wanted := by
  rcases exists_start_of_ofSettings accepted with ⟨names, rfl⟩
  have begun := tasks_boot abilities settings names
  cases parsed : settings.keywordSource with
  | error failure =>
      rw [parsed] at begun
      have stays :
          ((start abilities addresses settings names).boot.1.apply (.loaded made)).tasks = [] := by
        simp [apply, takeGuest, loading?, begun]
      rw [loaded, step, settle_of_nil stays, wantedSource?_of_nil stays] at wants
      cases wants
  | ok source =>
      rw [parsed] at begun
      rw [wantedSource?_loaded begun made wants]

end Session

namespace Terminal

variable {γ World : Type} {first terminal : Terminal γ}

/-!
# Late screens
-/

/-- Something was published before the screen became a subscriber; it has shown what it should
otherwise. -/
structure Late (terminal : Terminal γ) : Prop where
  missed : terminal.screen.place?.map Screen.Place.since ≠ some 0
  published : terminal.session.transcript.published ≠ []
  mirrors : terminal.screen.Mirrors terminal.session.transcript.published

theorem Late.missed_wait (late : terminal.Late) (pace : Pace) :
    (terminal.screen.wait pace terminal.session.transcript).place?.map Screen.Place.since ≠
      some 0 := by
  have since := late.mirrors.since_wait pace
  cases place : terminal.screen.place?.map Screen.Place.since with
  | none =>
      rw [place] at since
      intro early
      rw [since] at early
      exact late.published (List.eq_nil_of_length_eq_zero (Option.some.inj early))
  | some count =>
      have missed := late.missed
      rw [place] at since missed
      rw [since]
      exact missed

theorem Late.idle (late : terminal.Late) : terminal.idle.Late where
  missed := late.missed_wait terminal.pace
  published := late.published
  mirrors := late.mirrors.wait terminal.pace

theorem Changes.late (changes : Changes first terminal) (late : first.Late) : terminal.Late := by
  induction changes with
  | refl => exact late
  | grow changes grows ih =>
      rcases grows with ⟨more, published, _⟩
      refine ⟨ih.missed, ?_, ?_⟩
      · rw [published]
        exact List.append_ne_nil_of_left_ne_nil ih.published more
      · rw [published]
        exact ih.mirrors.append more
  | wait changes ih => exact ih.idle
  | edit changes ih => exact ⟨ih.missed, ih.published, ih.mirrors⟩
  | turn changes isOpen ih => exact ⟨ih.missed, ih.published, ih.mirrors⟩

theorem Leads.late (leads : Leads first terminal) (late : first.Late) : terminal.Late := by
  cases leads with
  | stay changes => exact changes.late late
  | close changes exit =>
      have before := changes.late late
      exact ⟨before.missed_wait .prompt, before.published, before.mirrors.wait .prompt⟩

variable (surroundings : Surroundings (StateM World))

/-!
# Stuck terminals
-/

theorem take_of_stuck (stuck : terminal.mode = .stuck) (line : IncomingLine) :
    terminal.take surroundings line = pure terminal := by
  rw [Terminal.take, stuck]

theorem takeInput_of_stuck (stuck : terminal.mode = .stuck) (input : String) :
    terminal.takeInput surroundings input = pure terminal := by
  have takes (lines : List IncomingLine) : terminal.takeAll surroundings lines = pure terminal := by
    induction lines with
    | nil => rfl
    | cons line rest ih =>
        rw [takeAll_cons, take_of_stuck surroundings stuck, pure_bind]
        exact ih
  rw [takeInput, takes, map_pure, takeEnd, stuck]

/-!
# Terminals for commands
-/

variable {abilities : Guest Unit γ} {settings : Settings} {session : Session γ}
    (made : Except Failure γ)

theorem always_boot_unseen [Keywords.AddressReader]
    (accepted : Session.ofSettings abilities settings = .ok session)
    (atHand : ∀ source, settings.keywordSource = .ok source ->
      waitsFor surroundings source = false) :
    Always (fun booted => booted.screen = .empty)
      ((ofSession surroundings.pace session).boot surroundings made) := by
  unfold Terminal.boot
  dsimp only
  split
  · exact always_pure rfl
  · rename_i source wants
    have parsed := Session.keywordSource_of_wanted accepted made wants
    refine always_bind (always_true _) ?_
    intro script _
    rw [atHand source parsed]
    exact always_pure rfl

theorem late_report (unseen : terminal.screen = .empty) (line : String) :
    (terminal.report line).Late := by
  have same : (terminal.report line).screen = .empty := unseen
  refine ⟨?_, ?_, ?_⟩
  · rw [same]
    intro early
    cases early
  · have grown : (terminal.report line).session.transcript.published =
        terminal.session.transcript.published ++ [.appended (line ++ "\n")] := rfl
    rw [grown]
    exact List.concat_ne_nil _ _
  · rw [same]
    exact Screen.mirrors_empty _

theorem always_openFor_late [Keywords.AddressReader]
    (accepted : Session.ofSettings abilities settings = .ok session)
    (atHand : ∀ source, settings.keywordSource = .ok source ->
      waitsFor surroundings source = false) :
    Always (fun answer => ∀ opened, answer = .ok opened -> opened.mode = .stuck ∨ opened.Late)
      (openFor surroundings made .commands session) := by
  refine always_bind (always_boot_unseen surroundings made accepted atHand) ?_
  intro booted unseen
  split
  · refine always_pure ?_
    intro opened same
    cases same
    exact .inl rfl
  · refine always_pure ?_
    intro opened same
    cases same
    have late := late_report unseen Command.summary
    exact .inr ⟨late.missed, late.published, late.mirrors⟩

theorem late_takeInput (late : terminal.mode = .stuck ∨ terminal.Late) (input : String) :
    Always (fun last => last.mode = .stuck ∨ last.Late)
      (terminal.takeInput surroundings input) := by
  rcases late with stuck | late
  · rw [takeInput_of_stuck surroundings stuck]
    exact always_pure (.inl stuck)
  · have stays : Leads terminal terminal := .stay .refl
    intro world
    exact .inr ((stays.takeInput surroundings input world).late late)

section World

variable [Settings.DocumentReader] [Keywords.AddressReader] (lookup : String -> Option String)
    (world : World)
    (loaded :
      ((Settings.load surroundings.disk (lookup Settings.fileVariable) lookup).run world).1 =
        .ok settings)
    (atHand : ∀ source, settings.keywordSource = .ok source ->
      waitsFor surroundings source = false)
include loaded atHand

theorem late_launch
    (opened : ((launch surroundings abilities made lookup []).run world).1 = .ok terminal) :
    terminal.mode = .stuck ∨ terminal.Late := by
  rw [launch, run_bind, loaded, Except.bind] at opened
  cases accepted : Session.ofSettings abilities settings with
  | error failure =>
      rw [accepted] at opened
      cases opened
  | ok session =>
      rw [accepted] at opened
      exact always_openFor_late surroundings made accepted atHand _ terminal opened

theorem late_dialogue (input : String)
    (opened : ((dialogue surroundings abilities made lookup [] input).run world).1 =
      .ok terminal) :
    terminal.mode = .stuck ∨ terminal.Late := by
  rw [dialogue, run_bind] at opened
  cases launched : ((launch surroundings abilities made lookup []).run world).1 with
  | error complaint =>
      rw [launched] at opened
      cases opened
  | ok first =>
      rw [launched] at opened
      have late := late_launch surroundings made lookup world loaded atHand launched
      have last := late_takeInput surroundings late input
        ((launch surroundings abilities made lookup []).run world).2
      have same := Except.ok.inj opened
      rw [← same]
      exact last

/-- A terminal for commands that did not wait for its keyword script never shows everything, however
fast its screen is. -/
theorem text_ne_of_commands (input : String) {exit : Exit}
    (opened : ((dialogue surroundings abilities made lookup [] input).run world).1 =
      .ok terminal)
    (closed : terminal.mode = .closed exit) :
    terminal.screen.text ≠ Screen.writtenAll terminal.session.transcript.published := by
  intro shown
  have arises := always_dialogue surroundings abilities made lookup [] input world
  have keptUp := (arises.text_eq_iff opened closed).1 shown
  rcases late_dialogue surroundings made lookup world loaded atHand input opened with
    stuck | late
  · rw [stuck] at closed
    cases closed
  · exact late.missed keptUp.first

end World

end Terminal
end HangulConsole
