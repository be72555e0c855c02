import HangulConsole.Proofs.Terminal.Changes
import HangulConsole.Proofs.Terminal.Screen

/-!
# What a terminal shows

Whatever happens to a terminal, its screen shows events of the transcript of its session in
their order; and a terminal is closed when its screen has shown all that was left.
-/

namespace HangulConsole
namespace Terminal

variable {γ World : Type} {first terminal : Terminal γ}

structure Shows (terminal : Terminal γ) : Prop where
  mirrors : terminal.screen.Mirrors terminal.session.transcript.published
  visible : ∀ event ∈ terminal.session.transcript.published, event.IsVisible

theorem Shows.idle (shows : terminal.Shows) : terminal.idle.Shows where
  mirrors := shows.mirrors.wait terminal.pace
  visible := shows.visible

theorem Changes.shows (changes : Changes first terminal) (shows : first.Shows) :
    terminal.Shows := by
  induction changes with
  | refl => exact shows
  | grow changes grows ih =>
      rcases grows with ⟨more, published, visible⟩
      constructor
      · rw [published]
        exact ih.mirrors.append more
      · intro event mem
        rw [published] at mem
        rcases List.mem_append.1 mem with old | new
        · exact ih.visible event old
        · exact visible event new
  | wait changes ih => exact ih.idle
  | edit changes ih => exact ⟨ih.mirrors, ih.visible⟩
  | turn changes isOpen ih => exact ⟨ih.mirrors, ih.visible⟩

theorem Changes.isOpen (changes : Changes first terminal)
    (isOpen : ∀ exit, first.mode ≠ .closed exit) (exit : Exit) : terminal.mode ≠ .closed exit := by
  induction changes with
  | refl => exact isOpen exit
  | grow changes grows ih => exact ih
  | wait changes ih => exact ih
  | edit changes ih => exact ih
  | turn changes isOpen ih => exact isOpen exit

theorem Leads.text_eq_iff (leads : Leads first terminal) (shows : first.Shows)
    (isOpen : ∀ exit, first.mode ≠ .closed exit) {exit : Exit}
    (closed : terminal.mode = .closed exit) :
    terminal.screen.text = Screen.writtenAll terminal.session.transcript.published ↔
      terminal.screen.KeptUp := by
  cases leads with
  | stay changes => exact absurd closed (changes.isOpen isOpen exit)
  | close changes exit =>
      have shown := changes.shows shows
      exact shown.mirrors.text_eq_iff shown.visible

/-!
# Whole dialogues
-/

theorem shows_ofSettings [Keywords.AddressReader] {abilities : Guest Unit γ} {settings : Settings}
    {session : Session γ} (accepted : Session.ofSettings abilities settings = .ok session)
    (pace : Pace) : (ofSession pace session).Shows := by
  rcases Session.exists_start_of_ofSettings accepted with ⟨names, rfl⟩
  refine ⟨Screen.mirrors_empty _, ?_⟩
  intro event mem
  cases mem

def Arises (answer : Except Complaint (Terminal γ)) : Prop :=
  ∀ terminal, answer = .ok terminal ->
    ∃ first : Terminal γ, first.Shows ∧ (∀ exit, first.mode ≠ .closed exit) ∧ Leads first terminal

theorem arises_error (complaint : Complaint) :
    Arises (.error complaint : Except Complaint (Terminal γ)) := by
  intro terminal same
  cases same

theorem Arises.text_eq_iff {answer : Except Complaint (Terminal γ)} (arises : Arises answer)
    {exit : Exit} (opened : answer = .ok terminal) (closed : terminal.mode = .closed exit) :
    terminal.screen.text = Screen.writtenAll terminal.session.transcript.published ↔
      terminal.screen.KeptUp := by
  rcases arises terminal opened with ⟨first, shows, isOpen, leads⟩
  exact leads.text_eq_iff shows isOpen closed

section Dialogues

variable [Settings.DocumentReader] [Keywords.AddressReader]
    (surroundings : Surroundings (StateM World)) (abilities : Guest Unit γ)
    (made : Except Failure γ) (lookup : String -> Option String) (arguments : List String)

theorem always_launch :
    Always Arises (launch surroundings abilities made lookup arguments) := by
  refine always_bind (always_true _) ?_
  intro settings _
  cases settings with
  | error failure => exact always_pure (arises_error _)
  | ok settings =>
      cases accepted : Session.ofSettings abilities settings with
      | error failure =>
          rw [Except.bind, accepted]
          exact always_pure (arises_error _)
      | ok session =>
          rw [Except.bind, accepted]
          intro world terminal opened
          have leads := always_openFor surroundings made _ session world terminal opened
          exact ⟨_, shows_ofSettings accepted surroundings.pace, nofun, leads⟩

theorem always_dialogue (input : String) :
    Always Arises (dialogue surroundings abilities made lookup arguments input) := by
  refine always_bind (always_launch surroundings abilities made lookup arguments) ?_
  intro answer arises
  cases answer with
  | error complaint => exact always_pure (arises_error _)
  | ok terminal =>
      rcases arises terminal rfl with ⟨first, shows, isOpen, leads⟩
      refine always_map (leads.takeInput surroundings input) ?_
      intro last leads other same
      cases same
      exact ⟨first, shows, isOpen, leads⟩

/-- A terminal that is closed shows everything that was published exactly if its screen became a
subscriber before anything was published, and was never further behind than events are kept when it
showed one.  How fast it shows them does not matter otherwise, nor when: its surroundings may have
any pace. -/
theorem text_eq_iff_keptUp (input : String) (world : World) {exit : Exit}
    (opened : ((dialogue surroundings abilities made lookup arguments input).run world).1 =
      .ok terminal)
    (closed : terminal.mode = .closed exit) :
    terminal.screen.text = Screen.writtenAll terminal.session.transcript.published ↔
      terminal.screen.KeptUp := by
  have arises := always_dialogue surroundings abilities made lookup arguments input world
  exact arises.text_eq_iff opened closed

end Dialogues

/-!
# A guest that writes one line
-/

local instance : Settings.DocumentReader where
  read _ := .ok .standard

local instance : Keywords.AddressReader := .none

def herald : Guest Unit Nat where
  bind count _ _ := .ended (.ok ()) count
  exec count _ :=
    if count < 2 then
      .ended (.ok ()) (count + 1)
    else
      .deliver ⟨.stdout, "here", true⟩ count fun _ => .ended (.ok ()) count

def blank : Surroundings (StateM Unit) where
  disk := { read := fun _ => return .ok [], write := fun _ _ => return .ok () }
  network := Keywords.Source.Network.unreachable
  networkWaits := false
  now := return .ofSeconds 0
  pace := .prompt

theorem exists_ok_of_toOption_map {α : Type} {answer : Except Complaint (Terminal γ)}
    {view : Terminal γ -> α} {seen : α} (same : answer.toOption.map view = some seen) :
    ∃ terminal, answer = .ok terminal ∧ view terminal = seen := by
  cases answer with
  | error complaint => cases same
  | ok terminal => exact ⟨terminal, rfl, Option.some.inj same⟩

/-- A run of a program waits for its file before anything is published. -/
theorem text_eq_iff_keptUp_of_run :
    ∃ terminal : Terminal Nat,
      ((dialogue blank herald (.ok 0) (fun _ => none) ["run", "a.kpy"] "").run ()).1 =
        .ok terminal ∧
      terminal.mode = .closed .success ∧ terminal.screen.place? = some ⟨0, ⟨2⟩⟩ ∧
      terminal.screen.behind = [2, 1] ∧
      (terminal.screen.text = Screen.writtenAll terminal.session.transcript.published ↔
        terminal.screen.KeptUp) := by
  have ends :
      ((dialogue blank herald (.ok 0) (fun _ => none) ["run", "a.kpy"] "").run ()).1.toOption.map
        (fun terminal => (terminal.mode, terminal.screen.place?, terminal.screen.behind)) =
      some (.closed .success, some ⟨0, ⟨2⟩⟩, [2, 1]) := by
    decide +kernel
  rcases exists_ok_of_toOption_map ends with ⟨terminal, opened, seen⟩
  simp only [Prod.mk.injEq] at seen
  rcases seen with ⟨closed, place, behind⟩
  exact ⟨terminal, opened, closed, place, behind,
    text_eq_iff_keptUp blank herald (.ok 0) (fun _ => none) ["run", "a.kpy"] "" () opened closed⟩

/-- The commands are published before the terminal waits for the first time. -/
theorem text_ne_of_quit :
    ∃ terminal : Terminal Nat,
      ((dialogue blank herald (.ok 0) (fun _ => none) [] ":quit\n").run ()).1 = .ok terminal ∧
      terminal.mode = .closed .success ∧
      terminal.session.transcript.published = [.appended (Command.summary ++ "\n")] ∧
      terminal.screen.text = "" ∧
      terminal.screen.text ≠ Screen.writtenAll terminal.session.transcript.published := by
  have ends :
      ((dialogue blank herald (.ok 0) (fun _ => none) [] ":quit\n").run ()).1.toOption.map
        (fun terminal =>
          (terminal.mode, terminal.session.transcript.published, terminal.screen.text)) =
      some (.closed .success, [.appended (Command.summary ++ "\n")], "") := by
    decide +kernel
  rcases exists_ok_of_toOption_map ends with ⟨terminal, opened, seen⟩
  simp only [Prod.mk.injEq] at seen
  rcases seen with ⟨closed, published, text⟩
  refine ⟨terminal, opened, closed, published, text, ?_⟩
  rw [text, published]
  decide

end Terminal
end HangulConsole
