import HangulConsole.Proofs.Transcript
import HangulConsole.Terminal.Screen
import Mathlib.Data.List.Basic

/-!
# What a screen shows

A screen shows events of a transcript in their order, and leaves some out exactly if it was
once further behind than events are kept.  So it shows everything exactly if nothing was
published before it became a subscriber and it never was too far behind.
-/

namespace HangulConsole

/-!
# The next event of a subscriber
-/

namespace Transcript

variable {transcript : Transcript} {subscriber : Subscriber}

theorem nextEvent_of_lt (lt : subscriber.next < transcript.published.length) :
    ∃ place event, transcript.nextEvent subscriber = (some event, ⟨place + 1⟩) ∧
      transcript.published[place]? = some event ∧ subscriber.next ≤ place ∧
      (place = subscriber.next ↔ transcript.published.length - subscriber.next ≤ capacity) := by
  have kept : 0 < capacity := by decide
  have on : max subscriber.next transcript.oldestKept < transcript.published.length := by
    rw [oldestKept]
    omega
  have there := List.getElem?_eq_getElem on
  refine ⟨_, _, ?_, there, Nat.le_max_left _ _, ?_⟩
  · unfold nextEvent
    dsimp only
    rw [there]
  · rw [oldestKept]
    omega

theorem nextEvent_of_le (le : transcript.published.length ≤ subscriber.next) :
    (transcript.nextEvent subscriber).1 = none := by
  have past : transcript.published[max subscriber.next transcript.oldestKept]? = none :=
    List.getElem?_eq_none (Nat.le_trans le (Nat.le_max_left _ _))
  rw [nextEvent, past]

end Transcript

namespace Screen

variable {published more : List TranscriptEvent} {screen : Screen} {transcript : Transcript}
  {place : Place}

/-- A subscriber shows events in their order, from the first one that it can, and all of them
exactly if it never was further behind than events are kept. -/
structure Follows (screen : Screen) (place : Place) (published : List TranscriptEvent) : Prop where
  since_le : place.since ≤ place.subscriber.next
  next_le : place.subscriber.next ≤ published.length
  sublist : screen.shown.Sublist ((published.take place.subscriber.next).drop place.since)
  complete_iff : screen.shown.length = place.subscriber.next - place.since ↔
    ∀ count ∈ screen.behind, count ≤ Transcript.capacity

/-- What is on a screen comes from its place among the events. -/
structure Mirrors (screen : Screen) (published : List TranscriptEvent) : Prop where
  unseen : screen.place? = none -> screen.shown = [] ∧ screen.behind = []
  follows : ∀ place, screen.place? = some place -> screen.Follows place published

/-- The screen became a subscriber before anything was published, and whenever it showed an event,
all of those that it had not shown were kept. -/
structure KeptUp (screen : Screen) : Prop where
  first : screen.place?.map Place.since = some 0
  often : ∀ count ∈ screen.behind, count ≤ Transcript.capacity

theorem mirrors_empty (published : List TranscriptEvent) : Mirrors empty published where
  unseen _ := ⟨rfl, rfl⟩
  follows := by
    intro place same
    cases same

/-!
# One event more
-/

theorem take_drop_sublist {first second third : Nat} (le : second ≤ third) :
    ((published.take second).drop first).Sublist ((published.take third).drop first) :=
  (List.take_sublist_take_left le).drop first

theorem Follows.append (follows : screen.Follows place published)
    (more : List TranscriptEvent) : screen.Follows place (published ++ more) where
  since_le := follows.since_le
  next_le := by
    rw [List.length_append]
    exact Nat.le_add_right_of_le follows.next_le
  sublist := by
    rw [List.take_append_of_le_length follows.next_le]
    exact follows.sublist
  complete_iff := follows.complete_iff

theorem Mirrors.append (mirrors : Mirrors screen published) (more : List TranscriptEvent) :
    Mirrors screen (published ++ more) where
  unseen := mirrors.unseen
  follows := fun place same => (mirrors.follows place same).append more

theorem Follows.add (follows : screen.Follows place published) {next : Nat}
    {event : TranscriptEvent} (there : published[next]? = some event)
    (past : place.subscriber.next ≤ next)
    (near : next = place.subscriber.next ↔
      published.length - place.subscriber.next ≤ Transcript.capacity) :
    (screen.add event { place with subscriber := ⟨next + 1⟩ }
      (published.length - place.subscriber.next)).Follows
        { place with subscriber := ⟨next + 1⟩ } published where
  since_le := Nat.le_succ_of_le (Nat.le_trans follows.since_le past)
  next_le := (List.getElem?_eq_some_iff.1 there).1
  sublist := by
    have before : (screen.shown).Sublist ((published.take next).drop place.since) :=
      follows.sublist.trans (take_drop_sublist past)
    have last : published.take (next + 1) = published.take next ++ [event] := by
      rw [List.take_add_one, there]
      rfl
    have inside : place.since ≤ (published.take next).length := by
      have on := (List.getElem?_eq_some_iff.1 there).1
      have since := Nat.le_trans follows.since_le past
      rw [List.length_take]
      omega
    rw [Screen.add]
    dsimp only
    rw [last, List.drop_append_of_le_length inside]
    exact before.append_right [event]
  complete_iff := by
    have at_most := follows.sublist.length_le
    rw [List.length_drop, List.length_take, Nat.min_eq_left follows.next_le] at at_most
    have since := follows.since_le
    -- Nothing is left out now exactly if nothing was before and the event is the very next one.
    have all : screen.shown.length + 1 = next + 1 - place.since ↔
        screen.shown.length = place.subscriber.next - place.since ∧
          next = place.subscriber.next := by
      omega
    rw [Screen.add]
    dsimp only
    rw [List.length_append, List.length_singleton, all, follows.complete_iff, near,
      List.forall_mem_append, List.forall_mem_singleton]

/-- A screen came from a place to one that is at least some events further, if there are so many. -/
def Reaches (transcript : Transcript) (place : Place) (count : Nat) (later : Screen) : Prop :=
  ∃ subscriber, later.place? = some ⟨place.since, subscriber⟩ ∧
    later.Follows ⟨place.since, subscriber⟩ transcript.published ∧
    min (place.subscriber.next + count) transcript.published.length ≤ subscriber.next

theorem Follows.step (follows : screen.Follows place transcript.published)
    (same : screen.place? = some place) :
    Reaches transcript place 1 (step transcript screen) := by
  rw [Screen.step, same]
  dsimp only
  rcases Nat.lt_or_ge place.subscriber.next transcript.published.length with lt | ge
  · rcases Transcript.nextEvent_of_lt lt with ⟨next, event, taken, there, past, near⟩
    rw [taken]
    refine ⟨_, rfl, follows.add there past near, ?_⟩
    exact Nat.le_trans (Nat.min_le_left _ _) (Nat.succ_le_succ past)
  · have nothing := Transcript.nextEvent_of_le ge
    generalize transcript.nextEvent place.subscriber = found at nothing
    rcases found with ⟨event?, subscriber⟩
    cases nothing
    exact ⟨_, same, follows, Nat.le_trans (Nat.min_le_right _ _) ge⟩

theorem Follows.steps (follows : screen.Follows place transcript.published)
    (same : screen.place? = some place) (count : Nat) :
    Reaches transcript place count (steps transcript count screen) := by
  induction count generalizing screen place with
  | zero => exact ⟨_, same, follows, Nat.min_le_left _ _⟩
  | succ count ih =>
      -- A step may pass over events, so it gets one further at least.
      rcases follows.step same with ⟨next, at_next, follows, near⟩
      rcases ih follows at_next with ⟨last, at_last, follows, nearer⟩
      refine ⟨last, at_last, follows, ?_⟩
      dsimp only at nearer
      omega

/-!
# Waiting
-/

theorem place?_wait_of_none (fresh : screen.place? = none) (pace : Pace) :
    (screen.wait pace transcript).place? =
      some ⟨transcript.published.length, transcript.subscribe⟩ := by
  rw [wait, fresh]
  rfl

theorem wait_of_some (same : screen.place? = some place) (pace : Pace) :
    screen.wait pace transcript =
      steps transcript
        (pace.steps screen.waits (transcript.published.length - place.subscriber.next))
        { screen with waits := screen.waits + 1 } := by
  unfold wait
  split
  · rename_i fresh
    rw [same] at fresh
    cases fresh
  · rename_i found
    rw [same] at found
    cases found
    rfl

theorem Mirrors.reaches_wait (mirrors : Mirrors screen transcript.published)
    (same : screen.place? = some place) (pace : Pace) :
    Reaches transcript place
      (pace.steps screen.waits (transcript.published.length - place.subscriber.next))
      (screen.wait pace transcript) := by
  have follows := mirrors.follows place same
  have waited : Follows { screen with waits := screen.waits + 1 } place transcript.published :=
    ⟨follows.since_le, follows.next_le, follows.sublist, follows.complete_iff⟩
  rw [wait_of_some same]
  exact waited.steps same _

theorem Follows.mirrors (follows : screen.Follows place published)
    (same : screen.place? = some place) : Mirrors screen published where
  unseen := by
    intro none
    rw [same] at none
    cases none
  follows := by
    intro other also
    rw [same] at also
    cases also
    exact follows

theorem Mirrors.wait (mirrors : Mirrors screen transcript.published) (pace : Pace) :
    Mirrors (screen.wait pace transcript) transcript.published := by
  cases same : screen.place? with
  | none =>
      rcases mirrors.unseen same with ⟨shown, behind⟩
      have nothing : (screen.wait pace transcript).Follows
          ⟨transcript.published.length, transcript.subscribe⟩ transcript.published := by
        rw [Screen.wait, same, subscribe, shown, behind]
        refine ⟨Nat.le_refl _, Nat.le_refl _, List.nil_sublist _, iff_of_true ?_ ?_⟩
        · exact (Nat.sub_self _).symm
        · exact List.forall_mem_nil _
      exact nothing.mirrors (place?_wait_of_none same pace)
  | some place =>
      rcases mirrors.reaches_wait same pace with ⟨subscriber, later, follows, -⟩
      exact follows.mirrors later

theorem Mirrors.since_wait (mirrors : Mirrors screen transcript.published) (pace : Pace) :
    (screen.wait pace transcript).place?.map Place.since =
      some ((screen.place?.map Place.since).getD transcript.published.length) := by
  cases same : screen.place? with
  | none =>
      rw [place?_wait_of_none same]
      rfl
  | some place =>
      rcases mirrors.reaches_wait same pace with ⟨subscriber, later, -, -⟩
      rw [later]
      rfl

theorem Mirrors.next_wait_prompt (mirrors : Mirrors screen transcript.published) :
    ∃ place, (screen.wait .prompt transcript).place? = some place ∧
      place.subscriber.next = transcript.published.length := by
  cases same : screen.place? with
  | none => exact ⟨_, place?_wait_of_none same _, rfl⟩
  | some place =>
      rcases mirrors.reaches_wait same .prompt with ⟨subscriber, later, follows, near⟩
      have before := (mirrors.follows place same).next_le
      refine ⟨_, later, Nat.le_antisymm follows.next_le ?_⟩
      change min (place.subscriber.next +
        (transcript.published.length - place.subscriber.next)) _ ≤ _ at near
      rw [Nat.add_sub_cancel' before, Nat.min_self] at near
      exact near

/-!
# Events and what is written for them
-/

theorem writtenAll_cons (event : TranscriptEvent) (events : List TranscriptEvent) :
    writtenAll (event :: events) = written event ++ writtenAll events := by
  simp [writtenAll]

theorem length_written_pos {event : TranscriptEvent} (visible : event.IsVisible) :
    0 < (written event).length := by
  cases event with
  | cleared => decide
  | appended text =>
      rw [Nat.pos_iff_ne_zero]
      intro none
      exact visible (String.length_eq_zero_iff.1 none)

theorem eq_of_writtenAll_eq {events all : List TranscriptEvent} (some_of : events.Sublist all)
    (visible : ∀ event ∈ all, event.IsVisible) :
    (writtenAll events).length ≤ (writtenAll all).length ∧
      (writtenAll events = writtenAll all -> events = all) := by
  induction some_of with
  | slnil => exact ⟨Nat.le_refl _, fun _ => rfl⟩
  | @cons events all event some_of ih =>
      have least := length_written_pos (visible event List.mem_cons_self)
      have at_most := (ih fun other mem => visible other (List.mem_cons_of_mem _ mem)).1
      rw [writtenAll_cons, String.length_append]
      refine ⟨by omega, ?_⟩
      intro same
      have lengths := congrArg String.length same
      rw [String.length_append] at lengths
      omega
  | @cons_cons events all event some_of ih =>
      rcases ih fun other mem => visible other (List.mem_cons_of_mem _ mem) with ⟨at_most, eq⟩
      rw [writtenAll_cons, writtenAll_cons, String.length_append, String.length_append]
      refine ⟨by omega, ?_⟩
      intro same
      rw [eq (String.append_right_inj _ |>.1 same)]

/-- A screen at the end of the events shows all of them exactly if it kept up. -/
theorem Follows.shown_eq_iff (follows : screen.Follows place published)
    (same : screen.place? = some place) (last : place.subscriber.next = published.length) :
    screen.shown = published ↔ screen.KeptUp := by
  have part : screen.shown.Sublist (published.drop place.since) := by
    have sublist := follows.sublist
    rw [last, List.take_length] at sublist
    exact sublist
  have at_most := part.length_le
  have complete := follows.complete_iff
  have since := follows.since_le
  rw [List.length_drop] at at_most
  rw [last] at complete since
  constructor
  · intro all
    rw [all] at at_most complete
    have start : place.since = 0 := by omega
    rw [start] at complete
    exact ⟨by rw [same, ← start]; rfl, complete.1 rfl⟩
  · intro keptUp
    have start : place.since = 0 := by
      have first := keptUp.first
      rw [same] at first
      exact Option.some.inj first
    have long := complete.2 keptUp.often
    rw [start, List.drop_zero] at part
    rw [start] at long
    exact part.eq_of_length long

theorem Mirrors.text_eq_iff (mirrors : Mirrors screen transcript.published)
    (visible : ∀ event ∈ transcript.published, event.IsVisible) :
    (screen.wait .prompt transcript).text = writtenAll transcript.published ↔
      (screen.wait .prompt transcript).KeptUp := by
  rcases mirrors.next_wait_prompt with ⟨place, same, last⟩
  have follows := (mirrors.wait .prompt).follows place same
  have part : (screen.wait .prompt transcript).shown.Sublist transcript.published :=
    follows.sublist.trans ((List.drop_sublist _ _).trans (List.take_sublist _ _))
  rw [← follows.shown_eq_iff same last, text]
  exact ⟨(eq_of_writtenAll_eq part visible).2, fun all => congrArg writtenAll all⟩

end Screen
end HangulConsole
