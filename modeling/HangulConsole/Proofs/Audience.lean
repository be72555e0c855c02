import HangulConsole.Audience
import Mathlib.Data.List.Forall2

/-!
# What readers of a transcript learn

A reader gets the events that were published since it subscribed, in their order and each
once, except for those that it is told it missed.  Who missed none of them and has read
them all knows the text.
-/

namespace HangulConsole

open Transcript

def Transcript.Reading.event? : Reading -> Option TranscriptEvent
  | .event found => some found
  | _ => none

@[simp] theorem Transcript.Reading.event?_event {event : TranscriptEvent} :
    (Reading.event event).event? = some event :=
  rfl

@[simp] theorem Transcript.Reading.event?_empty : Reading.empty.event? = none :=
  rfl

@[simp] theorem Transcript.Reading.event?_lagged (number : Nat) :
    (Reading.lagged number).event? = none :=
  rfl

def Transcript.Reading.missed : Reading -> Nat
  | .lagged number => number
  | _ => 0

def Transcript.Reading.allMissed (readings : List Reading) : Nat :=
  readings.foldr (fun reading count => reading.missed + count) 0

theorem Transcript.Reading.allMissed_cons (reading : Reading) (rest : List Reading) :
    allMissed (reading :: rest) = reading.missed + allMissed rest := rfl

namespace Audience

/-!
# The events of operations
-/

def Operation.event? : Operation -> Option TranscriptEvent
  | .appendLine text => some (.appended (text ++ "\n"))
  | .appendRaw text => if text.isEmpty then none else some (.appended text)
  | .clear => some .cleared
  | _ => none

def published (operations : List Operation) : List TranscriptEvent :=
  operations.filterMap Operation.event?

variable {audience : Audience} {operation : Operation} {operations : List Operation}

theorem published_cons (operation : Operation) (rest : List Operation) :
    published (operation :: rest) = operation.event?.toList ++ published rest := by
  rw [published, List.filterMap_cons]
  cases operation.event? with
  | none => rfl
  | some event => rfl

/-- What an operation does to the transcript is what its event says. -/
structure Publishes (transcript : Transcript) (operation : Operation)
    (after : Transcript) : Prop where
  published : after.published = transcript.published ++ operation.event?.toList
  text : after.text = TranscriptEvent.replay transcript.text operation.event?.toList

theorem publishes_step (audience : Audience) (operation : Operation) :
    Publishes audience.transcript operation (audience.step operation).1.transcript := by
  have nothing (silent : operation.event? = none)
      (same : (audience.step operation).1.transcript = audience.transcript) :
      Publishes audience.transcript operation (audience.step operation).1.transcript := by
    rw [same]
    exact ⟨by rw [silent]; simp, by rw [silent]; rfl⟩
  cases operation with
  | appendLine text => exact ⟨rfl, rfl⟩
  | appendRaw text =>
      cases empty : text.isEmpty with
      | true => exact nothing (if_pos empty) (if_pos empty)
      | false =>
          have visible : ¬ text.isEmpty = true := by rw [empty]; decide
          have event : (Operation.appendRaw text).event? = some (.appended text) := if_neg visible
          have appended : audience.transcript.appendRaw text = audience.transcript.append text :=
            if_neg visible
          rw [step, appended]
          exact ⟨by rw [event]; rfl, by rw [event]; rfl⟩
  | clear => exact ⟨rfl, rfl⟩
  | subscribe => exact nothing rfl rfl
  | receive reader =>
      refine nothing rfl ?_
      rw [step]
      split
      · rfl
      · rfl
  | next reader =>
      refine nothing rfl ?_
      rw [step]
      split
      · rfl
      · rfl

theorem published_run (audience : Audience) (operations : List Operation) :
    (audience.run operations).transcript.published =
      audience.transcript.published ++ published operations := by
  induction operations generalizing audience with
  | nil => simp [published]
  | cons operation rest ih =>
      rw [run_cons, ih, (publishes_step audience operation).published, published_cons,
        List.append_assoc]

theorem text_run (audience : Audience) (operations : List Operation) :
    (audience.run operations).transcript.text =
      TranscriptEvent.replay audience.transcript.text (published operations) := by
  induction operations generalizing audience with
  | nil => rfl
  | cons operation rest ih =>
      rw [run_cons, ih, (publishes_step audience operation).text, published_cons,
        TranscriptEvent.replay_append]

theorem text_step_of_ne_clear (audience : Audience) (kept : operation ≠ .clear) :
    ∃ more, (audience.step operation).1.transcript.text = audience.transcript.text ++ more := by
  rw [(publishes_step audience operation).text]
  cases operation with
  | clear => exact absurd rfl kept
  | appendLine text => exact ⟨_, rfl⟩
  | appendRaw text =>
      rw [Operation.event?]
      split
      · exact ⟨"", by simp⟩
      · exact ⟨text, rfl⟩
  | _ => exact ⟨"", by simp [Operation.event?]⟩

/-!
# One reading

The events that a subscriber has not read are split at its place: a reading accounts for the
first of them.
-/

def readingOf : List TranscriptEvent -> Reading
  | [] => .empty
  | event :: rest =>
      if capacity < (event :: rest).length then .lagged ((event :: rest).length - capacity)
      else .event event

/-- A reading brings or counts exactly these events. -/
inductive Accounts : Reading -> List TranscriptEvent -> Prop where
  | event (event : TranscriptEvent) : Accounts (.event event) [event]
  | lagged (missed : List TranscriptEvent) : Accounts (.lagged missed.length) missed
  | empty : Accounts .empty []

def unread (transcript : Transcript) (subscriber : Subscriber) : List TranscriptEvent :=
  transcript.published.drop subscriber.next

variable {transcript : Transcript} {subscriber : Subscriber}

theorem length_unread (transcript : Transcript) (subscriber : Subscriber) :
    (unread transcript subscriber).length = transcript.published.length - subscriber.next :=
  List.length_drop

theorem lt_oldestKept_iff :
    subscriber.next < transcript.oldestKept ↔
      capacity < (unread transcript subscriber).length := by
  rw [length_unread, oldestKept]
  omega

theorem receiveEvent_of_capacity_lt (late : capacity < (unread transcript subscriber).length) :
    transcript.receiveEvent subscriber =
      (.lagged ((unread transcript subscriber).length - capacity), ⟨transcript.oldestKept⟩) := by
  rw [receiveEvent, if_pos (lt_oldestKept_iff.2 late), length_unread, oldestKept,
    Nat.sub_right_comm]

theorem receiveEvent_of_cons {event : TranscriptEvent} {rest : List TranscriptEvent}
    (kept : (unread transcript subscriber).length ≤ capacity)
    (waiting : unread transcript subscriber = event :: rest) :
    transcript.receiveEvent subscriber = (.event event, ⟨subscriber.next + 1⟩) := by
  have there : transcript.published[subscriber.next]? = some event := by
    rw [← List.head?_drop, ← unread, waiting, List.head?_cons]
  rw [receiveEvent, if_neg (by rw [lt_oldestKept_iff]; omega), there]

theorem receiveEvent_of_nil (nothing : unread transcript subscriber = []) :
    transcript.receiveEvent subscriber = (.empty, subscriber) := by
  have there : transcript.published[subscriber.next]? = none := by
    rw [← List.head?_drop, ← unread, nothing, List.head?_nil]
  have kept : ¬ subscriber.next < transcript.oldestKept := by
    rw [lt_oldestKept_iff, nothing]
    exact Nat.not_lt_zero _
  rw [receiveEvent, if_neg kept, there]

theorem reading_eq (transcript : Transcript) (subscriber : Subscriber) :
    (transcript.receiveEvent subscriber).1 = readingOf (unread transcript subscriber) := by
  by_cases late : capacity < (unread transcript subscriber).length
  · rw [receiveEvent_of_capacity_lt late]
    cases waiting : unread transcript subscriber with
    | nil =>
        rw [waiting] at late
        exact absurd late (Nat.not_lt_zero _)
    | cons event rest =>
        rw [waiting] at late
        rw [readingOf, if_pos late]
  · cases waiting : unread transcript subscriber with
    | nil => rw [receiveEvent_of_nil waiting, readingOf]
    | cons event rest =>
        rw [receiveEvent_of_cons (Nat.le_of_not_lt late) waiting, readingOf, ← waiting, if_neg late]

theorem unread_drop (transcript : Transcript) (subscriber : Subscriber) (number : Nat) :
    unread transcript ⟨subscriber.next + number⟩ =
      (unread transcript subscriber).drop number := by
  rw [unread, unread, List.drop_drop]

theorem accounts_receiveEvent (transcript : Transcript) (subscriber : Subscriber) :
    ∃ block, Accounts (transcript.receiveEvent subscriber).1 block ∧
      unread transcript subscriber =
        block ++ unread transcript (transcript.receiveEvent subscriber).2 := by
  by_cases late : capacity < (unread transcript subscriber).length
  · have place : transcript.oldestKept =
        subscriber.next + ((unread transcript subscriber).length - capacity) := by
      rw [length_unread] at late ⊢
      rw [oldestKept]
      omega
    rw [receiveEvent_of_capacity_lt late, place, unread_drop]
    refine ⟨(unread transcript subscriber).take _, ?_, (List.take_append_drop _ _).symm⟩
    have length :=
      List.length_take_of_le (Nat.sub_le (unread transcript subscriber).length capacity)
    have lagged := Accounts.lagged ((unread transcript subscriber).take
      ((unread transcript subscriber).length - capacity))
    rw [length] at lagged
    exact lagged
  · cases waiting : unread transcript subscriber with
    | nil =>
        rw [receiveEvent_of_nil waiting]
        exact ⟨[], .empty, by rw [waiting]; rfl⟩
    | cons event rest =>
        rw [receiveEvent_of_cons (Nat.le_of_not_lt late) waiting, unread_drop, waiting]
        exact ⟨[event], .event event, rfl⟩

theorem receiveEvent_next_le (within : subscriber.next ≤ transcript.published.length) :
    (transcript.receiveEvent subscriber).2.next ≤ transcript.published.length := by
  rw [receiveEvent]
  split
  · exact Nat.sub_le _ _
  · cases there : transcript.published[subscriber.next]? with
    | none => exact within
    | some event => exact (List.getElem?_eq_some_iff.1 there).1

/-!
# The readings of one reader
-/

def Operation.reads (reader : Nat) : Operation -> Bool
  | .receive other | .next other => other == reader
  | _ => false

def Answer.reading? : Answer -> Option Reading
  | .reading found => some found
  | _ => none

def Answer.event? : Answer -> Option TranscriptEvent
  | .reading found => found.event?
  | .streamed event? => event?
  | _ => none

@[simp] theorem reading?_reading (found : Reading) : (Answer.reading found).reading? = some found :=
  rfl

@[simp] theorem event?_reading (found : Reading) : (Answer.reading found).event? = found.event? :=
  rfl

def told {α : Type} (tells : Answer -> Option α) (reader : Nat) (audience : Audience)
    (operation : Operation) : List α :=
  if operation.reads reader then (tells (audience.step operation).2).toList else []

def toldAll {α : Type} (tells : Answer -> Option α) (reader : Nat) :
    Audience -> List Operation -> List α
  | _, [] => []
  | audience, operation :: rest =>
      told tells reader audience operation ++ toldAll tells reader (audience.step operation).1 rest

def received (audience : Audience) (reader : Nat) (operations : List Operation) : List Reading :=
  toldAll Answer.reading? reader audience operations

def delivered (audience : Audience) (reader : Nat) (operations : List Operation) :
    List TranscriptEvent :=
  toldAll Answer.event? reader audience operations

variable {reader other : Nat}

theorem toldAll_append {α : Type} (tells : Answer -> Option α) (audience : Audience)
    (first second : List Operation) :
    toldAll tells reader audience (first ++ second) =
      toldAll tells reader audience first ++ toldAll tells reader (audience.run first) second := by
  induction first generalizing audience with
  | nil => rfl
  | cons operation rest ih =>
      rw [List.cons_append, toldAll, toldAll, ih, List.append_assoc]
      rfl

theorem toldAll_singleton {α : Type} (tells : Answer -> Option α) (audience : Audience)
    (operation : Operation) :
    toldAll tells reader audience [operation] = told tells reader audience operation :=
  List.append_nil _

theorem step_receive (found : audience.readers[reader]? = some subscriber) :
    audience.step (.receive reader) =
      (⟨audience.transcript,
          audience.readers.set reader (audience.transcript.receiveEvent subscriber).2⟩,
        .reading (audience.transcript.receiveEvent subscriber).1) := by
  rw [step, found]

theorem step_next (found : audience.readers[reader]? = some subscriber) :
    audience.step (.next reader) =
      (⟨audience.transcript,
          audience.readers.set reader (audience.transcript.nextEvent subscriber).2⟩,
        .streamed (audience.transcript.nextEvent subscriber).1) := by
  rw [step, found]

theorem readers_step_of_not_reads (found : audience.readers[reader]? = some subscriber)
    (elsewhere : operation.reads reader = false) :
    (audience.step operation).1.readers[reader]? = some subscriber := by
  have moved {changed : Nat} (later : Subscriber) (distinct : (changed == reader) = false) :
      (audience.readers.set changed later)[reader]? = some subscriber := by
    rw [List.getElem?_set_ne (beq_eq_false_iff_ne.1 distinct)]
    exact found
  cases operation with
  | subscribe =>
      rw [step, List.getElem?_append_left (List.getElem?_eq_some_iff.1 found).1]
      exact found
  | receive changed =>
      cases there : audience.readers[changed]? with
      | none =>
          rw [step, there]
          exact found
      | some _ =>
          rw [step_receive there]
          exact moved _ elsewhere
  | next changed =>
      cases there : audience.readers[changed]? with
      | none =>
          rw [step, there]
          exact found
      | some _ =>
          rw [step_next there]
          exact moved _ elsewhere
  | _ => exact found

/-- A reader is at a place that the events reach. -/
structure At (audience : Audience) (reader : Nat) (subscriber : Subscriber) : Prop where
  found : audience.readers[reader]? = some subscriber
  within : subscriber.next ≤ audience.transcript.published.length

theorem At.unread_step {later : Subscriber} (place : At audience reader later)
    (operation : Operation) :
    unread (audience.step operation).1.transcript later =
      unread audience.transcript later ++ operation.event?.toList := by
  rw [unread, unread, (publishes_step audience operation).published,
    List.drop_append_of_le_length place.within]

theorem At.within_step {later : Subscriber} (place : At audience reader later)
    (operation : Operation) :
    later.next ≤ (audience.step operation).1.transcript.published.length := by
  rw [(publishes_step audience operation).published, List.length_append]
  exact Nat.le_add_right_of_le place.within

theorem At.step (place : At audience reader subscriber) (direct : operation ≠ .next reader) :
    ∃ blocks later, At (audience.step operation).1 reader later ∧
      List.Forall₂ Accounts (told Answer.reading? reader audience operation) blocks ∧
      unread audience.transcript subscriber ++ operation.event?.toList =
        blocks.flatten ++ unread (audience.step operation).1.transcript later := by
  cases reads : operation.reads reader with
  | false =>
      refine ⟨[], subscriber, ⟨readers_step_of_not_reads place.found reads,
        place.within_step operation⟩, ?_, ?_⟩
      · rw [told, reads]
        exact .nil
      · rw [place.unread_step operation]
        rfl
  | true =>
      have same : operation = .receive reader := by
        cases operation with
        | receive changed => rw [beq_iff_eq.1 reads]
        | next changed => exact absurd (by rw [beq_iff_eq.1 reads]) direct
        | _ => cases reads
      rcases accounts_receiveEvent audience.transcript subscriber with ⟨block, accounts, split⟩
      have step := step_receive place.found
      have here := (List.getElem?_eq_some_iff.1 place.found).1
      rw [same]
      refine ⟨[block], (audience.transcript.receiveEvent subscriber).2, ⟨?_, ?_⟩, ?_, ?_⟩
      · rw [step, List.getElem?_set_self here]
      · rw [step]
        exact receiveEvent_next_le place.within
      · have reads : (Operation.receive reader).reads reader = true := beq_self_eq_true reader
        rw [told, if_pos reads, step]
        exact .cons accounts .nil
      · rw [step]
        simpa [Operation.event?] using split

theorem At.run (place : At audience reader subscriber)
    (direct : ∀ operation ∈ operations, operation ≠ .next reader) :
    ∃ blocks later, At (audience.run operations) reader later ∧
      List.Forall₂ Accounts (audience.received reader operations) blocks ∧
      unread audience.transcript subscriber ++ published operations =
        blocks.flatten ++ unread (audience.run operations).transcript later := by
  induction operations generalizing audience subscriber with
  | nil => exact ⟨[], subscriber, place, .nil, by simp [published]⟩
  | cons operation rest ih =>
      rcases place.step (direct operation List.mem_cons_self) with
        ⟨early, between, placed, accounts, split⟩
      rcases ih placed fun later mem => direct later (List.mem_cons_of_mem _ mem) with
        ⟨late, later, reached, accountsLater, splitLater⟩
      refine ⟨early ++ late, later, reached, List.rel_append accounts accountsLater, ?_⟩
      rw [published_cons, ← List.append_assoc, split, List.append_assoc, splitLater,
        List.flatten_append, List.append_assoc]
      rfl

/-!
# Streams

A read of a stream is a receiving that is repeated once when the first answer is that events
were missed.
-/

/-- The receivings that an operation stands for. -/
def spelled (audience : Audience) : Operation -> List Operation
  | .next reader =>
      match audience.readers[reader]? with
      | none => []
      | some subscriber =>
          match (audience.transcript.receiveEvent subscriber).1 with
          | .lagged _ => [.receive reader, .receive reader]
          | _ => [.receive reader]
  | operation => [operation]

def spell (audience : Audience) : List Operation -> List Operation
  | [] => []
  | operation :: rest => spelled audience operation ++ spell (audience.step operation).1 rest

theorem nextEvent_of_le (kept : (unread transcript subscriber).length ≤ capacity) :
    transcript.nextEvent subscriber =
      ((transcript.receiveEvent subscriber).1.event?, (transcript.receiveEvent subscriber).2) := by
  have early : ¬ subscriber.next < transcript.oldestKept := by
    rw [lt_oldestKept_iff]
    exact Nat.not_lt_of_le kept
  rw [nextEvent, receiveEvent, if_neg early, Nat.max_eq_left (Nat.le_of_not_lt early)]
  cases transcript.published[subscriber.next]? with
  | none => rfl
  | some event => rfl

theorem nextEvent_of_capacity_lt (late : capacity < (unread transcript subscriber).length) :
    transcript.nextEvent subscriber = transcript.nextEvent ⟨transcript.oldestKept⟩ := by
  have behind := Nat.le_of_lt (lt_oldestKept_iff.2 late)
  rw [nextEvent, nextEvent, Nat.max_eq_right behind, Nat.max_self]

theorem length_unread_oldestKept (transcript : Transcript) :
    (unread transcript ⟨transcript.oldestKept⟩).length ≤ capacity := by
  simp only [length_unread, oldestKept]
  omega

theorem not_lagged_of_le (kept : (unread transcript subscriber).length ≤ capacity) (number : Nat) :
    (transcript.receiveEvent subscriber).1 ≠ .lagged number := by
  rw [reading_eq]
  cases waiting : unread transcript subscriber with
  | nil => simp [readingOf]
  | cons event rest =>
      rw [waiting] at kept
      rw [readingOf, if_neg (Nat.not_lt_of_le kept)]
      simp

/-- How a read of a stream is written: one receiving, or two when events were missed. -/
inductive Spelling (audience : Audience) (reader : Nat) : Prop where
  | missing : audience.readers[reader]? = none -> spelled audience (.next reader) = [] ->
      Spelling audience reader
  | once {subscriber : Subscriber} : audience.readers[reader]? = some subscriber ->
      (unread audience.transcript subscriber).length ≤ capacity ->
      spelled audience (.next reader) = [.receive reader] -> Spelling audience reader
  | twice {subscriber : Subscriber} : audience.readers[reader]? = some subscriber ->
      capacity < (unread audience.transcript subscriber).length ->
      spelled audience (.next reader) = [.receive reader, .receive reader] ->
      Spelling audience reader

theorem spelling (audience : Audience) (reader : Nat) : Spelling audience reader := by
  cases found : audience.readers[reader]? with
  | none => exact .missing found (by rw [spelled, found])
  | some subscriber =>
      by_cases late : capacity < (unread audience.transcript subscriber).length
      · exact .twice found late (by simp only [spelled, found, receiveEvent_of_capacity_lt late])
      · have kept := Nat.le_of_not_lt late
        refine .once found kept ?_
        have plain := not_lagged_of_le kept
        rw [spelled, found]
        cases answer : (audience.transcript.receiveEvent subscriber).1 with
        | lagged number => exact absurd answer (plain number)
        | event _ => simp only [answer]
        | empty => simp only [answer]

theorem spelled_of_ne (direct : ∀ reader, operation ≠ .next reader) :
    spelled audience operation = [operation] := by
  cases operation with
  | next reader => exact absurd rfl (direct reader)
  | _ => rfl

theorem step_receive_of_late (found : audience.readers[reader]? = some subscriber)
    (late : capacity < (unread audience.transcript subscriber).length) :
    (audience.step (.receive reader)).1 =
      ⟨audience.transcript, audience.readers.set reader ⟨audience.transcript.oldestKept⟩⟩ := by
  rw [step_receive found, receiveEvent_of_capacity_lt late]

theorem readers_set_self (found : audience.readers[reader]? = some subscriber)
    (later : Subscriber) :
    (⟨audience.transcript, audience.readers.set reader later⟩ : Audience).readers[reader]? =
      some later :=
  List.getElem?_set_self (List.getElem?_eq_some_iff.1 found).1

theorem run_spelled (audience : Audience) (operation : Operation) :
    audience.run (spelled audience operation) = (audience.step operation).1 := by
  cases operation with
  | next reader =>
      cases spelling audience reader with
      | missing found spells => rw [spells, run_nil, step, found]
      | once found kept spells =>
          rw [spells, run_cons, run_nil, step_receive found, step_next found, nextEvent_of_le kept]
      | twice found late spells =>
          have again := readers_set_self found ⟨audience.transcript.oldestKept⟩
          rw [spells, run_cons, run_cons, run_nil, step_receive_of_late found late,
            step_receive again, step_next found, nextEvent_of_capacity_lt late,
            nextEvent_of_le (length_unread_oldestKept _), List.set_set]
  | _ => rfl

theorem told_eq_nil {α : Type} {tells : Answer -> Option α}
    (elsewhere : operation.reads reader = false) : told tells reader audience operation = [] := by
  rw [told, elsewhere]
  rfl

theorem toldAll_eq_nil {α : Type} {tells : Answer -> Option α}
    (elsewhere : ∀ operation ∈ operations, operation.reads reader = false) :
    toldAll tells reader audience operations = [] := by
  induction operations generalizing audience with
  | nil => rfl
  | cons operation rest ih =>
      rw [toldAll, told_eq_nil (elsewhere operation List.mem_cons_self),
        ih fun later mem => elsewhere later (List.mem_cons_of_mem _ mem)]
      rfl

theorem eq_receive_of_mem_spelled (mem : operation ∈ spelled audience (.next other)) :
    operation = .receive other := by
  cases spelling audience other with
  | missing _ spells =>
      rw [spells] at mem
      cases mem
  | once _ _ spells =>
      rw [spells] at mem
      exact List.mem_singleton.1 mem
  | twice _ _ spells =>
      rw [spells] at mem
      simpa using mem

theorem toldAll_spelled_of_ne {α : Type} {tells : Answer -> Option α} (distinct : other ≠ reader) :
    toldAll tells reader audience (spelled audience (.next other)) = [] := by
  refine toldAll_eq_nil fun operation mem => ?_
  rw [eq_receive_of_mem_spelled mem]
  exact beq_eq_false_iff_ne.2 distinct

theorem told_receive {α : Type} (tells : Answer -> Option α)
    (found : audience.readers[reader]? = some subscriber) :
    told tells reader audience (.receive reader) =
      (tells (.reading (audience.transcript.receiveEvent subscriber).1)).toList := by
  have reads : (Operation.receive reader).reads reader = true := beq_self_eq_true reader
  rw [told, if_pos reads, step_receive found]

theorem told_next (found : audience.readers[reader]? = some subscriber) :
    told Answer.event? reader audience (.next reader) =
      (audience.transcript.nextEvent subscriber).1.toList := by
  have reads : (Operation.next reader).reads reader = true := beq_self_eq_true reader
  rw [told, if_pos reads, step_next found]
  rfl

theorem filterMap_toList {α β : Type} (f : α -> Option β) (value? : Option α) :
    value?.toList.filterMap f = (value?.bind f).toList := by
  cases value? with
  | none => rfl
  | some value =>
      cases image : f value with
      | none => simp [image]
      | some _ => simp [image]

theorem filterMap_told (audience : Audience) (reader : Nat)
    (direct : ∀ reader, operation ≠ .next reader) :
    (told Answer.reading? reader audience operation).filterMap Reading.event? =
      told Answer.event? reader audience operation := by
  rw [told, told]
  split
  · rw [filterMap_toList]
    cases operation with
    | next changed => exact absurd rfl (direct changed)
    | receive changed =>
        cases found : audience.readers[changed]? with
        | none => rw [step, found]; rfl
        | some subscriber =>
            rw [step_receive found, reading?_reading, Option.bind_some, event?_reading]
    | _ => rfl
  · rfl

theorem filterMap_told_spelled (audience : Audience) (reader : Nat) (operation : Operation) :
    (toldAll Answer.reading? reader audience (spelled audience operation)).filterMap
        Reading.event? =
      told Answer.event? reader audience operation := by
  by_cases direct : ∀ reader, operation ≠ .next reader
  · rw [spelled_of_ne direct, toldAll_singleton, filterMap_told audience reader direct]
  · rw [not_forall_not] at direct
    rcases direct with ⟨changed, rfl⟩
    by_cases same : changed = reader
    · rw [same]
      cases spelling audience reader with
      | missing found spells =>
          rw [spells, told, step, found]
          simp [toldAll, Answer.event?]
      | once found kept spells =>
          rw [spells, toldAll_singleton, told_receive _ found, told_next found,
            nextEvent_of_le kept, filterMap_toList, reading?_reading, Option.bind_some]
      | twice found late spells =>
          have again := readers_set_self found ⟨audience.transcript.oldestKept⟩
          rw [spells, toldAll, toldAll_singleton, step_receive_of_late found late,
            told_receive _ found, told_receive _ again, told_next found,
            receiveEvent_of_capacity_lt late, nextEvent_of_capacity_lt late,
            nextEvent_of_le (length_unread_oldestKept _), List.filterMap_append, filterMap_toList,
            filterMap_toList, reading?_reading, reading?_reading, Option.bind_some,
            Option.bind_some, Reading.event?_lagged, Option.toList_none, List.nil_append]
    · have elsewhere : (Operation.next changed).reads reader = false := beq_eq_false_iff_ne.2 same
      rw [toldAll_spelled_of_ne same, told_eq_nil elsewhere]
      rfl

theorem run_spell (audience : Audience) (operations : List Operation) :
    audience.run (spell audience operations) = audience.run operations := by
  induction operations generalizing audience with
  | nil => rfl
  | cons operation rest ih => rw [spell, run_append, run_spelled, ih, run_cons]

theorem ne_next_of_mem_spell (mem : operation ∈ spell audience operations) :
    operation ≠ .next reader := by
  induction operations generalizing audience with
  | nil => cases mem
  | cons first rest ih =>
      rcases List.mem_append.1 mem with here | later
      · cases first with
        | next changed => simp [eq_receive_of_mem_spelled here]
        | _ =>
            rw [List.mem_singleton.1 here]
            simp
      · exact ih later

theorem published_spell (audience : Audience) (operations : List Operation) :
    published (spell audience operations) = published operations := by
  have whole := published_run audience (spell audience operations)
  rw [run_spell, published_run] at whole
  exact (List.append_cancel_left whole).symm

theorem delivered_eq (audience : Audience) (reader : Nat) (operations : List Operation) :
    audience.delivered reader operations =
      (audience.received reader (spell audience operations)).filterMap Reading.event? := by
  rw [delivered, received]
  induction operations generalizing audience with
  | nil => rfl
  | cons operation rest ih =>
      rw [spell, toldAll_append, List.filterMap_append, filterMap_told_spelled, run_spelled, ← ih,
        toldAll]

theorem received_spell (audience : Audience)
    (direct : ∀ operation ∈ operations, operation ≠ .next reader) :
    audience.received reader (spell audience operations) =
      audience.received reader operations := by
  rw [received, received]
  induction operations generalizing audience with
  | nil => rfl
  | cons operation rest ih =>
      have first := direct operation List.mem_cons_self
      rw [spell, toldAll_append, run_spelled,
        ih _ fun later mem => direct later (List.mem_cons_of_mem _ mem), toldAll]
      congr 1
      cases operation with
      | next changed =>
          have distinct : changed ≠ reader := fun same => first (congrArg Operation.next same)
          have elsewhere : (Operation.next changed).reads reader = false :=
            beq_eq_false_iff_ne.2 distinct
          rw [toldAll_spelled_of_ne distinct, told_eq_nil elsewhere]
      | _ => exact toldAll_singleton _ _ _

/-!
# A new reader
-/

def joined (audience : Audience) : Audience := (audience.step .subscribe).1

def newcomer (audience : Audience) : Nat := audience.readers.length

/-- The answers that the newcomer gets in the course of operations, with those that its stream
passes over. -/
def readings (audience : Audience) (operations : List Operation) : List Reading :=
  audience.joined.received audience.newcomer (spell audience.joined operations)

def gains (audience : Audience) (operations : List Operation) : List TranscriptEvent :=
  audience.joined.delivered audience.newcomer operations

def onReading (audience : Audience) (operations : List Operation) : Answer :=
  ((audience.joined.run operations).step (.receive audience.newcomer)).2

theorem at_joined (audience : Audience) :
    At audience.joined audience.newcomer audience.transcript.subscribe where
  found := List.getElem?_concat_length
  within := Nat.le_refl _

theorem unread_subscribe (transcript : Transcript) :
    unread transcript transcript.subscribe = [] :=
  List.drop_length

theorem accounts_readings (audience : Audience) (operations : List Operation) :
    ∃ blocks rest, List.Forall₂ Accounts (audience.readings operations) blocks ∧
      published operations = blocks.flatten ++ rest ∧
      audience.onReading operations = .reading (readingOf rest) := by
  rcases audience.at_joined.run fun operation mem => ne_next_of_mem_spell mem with
    ⟨blocks, later, place, accounts, split⟩
  rw [run_spell] at place split
  refine ⟨blocks, unread (audience.joined.run operations).transcript later, accounts, ?_, ?_⟩
  · have nothing : unread audience.joined.transcript audience.transcript.subscribe = [] :=
      unread_subscribe audience.transcript
    rw [nothing, published_spell, List.nil_append] at split
    exact split
  · rw [onReading, step_receive place.found, reading_eq]

/-!
# Counting and replaying
-/

variable {answers : List Reading} {blocks : List (List TranscriptEvent)}

theorem length_of_accounts (accounts : List.Forall₂ Accounts answers blocks) :
    (answers.filterMap Reading.event?).length + Reading.allMissed answers =
      blocks.flatten.length := by
  induction accounts with
  | nil => rfl
  | @cons reading block _ _ first _ ih =>
      rw [Reading.allMissed_cons, List.flatten_cons, List.length_append, ← ih]
      cases first with
      | event event =>
          have missed : (Reading.event event).missed = 0 := rfl
          rw [List.filterMap_cons_some Reading.event?_event, List.length_cons, missed,
            List.length_singleton]
          omega
      | lagged =>
          have number : (Reading.lagged block.length).missed = block.length := rfl
          rw [List.filterMap_cons_none (Reading.event?_lagged _), number]
          omega
      | empty =>
          have missed : Reading.empty.missed = 0 := rfl
          rw [List.filterMap_cons_none Reading.event?_empty, missed, List.length_nil, Nat.zero_add,
            Nat.zero_add]

theorem filterMap_of_accounts (accounts : List.Forall₂ Accounts answers blocks)
    (unmissed : ∀ number, .lagged number ∉ answers) :
    answers.filterMap Reading.event? = blocks.flatten := by
  induction accounts with
  | nil => rfl
  | @cons reading block _ _ first _ ih =>
      have later := ih fun number mem => unmissed number (List.mem_cons_of_mem _ mem)
      rw [List.flatten_cons, ← later]
      cases first with
      | event event => exact List.filterMap_cons_some Reading.event?_event
      | lagged missed => exact absurd List.mem_cons_self (unmissed _)
      | empty => exact List.filterMap_cons_none Reading.event?_empty

theorem eq_nil_of_readingOf {rest : List TranscriptEvent} (read : readingOf rest = .empty) :
    rest = [] := by
  cases rest with
  | nil => rfl
  | cons event later =>
      rw [readingOf] at read
      split at read
      · cases read
      · cases read

/-- What the newcomer to an audience learns in the course of operations. -/
structure Follows (audience : Audience) (operations : List Operation) : Prop where
  /-- The events that were published since it joined follow those before. -/
  published : (audience.joined.run operations).transcript.published =
    audience.transcript.published ++ published operations
  /-- Its readings bring or count, in order and each once, the events published since it joined, but
  for the rest that it has yet to read; and what it reads next depends on the rest alone. -/
  accounts : ∃ blocks rest, List.Forall₂ Accounts (audience.readings operations) blocks ∧
    Audience.published operations = blocks.flatten ++ rest ∧
    audience.onReading operations = .reading (readingOf rest)
  /-- Who has read everything got each event since it joined, or was told that it missed it. -/
  counted : audience.onReading operations = .reading .empty ->
    (audience.gains operations).length + Reading.allMissed (audience.readings operations) =
      (Audience.published operations).length
  /-- Who has read everything and missed nothing knows the text. -/
  rebuilt : audience.onReading operations = .reading .empty ->
    (∀ number, .lagged number ∉ audience.readings operations) ->
    TranscriptEvent.replay audience.transcript.text (audience.gains operations) =
      (audience.joined.run operations).transcript.text
  /-- Every operation but a clearing keeps the text. -/
  kept : ∀ operation, operation ≠ .clear ->
    ∃ more, ((audience.joined.run operations).step operation).1.transcript.text =
      (audience.joined.run operations).transcript.text ++ more
  /-- A stream brings the events of the readings, and leaves its reader where they do. -/
  streamed : audience.gains operations =
      (audience.readings operations).filterMap Reading.event? ∧
    audience.joined.run (spell audience.joined operations) = audience.joined.run operations
  /-- Without a stream the readings are the answers that the newcomer gets. -/
  direct : (∀ operation ∈ operations, operation ≠ .next audience.newcomer) ->
    audience.readings operations = audience.joined.received audience.newcomer operations

theorem gains_eq (audience : Audience) (operations : List Operation) :
    audience.gains operations = (audience.readings operations).filterMap Reading.event? :=
  delivered_eq audience.joined audience.newcomer operations

theorem flatten_of_read {rest : List TranscriptEvent}
    (split : published operations = blocks.flatten ++ rest)
    (next : audience.onReading operations = .reading (readingOf rest))
    (read : audience.onReading operations = .reading .empty) :
    blocks.flatten = published operations := by
  rw [read] at next
  have nothing := eq_nil_of_readingOf (Answer.reading.inj next).symm
  rw [split, nothing, List.append_nil]

theorem subscriber_follows (audience : Audience) (operations : List Operation) :
    Follows audience operations where
  published := published_run audience.joined operations
  accounts := audience.accounts_readings operations
  counted := by
    intro read
    rcases audience.accounts_readings operations with ⟨blocks, rest, accounts, split, next⟩
    rw [gains_eq, length_of_accounts accounts, flatten_of_read split next read]
  rebuilt := by
    intro read unmissed
    rcases audience.accounts_readings operations with ⟨blocks, rest, accounts, split, next⟩
    rw [gains_eq, filterMap_of_accounts accounts unmissed, flatten_of_read split next read]
    exact (text_run audience.joined operations).symm
  kept := fun operation => text_step_of_ne_clear _
  streamed := ⟨gains_eq audience operations, run_spell _ _⟩
  direct := fun direct => received_spell audience.joined direct

end Audience
end HangulConsole
