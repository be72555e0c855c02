import HangulConsole.Proofs.LineInput.InFlight

/-!
# Delivery of lines

Any sequence of operations on a new line input hands every submitted line to the one
call whose request waited, and to no other call.  The operations of a sequence are
told apart by their places in it.
-/

namespace HangulConsole
namespace CallTable

open LineInput

/-- The state in which the operation at a place finds the table. -/
def before (operations : List Operation) (place : Nat) : CallTable :=
  empty.run (operations.take place)

def SubmitsAt (operations : List Operation) (place : Nat) (line : String) : Prop :=
  ∃ operation, operations[place]? = some operation ∧
    operation.line? (before operations place).input.control.content = some line ∧
    ((before operations place).step operation).2 = .done true

def PollsAt (operations : List Operation) (place slot : Nat) (progress : Progress) : Prop :=
  ∃ operation, operations[place]? = some operation ∧
    (operation = .poll slot ∨
      ∃ prompt, operation = .request prompt ∧ slot = (before operations place).slots.length) ∧
    ((before operations place).step operation).2 = .progress progress

/-- Nothing polls or drops the call in a slot between two places. -/
def Untouched (operations : List Operation) (slot place later : Nat) : Prop :=
  ∀ between operation, place < between -> between < later ->
    operations[between]? = some operation -> operation.touches slot = false

variable {operations : List Operation} {operation : Operation} {place later slot : Nat}
  {line : String} {progress : Progress}

theorem Untouched.succ (untouched : Untouched operations slot place later)
    (last : ∀ operation, operations[later]? = some operation -> operation.touches slot = false) :
    Untouched operations slot place (later + 1) := by
  intro between operation after earlier found
  rcases Nat.lt_succ_iff_lt_or_eq.1 earlier with inside | rfl
  · exact untouched between operation after inside found
  · exact last operation found

/-!
# From one place to the next
-/

theorem sound_before (operations : List Operation) (place : Nat) :
    (before operations place).Sound :=
  sound_empty.run _

theorem before_succ (found : operations[place]? = some operation) :
    before operations (place + 1) = ((before operations place).step operation).1 := by
  rw [before, before, List.take_add_one, found, run_append]
  rfl

theorem before_succ_of_none (ended : operations[place]? = none) :
    before operations (place + 1) = before operations place := by
  rw [before, before, List.take_add_one, ended]
  simp

theorem stepEffect_at (found : operations[place]? = some operation) :
    StepEffect (before operations place) operation (before operations (place + 1))
      ((before operations place).step operation).2 := by
  rw [before_succ found]
  exact stepEffect _ operation

theorem PollsAt.effect (polls : PollsAt operations place slot progress) :
    ∃ table : CallTable, table.Sound ∧
      PollEffect table slot (before operations (place + 1)) progress ∧
      (∀ line, table.Ready slot line -> (before operations place).Ready slot line) ∧
      ((before operations place).Over slot -> table.Over slot) := by
  rcases polls with ⟨operation, found, polled | ⟨prompt, requested, rfl⟩, outcome⟩
  · have effect := stepEffect_at found
    rw [outcome, polled] at effect
    cases effect with
    | poll effect => exact ⟨_, sound_before operations place, effect, fun _ ready => ready, id⟩
    | host hosts _ => cases hosts
  · have effect := stepEffect_at found
    rw [outcome, requested] at effect
    cases effect with
    | request effect =>
        refine ⟨_, (sound_before operations place).created prompt, effect, ?_, ?_⟩
        · rintro line ⟨number, held, answered⟩
          exact ⟨number, holds_append_prepared held, answered⟩
        · intro ended
          exact ended.created prompt
    | host hosts _ => cases hosts

/-!
# Over any number of places
-/

theorem carried (property : CallTable -> Prop) (le : place ≤ later)
    (kept : ∀ between operation, place ≤ between -> between < later ->
      operations[between]? = some operation -> property (before operations between) ->
      property (before operations (between + 1)))
    (holds : property (before operations place)) : property (before operations later) := by
  induction le with
  | refl => exact holds
  | @step last le ih =>
      have earlier := ih fun between operation le less =>
        kept between operation le (Nat.lt_succ_of_lt less)
      cases found : operations[last]? with
      | none =>
          rw [before_succ_of_none found]
          exact earlier
      | some operation => exact kept last operation le (Nat.lt_succ_self last) found earlier

theorem ready_carried (less : place < later) (untouched : Untouched operations slot place later)
    (ready : (before operations (place + 1)).Ready slot line) :
    (before operations later).Ready slot line := by
  refine carried (fun table => table.Ready slot line) less ?_ ready
  intro between operation le before found ready
  exact (sound_before operations between).ready_of_step (stepEffect_at found)
    (untouched between operation le before found) ready

theorem served_carried (le : place ≤ later) (served : (before operations place).Served slot) :
    (before operations later).Served slot := by
  refine carried (fun table => table.Served slot) le ?_ served
  intro between operation _ _ found served
  exact (sound_before operations between).served_of_step (stepEffect_at found) served

theorem over_carried (le : place ≤ later) (ended : (before operations place).Over slot) :
    (before operations later).Over slot := by
  refine carried (fun table => table.Over slot) le ?_ ended
  intro between operation _ _ found ended
  exact ended.of_step (stepEffect_at found)

/-!
# Submissions
-/

theorem SubmitsAt.waits (submits : SubmitsAt operations place line) :
    ∃ slot, (before operations place).Waits slot ∧
      (before operations (place + 1)).Ready slot line := by
  rcases submits with ⟨operation, found, content, done⟩
  have effect := stepEffect_at found
  rw [done] at effect
  exact (sound_before operations place).submission effect content

theorem SubmitsAt.ready (submits : SubmitsAt operations place line)
    (waits : (before operations place).Waits slot) :
    (before operations (place + 1)).Ready slot line := by
  rcases submits.waits with ⟨other, again, ready⟩
  rw [(sound_before operations place).waits_unique waits again]
  exact ready

theorem SubmitsAt.not_waits (submits : SubmitsAt operations place line)
    (waits : (before operations place).Waits slot) (less : place < later) :
    ¬ (before operations later).Waits slot := by
  have served := served_carried less (Or.inl ⟨line, submits.ready waits⟩)
  exact (sound_before operations later).not_waits_of_served served

theorem SubmitsAt.place_eq {other : Nat} {otherLine : String}
    (submits : SubmitsAt operations place line) (waits : (before operations place).Waits slot)
    (again : SubmitsAt operations other otherLine)
    (waitsAgain : (before operations other).Waits slot) : place = other := by
  rcases Nat.lt_trichotomy place other with less | same | more
  · exact absurd waitsAgain (submits.not_waits waits less)
  · exact same
  · exact absurd waits (again.not_waits waitsAgain more)

/-!
# Deliveries
-/

theorem pollsAt_of_ready (ready : (before operations place).Ready slot line)
    (polls : operations[place]? = some (.poll slot)) :
    PollsAt operations place slot (.answered line) := by
  refine ⟨_, polls, Or.inl rfl, ?_⟩
  have effect := (before operations place).pollEffect slot
  have progress := (ready.polled effect).1
  exact congrArg Outcome.progress progress

theorem submitsAt_of_ready (ready : (before operations later).Ready slot line) :
    ∃ place, place < later ∧ SubmitsAt operations place line ∧
      (before operations place).Waits slot ∧ Untouched operations slot place later := by
  induction later with
  | zero =>
      rcases ready with ⟨number, held, _⟩
      simp [before, Holds, empty] at held
  | succ last ih =>
      cases found : operations[last]? with
      | none =>
          rw [before_succ_of_none found] at ready
          rcases ih ready with ⟨place, less, submits, waits, untouched⟩
          refine ⟨place, Nat.lt_succ_of_lt less, submits, waits, untouched.succ ?_⟩
          intro operation there
          rw [found] at there
          cases there
      | some operation =>
          have sound := sound_before operations last
          rcases sound.ready_before (stepEffect_at found) ready with ⟨elsewhere, source⟩
          rcases source with earlier | ⟨waits, content, done⟩
          · rcases ih earlier with ⟨place, less, submits, waits, untouched⟩
            refine ⟨place, Nat.lt_succ_of_lt less, submits, waits, untouched.succ ?_⟩
            intro other there
            rw [found] at there
            cases there
            exact elsewhere
          · refine ⟨last, Nat.lt_succ_self last, ⟨operation, found, content, done⟩, waits, ?_⟩
            intro between other after before there
            omega

theorem SubmitsAt.delivered_or (submits : SubmitsAt operations place line)
    (waits : (before operations place).Waits slot) (less : place < later) :
    (∃ between, place < between ∧ between < later ∧
        PollsAt operations between slot (.answered line)) ∨
      (∃ between, place < between ∧ between < later ∧
        operations[between]? = some (.drop slot)) ∨
      Untouched operations slot place later := by
  induction less with
  | refl =>
      refine Or.inr (Or.inr ?_)
      intro between operation after before _
      omega
  | @step last less ih =>
      rcases ih with ⟨between, after, before, polls⟩ | ⟨between, after, before, drops⟩ | untouched
      · exact Or.inl ⟨between, after, Nat.lt_succ_of_lt before, polls⟩
      · exact Or.inr (Or.inl ⟨between, after, Nat.lt_succ_of_lt before, drops⟩)
      · by_cases polls : operations[last]? = some (.poll slot)
        · have ready := ready_carried less untouched (submits.ready waits)
          exact Or.inl ⟨last, less, Nat.lt_succ_self last, pollsAt_of_ready ready polls⟩
        · by_cases drops : operations[last]? = some (.drop slot)
          · exact Or.inr (Or.inl ⟨last, less, Nat.lt_succ_self last, drops⟩)
          · refine Or.inr (Or.inr (untouched.succ ?_))
            intro operation found
            cases operation with
            | poll other =>
                rw [Operation.touches, beq_eq_false_iff_ne]
                rintro rfl
                exact polls found
            | drop other =>
                rw [Operation.touches, beq_eq_false_iff_ne]
                rintro rfl
                exact drops found
            | _ => rfl

theorem PollsAt.ended (polls : PollsAt operations place slot progress)
    (result : isResult progress = true) : (before operations (place + 1)).Over slot := by
  rcases polls.effect with ⟨table, _, effect, _, _⟩
  exact over_of_result effect result

theorem PollsAt.not_over (polls : PollsAt operations place slot progress)
    (result : isResult progress = true) : ¬ (before operations place).Over slot := by
  intro ended
  rcases polls.effect with ⟨table, _, effect, _, same⟩
  rw [(same ended).polled effect] at result
  cases result

theorem PollsAt.place_eq {other : Nat} {otherProgress : Progress}
    (polls : PollsAt operations place slot progress) (result : isResult progress = true)
    (again : PollsAt operations other slot otherProgress)
    (resultAgain : isResult otherProgress = true) : place = other := by
  rcases Nat.lt_trichotomy place other with less | same | more
  · exact absurd (over_carried less (polls.ended result)) (again.not_over resultAgain)
  · exact same
  · exact absurd (over_carried more (again.ended resultAgain)) (polls.not_over result)

theorem PollsAt.ready (polls : PollsAt operations place slot (.answered line)) :
    (before operations place).Ready slot line := by
  rcases polls.effect with ⟨table, _, effect, same, _⟩
  exact same line (ready_of_answered effect)

theorem not_abandonedAt (polls : PollsAt operations place slot (.refused .inputAbandoned)) :
    False := by
  rcases polls.effect with ⟨table, sound, effect, _, _⟩
  have busy := (sound.busy_of_refused effect).1
  cases busy

/-!
# The whole sequence
-/

def Operation.isSubmission : Operation -> Bool
  | .submit | .submitLine _ | .press _ => true
  | _ => false

theorem submitsAt_of_done (found : operations[place]? = some operation)
    (submission : operation.isSubmission = true)
    (done : ((before operations place).step operation).2 = .done true) :
    ∃ line, SubmitsAt operations place line := by
  cases operation with
  | submit => exact ⟨_, .submit, found, rfl, done⟩
  | submitLine text => exact ⟨_, .submitLine text, found, rfl, done⟩
  | press key =>
      cases key with
      | enter => exact ⟨_, .press .enter, found, rfl, done⟩
      | other => cases done
  | _ => cases submission

/-- No submitted line is lost, duplicated or given to the wrong call. -/
structure Faithful (operations : List Operation) : Prop where
  /-- A submission with effect submits the text in the control, or the one that comes with it. -/
  submits : ∀ {place operation}, operations[place]? = some operation ->
    operation.isSubmission = true -> ((before operations place).step operation).2 = .done true ->
    ∃ line, SubmitsAt operations place line
  /-- It belongs to exactly one call, the one that waits at that moment. -/
  owner : ∀ {place line}, SubmitsAt operations place line ->
    ∃ slot, (before operations place).Waits slot ∧
      ∀ other, (before operations place).Waits other -> other = slot
  /-- The first step of that call afterwards returns the line. -/
  delivered : ∀ {place later slot line}, SubmitsAt operations place line ->
    (before operations place).Waits slot -> place < later ->
    Untouched operations slot place later -> operations[later]? = some (.poll slot) ->
    PollsAt operations later slot (.answered line)
  /-- No other call returns it, and no other step of that call. -/
  source : ∀ {later slot line}, PollsAt operations later slot (.answered line) ->
    ∃ place, place < later ∧ SubmitsAt operations place line ∧
      (before operations place).Waits slot ∧ Untouched operations slot place later
  /-- Two submissions never belong to the same call. -/
  place_eq : ∀ {place other slot line otherLine}, SubmitsAt operations place line ->
    SubmitsAt operations other otherLine -> (before operations place).Waits slot ->
    (before operations other).Waits slot -> place = other
  /-- A call has at most one result. -/
  one_result : ∀ {place other slot progress otherProgress},
    PollsAt operations place slot progress -> isResult progress = true ->
    PollsAt operations other slot otherProgress -> isResult otherProgress = true ->
    place = other
  /-- A line is undelivered only while its call was left alone, or because it was dropped. -/
  undelivered : ∀ {place later slot line}, SubmitsAt operations place line ->
    (before operations place).Waits slot -> place < later ->
    (∀ between, place < between -> between < later ->
      ¬ PollsAt operations between slot (.answered line)) ->
    (∃ between, place < between ∧ between < later ∧ operations[between]? = some (.drop slot)) ∨
      Untouched operations slot place later
  /-- No call fails because its request was lost. -/
  not_abandoned : ∀ {place slot}, ¬ PollsAt operations place slot (.refused .inputAbandoned)

theorem faithful (operations : List Operation) : Faithful operations where
  submits := submitsAt_of_done
  owner := by
    intro place line submits
    rcases submits.waits with ⟨slot, waits, _⟩
    exact ⟨slot, waits, fun other again =>
      (sound_before operations place).waits_unique again waits⟩
  delivered := by
    intro place later slot line submits waits less untouched polls
    exact pollsAt_of_ready (ready_carried less untouched (submits.ready waits)) polls
  source := by
    intro later slot line polls
    exact submitsAt_of_ready polls.ready
  place_eq := by
    intro place other slot line otherLine submits again waits waitsAgain
    exact submits.place_eq waits again waitsAgain
  one_result := by
    intro place other slot progress otherProgress polls result again resultAgain
    exact polls.place_eq result again resultAgain
  undelivered := by
    intro place later slot line submits waits less undelivered
    rcases submits.delivered_or waits less with ⟨between, after, before, polls⟩ | rest
    · exact absurd polls (undelivered between after before)
    · exact rest
  not_abandoned := not_abandonedAt

end CallTable
end HangulConsole
