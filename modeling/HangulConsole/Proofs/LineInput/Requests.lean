import HangulConsole.LineInput.Basic

/-!
# Requests and their lines

What every operation does to the request that waits and to the submitted lines.
The control and the transcript do not matter here, so an operation that changes
nothing else leaves all requests where they are.
-/

namespace HangulConsole
namespace LineInput

variable {input after : LineInput} {request : Request} {number : Nat} {line : String}

/-!
# The answer to a request
-/

theorem answer?_append (eq : after.answers = input.answers ++ [(number, line)]) (other : Nat) :
    after.answer? other =
      (input.answer? other).or (if number = other then some line else none) := by
  rw [answer?, answer?, eq, List.find?_append, Option.map_or]
  by_cases same : number = other
  · simp [same]
  · simp [same]

theorem answer?_forget (input : LineInput) (number other : Nat) :
    (input.forget number).answer? other = if number = other then none else input.answer? other := by
  rw [answer?, forget]
  by_cases same : number = other
  · rw [if_pos same, Option.map_eq_none_iff, List.find?_eq_none]
    intro answer mem
    have kept := (List.mem_filter.1 mem).2
    simpa [same] using kept
  · rw [if_neg same, answer?, List.find?_filter]
    congr 2
    funext answer
    by_cases found : answer.1 = other
    · simp [found, Ne.symm same]
    · simp [found]

theorem answer?_forget_of_ne {other : Nat} (distinct : number ≠ other) :
    (input.forget number).answer? other = input.answer? other := by
  rw [answer?_forget, if_neg distinct]

theorem answer?_eq_none_of_lt (early : ∀ answer ∈ input.answers, answer.1 < number) :
    input.answer? number = none := by
  rw [answer?, Option.map_eq_none_iff, List.find?_eq_none]
  intro answer mem
  have less := early answer mem
  simp only [beq_iff_eq]
  omega

theorem mem_answers_of_mem_forget {answer : Nat × String}
    (mem : answer ∈ (input.forget number).answers) : answer ∈ input.answers :=
  (List.mem_filter.1 mem).1

theorem forget_eq_self (unanswered : input.answer? number = none) :
    input.forget number = input := by
  rw [answer?, Option.map_eq_none_iff, List.find?_eq_none] at unanswered
  have kept : input.answers.filter (fun answer => answer.1 != number) = input.answers := by
    rw [List.filter_eq_self]
    intro answer mem
    simpa using unanswered answer mem
  rw [forget, kept]

/-!
# The request that waits
-/

theorem waitsFor_iff :
    input.waitsFor number = true ↔
      ∃ request, input.waiting? = some request ∧ request.number = number := by
  rw [waitsFor, Option.any_eq_true]
  simp only [beq_iff_eq]

theorem waitsFor_eq_false_of_ne {other : Nat} (waits : input.waitsFor number = true)
    (distinct : number ≠ other) : input.waitsFor other = false := by
  rcases waitsFor_iff.1 waits with ⟨request, waiting, rfl⟩
  rw [Bool.eq_false_iff]
  intro again
  rcases waitsFor_iff.1 again with ⟨found, eq, same⟩
  rw [waiting] at eq
  cases eq
  exact distinct same

theorem waitsFor_of_idle (idle : input.waiting? = none) : input.waitsFor number = false := by
  simp [waitsFor, idle]

theorem waitsFor_forget (input : LineInput) (number other : Nat) :
    (input.forget number).waitsFor other = input.waitsFor other :=
  rfl

theorem isWaiting_of_waiting? (waits : input.waiting? = some request) : input.isWaiting = true := by
  simp [isWaiting, waits]

theorem isWaiting_of_idle (idle : input.waiting? = none) : input.isWaiting = false := by
  simp [isWaiting, idle]

/-!
# Operations of the host
-/

structure SameRequests (input after : LineInput) : Prop where
  waiting? : after.waiting? = input.waiting?
  answers : after.answers = input.answers
  nextNumber : after.nextNumber = input.nextNumber

namespace SameRequests

theorem refl (input : LineInput) : SameRequests input input :=
  ⟨rfl, rfl, rfl⟩

theorem type (input : LineInput) (text : String) : SameRequests input (input.type text) :=
  ⟨rfl, rfl, rfl⟩

theorem setContent (input : LineInput) (text : String) :
    SameRequests input (input.setContent text) :=
  ⟨rfl, rfl, rfl⟩

theorem answer? (same : SameRequests input after) (number : Nat) :
    after.answer? number = input.answer? number := by
  rw [LineInput.answer?, LineInput.answer?, same.answers]

theorem waitsFor (same : SameRequests input after) (number : Nat) :
    after.waitsFor number = input.waitsFor number := by
  rw [LineInput.waitsFor, LineInput.waitsFor, same.waiting?]

end SameRequests

structure Submitted (input : LineInput) (request : Request) (line : String)
    (after : LineInput) : Prop where
  before : input.waiting? = some request
  waiting? : after.waiting? = none
  answers : after.answers = input.answers ++ [(request.number, line)]
  nextNumber : after.nextNumber = input.nextNumber

namespace Submitted

theorem answer? (submitted : Submitted input request line after) (number : Nat) :
    after.answer? number =
      (input.answer? number).or (if request.number = number then some line else none) :=
  answer?_append submitted.answers number

theorem answer?_of_eq_some {other : String} (submitted : Submitted input request line after)
    (answered : input.answer? number = some other) : after.answer? number = some other := by
  rw [submitted.answer?, answered, Option.some_or]

end Submitted

theorem submit_of_idle (idle : input.waiting? = none) : input.submit = (input, false) := by
  rw [submit, idle]

theorem submit_eq_of_waiting? (waits : input.waiting? = some request) :
    input.submit =
      ({ input with
          transcript := input.transcript.appendLine input.control.content
          waiting? := none
          control := .idle
          answers := input.answers ++ [(request.number, input.control.content)]
          notices := input.notices + 1 }, true) := by
  rw [submit, waits]
  rfl

theorem submit_of_waiting? (waits : input.waiting? = some request) :
    Submitted input request input.control.content input.submit.1 ∧ input.submit.2 = true := by
  rw [submit, waits]
  exact ⟨⟨waits, rfl, rfl, rfl⟩, rfl⟩

theorem submitLine_of_idle (idle : input.waiting? = none) (text : String) :
    input.submitLine text = (input, false) := by
  rw [submitLine, isWaiting_of_idle idle]
  rfl

theorem submitLine_of_waiting? (waits : input.waiting? = some request) (text : String) :
    Submitted input request text (input.submitLine text).1 ∧ (input.submitLine text).2 = true := by
  rw [submitLine, isWaiting_of_waiting? waits, if_pos rfl]
  have placed : (input.setContent text).waiting? = some request := waits
  rcases submit_of_waiting? placed with ⟨submitted, done⟩
  exact ⟨⟨waits, submitted.waiting?, submitted.answers, submitted.nextNumber⟩, done⟩

theorem transcript_submit_of_waiting? (waits : input.waiting? = some request) :
    input.submit.1.transcript = input.transcript.appendLine input.control.content := by
  rw [submit, waits]

theorem transcript_submitLine_of_waiting? (waits : input.waiting? = some request) (text : String) :
    (input.submitLine text).1.transcript = input.transcript.appendLine text := by
  have placed : (input.setContent text).waiting? = some request := waits
  rw [submitLine, isWaiting_of_waiting? waits, if_pos rfl]
  exact transcript_submit_of_waiting? placed

/-!
# Operations of the guest
-/

structure Asked (input : LineInput) (prompt : String) (after : LineInput) : Prop where
  before : input.waiting? = none
  waiting? : after.waiting? = some ⟨input.nextNumber, prompt⟩
  answers : after.answers = input.answers
  nextNumber : after.nextNumber = input.nextNumber + 1

theorem ask_of_waiting? (waits : input.waiting? = some request) (prompt : String) :
    input.ask prompt =
      ({ input with nextNumber := input.nextNumber + 1 }, .closed, .refused .inputBusy) := by
  have busy := isWaiting_of_waiting? waits
  rw [ask]
  exact if_pos busy

theorem ask_of_idle (idle : input.waiting? = none) (prompt : String) :
    ∃ after, input.ask prompt = (after, .waiting input.nextNumber, .waiting) ∧
      Asked input prompt after := by
  have free : ¬ input.isWaiting = true := by rw [isWaiting_of_idle idle]; decide
  refine ⟨_, if_neg free, idle, rfl, rfl, rfl⟩

theorem ask_eq_of_idle (idle : input.waiting? = none) (prompt : String) :
    input.ask prompt =
      ({ input with
          transcript := input.transcript.appendRaw prompt
          waiting? := some ⟨input.nextNumber, prompt⟩
          control := { input.control with enabled := true, focused := true }
          nextNumber := input.nextNumber + 1
          notices := input.notices + 1 }, .waiting input.nextNumber, .waiting) := by
  have free : ¬ input.isWaiting = true := by rw [isWaiting_of_idle idle]; decide
  exact if_neg free

theorem transcript_ask_of_idle (idle : input.waiting? = none) (prompt : String) :
    (input.ask prompt).1.transcript = input.transcript.appendRaw prompt := by
  have free : ¬ input.isWaiting = true := by rw [isWaiting_of_idle idle]; decide
  have asks : input.ask prompt = (_, .waiting input.nextNumber, .waiting) := if_neg free
  rw [asks]
  rfl

theorem closed_of_answered {ticket : Ticket} (answered : (input.poll ticket).2.2 = .answered line) :
    (input.poll ticket).2.1 = .closed := by
  cases ticket with
  | closed => rfl
  | prepared prompt =>
      rw [poll, ask] at answered
      split at answered
      · cases answered
      · cases answered
  | waiting number =>
      rw [poll] at answered ⊢
      split at answered
      · rfl
      · split at answered
        · cases answered
        · cases answered

theorem poll_of_ne_closed (input : LineInput) {ticket : Ticket} (unfinished : ticket ≠ .closed) :
    (∃ number, (input.poll ticket).2 = (.waiting number, .waiting)) ∨
      (∃ line, (input.poll ticket).2 = (.closed, .answered line)) ∨
      ∃ failure, (input.poll ticket).2 = (.closed, .refused failure) := by
  cases ticket with
  | closed => exact absurd rfl unfinished
  | prepared prompt =>
      rw [poll, ask]
      split
      · exact Or.inr (Or.inr ⟨_, rfl⟩)
      · exact Or.inl ⟨_, rfl⟩
  | waiting number =>
      rw [poll]
      split
      · exact Or.inr (Or.inl ⟨_, rfl⟩)
      · split
        · exact Or.inl ⟨_, rfl⟩
        · exact Or.inr (Or.inr ⟨_, rfl⟩)

structure Withdrawn (input : LineInput) (number : Nat) (after : LineInput) : Prop where
  before : input.waitsFor number = true
  waiting? : after.waiting? = none
  answers : after.answers = (input.forget number).answers
  nextNumber : after.nextNumber = input.nextNumber

theorem abandon_eq_of_waitsFor (waits : input.waitsFor number = true) :
    input.abandon (.waiting number) =
      { input.forget number with
        waiting? := none
        control := { input.control with enabled := false, focused := false }
        notices := input.notices + 1 } := by
  have kept : (input.forget number).waitsFor number = true := waits
  exact if_pos kept

theorem abandon_of_waitsFor (waits : input.waitsFor number = true) :
    Withdrawn input number (input.abandon (.waiting number)) := by
  have kept : (input.forget number).waitsFor number = true := waits
  rw [abandon, if_pos kept]
  exact ⟨waits, rfl, rfl, rfl⟩

theorem abandon_of_not_waitsFor (ended : input.waitsFor number = false) :
    input.abandon (.waiting number) = input.forget number := by
  have kept : ¬ (input.forget number).waitsFor number = true := by
    rw [waitsFor_forget, ended]
    decide
  rw [abandon, if_neg kept]

end LineInput
end HangulConsole
