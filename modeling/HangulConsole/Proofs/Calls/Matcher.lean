import HangulConsole.Proofs.Calls.Stretch

/-!
# Looking for calls

Calls and marked calls are looked for in the same way, so what is said about either
is said once, for whatever is found by its body and the parenthesis behind it.
-/

namespace HangulConsole
namespace Calls

open Text

/-!
# Texts in which nothing begins
-/

/-- Nothing that `at?` looks for begins within the text, if `rest` stands behind it. -/
def Quiet {α : Type} (at? : List Char -> Option α) (text rest : List Char) : Prop :=
  ∀ start c stop, text = start ++ c :: stop -> at? (c :: stop ++ rest) = none

theorem Quiet.tail {α : Type} {at? : List Char -> Option α} {c : Char} {text rest : List Char}
    (quiet : Quiet at? (c :: text) rest) : Quiet at? text rest := by
  intro start d stop text_eq
  exact quiet (c :: start) d stop (by rw [text_eq, List.cons_append])

theorem exists_eq_of_append_singleton {α : Type} {text start stop : List α} {x c : α}
    (same : text ++ [x] = start ++ c :: stop) :
    ∃ body, c :: stop = body ++ [x] ∧ text = start ++ body := by
  cases List.eq_nil_or_concat (c :: stop) with
  | inl empty => exact absurd empty (List.cons_ne_nil c stop)
  | inr whole =>
      rcases whole with ⟨body, y, whole⟩
      rw [List.concat_eq_append] at whole
      rw [whole, ← List.append_assoc] at same
      rcases List.append_inj' same rfl with ⟨text_eq, last⟩
      injection last with last _
      exact ⟨body, by rw [whole, last], text_eq⟩

theorem quiet_append_singleton {α : Type} {at? : List Char -> Option α} {text rest : List Char}
    {x : Char} (quiet : ∀ start body, text = start ++ body -> at? (body ++ x :: rest) = none) :
    Quiet at? (text ++ [x]) rest := by
  intro start c stop same
  rcases exists_eq_of_append_singleton same with ⟨body, stop_eq, text_eq⟩
  rw [stop_eq, List.append_assoc, List.singleton_append]
  exact quiet start body text_eq

/-!
# Matchers
-/

/-- What `at?` finds at the start of a text is a body of the shape with a parenthesis behind it, and
a text ends in a body of the shape in at most one way. -/
structure Matcher (at? : List Char -> Option (List Char × List Char))
    (Shape : List Char -> Prop) : Prop where
  found_iff : ∀ {text call after},
    at? text = some (call, after) ↔
      ∃ body, Shape body ∧ call = body ++ ['('] ∧ text = call ++ after
  plain : ∀ {body}, Shape body -> Plain body
  ne_nil : ∀ {body}, Shape body -> body ≠ []
  unique : ∀ {before body before' body'}, Shape body -> Shape body' ->
    before ++ body = before' ++ body' -> before = before'

theorem matcher_callAt? {name : List Char} (valid : isCallName name = true) :
    Matcher (callAt? name) (NameAndBlanks name) where
  found_iff := callAt?_eq_some_iff
  plain := plain_of_nameAndBlanks valid
  ne_nil := by
    rintro _ ⟨blanks, _, rfl⟩
    simp [ne_nil_of_isCallName valid]
  unique := Stretch.before_unique valid

theorem matcher_markedCallAt? {name : List Char} (valid : isCallName name = true) :
    Matcher (markedCallAt? name) (MarkedNameAndBlanks name) where
  found_iff := markedCallAt?_eq_some_iff valid
  plain := plain_of_markedNameAndBlanks valid
  ne_nil := by
    rintro _ ⟨gap, rest, _, _, _, rfl⟩
    simp [marker]
  unique := Stretch.marked_before_unique valid

namespace Matcher

variable {at? : List Char -> Option (List Char × List Char)} {Shape : List Char -> Prop}
variable {text rest : List Char} {x : Char}

theorem append_paren (matcher : Matcher at? Shape) (closed : '(' ∉ text)
    {call after : List Char} :
    at? (text ++ '(' :: rest) = some (call, after) ↔
      Shape text ∧ call = text ++ ['('] ∧ after = rest := by
  rw [matcher.found_iff]
  constructor
  · rintro ⟨body, shape, rfl, whole⟩
    rw [List.append_assoc, List.singleton_append] at whole
    obtain ⟨rfl, _, rfl⟩ :=
      append_cons_inj_of_not_mem closed (stops_paren.not_mem (matcher.plain shape)) whole
    exact ⟨shape, rfl, rfl⟩
  · rintro ⟨shape, rfl, rfl⟩
    exact ⟨text, shape, rfl, by simp⟩

theorem append_stop (matcher : Matcher at? Shape) (stops : Stops x) (x_ne : x ≠ '(')
    (closed : '(' ∉ text) : at? (text ++ x :: rest) = none := by
  rw [Option.eq_none_iff_forall_ne_some]
  rintro ⟨call, after⟩ found
  rcases matcher.found_iff.1 found with ⟨body, shape, rfl, whole⟩
  rw [List.append_assoc, List.singleton_append] at whole
  exact x_ne
    (append_cons_inj_of_not_mem closed (stops.not_mem (matcher.plain shape)) whole).2.1

theorem eq_none_of_closed (matcher : Matcher at? Shape) (closed : '(' ∉ text) :
    at? text = none := by
  rw [Option.eq_none_iff_forall_ne_some]
  rintro ⟨call, after⟩ found
  rcases matcher.found_iff.1 found with ⟨body, _, rfl, rfl⟩
  exact closed (by simp)

theorem not_mem_of_eq_append {start body : List Char} (closed : '(' ∉ text)
    (text_eq : text = start ++ body) : '(' ∉ body := by
  intro mem
  exact closed (by rw [text_eq]; exact List.mem_append_right _ mem)

theorem quiet_of_closed (matcher : Matcher at? Shape) (closed : '(' ∉ text) :
    Quiet at? text [] := by
  intro start c stop text_eq
  rw [List.append_nil]
  exact matcher.eq_none_of_closed (not_mem_of_eq_append closed text_eq)

theorem quiet_of_stops (matcher : Matcher at? Shape) (stops : Stops x) (x_ne : x ≠ '(')
    (closed : '(' ∉ text) : Quiet at? (text ++ [x]) rest :=
  quiet_append_singleton fun _ _ text_eq =>
    matcher.append_stop stops x_ne (not_mem_of_eq_append closed text_eq)

theorem quiet_of_forall (matcher : Matcher at? Shape) (closed : '(' ∉ text)
    (ends : ∀ start body, text = start ++ body -> ¬Shape body) :
    Quiet at? (text ++ ['(']) rest := by
  refine quiet_append_singleton fun start body text_eq => ?_
  rw [Option.eq_none_iff_forall_ne_some]
  intro found found_eq
  exact ends start body text_eq
    ((matcher.append_paren (not_mem_of_eq_append closed text_eq)).1 found_eq).1

theorem quiet_before (matcher : Matcher at? Shape) {before body : List Char}
    (closed : '(' ∉ before ++ body) (shape : Shape body) :
    Quiet at? before (body ++ '(' :: rest) := by
  intro start c stop before_eq
  rw [Option.eq_none_iff_forall_ne_some]
  intro found found_eq
  have whole : before ++ body = start ++ (c :: stop ++ body) := by
    rw [before_eq, List.append_assoc]
  rw [← List.append_assoc] at found_eq
  have other := (matcher.append_paren (not_mem_of_eq_append closed whole)).1 found_eq
  have start_eq := matcher.unique shape other.1 whole
  rw [before_eq] at start_eq
  exact List.cons_ne_nil c stop (List.append_right_eq_self.1 start_eq)

end Matcher

end Calls
end HangulConsole
