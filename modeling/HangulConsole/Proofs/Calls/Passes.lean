import HangulConsole.Proofs.Calls.Matcher

/-!
# The passes over one stretch

Each pass over a text copies what is in front of a call and treats the call.  On a
stretch and the parenthesis behind it a pass does one thing that only depends on the
stretch, and goes on behind the parenthesis as if the text began there.
-/

namespace HangulConsole
namespace Calls

open Text

variable {name text rest : List Char}

/-!
# Marking the calls of one name
-/

theorem markName_append_of_quiet (quiet : Quiet (callAt? name) text rest)
    (before : Option Char) :
    markName name before (text ++ rest) = text ++ markName name (text.getLast?.or before) rest := by
  induction text generalizing before with
  | nil => simp
  | cons c text ih =>
      have nothing : callAt? name (c :: (text ++ rest)) = none := quiet [] c text rfl
      rw [List.cons_append, markName]
      split
      · rename_i found
        rw [nothing] at found
        cases found
      · rw [ih quiet.tail]
        cases text <;> simp [List.getLast?_cons]

theorem markName_of_callAt? {call after : List Char} (before : Option Char)
    (found : callAt? name text = some (call, after)) :
    markName name before text =
      (if atBoundary before then marker ++ [' '] else []) ++ call ++
        markName name (some '(') after := by
  cases text with
  | nil =>
      have whole := eq_append_of_callAt? found
      have call_ne := ne_nil_of_callAt? found
      exact absurd (List.append_eq_nil_iff.1 whole.symm).1 call_ne
  | cons c text =>
      rw [markName]
      split
      · rename_i found'
        rw [found] at found'
        injection found' with same
        injection same with call_eq after_eq
        rw [call_eq, after_eq]
      · rename_i nothing
        rw [found] at nothing
        cases nothing

theorem atBoundary_getLast?_or {before : Option Char} (fresh : atBoundary before = true)
    (text : List Char) : atBoundary (text.getLast?.or before) = endsAtBoundary text.reverse := by
  rw [endsAtBoundary, List.head?_reverse]
  cases text.getLast? with
  | none => simpa using fresh
  | some c => simp [atBoundary]

def markStretch (names : List (List Char)) (text : List Char) : List Char :=
  if Stretch.word text ∈ names then
    Stretch.front text ++ (marker ++ [' '] ++ (Stretch.word text ++ Stretch.blanks text))
  else
    text

theorem markStretch_of_not_mem {names : List (List Char)} (other : Stretch.word text ∉ names) :
    markStretch names text = text :=
  if_neg other

theorem markStretch_of_nameAndBlanks {names : List (List Char)} {before body : List Char}
    (valid : isCallName name = true) (mem : name ∈ names) (shape : NameAndBlanks name body)
    (boundary : endsAtBoundary before.reverse = true) :
    markStretch names (before ++ body) = before ++ (marker ++ [' '] ++ body) := by
  rcases shape with ⟨more, blank, rfl⟩
  have parts := Stretch.parts_append valid blank boundary
  rw [List.append_assoc] at parts
  rw [markStretch, parts.1, parts.2.1, parts.2.2, if_pos mem]

theorem markName_stretch (valid : isCallName name = true) (closed : '(' ∉ text)
    {before : Option Char} (fresh : atBoundary before = true) :
    markName name before (text ++ '(' :: rest) =
      markStretch [name] text ++ '(' :: markName name (some '(') rest := by
  have matcher := matcher_callAt? valid
  by_cases ends : ∃ start body, NameAndBlanks name body ∧ text = start ++ body
  · rcases ends with ⟨start, body, shape, rfl⟩
    have found : callAt? name (body ++ '(' :: rest) = some (body ++ ['('], rest) :=
      (matcher.append_paren (Matcher.not_mem_of_eq_append closed rfl)).2 ⟨shape, rfl, rfl⟩
    rw [List.append_assoc, markName_append_of_quiet (matcher.quiet_before closed shape),
      markName_of_callAt? _ found, atBoundary_getLast?_or fresh]
    cases boundary : endsAtBoundary start.reverse with
    | true =>
        rw [markStretch_of_nameAndBlanks valid (List.mem_singleton_self name) shape boundary]
        simp
    | false =>
        have other : Stretch.word (start ++ body) ∉ [name] := by
          intro mem
          have word_eq := List.mem_singleton.1 mem
          have := (Stretch.endsAtBoundary_iff_of_nameAndBlanks valid shape).2 word_eq
          rw [boundary] at this
          exact Bool.noConfusion this
        rw [markStretch_of_not_mem other]
        simp
  · have none_ends : ∀ start body, text = start ++ body -> ¬NameAndBlanks name body :=
      fun start body text_eq shape => ends ⟨start, body, shape, text_eq⟩
    have other : Stretch.word text ∉ [name] := by
      intro mem
      obtain ⟨body, shape, text_eq⟩ :=
        Stretch.nameAndBlanks_of_word_eq (List.mem_singleton.1 mem)
      exact none_ends _ body text_eq shape
    have split : text ++ '(' :: rest = text ++ ['('] ++ rest := by simp
    rw [split, markName_append_of_quiet (matcher.quiet_of_forall closed none_ends),
      markStretch_of_not_mem other]
    simp

theorem markName_of_closed (valid : isCallName name = true) (closed : '(' ∉ text)
    (before : Option Char) : markName name before text = text := by
  have quiet := (matcher_callAt? valid).quiet_of_closed closed
  have copied := markName_append_of_quiet quiet before
  rw [List.append_nil, markName, List.append_nil] at copied
  exact copied

theorem markName_append_stop (valid : isCallName name = true) {x : Char} (stops : Stops x)
    (x_ne : x ≠ '(') (closed : '(' ∉ text) (before : Option Char) :
    markName name before (text ++ [x] ++ rest) = text ++ [x] ++ markName name (some x) rest := by
  rw [markName_append_of_quiet ((matcher_callAt? valid).quiet_of_stops stops x_ne closed)]
  simp

/-!
# Setting marked calls of one name aside
-/

variable {sentinel : Char} {aside : List (List Char)}

theorem setAside_append_of_quiet (sentinel : Char) (aside : List (List Char))
    (quiet : Quiet (markedCallAt? name) text rest) :
    setAside sentinel name aside (text ++ rest) =
      ((setAside sentinel name aside rest).1, text ++ (setAside sentinel name aside rest).2) := by
  induction text with
  | nil => simp
  | cons c text ih =>
      have nothing : markedCallAt? name (c :: (text ++ rest)) = none := quiet [] c text rfl
      rw [List.cons_append, setAside]
      split
      · rename_i found
        rw [nothing] at found
        cases found
      · rw [ih quiet.tail]
        rfl

theorem setAside_of_markedCallAt? {call after : List Char}
    (found : markedCallAt? name text = some (call, after)) :
    setAside sentinel name aside text =
      ((setAside sentinel name (aside ++ [call]) after).1,
        placeHolder sentinel aside.length ++
          (setAside sentinel name (aside ++ [call]) after).2) := by
  cases text with
  | nil =>
      have shorter := length_lt_of_markedCallAt? found
      exact absurd shorter (Nat.not_lt_zero _)
  | cons c text =>
      rw [setAside]
      split
      · rename_i found'
        rw [found] at found'
        injection found' with same
        injection same with call_eq after_eq
        rw [call_eq, after_eq]
      · rename_i nothing
        rw [found] at nothing
        cases nothing

theorem setAside_stretch_of_marked (valid : isCallName name = true) {outer body : List Char}
    (closed : '(' ∉ outer ++ body) (shape : MarkedNameAndBlanks name body) :
    setAside sentinel name aside (outer ++ body ++ '(' :: rest) =
      ((setAside sentinel name (aside ++ [body ++ ['(']]) rest).1,
        outer ++ (placeHolder sentinel aside.length ++
          (setAside sentinel name (aside ++ [body ++ ['(']]) rest).2)) := by
  have matcher := matcher_markedCallAt? valid
  have found : markedCallAt? name (body ++ '(' :: rest) = some (body ++ ['('], rest) :=
    (matcher.append_paren (Matcher.not_mem_of_eq_append closed rfl)).2 ⟨shape, rfl, rfl⟩
  rw [List.append_assoc, setAside_append_of_quiet _ _ (matcher.quiet_before closed shape),
    setAside_of_markedCallAt? found]

theorem setAside_stretch (valid : isCallName name = true) (closed : '(' ∉ text)
    (ends : ∀ start body, text = start ++ body -> ¬MarkedNameAndBlanks name body) :
    setAside sentinel name aside (text ++ '(' :: rest) =
      ((setAside sentinel name aside rest).1,
        text ++ '(' :: (setAside sentinel name aside rest).2) := by
  have split : text ++ '(' :: rest = text ++ ['('] ++ rest := by simp
  rw [split,
    setAside_append_of_quiet _ _ ((matcher_markedCallAt? valid).quiet_of_forall closed ends)]
  simp

theorem setAside_of_closed (valid : isCallName name = true) (closed : '(' ∉ text) :
    setAside sentinel name aside text = (aside, text) := by
  have quiet := (matcher_markedCallAt? valid).quiet_of_closed closed
  have copied := setAside_append_of_quiet sentinel aside quiet
  rw [List.append_nil, setAside, List.append_nil] at copied
  exact copied

theorem setAside_append_stop (valid : isCallName name = true) {x : Char} (stops : Stops x)
    (x_ne : x ≠ '(') (closed : '(' ∉ text) :
    setAside sentinel name aside (text ++ [x] ++ rest) =
      ((setAside sentinel name aside rest).1,
        text ++ [x] ++ (setAside sentinel name aside rest).2) :=
  setAside_append_of_quiet _ _ ((matcher_markedCallAt? valid).quiet_of_stops stops x_ne closed)

end Calls
end HangulConsole
