import HangulConsole.Proofs.Calls.Passes

/-!
# Marking stretch by stretch in one pass

The single pass over a source decides each place from what stands on both sides of
it.  In a stretch only the place in front of the last word can want the marker, so
the single pass, too, does one thing with each stretch.
-/

namespace HangulConsole
namespace Calls

open Text

variable {text rest : List Char}

/-- What stands in front begins afresh: it is nothing, or it ends in a parenthesis. -/
def Fresh (before : List Char) : Prop :=
  ∀ c ∈ before.head?, c = '('

theorem fresh_nil : Fresh [] := by
  intro c mem
  cases mem

theorem fresh_cons (before : List Char) : Fresh ('(' :: before) := by
  intro c mem
  exact (Option.some.inj mem).symm

theorem endsAtBoundary_append {before : List Char} (fresh : Fresh before) (text : List Char) :
    endsAtBoundary (text ++ before) = endsAtBoundary text := by
  cases text with
  | cons c text => rfl
  | nil =>
      cases before with
      | nil => rfl
      | cons c before =>
          rw [fresh c rfl]
          simp [endsAtBoundary]

theorem dropStart?_append_isSome {start : List Char} {x : Char} (outside : x ∉ start)
    (text rest : List Char) :
    (dropStart? start (text ++ x :: rest)).isSome = (dropStart? start text).isSome := by
  induction start generalizing text with
  | nil => rfl
  | cons s start ih =>
      have x_ne : s ≠ x := fun same => outside (by simp [same])
      have outside' : x ∉ start := fun mem => outside (List.mem_cons_of_mem s mem)
      cases text with
      | nil => simp [dropStart?, x_ne]
      | cons c text =>
          by_cases same : s = c
          · simp only [List.cons_append, dropStart?, if_pos same]
            exact ih outside' text
          · simp [dropStart?, same]

theorem cut_append_paren (text before : List Char) :
    (text ++ '(' :: before).takeWhile isBlank = text.takeWhile isBlank ∧
      dropBlanks (text ++ '(' :: before) = dropBlanks text ++ '(' :: before := by
  induction text with
  | nil => simp [dropBlanks]
  | cons c text ih =>
      rw [dropBlanks] at ih
      cases blank : isBlank c with
      | true => simpa [dropBlanks, blank] using ih
      | false => simp [dropBlanks, blank]

theorem endsMarked_append {before : List Char} (fresh : Fresh before) (text : List Char) :
    endsMarked (text ++ before) = endsMarked text := by
  cases before with
  | nil => rw [List.append_nil]
  | cons c before =>
      rw [fresh c rfl]
      have cut := cut_append_paren text before
      have outside : '(' ∉ marker.reverse := by decide
      rw [endsMarked, endsMarked, cut.1, cut.2, dropStart?_append_isSome outside]

variable {names : List (List Char)} {before : List Char}

theorem startsCall_stretch (valid : ∀ name ∈ names, isCallName name = true)
    (closed : '(' ∉ text) :
    startsCall names (text ++ '(' :: rest) = true ↔ ∃ name ∈ names, NameAndBlanks name text := by
  rw [startsCall, List.any_eq_true]
  constructor
  · rintro ⟨name, mem, found⟩
    rcases Option.isSome_iff_exists.1 found with ⟨⟨call, after⟩, found⟩
    exact ⟨name, mem, (((matcher_callAt? (valid name mem)).append_paren closed).1 found).1⟩
  · rintro ⟨name, mem, shape⟩
    refine ⟨name, mem, Option.isSome_iff_exists.2 ⟨(text ++ ['('], rest), ?_⟩⟩
    exact ((matcher_callAt? (valid name mem)).append_paren closed).2 ⟨shape, rfl, rfl⟩

theorem wantsMarker_stretch (rest : List Char) (valid : ∀ name ∈ names, isCallName name = true)
    {start body : List Char} (closed : '(' ∉ start ++ body) (fresh : Fresh before) :
    wantsMarker names (start.reverse ++ before) (body ++ '(' :: rest) = true ↔
      start = Stretch.front (start ++ body) ∧ Stretch.word (start ++ body) ∈ names ∧
        endsMarked start.reverse = false := by
  have closed' := Matcher.not_mem_of_eq_append closed rfl
  rw [wantsMarker, endsAtBoundary_append fresh, endsMarked_append fresh, Bool.and_eq_true,
    Bool.and_eq_true, startsCall_stretch valid closed', Bool.not_eq_true']
  constructor
  · rintro ⟨⟨⟨name, mem, shape⟩, boundary⟩, unmarked⟩
    rcases shape with ⟨more, blank, rfl⟩
    have parts := Stretch.parts_append (valid name mem) blank boundary
    rw [List.append_assoc] at parts
    exact ⟨parts.1.symm, by rw [parts.2.1]; exact mem, unmarked⟩
  · rintro ⟨start_eq, mem, unmarked⟩
    refine ⟨⟨⟨_, mem, Stretch.blanks (start ++ body), Stretch.allBlank_blanks _, ?_⟩, ?_⟩,
      unmarked⟩
    · have whole := Stretch.front_word_blanks (start ++ body)
      rw [← start_eq, List.append_assoc] at whole
      exact (List.append_cancel_left whole).symm
    · rw [start_eq]
      exact Stretch.endsAtBoundary_front _

theorem markOnceFrom_append (unwanted : ∀ start c stop, text = start ++ c :: stop ->
      wantsMarker names (start.reverse ++ before) (c :: stop ++ rest) = false) :
    markOnceFrom names before (text ++ rest) =
      text ++ markOnceFrom names (text.reverse ++ before) rest := by
  induction text generalizing before with
  | nil => rfl
  | cons c text ih =>
      have here : wantsMarker names before (c :: (text ++ rest)) = false := unwanted [] c text rfl
      rw [List.cons_append, markOnceFrom, here, ih]
      · simp
      · intro start d stop text_eq
        have there := unwanted (c :: start) d stop (by rw [text_eq, List.cons_append])
        simpa using there

theorem wantsMarker_of_ne (rest : List Char) (valid : ∀ name ∈ names, isCallName name = true)
    {start body : List Char} (closed : '(' ∉ start ++ body) (fresh : Fresh before)
    (other : start ≠ Stretch.front (start ++ body)) :
    wantsMarker names (start.reverse ++ before) (body ++ '(' :: rest) = false := by
  rw [Bool.eq_false_iff]
  intro wanted
  exact other ((wantsMarker_stretch rest valid closed fresh).1 wanted).1

theorem word_ne_nil_of_mem (valid : ∀ name ∈ names, isCallName name = true)
    (mem : Stretch.word text ∈ names) : Stretch.word text ≠ [] :=
  ne_nil_of_isCallName (valid _ mem)

theorem markOnceFrom_stretch_of_unwanted (valid : ∀ name ∈ names, isCallName name = true)
    (closed : '(' ∉ text) (fresh : Fresh before)
    (unwanted : Stretch.word text ∈ names -> endsMarked (Stretch.front text).reverse = true) :
    markOnceFrom names before (text ++ '(' :: rest) =
      text ++ '(' :: markOnceFrom names ('(' :: (text.reverse ++ before)) rest := by
  have split : text ++ '(' :: rest = text ++ ['('] ++ rest := by simp
  rw [split, markOnceFrom_append]
  · simp
  · intro start c stop text_eq
    rcases exists_eq_of_append_singleton text_eq with ⟨body, stop_eq, rfl⟩
    rw [stop_eq, List.append_assoc, List.singleton_append, Bool.eq_false_iff]
    intro wanted
    rcases (wantsMarker_stretch rest valid closed fresh).1 wanted with ⟨start_eq, mem, unmarked⟩
    rw [start_eq, unwanted mem] at unmarked
    exact Bool.noConfusion unmarked

theorem markOnceFrom_stretch_of_wanted (valid : ∀ name ∈ names, isCallName name = true)
    (closed : '(' ∉ text) (fresh : Fresh before) (mem : Stretch.word text ∈ names)
    (unmarked : endsMarked (Stretch.front text).reverse = false) :
    markOnceFrom names before (text ++ '(' :: rest) =
      markStretch names text ++
        '(' :: markOnceFrom names ('(' :: (text.reverse ++ before)) rest := by
  rcases List.exists_cons_of_ne_nil (word_ne_nil_of_mem valid mem) with ⟨c, word, word_eq⟩
  have text_eq := Stretch.front_word_blanks text
  rw [word_eq, List.append_assoc] at text_eq
  generalize front_eq : Stretch.front text = front at text_eq unmarked
  generalize blanks_eq : Stretch.blanks text = blanks at text_eq
  have split : text ++ '(' :: rest = front ++ (c :: (word ++ blanks ++ ['('] ++ rest)) := by
    rw [← text_eq]
    simp
  have wanted : wantsMarker names (front.reverse ++ before)
      (c :: (word ++ blanks ++ ['('] ++ rest)) = true := by
    have closed' : '(' ∉ front ++ (c :: word ++ blanks) := by
      rw [text_eq]
      exact closed
    have place := (wantsMarker_stretch rest valid closed' fresh).2
    rw [text_eq] at place
    have here := place ⟨front_eq.symm, mem, unmarked⟩
    simpa using here
  rw [split, markOnceFrom_append, markOnceFrom, wanted, markOnceFrom_append]
  · rw [markStretch, if_pos mem, word_eq, front_eq, blanks_eq, ← text_eq]
    simp
  · intro start d stop word_blanks
    rcases exists_eq_of_append_singleton word_blanks with ⟨body, stop_eq, rest_eq⟩
    have whole : front ++ c :: start ++ body = text := by
      rw [← text_eq, List.cons_append, rest_eq]
      simp
    have unwanted := wantsMarker_of_ne rest valid (by rw [whole]; exact closed) fresh
      (by rw [whole, front_eq]; simp)
    rw [stop_eq]
    simpa using unwanted
  · intro start d stop start_eq
    have whole : start ++ (d :: stop ++ (c :: word ++ blanks)) = text := by
      rw [← text_eq, start_eq]
      simp
    have unwanted := wantsMarker_of_ne rest valid (by rw [whole]; exact closed) fresh
      (by rw [whole, front_eq, start_eq]; simp)
    simpa using unwanted

theorem markOnceFrom_stretch (valid : ∀ name ∈ names, isCallName name = true)
    (closed : '(' ∉ text) (fresh : Fresh before) :
    markOnceFrom names before (text ++ '(' :: rest) =
      (if endsMarked (Stretch.front text).reverse then text else markStretch names text) ++
        '(' :: markOnceFrom names ('(' :: (text.reverse ++ before)) rest := by
  cases marked : endsMarked (Stretch.front text).reverse with
  | true => exact markOnceFrom_stretch_of_unwanted valid closed fresh fun _ => marked
  | false =>
      by_cases mem : Stretch.word text ∈ names
      · exact markOnceFrom_stretch_of_wanted valid closed fresh mem marked
      · rw [markStretch_of_not_mem mem]
        exact markOnceFrom_stretch_of_unwanted valid closed fresh fun mem' => absurd mem' mem

theorem markOnceFrom_of_closed (valid : ∀ name ∈ names, isCallName name = true)
    (closed : '(' ∉ text) (before : List Char) : markOnceFrom names before text = text := by
  have unwanted : ∀ start c stop, text = start ++ c :: stop ->
      wantsMarker names (start.reverse ++ before) (c :: stop ++ []) = false := by
    intro start c stop text_eq
    have quiet : startsCall names (c :: stop ++ []) = false := by
      rw [List.append_nil, startsCall, List.any_eq_false]
      intro name mem
      rw [(matcher_callAt? (valid name mem)).eq_none_of_closed
        (Matcher.not_mem_of_eq_append closed text_eq)]
      simp
    rw [wantsMarker, quiet]
    rfl
  have copied := markOnceFrom_append unwanted
  rw [List.append_nil, markOnceFrom, List.append_nil] at copied
  exact copied

theorem markOnceFrom_congr {before' : List Char} (fresh : Fresh before) (fresh' : Fresh before')
    (text : List Char) :
    markOnceFrom names before text = markOnceFrom names before' text := by
  have same (start : List Char) : markOnceFrom names (start ++ before) text =
      markOnceFrom names (start ++ before') text := by
    induction text generalizing start with
    | nil => rfl
    | cons c text ih =>
        have wants : wantsMarker names (start ++ before) (c :: text) =
            wantsMarker names (start ++ before') (c :: text) := by
          rw [wantsMarker, wantsMarker, endsAtBoundary_append fresh, endsAtBoundary_append fresh',
            endsMarked_append fresh, endsMarked_append fresh']
        rw [markOnceFrom, markOnceFrom, wants]
        have rest := ih (c :: start)
        rw [List.cons_append, List.cons_append] at rest
        rw [rest]
  exact same []

/-!
# What the single pass leaves alone
-/

theorem markOnceFrom_append_marked (valid : ∀ name ∈ names, isCallName name = true)
    {name body : List Char} (mem : name ∈ names) (shape : MarkedNameAndBlanks name body)
    (source rest : List Char) :
    ∀ before, Fresh before ->
      markOnceFrom names before (source ++ (body ++ '(' :: rest)) =
        markOnceFrom names before source ++ (body ++ '(' :: markOnce names rest) := by
  induction source using stretch_induction with
  | tail text closed =>
      intro before fresh
      have body_closed := stops_paren.not_mem (plain_of_markedNameAndBlanks (valid name mem) shape)
      have closed' : '(' ∉ text ++ body := by simp [closed, body_closed]
      have marked := Stretch.word_eq_of_markedNameAndBlanks text (valid name mem) shape
      rw [← List.append_assoc,
        markOnceFrom_stretch_of_unwanted valid closed' fresh fun _ => marked.2,
        markOnceFrom_of_closed valid closed, markOnce,
        markOnceFrom_congr (fresh_cons _) fresh_nil]
      simp
  | cons text others closed ih =>
      intro before fresh
      have whole : text ++ '(' :: others ++ (body ++ '(' :: rest) =
          text ++ '(' :: (others ++ (body ++ '(' :: rest)) := by simp
      rw [whole, markOnceFrom_stretch valid closed fresh, markOnceFrom_stretch valid closed fresh,
        ih _ (fresh_cons _)]
      simp

/-!
# Where the marker belongs
-/

/-- A call of one of the names begins behind `before`, stands on its own and is not marked yet. -/
structure WantsMarker (names : List (List Char)) (before text : List Char) : Prop where
  call : ∃ name ∈ names, ∃ blanks rest, AllBlank blanks ∧ text = name ++ blanks ++ '(' :: rest
  boundary : ∀ c, before.getLast? = some c -> isIdentifierChar c = false
  unmarked : ¬∃ outer gap, gap ≠ [] ∧ AllBlank gap ∧ before = outer ++ marker ++ gap

theorem startsCall_iff :
    startsCall names text = true ↔
      ∃ name ∈ names, ∃ blanks rest, AllBlank blanks ∧ text = name ++ blanks ++ '(' :: rest := by
  rw [startsCall, List.any_eq_true]
  constructor
  · rintro ⟨name, mem, found⟩
    rcases Option.isSome_iff_exists.1 found with ⟨⟨call, after⟩, found⟩
    rcases callAt?_eq_some_iff.1 found with ⟨_, ⟨blanks, blank, rfl⟩, rfl, rfl⟩
    exact ⟨name, mem, blanks, after, blank, by simp⟩
  · rintro ⟨name, mem, blanks, rest, blank, rfl⟩
    refine ⟨name, mem, Option.isSome_iff_exists.2 ⟨(name ++ blanks ++ ['('], rest), ?_⟩⟩
    exact callAt?_eq_some_iff.2 ⟨_, ⟨blanks, blank, rfl⟩, rfl, by simp⟩

theorem endsAtBoundary_iff :
    endsAtBoundary before.reverse = true ↔
      ∀ c, before.getLast? = some c -> isIdentifierChar c = false := by
  rw [endsAtBoundary, List.head?_reverse]
  cases before.getLast? with
  | none => simp
  | some c => simp

theorem wantsMarker_iff :
    wantsMarker names before.reverse text = true ↔ WantsMarker names before text := by
  rw [wantsMarker, Bool.and_eq_true, Bool.and_eq_true, startsCall_iff, endsAtBoundary_iff,
    Bool.not_eq_true', Bool.eq_false_iff, Ne, endsMarked_iff, List.reverse_reverse]
  constructor
  · rintro ⟨⟨call, boundary⟩, unmarked⟩
    exact ⟨call, boundary, unmarked⟩
  · intro wants
    exact ⟨⟨wants.call, wants.boundary⟩, wants.unmarked⟩

end Calls
end HangulConsole
