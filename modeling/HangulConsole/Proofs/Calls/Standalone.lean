import HangulConsole.Proofs.Calls.Clash

/-!
# Calls behind a standalone marker

A name counts as a call only where it stands on its own, while for the marker it is enough that a
word ends in it.  So marking leaves no call without a marker in front, but a call behind a word that
merely ends like the marker is left as it is.
-/

namespace HangulConsole
namespace Calls

open Text

variable {names : List (List Char)} {before text source : List Char}

/-- A word that begins behind the text stands on its own. -/
def OnItsOwn (before : List Char) : Prop :=
  ∀ c, before.getLast? = some c -> isIdentifierChar c = false

/-- A call of one of the names begins behind `before` and stands on its own. -/
structure CallsAt (names : List (List Char)) (before text : List Char) : Prop where
  call : ∃ name ∈ names, ∃ blanks rest, AllBlank blanks ∧ text = name ++ blanks ++ '(' :: rest
  boundary : OnItsOwn before

def EndsMarked (before : List Char) : Prop :=
  ∃ outer gap, gap ≠ [] ∧ AllBlank gap ∧ before = outer ++ marker ++ gap

def EndsStandalone (before : List Char) : Prop :=
  ∃ outer gap, gap ≠ [] ∧ AllBlank gap ∧ before = outer ++ marker ++ gap ∧ OnItsOwn outer

/-- All calls of the source that stand on their own have such a text in front. -/
def EveryCall (names : List (List Char)) (source : List Char) (Q : List Char -> Prop) : Prop :=
  ∀ before text, source = before ++ text -> CallsAt names before text -> Q before

/-!
# Calls at the ends of stretches
-/

theorem fresh_append_paren {outer : List Char} (fresh : Fresh outer.reverse) (text : List Char) :
    Fresh (text ++ '(' :: outer).reverse := by
  rw [List.reverse_append, List.reverse_cons, List.append_assoc]
  generalize outer.reverse = before at fresh
  cases before with
  | nil => exact fresh_cons text.reverse
  | cons c rest => exact fresh

theorem exists_fresh_append (before : List Char) :
    ∃ outer start, before = outer ++ start ∧ Fresh outer.reverse ∧ '(' ∉ start := by
  induction before using stretch_induction with
  | tail text closed => exact ⟨[], text, rfl, fresh_nil, closed⟩
  | cons text rest closed ih =>
      rcases ih with ⟨outer, start, rest_eq, fresh, closed_start⟩
      refine ⟨text ++ '(' :: outer, start, by rw [rest_eq]; simp, ?_, closed_start⟩
      exact fresh_append_paren fresh text

theorem stretches_append_paren (outer rest : List Char) :
    stretches (outer ++ '(' :: rest) = splitAt '(' outer ++ stretches rest := by
  unfold stretches
  rw [splitAt_append_separator, List.dropLast_append_of_ne_nil (splitAt_ne_nil _ _)]

theorem mem_stretches_of_append {outer : List Char} (fresh : Fresh outer.reverse)
    (closed : '(' ∉ text) (rest : List Char) :
    text ∈ stretches (outer ++ (text ++ '(' :: rest)) := by
  have first : text ∈ stretches (text ++ '(' :: rest) := by
    rw [stretches_append closed]
    exact List.mem_cons_self
  rcases List.eq_nil_or_concat outer with rfl | ⟨outer, c, rfl⟩
  · exact first
  · have paren : c = '(' := fresh c (by simp)
    rw [paren, List.concat_eq_append, List.append_assoc, List.singleton_append,
      stretches_append_paren]
    exact List.mem_append_right _ first

theorem exists_append_of_mem_stretches (mem : text ∈ stretches source) :
    ∃ outer rest, Fresh outer.reverse ∧ source = outer ++ (text ++ '(' :: rest) := by
  induction source using stretch_induction with
  | tail other closed =>
      rw [stretches_of_closed closed] at mem
      cases mem
  | cons other rest closed ih =>
      rw [stretches_append closed] at mem
      rcases List.mem_cons.1 mem with rfl | mem
      · exact ⟨[], rest, fresh_nil, rfl⟩
      · rcases ih mem with ⟨outer, after, fresh, rest_eq⟩
        exact ⟨other ++ '(' :: outer, after, fresh_append_paren fresh other, by rw [rest_eq]; simp⟩

/-- What a stretch has in front of its last word tells of all that stands in front of it. -/
def Local (Q : List Char -> Prop) : Prop :=
  ∀ outer start, Fresh outer.reverse -> (Q (outer ++ start) ↔ Q start)

theorem endsAtBoundary_reverse_iff : endsAtBoundary before.reverse = true ↔ OnItsOwn before :=
  endsAtBoundary_iff

theorem local_onItsOwn : Local OnItsOwn := by
  intro outer start fresh
  rw [← endsAtBoundary_reverse_iff, ← endsAtBoundary_reverse_iff, List.reverse_append,
    endsAtBoundary_append fresh]

theorem everyCall_iff (valid : ∀ name ∈ names, isCallName name = true) {Q : List Char -> Prop}
    (loc : Local Q) :
    EveryCall names source Q ↔
      ∀ text ∈ stretches source, Stretch.word text ∈ names -> Q (Stretch.front text) := by
  constructor
  · intro every text mem word_mem
    rcases exists_append_of_mem_stretches mem with ⟨outer, rest, fresh, source_eq⟩
    rw [← loc outer _ fresh]
    refine every _ (Stretch.word text ++ Stretch.blanks text ++ '(' :: rest) ?_ ⟨?_, ?_⟩
    · conv => lhs; rw [source_eq, ← Stretch.front_word_blanks text]
      simp
    · exact ⟨_, word_mem, _, rest, Stretch.allBlank_blanks text, rfl⟩
    · rw [local_onItsOwn outer _ fresh, ← endsAtBoundary_reverse_iff]
      exact Stretch.endsAtBoundary_front text
  · intro every before behind source_eq calls
    rcases calls.call with ⟨name, mem, blanks, rest, blank, rfl⟩
    -- The stretch of the call begins behind the last parenthesis in front of it.
    rcases exists_fresh_append before with ⟨outer, start, rfl, fresh, closed⟩
    have boundary := (local_onItsOwn outer start fresh).1 calls.boundary
    have parts :=
      Stretch.parts_append (valid name mem) blank (endsAtBoundary_reverse_iff.2 boundary)
    have plain := plain_of_nameAndBlanks (valid name mem) ⟨blanks, blank, rfl⟩
    have closed' : '(' ∉ start ++ name ++ blanks := by
      rw [List.append_assoc]
      simpa [closed] using stops_paren.not_mem plain
    have text_mem : start ++ name ++ blanks ∈ stretches source := by
      rw [source_eq]
      simpa using mem_stretches_of_append fresh closed' rest
    rw [loc outer start fresh, ← parts.1]
    exact every _ text_mem (by rw [parts.2.1]; exact mem)

/-!
# Markers in front of calls
-/

theorem endsMarked_reverse_iff : endsMarked before.reverse = true ↔ EndsMarked before := by
  rw [endsMarked_iff, List.reverse_reverse]
  rfl

instance : Decidable (EndsMarked before) :=
  decidable_of_iff _ endsMarked_reverse_iff

theorem local_endsMarked : Local EndsMarked := by
  intro outer start fresh
  rw [← endsMarked_reverse_iff, ← endsMarked_reverse_iff, List.reverse_append,
    endsMarked_append fresh]

theorem EndsStandalone.endsMarked (standalone : EndsStandalone before) : EndsMarked before := by
  rcases standalone with ⟨outer, gap, gap_ne, blank, before_eq, _⟩
  exact ⟨outer, gap, gap_ne, blank, before_eq⟩

theorem local_endsStandalone : Local EndsStandalone := by
  intro outer start fresh
  constructor
  · rintro ⟨around, gap, gap_ne, blank, whole, boundary⟩
    obtain ⟨inner, gap', gap_ne', blank', start_eq⟩ :=
      (local_endsMarked outer start fresh).1 ⟨around, gap, gap_ne, blank, whole⟩
    refine ⟨inner, gap', gap_ne', blank', start_eq, ?_⟩
    have around_eq : around = outer ++ inner := by
      apply outer_unique blank blank'
      rw [← whole, start_eq]
      simp
    rw [around_eq] at boundary
    exact (local_onItsOwn outer inner fresh).1 boundary
  · rintro ⟨inner, gap, gap_ne, blank, rfl, boundary⟩
    refine ⟨outer ++ inner, gap, gap_ne, blank, by simp, ?_⟩
    exact (local_onItsOwn outer inner fresh).2 boundary

theorem local_given : Local fun before => EndsMarked before -> EndsStandalone before :=
  fun outer start fresh =>
    imp_congr (local_endsMarked outer start fresh) (local_endsStandalone outer start fresh)

theorem endsStandalone_front_markEach (valid : ∀ name ∈ names, isCallName name = true)
    (mem : Stretch.word text ∈ names) :
    EndsStandalone (Stretch.front (markEach names text)) := by
  rcases exists_front_markEach valid mem with ⟨outer, front_eq, boundary⟩
  exact ⟨outer, [' '], List.cons_ne_nil _ _, allBlank_space, front_eq,
    endsAtBoundary_reverse_iff.1 boundary⟩

theorem endsStandalone_front_settle_iff (valid : ∀ name ∈ names, isCallName name = true)
    (mem : Stretch.word text ∈ names) :
    EndsStandalone (Stretch.front (settle names text)) ↔
      (EndsMarked (Stretch.front text) -> EndsStandalone (Stretch.front text)) := by
  rw [← endsMarked_reverse_iff]
  unfold settle
  split
  · rename_i marked
    exact ⟨fun standalone _ => standalone, fun given => given marked⟩
  · rename_i unmarked
    exact ⟨fun _ marked => absurd marked unmarked,
      fun _ => endsStandalone_front_markEach valid mem⟩

/-- In a marked source every call has a marker in front, and all of these stand on their own if
those that were in front of calls already did. -/
theorem everyCall_mark {names : Names} {source : String}
    (kept : ¬Clashes names.names source.toList) :
    EveryCall names.names (names.mark source).toList EndsMarked ∧
      (EveryCall names.names (names.mark source).toList EndsStandalone ↔
        EveryCall names.names source.toList fun before =>
          EndsMarked before -> EndsStandalone before) := by
  have closing (text : List Char) (closed : '(' ∉ text) : '(' ∉ settle names.names text :=
    not_mem_settle (by decide) closed
  have valid := names.valid
  rw [Names.mark, String.toList_ofList, markChars_eq_mapStretches kept,
    everyCall_iff valid local_endsMarked, everyCall_iff valid local_endsStandalone,
    everyCall_iff valid local_given, stretches_mapStretches closing]
  simp only [List.forall_mem_map, word_settle valid]
  constructor
  · intro text _ mem
    exact endsMarked_reverse_iff.1 (endsMarked_front_settle valid mem)
  · constructor
    · intro every text text_mem mem
      exact (endsStandalone_front_settle_iff valid mem).1 (every text text_mem mem)
    · intro every text text_mem mem
      exact (endsStandalone_front_settle_iff valid mem).2 (every text text_mem mem)

/-- Two calls of which none was marked. -/
theorem everyCall_mark_unmarked :
    ¬Clashes Names.standard.names "x = 입력 (input())".toList ∧
      EveryCall Names.standard.names (Names.standard.mark "x = 입력 (input())").toList
        EndsStandalone := by
  have kept : ¬Clashes Names.standard.names "x = 입력 (input())".toList :=
    not_clashes_of_not_mem (c := Char.ofNat 0xe000) (by decide) (by decide)
  have unmarked : ∀ text ∈ stretches "x = 입력 (input())".toList,
      ¬EndsMarked (Stretch.front text) := by
    decide +kernel
  refine ⟨kept, (everyCall_mark kept).2.2 ?_⟩
  rw [everyCall_iff Names.standard.valid local_given]
  intro text mem _ marked
  exact absurd marked (unmarked text mem)

/-- A call behind a name that ends like the marker. -/
theorem not_everyCall_mark_glued :
    ¬EveryCall Names.standard.names (Names.standard.mark "x = my_await\ninput()").toList
      EndsStandalone := by
  have absent : pickSentinel "x = my_await\ninput()".toList ∉ "x = my_await\ninput()".toList :=
    pickSentinel_not_mem (c := Char.ofNat 0xe000) (by decide) (by decide)
  have same : (Names.standard.mark "x = my_await\ninput()").toList =
      "x = my_await\ninput()".toList := by
    rw [Names.mark, String.toList_ofList, markChars_eq_mapStretches_of_absent absent]
    decide +kernel
  have feed : AllBlank ['\n'] := allBlank_singleton (by decide)
  have calls : CallsAt Names.standard.names "x = my_await\n".toList "input()".toList :=
    ⟨⟨"input".toList, by decide, [], [')'], by simp [AllBlank], rfl⟩,
      endsAtBoundary_reverse_iff.1 (by decide)⟩
  rw [same]
  intro every
  rcases every _ _ rfl calls with ⟨outer, gap, _, blank, whole, boundary⟩
  have outer_eq : outer = "x = my_".toList := outer_unique blank feed whole.symm
  rw [outer_eq] at boundary
  exact absurd (boundary '_' rfl) (by decide)

end Calls
end HangulConsole
