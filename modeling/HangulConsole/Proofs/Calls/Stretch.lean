import HangulConsole.Calls.OnePass
import HangulConsole.Proofs.Calls.Occurrence

/-!
# Stretches

A stretch is a text without an opening parenthesis, as it stands in front of one.
Whether it ends in a call is decided by its last word alone, so a stretch is cut
into the front, the last word, and the blanks behind the word.
-/

namespace HangulConsole
namespace Calls

open Text

/-- Every text is made of stretches: it is one, or it begins with one and a parenthesis. -/
theorem stretch_induction {P : List Char -> Prop} (tail : ∀ text, '(' ∉ text -> P text)
    (cons : ∀ text rest, '(' ∉ text -> P rest -> P (text ++ '(' :: rest)) (source : List Char) :
    P source := by
  by_cases mem : '(' ∈ source
  · rcases List.eq_append_cons_of_mem mem with ⟨text, rest, source_eq, closed⟩
    rw [source_eq]
    exact cons text rest closed (stretch_induction tail cons rest)
  · exact tail source mem
  termination_by source.length
  decreasing_by
    rw [source_eq, List.length_append, List.length_cons]
    omega

namespace Stretch

def blanks (text : List Char) : List Char :=
  (text.reverse.takeWhile isBlank).reverse

/-- The last word of a text: the identifier characters in front of the blanks that it ends in. -/
def word (text : List Char) : List Char :=
  ((dropBlanks text.reverse).takeWhile isIdentifierChar).reverse

def front (text : List Char) : List Char :=
  ((dropBlanks text.reverse).dropWhile isIdentifierChar).reverse

theorem front_word_blanks (text : List Char) : front text ++ word text ++ blanks text = text := by
  have words : front text ++ word text = (dropBlanks text.reverse).reverse := by
    rw [front, word, ← List.reverse_append, List.takeWhile_append_dropWhile]
  rw [words, blanks, dropBlanks, ← List.reverse_append, List.takeWhile_append_dropWhile,
    List.reverse_reverse]

theorem allBlank_blanks (text : List Char) : AllBlank (blanks text) := by
  intro c mem
  exact allBlank_takeWhile text.reverse c (List.mem_reverse.1 mem)

theorem endsAtBoundary_dropWhile (text : List Char) :
    endsAtBoundary (text.dropWhile isIdentifierChar) = true := by
  have stop := List.head?_dropWhile_not isIdentifierChar text
  rw [endsAtBoundary]
  split at stop
  · rename_i c first
    simp [first, stop]
  · rename_i none_left
    simp [none_left]

theorem endsAtBoundary_front (text : List Char) : endsAtBoundary (front text).reverse = true := by
  rw [front, List.reverse_reverse]
  exact endsAtBoundary_dropWhile _

theorem parts_append {before name more : List Char} (valid : isCallName name = true)
    (blank : AllBlank more)
    (boundary : endsAtBoundary before.reverse = true) :
    front (before ++ name ++ more) = before ∧ word (before ++ name ++ more) = name ∧
      blanks (before ++ name ++ more) = more := by
  have blank' : ∀ c ∈ more.reverse, isBlank c = true :=
    fun c mem => blank c (List.mem_reverse.1 mem)
  have identifier' : ∀ c ∈ name.reverse, isIdentifierChar c = true :=
    fun c mem => isIdentifierChar_of_isCallName valid (List.mem_reverse.1 mem)
  obtain ⟨last, others, name_eq⟩ :=
    List.exists_cons_of_ne_nil (List.reverse_ne_nil_iff.2 (ne_nil_of_isCallName valid))
  have last_blank : isBlank last = false :=
    isBlank_of_isIdentifierChar (identifier' last (by simp [name_eq]))
  have whole : (before ++ name ++ more).reverse =
      more.reverse ++ (name.reverse ++ before.reverse) := by simp
  have rest : dropBlanks (before ++ name ++ more).reverse = name.reverse ++ before.reverse := by
    rw [whole, name_eq]
    exact dropBlanks_eq_of_allBlank blank' last_blank
  have spaces : (before ++ name ++ more).reverse.takeWhile isBlank = more.reverse := by
    rw [whole, name_eq]
    exact takeWhile_eq_of_allBlank blank' last_blank
  have stop : before.reverse.takeWhile isIdentifierChar = [] ∧
      before.reverse.dropWhile isIdentifierChar = before.reverse := by
    cases first : before.reverse with
    | nil => exact ⟨rfl, rfl⟩
    | cons c others =>
        have outside : isIdentifierChar c = false := by simpa [endsAtBoundary, first] using boundary
        simp [outside]
  refine ⟨?_, ?_, ?_⟩
  · rw [front, rest, List.dropWhile_append_of_pos identifier', stop.2, List.reverse_reverse]
  · rw [word, rest, List.takeWhile_append_of_pos identifier', stop.1, List.append_nil,
      List.reverse_reverse]
  · rw [blanks, spaces, List.reverse_reverse]

theorem eq_of_nameAndBlanks (before : List Char) {name rest : List Char}
    (valid : isCallName name = true) (shape : NameAndBlanks name rest) :
    ∃ start, word (before ++ rest) = start ++ name ∧ before = front (before ++ rest) ++ start := by
  rcases shape with ⟨more, blank, rfl⟩
  let start := (before.reverse.takeWhile isIdentifierChar).reverse
  let outer := (before.reverse.dropWhile isIdentifierChar).reverse
  have before_eq : outer ++ start = before := by
    rw [← List.reverse_append, List.takeWhile_append_dropWhile, List.reverse_reverse]
  have boundary : endsAtBoundary outer.reverse = true := by
    rw [List.reverse_reverse]
    exact endsAtBoundary_dropWhile _
  have valid' : isCallName (start ++ name) = true := by
    refine isCallName_iff.2 ⟨by simp [ne_nil_of_isCallName valid], ?_⟩
    intro c mem
    cases List.mem_append.1 mem with
    | inl mem =>
        have all := List.all_takeWhile (l := before.reverse) (p := isIdentifierChar)
        exact List.all_eq_true.1 all c (List.mem_reverse.1 mem)
    | inr mem => exact isIdentifierChar_of_isCallName valid mem
  have parts := parts_append valid' blank boundary
  have text_eq : outer ++ (start ++ name) ++ more = before ++ (name ++ more) := by
    rw [← before_eq]
    simp
  rw [text_eq] at parts
  refine ⟨start, parts.2.1, ?_⟩
  rw [parts.1]
  exact before_eq.symm

theorem endsAtBoundary_iff_of_nameAndBlanks {before name rest : List Char}
    (valid : isCallName name = true) (shape : NameAndBlanks name rest) :
    endsAtBoundary before.reverse = true ↔ word (before ++ rest) = name := by
  constructor
  · intro boundary
    rcases shape with ⟨more, blank, rfl⟩
    rw [← List.append_assoc]
    exact (parts_append valid blank boundary).2.1
  · intro whole
    rcases eq_of_nameAndBlanks before valid shape with ⟨start, word_eq, before_eq⟩
    have start_nil : start = [] := by
      rw [whole] at word_eq
      exact List.append_left_eq_self.1 word_eq.symm
    rw [start_nil, List.append_nil] at before_eq
    rw [before_eq]
    exact endsAtBoundary_front _

theorem before_unique {name before rest before' rest' : List Char} (valid : isCallName name = true)
    (shape : NameAndBlanks name rest)
    (shape' : NameAndBlanks name rest') (same : before ++ rest = before' ++ rest') :
    before = before' := by
  rcases eq_of_nameAndBlanks before valid shape with ⟨start, word_eq, before_eq⟩
  obtain ⟨start', word_eq', before_eq'⟩ :=
    eq_of_nameAndBlanks before' valid shape'
  rw [same] at word_eq before_eq
  have start_eq : start = start' := by
    rw [word_eq] at word_eq'
    exact List.append_cancel_right word_eq'
  exact before_eq.trans ((congrArg _ start_eq).trans before_eq'.symm)

theorem nameAndBlanks_of_word_eq {text name : List Char} (word_eq : word text = name) :
    ∃ rest, NameAndBlanks name rest ∧ text = front text ++ rest := by
  refine ⟨name ++ blanks text, ⟨blanks text, allBlank_blanks text, rfl⟩, ?_⟩
  rw [← word_eq, ← List.append_assoc]
  exact (front_word_blanks text).symm

end Stretch

/-!
# The marker in front of a word
-/

theorem endsMarked_iff {before : List Char} :
    endsMarked before = true ↔
      ∃ outer gap, gap ≠ [] ∧ AllBlank gap ∧ before.reverse = outer ++ marker ++ gap := by
  rw [endsMarked, Bool.and_eq_true, Bool.not_eq_true', List.isEmpty_eq_false_iff,
    Option.isSome_iff_exists]
  constructor
  · rintro ⟨gap_ne, rest, found⟩
    have behind := eq_append_of_dropStart? found
    refine ⟨rest.reverse, (before.takeWhile isBlank).reverse, by simpa using gap_ne, ?_, ?_⟩
    · intro c mem
      exact allBlank_takeWhile before c (List.mem_reverse.1 mem)
    · have whole : before.takeWhile isBlank ++ dropBlanks before = before :=
        List.takeWhile_append_dropWhile
      rw [behind] at whole
      have reversed := congrArg List.reverse whole
      simpa [List.append_assoc] using reversed.symm
  · rintro ⟨outer, gap, gap_ne, blank, whole⟩
    have blank' : AllBlank gap.reverse := fun c mem => blank c (List.mem_reverse.1 mem)
    have before_eq : before = gap.reverse ++ (marker.reverse ++ outer.reverse) := by
      rw [← List.reverse_reverse before, whole]
      simp
    have spaces : before.takeWhile isBlank = gap.reverse := by
      rw [before_eq]
      exact takeWhile_eq_of_allBlank blank' (by decide)
    have rest : dropBlanks before = marker.reverse ++ outer.reverse := by
      rw [before_eq]
      exact dropBlanks_eq_of_allBlank blank' (by decide)
    rw [spaces, rest]
    exact ⟨List.reverse_ne_nil_iff.2 gap_ne, _, dropStart?_append _ _⟩

theorem endsAtBoundary_append_gap (before : List Char) {gap : List Char} (gap_ne : gap ≠ [])
    (blank : AllBlank gap) : endsAtBoundary (before ++ gap).reverse = true := by
  rcases List.exists_cons_of_ne_nil (List.reverse_ne_nil_iff.2 gap_ne) with ⟨last, others, gap_eq⟩
  have last_blank : isBlank last = true := blank last (List.mem_reverse.1 (by simp [gap_eq]))
  rw [endsAtBoundary, List.reverse_append, gap_eq]
  simp [isIdentifierChar_of_isBlank last_blank]

theorem outer_unique {outer gap outer' gap' : List Char} (blank : AllBlank gap)
    (blank' : AllBlank gap') (same : outer ++ marker ++ gap = outer' ++ marker ++ gap') :
    outer = outer' := by
  have reversed := congrArg List.reverse same
  simp only [List.reverse_append] at reversed
  have rest (outer gap : List Char) (blank : AllBlank gap) :
      dropBlanks (gap.reverse ++ (marker.reverse ++ outer.reverse)) =
        marker.reverse ++ outer.reverse :=
    dropBlanks_eq_of_allBlank (fun c mem => blank c (List.mem_reverse.1 mem)) (by decide)
  have cut := congrArg dropBlanks reversed
  rw [rest outer gap blank, rest outer' gap' blank'] at cut
  exact List.reverse_inj.1 (List.append_cancel_left cut)

namespace Stretch

theorem front_of_markedNameAndBlanks (before : List Char) {name rest : List Char}
    (valid : isCallName name = true) (shape : MarkedNameAndBlanks name rest) :
    word (before ++ rest) = name ∧
      ∃ gap, gap ≠ [] ∧ AllBlank gap ∧ front (before ++ rest) = before ++ marker ++ gap := by
  rcases shape with ⟨gap, _, gap_ne, gapBlank, ⟨more, blank, rfl⟩, rfl⟩
  have boundary := endsAtBoundary_append_gap (before ++ marker) gap_ne gapBlank
  have parts := parts_append valid blank boundary
  have text_eq : before ++ marker ++ gap ++ name ++ more =
      before ++ (marker ++ gap ++ (name ++ more)) := by simp
  rw [text_eq] at parts
  exact ⟨parts.2.1, gap, gap_ne, gapBlank, parts.1⟩

theorem marked_before_unique {name before rest before' rest' : List Char}
    (valid : isCallName name = true) (shape : MarkedNameAndBlanks name rest)
    (shape' : MarkedNameAndBlanks name rest') (same : before ++ rest = before' ++ rest') :
    before = before' := by
  obtain ⟨_, gap, _, blank, front_eq⟩ :=
    front_of_markedNameAndBlanks before valid shape
  obtain ⟨_, gap', _, blank', front_eq'⟩ :=
    front_of_markedNameAndBlanks before' valid shape'
  rw [same, front_eq'] at front_eq
  exact outer_unique blank blank' front_eq.symm

theorem markedNameAndBlanks_of_word_eq {text name : List Char} (word_eq : word text = name)
    (marked : endsMarked (front text).reverse = true) :
    ∃ outer rest, MarkedNameAndBlanks name rest ∧ text = outer ++ rest := by
  rcases endsMarked_iff.1 marked with ⟨outer, gap, gap_ne, blank, front_eq⟩
  rcases nameAndBlanks_of_word_eq word_eq with ⟨rest, shape, text_eq⟩
  rw [List.reverse_reverse] at front_eq
  refine ⟨outer, marker ++ gap ++ rest, ⟨gap, rest, gap_ne, blank, shape, rfl⟩, ?_⟩
  conv => lhs; rw [text_eq, front_eq]
  simp

theorem word_eq_of_markedNameAndBlanks (outer : List Char) {name rest : List Char}
    (valid : isCallName name = true) (shape : MarkedNameAndBlanks name rest) :
    word (outer ++ rest) = name ∧ endsMarked (front (outer ++ rest)).reverse = true := by
  obtain ⟨word_eq, gap, gap_ne, blank, front_eq⟩ :=
    front_of_markedNameAndBlanks outer valid shape
  refine ⟨word_eq, endsMarked_iff.2 ⟨outer, gap, gap_ne, blank, ?_⟩⟩
  rw [List.reverse_reverse]
  exact front_eq

end Stretch
end Calls
end HangulConsole
