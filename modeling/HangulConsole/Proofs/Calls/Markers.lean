import HangulConsole.Proofs.Calls.OnePass
import HangulConsole.Proofs.Calls.Stretches
import Mathlib.Data.List.Nodup

/-!
# Markers in front of a word

A list of names may hold a name several times, and each time puts one more marker in front of
the last word of a stretch.  However many there are, the stretch keeps its last word, and the
marker next to the word is one that every later pass recognizes.
-/

namespace HangulConsole
namespace Calls

open Text

variable {names : List (List Char)} {name text : List Char}

def markers (count : Nat) : List Char :=
  (List.replicate count (marker ++ [' '])).flatten

def markTimes (count : Nat) (text : List Char) : List Char :=
  Stretch.front text ++ markers count ++ Stretch.word text ++ Stretch.blanks text

def markEach (names : List (List Char)) (text : List Char) : List Char :=
  markTimes (names.count (Stretch.word text)) text

/-- A stretch as it is once all calls are marked: a marked call is left alone. -/
def settle (names : List (List Char)) (text : List Char) : List Char :=
  if endsMarked (Stretch.front text).reverse then text else markEach names text

/-!
# Markers in a row
-/

theorem markers_succ (count : Nat) : markers (count + 1) = markers count ++ marker ++ [' '] := by
  unfold markers
  rw [List.replicate_succ', List.flatten_concat, List.append_assoc]

theorem not_mem_markers {x : Char} (outside : x ∉ marker ++ [' ']) (count : Nat) :
    x ∉ markers count := by
  intro mem
  rcases List.mem_flatten.1 mem with ⟨piece, piece_mem, inside⟩
  rw [List.eq_of_mem_replicate piece_mem] at inside
  exact outside inside

theorem allBlank_singleton {c : Char} (blank : isBlank c = true) : AllBlank [c] := by
  intro d mem
  rw [List.mem_singleton.1 mem]
  exact blank

theorem allBlank_space : AllBlank [' '] :=
  allBlank_singleton (by decide)

theorem endsAtBoundary_front_markers (text : List Char) (count : Nat) :
    endsAtBoundary (Stretch.front text ++ markers count).reverse = true := by
  cases count with
  | zero =>
      rw [show markers 0 = [] from rfl, List.append_nil]
      exact Stretch.endsAtBoundary_front text
  | succ count =>
      rw [markers_succ, ← List.append_assoc]
      exact endsAtBoundary_append_gap _ (List.cons_ne_nil _ _) allBlank_space

/-!
# How often a stretch is marked
-/

theorem markTimes_zero (text : List Char) : markTimes 0 text = text := by
  unfold markTimes
  rw [show markers 0 = [] from rfl, List.append_nil]
  exact Stretch.front_word_blanks text

theorem parts_markTimes (valid : isCallName (Stretch.word text) = true) (count : Nat) :
    Stretch.front (markTimes count text) = Stretch.front text ++ markers count ∧
      Stretch.word (markTimes count text) = Stretch.word text ∧
      Stretch.blanks (markTimes count text) = Stretch.blanks text :=
  Stretch.parts_append valid (Stretch.allBlank_blanks text)
    (endsAtBoundary_front_markers text count)

theorem markStretch_markTimes (valid : isCallName (Stretch.word text) = true) (count : Nat) :
    markStretch [Stretch.word text] (markTimes count text) = markTimes (count + 1) text := by
  have parts := parts_markTimes valid count
  unfold markStretch
  rw [parts.1, parts.2.1, parts.2.2, if_pos (List.mem_singleton_self _)]
  unfold markTimes
  rw [markers_succ]
  simp only [List.append_assoc]

theorem markEach_of_not_mem (other : Stretch.word text ∉ names) : markEach names text = text := by
  unfold markEach
  rw [List.count_eq_zero.2 other]
  exact markTimes_zero text

theorem word_markEach (valid : ∀ name ∈ names, isCallName name = true) (text : List Char) :
    Stretch.word (markEach names text) = Stretch.word text := by
  by_cases mem : Stretch.word text ∈ names
  · exact (parts_markTimes (valid _ mem) _).2.1
  · rw [markEach_of_not_mem mem]

theorem markStretch_markEach (valid : ∀ other ∈ names ++ [name], isCallName other = true)
    (text : List Char) :
    markStretch [name] (markEach names text) = markEach (names ++ [name]) text := by
  by_cases same : Stretch.word text = name
  · have valid_word : isCallName (Stretch.word text) = true :=
      valid _ (by rw [same]; exact List.mem_append_right _ (List.mem_singleton_self name))
    unfold markEach
    rw [List.count_append, ← same, List.count_singleton_self]
    exact markStretch_markTimes valid_word _
  · have other : Stretch.word (markEach names text) ∉ [name] := by
      rw [word_markEach fun other mem => valid other (List.mem_append_left _ mem)]
      simpa using same
    have none_more : [name].count (Stretch.word text) = 0 :=
      List.count_eq_zero.2 (by simpa using same)
    rw [markStretch_of_not_mem other]
    unfold markEach
    rw [List.count_append, none_more, Nat.add_zero]

theorem markEach_of_nodup (nodup : names.Nodup) (text : List Char) :
    markEach names text = markStretch names text := by
  by_cases mem : Stretch.word text ∈ names
  · unfold markEach markStretch markTimes
    rw [List.count_eq_one_of_mem nodup mem, if_pos mem]
    simp [markers]
  · rw [markEach_of_not_mem mem, markStretch_of_not_mem mem]

theorem not_mem_markEach {x : Char} (outside : x ∉ marker ++ [' ']) (free : x ∉ text) :
    x ∉ markEach names text := by
  rw [← Stretch.front_word_blanks text] at free
  unfold markEach markTimes
  simp only [List.mem_append, not_or] at free ⊢
  exact ⟨⟨⟨free.1.1, not_mem_markers outside _⟩, free.1.2⟩, free.2⟩

/-!
# Settled stretches
-/

theorem exists_front_markEach (valid : ∀ name ∈ names, isCallName name = true)
    (mem : Stretch.word text ∈ names) :
    ∃ outer, Stretch.front (markEach names text) = outer ++ marker ++ [' '] ∧
      endsAtBoundary outer.reverse = true := by
  obtain ⟨count, count_eq⟩ : ∃ count, names.count (Stretch.word text) = count + 1 :=
    Nat.exists_eq_succ_of_ne_zero (Nat.pos_iff_ne_zero.1 (List.count_pos_iff.2 mem))
  refine ⟨Stretch.front text ++ markers count, ?_, endsAtBoundary_front_markers text count⟩
  unfold markEach
  rw [count_eq, (parts_markTimes (valid _ mem) _).1, markers_succ]
  simp only [List.append_assoc]

theorem endsMarked_front_markEach (valid : ∀ name ∈ names, isCallName name = true)
    (mem : Stretch.word text ∈ names) :
    endsMarked (Stretch.front (markEach names text)).reverse = true := by
  rcases exists_front_markEach valid mem with ⟨outer, front_eq, _⟩
  rw [endsMarked_iff, List.reverse_reverse]
  exact ⟨outer, [' '], List.cons_ne_nil _ _, allBlank_space, front_eq⟩

theorem settle_of_endsMarked (marked : endsMarked (Stretch.front text).reverse = true) :
    settle names text = text :=
  if_pos marked

theorem settle_of_not_mem (other : Stretch.word text ∉ names) : settle names text = text := by
  unfold settle
  rw [markEach_of_not_mem other, ite_self]

theorem word_settle (valid : ∀ name ∈ names, isCallName name = true) (text : List Char) :
    Stretch.word (settle names text) = Stretch.word text := by
  unfold settle
  split
  · rfl
  · exact word_markEach valid text

theorem endsMarked_front_settle (valid : ∀ name ∈ names, isCallName name = true)
    (mem : Stretch.word text ∈ names) :
    endsMarked (Stretch.front (settle names text)).reverse = true := by
  unfold settle
  split
  · assumption
  · exact endsMarked_front_markEach valid mem

theorem settle_settle (valid : ∀ name ∈ names, isCallName name = true) (text : List Char) :
    settle names (settle names text) = settle names text := by
  by_cases mem : Stretch.word text ∈ names
  · exact settle_of_endsMarked (endsMarked_front_settle valid mem)
  · rw [settle_of_not_mem mem, settle_of_not_mem mem]

theorem not_mem_settle {x : Char} (outside : x ∉ marker ++ [' ']) (free : x ∉ text) :
    x ∉ settle names text := by
  unfold settle
  split
  · exact free
  · exact not_mem_markEach outside free

end Calls
end HangulConsole
