import HangulConsole.Proofs.Calls.Marking

/-!
# Sentinels that stand in the source

The sentinel is a character that the source does not hold, as long as there is one among the
candidates and the last resort.  A source that holds them all is marked like any other if none
of its calls is marked yet, since then nothing is put back.  Otherwise the text is cut at the
sentinels of the source too, and these are gone from the outcome.
-/

namespace HangulConsole
namespace Calls

open Text

def HoldsMarkedCall (names : List (List Char)) (source : List Char) : Prop :=
  ∃ front call rest, source = front ++ call ++ rest ∧ IsMarkedCall names call

/-- There is no sentinel for the source, and something to set aside. -/
def Clashes (names : List (List Char)) (source : List Char) : Prop :=
  (∀ c, isPrivate c = true -> c ∈ source) ∧ HoldsMarkedCall names source

variable {names : List (List Char)} {name text source : List Char} {sentinel : Char}

/-!
# Which sources leave no sentinel
-/

theorem mem_sentinelCandidates {c : Char} (above : 0xe000 ≤ c.toNat) (below : c.toNat ≤ 0xf8ff) :
    c ∈ sentinelCandidates := by
  refine List.mem_map.2 ⟨c.toNat - 0xe000, List.mem_range.2 (by omega), ?_⟩
  have code : 0xe000 + (c.toNat - 0xe000) = c.toNat := by omega
  rw [code, Char.ofNat_toNat]

theorem mem_candidates_of_isPrivate {c : Char} (secluded : isPrivate c = true) :
    c ∈ sentinelCandidates ∨ c = Char.ofNat 0xffff := by
  simp only [isPrivate, Bool.or_eq_true, Bool.and_eq_true, decide_eq_true_eq, beq_iff_eq]
    at secluded
  cases secluded with
  | inl inside => exact Or.inl (mem_sentinelCandidates inside.1 inside.2)
  | inr last =>
      apply Or.inr
      rw [← last, Char.ofNat_toNat]

theorem pickSentinel_mem_iff :
    pickSentinel source ∈ source ↔ ∀ c, isPrivate c = true -> c ∈ source := by
  constructor
  · intro mem c secluded
    unfold pickSentinel at mem
    cases found : sentinelCandidates.find? fun c => !source.contains c with
    | some d =>
        have absent := List.find?_some found
        rw [found, Option.getD_some] at mem
        simp [mem] at absent
    | none =>
        rw [found] at mem
        cases mem_candidates_of_isPrivate secluded with
        | inl candidate => simpa using List.find?_eq_none.1 found c candidate
        | inr last =>
            rw [last]
            exact mem
  · intro all
    exact all _ (isPrivate_pickSentinel source)

theorem pickSentinel_not_mem {c : Char} (secluded : isPrivate c = true) (free : c ∉ source) :
    pickSentinel source ∉ source :=
  fun mem => free (pickSentinel_mem_iff.1 mem c secluded)

theorem not_clashes_of_not_mem {c : Char} (secluded : isPrivate c = true) (free : c ∉ source) :
    ¬Clashes names source :=
  fun clash => free (clash.1 c secluded)

/-!
# What is set aside
-/

theorem isMarkedCall_iff {call : List Char} :
    IsMarkedCall names call ↔
      ∃ name ∈ names, ∃ body, MarkedNameAndBlanks name body ∧ call = body ++ ['('] := by
  constructor
  · rintro ⟨name, mem, gap, blanks, gap_ne, gapBlank, blank, rfl⟩
    refine ⟨name, mem, marker ++ gap ++ (name ++ blanks), ?_, by simp⟩
    exact ⟨gap, name ++ blanks, gap_ne, gapBlank, ⟨blanks, blank, rfl⟩, rfl⟩
  · rintro ⟨name, mem, _, ⟨gap, _, gap_ne, gapBlank, ⟨blanks, blank, rfl⟩, rfl⟩, rfl⟩
    exact ⟨name, mem, gap, blanks, gap_ne, gapBlank, blank, by simp⟩

theorem holdsMarkedCall_iff (valid : ∀ name ∈ names, isCallName name = true) :
    HoldsMarkedCall names source ↔
      ¬∀ name ∈ names, Quiet (markedCallAt? name) source [] := by
  constructor
  · rintro ⟨front, call, rest, source_eq, marked⟩ quiet
    rcases isMarkedCall_iff.1 marked with ⟨name, mem, body, shape, rfl⟩
    have found : markedCallAt? name (body ++ ['('] ++ rest) = some (body ++ ['('], rest) :=
      (markedCallAt?_eq_some_iff (valid name mem)).2 ⟨body, shape, rfl, rfl⟩
    rcases List.exists_cons_of_ne_nil ((matcher_markedCallAt? (valid name mem)).ne_nil shape) with
      ⟨c, others, rfl⟩
    have nothing := quiet name mem front c (others ++ ['('] ++ rest) (by rw [source_eq]; simp)
    rw [List.append_nil] at nothing
    simp only [List.cons_append] at found
    rw [nothing] at found
    cases found
  · intro loud
    by_contra none_held
    apply loud
    intro name mem start c stop source_eq
    rw [List.append_nil, Option.eq_none_iff_forall_ne_some]
    rintro ⟨call, after⟩ found
    obtain ⟨body, shape, call_eq, whole⟩ := (markedCallAt?_eq_some_iff (valid name mem)).1 found
    apply none_held
    refine ⟨start, call, after, ?_, isMarkedCall_iff.2 ⟨name, mem, body, shape, call_eq⟩⟩
    rw [source_eq, whole, List.append_assoc]

theorem prefix_setAside (sentinel : Char) (name : List Char) (aside : List (List Char))
    (text : List Char) : aside <+: (setAside sentinel name aside text).1 := by
  fun_induction setAside sentinel name aside text with
  | case1 => exact List.prefix_rfl
  | case2 aside c rest call after found others out eq ih =>
      rw [eq] at ih
      exact (List.prefix_append _ _).trans ih
  | case3 aside c rest nothing others out eq ih =>
      rw [eq] at ih
      exact ih

theorem isMarkedCall_of_mem_setAside (valid : ∀ name ∈ names, isCallName name = true)
    (mem : name ∈ names) {aside : List (List Char)}
    (marked : ∀ call ∈ aside, IsMarkedCall names call) :
    ∀ call ∈ (setAside sentinel name aside text).1, IsMarkedCall names call := by
  fun_induction setAside sentinel name aside text with
  | case1 => exact marked
  | case2 aside c rest call after found others out eq ih =>
      rw [eq] at ih
      apply ih
      intro other other_mem
      rcases List.mem_append.1 other_mem with old | new
      · exact marked other old
      · obtain ⟨body, shape, call_eq, _⟩ := (markedCallAt?_eq_some_iff (valid name mem)).1 found
        rw [List.mem_singleton.1 new]
        exact isMarkedCall_iff.2 ⟨name, mem, body, shape, call_eq⟩
  | case3 aside c rest nothing others out eq ih =>
      rw [eq] at ih
      exact ih marked

theorem quiet_of_setAside {aside : List (List Char)}
    (same : (setAside sentinel name aside text).1 = aside) :
    Quiet (markedCallAt? name) text [] := by
  fun_induction setAside sentinel name aside text with
  | case1 =>
      intro start c stop text_eq
      simp at text_eq
  | case2 aside c rest call after found others out eq ih =>
      have grown := prefix_setAside sentinel name (aside ++ [call]) after
      rw [eq] at grown
      have longer : (aside ++ [call]).length ≤ others.length := grown.length_le
      rw [List.length_append, List.length_singleton] at longer
      have as_long : others.length = aside.length := congrArg List.length same
      omega
  | case3 aside c rest nothing others out eq ih =>
      rw [eq] at ih
      intro start d stop text_eq
      cases start with
      | nil =>
          rw [List.nil_append] at text_eq
          rw [List.append_nil, ← text_eq]
          exact nothing
      | cons first start =>
          injection text_eq with _ rest_eq
          exact ih same start d stop rest_eq

theorem setAside_eq_of_quiet (aside : List (List Char))
    (quiet : Quiet (markedCallAt? name) text []) :
    setAside sentinel name aside text = (aside, text) := by
  have copied := setAside_append_of_quiet sentinel aside quiet
  rw [List.append_nil, setAside, List.append_nil] at copied
  exact copied

theorem setAsideAll_eq_of_quiet (sentinel : Char)
    (quiet : ∀ name ∈ names, Quiet (markedCallAt? name) source []) :
    setAsideAll sentinel names source = ([], source) := by
  unfold setAsideAll
  induction names with
  | nil => rfl
  | cons name names ih =>
      have first := List.forall_mem_cons.1 quiet
      rw [List.foldl_cons, setAside_eq_of_quiet [] first.1]
      exact ih first.2

theorem prefix_foldl_setAside (sentinel : Char) (names aside : List (List Char))
    (code : List Char) :
    aside <+: (names.foldl (fun state name => setAside sentinel name state.1 state.2)
      (aside, code)).1 := by
  induction names generalizing aside code with
  | nil => exact List.prefix_rfl
  | cons name names ih => exact (prefix_setAside sentinel name aside code).trans (ih _ _)

theorem quiet_of_setAsideAll (none_aside : (setAsideAll sentinel names source).1 = []) :
    ∀ name ∈ names, Quiet (markedCallAt? name) source [] := by
  unfold setAsideAll at none_aside
  induction names with
  | nil =>
      intro name mem
      cases mem
  | cons name names ih =>
      rw [List.foldl_cons] at none_aside
      have first := prefix_foldl_setAside sentinel names (setAside sentinel name [] source).1
        (setAside sentinel name [] source).2
      rw [none_aside, List.prefix_nil] at first
      have quiet := quiet_of_setAside first
      rw [setAside_eq_of_quiet [] quiet] at none_aside
      exact List.forall_mem_cons.2 ⟨quiet, ih none_aside⟩

theorem isMarkedCall_of_mem_setAsideAll (valid : ∀ name ∈ names, isCallName name = true) :
    ∀ call ∈ (setAsideAll sentinel names source).1, IsMarkedCall names call := by
  -- The induction is on names still to come, behind what was set aside for those before.
  have kept (coming : List (List Char)) (sub : coming ⊆ names) (aside : List (List Char))
      (code : List Char) (marked : ∀ call ∈ aside, IsMarkedCall names call) :
      ∀ call ∈ (coming.foldl (fun state name => setAside sentinel name state.1 state.2)
        (aside, code)).1, IsMarkedCall names call := by
    induction coming generalizing aside code with
    | nil => exact marked
    | cons name coming ih =>
        have subs := List.cons_subset.1 sub
        exact ih subs.2 _ _ (isMarkedCall_of_mem_setAside valid subs.1 marked)
  exact kept names (List.Subset.refl _) [] source (by simp)

/-!
# The outcome without a clash
-/

theorem holdsMarkedCall_of_stretch (mem : text ∈ stretches source)
    (word_mem : Stretch.word text ∈ names)
    (marked : endsMarked (Stretch.front text).reverse = true) : HoldsMarkedCall names source := by
  rcases Stretch.markedNameAndBlanks_of_word_eq rfl marked with ⟨outer, body, shape, text_eq⟩
  induction source using stretch_induction with
  | tail other closed =>
      rw [stretches_of_closed closed] at mem
      cases mem
  | cons other rest closed ih =>
      rw [stretches_append closed] at mem
      rcases List.mem_cons.1 mem with rfl | mem
      · refine ⟨outer, body ++ ['('], rest, ?_, isMarkedCall_iff.2 ⟨_, word_mem, body, shape, rfl⟩⟩
        conv => lhs; rw [text_eq]
        simp
      · rcases ih mem with ⟨front, call, after, rest_eq, marked⟩
        exact ⟨other ++ '(' :: front, call, after, by rw [rest_eq]; simp, marked⟩

theorem markAll_eq_mapStretches (valid : ∀ name ∈ names, isCallName name = true)
    (source : List Char) : markAll names source = mapStretches (markEach names) source := by
  have secluded := isPrivate_pickSentinel source
  have closed : ∀ part ∈ (stretches source).map fun text => (⟨text, none⟩ : Part),
      '(' ∉ part.text := by
    intro part mem
    rcases List.mem_map.1 mem with ⟨text, text_mem, rfl⟩
    exact not_mem_of_mem_stretches text_mem
  have whole (f : List Char -> List Char) : codeOf (pickSentinel source)
      ((stretches source).map fun text => ⟨f text, none⟩) (remainder source) =
        mapStretches f source := by
    simp [codeOf, mapStretches, List.flatMap_map, Part.code]
  have marked := markAll_codeOf valid secluded (paren_not_mem_remainder source) closed
  rw [List.map_map] at marked
  have source_eq := (whole id).trans (mapStretches_id source)
  simp only [id] at source_eq
  rw [source_eq] at marked
  rw [marked, ← whole]
  rfl

theorem markChars_eq_mapStretches {names : Names} (kept : ¬Clashes names.names source) :
    names.markChars source = mapStretches (settle names.names) source := by
  by_cases present : pickSentinel source ∈ source
  · have unmarked : ¬HoldsMarkedCall names.names source :=
      fun held => kept ⟨pickSentinel_mem_iff.1 present, held⟩
    have quiet : ∀ name ∈ names.names, Quiet (markedCallAt? name) source [] := by
      rw [holdsMarkedCall_iff names.valid, not_not] at unmarked
      exact unmarked
    rw [Names.markChars, setAsideAll_eq_of_quiet _ quiet]
    dsimp only
    rw [markAll_eq_mapStretches names.valid]
    apply mapStretches_congr
    intro text mem
    by_cases word_mem : Stretch.word text ∈ names.names
    · unfold settle
      rw [if_neg]
      exact fun marked => unmarked (holdsMarkedCall_of_stretch mem word_mem marked)
    · rw [settle_of_not_mem word_mem, markEach_of_not_mem word_mem]
  · exact markChars_eq_mapStretches_of_absent present

/-!
# The outcome of a clash
-/

theorem not_mem_putBackPieces {x : Char} {aside pieces : List (List Char)}
    (free_aside : ∀ call ∈ aside, x ∉ call) (free : ∀ piece ∈ pieces, x ∉ piece) (inside : Bool) :
    x ∉ putBackPieces aside inside pieces := by
  induction pieces generalizing inside with
  | nil => exact List.not_mem_nil
  | cons piece pieces ih =>
      have first := List.forall_mem_cons.1 free
      rw [putBackPieces, List.mem_append, not_or]
      constructor
      · cases inside with
        | false => exact first.1
        | true =>
            rw [if_pos rfl, putBackPiece]
            cases found : (indexOf? piece).bind fun index => aside[index]? with
            | none => exact first.1
            | some call =>
                rcases Option.bind_eq_some_iff.1 found with ⟨index, _, held⟩
                exact free_aside call (List.mem_of_getElem? held)
      · exact ih first.2 _

theorem not_mem_of_isMarkedCall (valid : ∀ name ∈ names, isCallName name = true)
    (secluded : isPrivate sentinel = true) {call : List Char} (marked : IsMarkedCall names call) :
    sentinel ∉ call := by
  rcases isMarkedCall_iff.1 marked with ⟨name, mem, body, shape, rfl⟩
  have free := (stops_of_isPrivate secluded).not_mem
    (plain_of_markedNameAndBlanks (valid name mem) shape)
  simp [free, ne_paren_of_isPrivate secluded]

theorem pickSentinel_not_mem_markChars {names : Names}
    (held : HoldsMarkedCall names.names source) :
    pickSentinel source ∉ names.markChars source := by
  have some_aside : (setAsideAll (pickSentinel source) names.names source).1 ≠ [] := by
    intro none_aside
    exact (holdsMarkedCall_iff names.valid).1 held (quiet_of_setAsideAll none_aside)
  unfold Names.markChars
  dsimp only
  rw [putBack, if_neg (by simpa using some_aside)]
  apply not_mem_putBackPieces
  · intro call mem
    exact not_mem_of_isMarkedCall names.valid (isPrivate_pickSentinel source)
      (isMarkedCall_of_mem_setAsideAll names.valid call mem)
  · intro piece mem
    exact not_mem_of_mem_splitAt mem

end Calls
end HangulConsole
