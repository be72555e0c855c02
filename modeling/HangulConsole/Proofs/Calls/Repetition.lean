import HangulConsole.Proofs.Calls.Standalone

/-!
# Names that are listed several times

Marking goes through the list name by name, and a name that comes again puts one more marker in
front of its calls.  So the order of the names does not matter, but it does matter how often each
of them is listed, unless all its calls in the source are marked already.
-/

namespace HangulConsole
namespace Calls

open Text

variable {names others : List (List Char)} {text source : List Char}
  {f g : List Char -> List Char}

/-!
# Sources that come out the same
-/

theorem length_markers (count : Nat) : (markers count).length = 6 * count := by
  induction count with
  | zero => rfl
  | succ count ih =>
      rw [markers_succ, List.length_append, List.length_append, ih]
      simp only [marker, List.length_cons, List.length_nil]
      omega

theorem markTimes_inj {count count' : Nat} :
    markTimes count text = markTimes count' text ↔ count = count' := by
  constructor
  · intro same
    have lengths := congrArg List.length same
    simp only [markTimes, List.length_append, length_markers] at lengths
    omega
  · intro same
    rw [same]

theorem settle_eq_settle_iff :
    settle names text = settle others text ↔
      (¬EndsMarked (Stretch.front text) ->
        names.count (Stretch.word text) = others.count (Stretch.word text)) := by
  rw [← endsMarked_reverse_iff]
  by_cases marked : endsMarked (Stretch.front text).reverse = true
  · rw [settle_of_endsMarked marked, settle_of_endsMarked marked]
    exact iff_of_true rfl fun unmarked => absurd marked unmarked
  · unfold settle
    rw [if_neg marked, if_neg marked]
    exact markTimes_inj.trans ⟨fun same _ => same, fun same => same marked⟩

theorem mapStretches_eq_iff (closing : ∀ text, '(' ∉ text -> '(' ∉ f text)
    (closing' : ∀ text, '(' ∉ text -> '(' ∉ g text) :
    mapStretches f source = mapStretches g source ↔ ∀ text ∈ stretches source, f text = g text := by
  constructor
  · intro same
    have pieces := congrArg stretches same
    rw [stretches_mapStretches closing, stretches_mapStretches closing'] at pieces
    exact List.map_inj_left.1 pieces
  · exact mapStretches_congr

theorem paren_not_mem_settle (names : List (List Char)) (text : List Char) (closed : '(' ∉ text) :
    '(' ∉ settle names text :=
  not_mem_settle (by decide) closed

theorem mapStretches_settle_eq_iff (valid : ∀ name ∈ names, isCallName name = true)
    (valid' : ∀ name ∈ others, isCallName name = true) :
    mapStretches (settle names) source = mapStretches (settle others) source ↔
      ∀ name, names.count name ≠ others.count name -> EveryCall [name] source EndsMarked := by
  rw [mapStretches_eq_iff (paren_not_mem_settle names) (paren_not_mem_settle others)]
  simp only [settle_eq_settle_iff]
  have calls (name : List Char) (apart : names.count name ≠ others.count name) :
      EveryCall [name] source EndsMarked ↔ ∀ text ∈ stretches source,
        Stretch.word text ∈ [name] -> EndsMarked (Stretch.front text) := by
    refine everyCall_iff (fun other mem => ?_) local_endsMarked
    rw [List.mem_singleton.1 mem]
    by_cases listed : name ∈ names
    · exact valid name listed
    · refine valid' name (List.count_pos_iff.1 ?_)
      rw [List.count_eq_zero.2 listed] at apart
      omega
  constructor
  · intro same name apart
    rw [calls name apart]
    intro text mem word_mem
    by_contra unmarked
    rw [← List.mem_singleton.1 word_mem] at apart
    exact apart (same text mem unmarked)
  · intro every text mem unmarked
    by_contra apart
    exact unmarked ((calls _ apart).1 (every _ apart) text mem (List.mem_singleton_self _))

/-!
# The markers of one call
-/

theorem mapStretches_append_of_closed (closed : '(' ∉ text) {outer : List Char}
    (fresh : Fresh outer.reverse) (rest : List Char) :
    mapStretches f (outer ++ text) = mapStretches f outer ++ text ∧
      mapStretches f (outer ++ (text ++ '(' :: rest)) =
        mapStretches f outer ++ (f text ++ '(' :: mapStretches f rest) := by
  induction outer using stretch_induction with
  | tail other other_closed =>
      -- Nothing is in front of the text, since a front that begins afresh ends in a parenthesis.
      rcases List.eq_nil_or_concat other with rfl | ⟨start, c, rfl⟩
      · rw [mapStretches_of_closed List.not_mem_nil, List.nil_append, List.nil_append,
          List.nil_append, mapStretches_of_closed closed, mapStretches_append closed]
        exact ⟨rfl, rfl⟩
      · have paren : c = '(' := fresh c (by simp)
        exact absurd (by simp [paren]) other_closed
  | cons other more other_closed ih =>
      have fresh_more : Fresh more.reverse := by
        intro c mem
        refine fresh c ?_
        rw [List.reverse_append, List.reverse_cons, List.append_assoc, List.head?_append, mem]
        rfl
      rcases ih fresh_more with ⟨whole, cut⟩
      have whole_eq : other ++ '(' :: more ++ text = other ++ '(' :: (more ++ text) := by simp
      have cut_eq : other ++ '(' :: more ++ (text ++ '(' :: rest) =
          other ++ '(' :: (more ++ (text ++ '(' :: rest)) := by simp
      rw [whole_eq, cut_eq, mapStretches_append other_closed, mapStretches_append other_closed,
        mapStretches_append other_closed, whole, cut]
      simp

/-- A call gets a marker for each time that its name is listed, unless it is marked already; the
text on both sides of it is settled by itself. -/
theorem mapStretches_settle_append {name blanks before : List Char} (valid : isCallName name = true)
    (blank : AllBlank blanks) (boundary : OnItsOwn before) (rest : List Char) :
    mapStretches (settle names) (before ++ name ++ blanks ++ '(' :: rest) =
      mapStretches (settle names) before ++
        markers (if EndsMarked before then 0 else names.count name) ++ name ++ blanks ++
        '(' :: mapStretches (settle names) rest := by
  rcases exists_fresh_append before with ⟨outer, start, rfl, fresh, closed⟩
  have boundary' := endsAtBoundary_reverse_iff.2 ((local_onItsOwn outer start fresh).1 boundary)
  have parts := Stretch.parts_append valid blank boundary'
  have closed' : '(' ∉ start ++ name ++ blanks := by
    rw [List.append_assoc]
    simpa [closed] using stops_paren.not_mem (plain_of_nameAndBlanks valid ⟨blanks, blank, rfl⟩)
  have settled : settle names (start ++ name ++ blanks) =
      start ++ markers (if EndsMarked (outer ++ start) then 0 else names.count name) ++ name ++
        blanks := by
    rw [settle, parts.1]
    simp only [local_endsMarked outer start fresh]
    split
    · rename_i marked
      rw [if_pos (endsMarked_reverse_iff.1 marked), show markers 0 = [] from rfl, List.append_nil]
    · rename_i unmarked
      rw [if_neg (mt endsMarked_reverse_iff.2 unmarked), markEach, markTimes, parts.1, parts.2.1,
        parts.2.2]
  have whole : outer ++ start ++ name ++ blanks ++ '(' :: rest =
      outer ++ (start ++ name ++ blanks ++ '(' :: rest) := by
    simp
  rw [whole, (mapStretches_append_of_closed closed' fresh rest).2, settled,
    (mapStretches_append_of_closed closed fresh []).1]
  simp

/-!
# Parts of a source
-/

theorem Clashes.of_append (clash : Clashes names text) (before after : List Char)
    (source_eq : source = before ++ text ++ after) : Clashes names source := by
  rcases clash with ⟨all, front, call, rest, text_eq, marked⟩
  constructor
  · intro c secluded
    rw [source_eq]
    simp [all c secluded]
  · refine ⟨before ++ front, call, rest ++ after, ?_, marked⟩
    rw [source_eq, text_eq]
    simp

/-- Two lists mark a source in the same way if and only if each name that they hold differently
often has marked calls only; and each call gets one marker for each time that its name is listed,
unless it is marked already. -/
theorem mark_eq_mark_iff {names others : Names} {source : String}
    (kept : ¬Clashes names.names source.toList) (kept' : ¬Clashes others.names source.toList) :
    (names.mark source = others.mark source ↔
      ∀ name, names.names.count name ≠ others.names.count name ->
        EveryCall [name] source.toList EndsMarked) ∧
    ∀ before name blanks rest, source.toList = before ++ name ++ blanks ++ '(' :: rest ->
      isCallName name = true -> AllBlank blanks -> OnItsOwn before ->
      (names.mark source).toList =
        names.markChars before ++
          markers (if EndsMarked before then 0 else names.names.count name) ++ name ++ blanks ++
          '(' :: names.markChars rest := by
  constructor
  · rw [Names.mark, Names.mark, String.ofList_inj, markChars_eq_mapStretches kept,
      markChars_eq_mapStretches kept']
    exact mapStretches_settle_eq_iff names.valid others.valid
  · intro before name blanks rest source_eq valid blank boundary
    have kept_before : ¬Clashes names.names before := fun clash =>
      kept (clash.of_append [] (name ++ blanks ++ '(' :: rest)
        (by rw [source_eq]; simp))
    have kept_rest : ¬Clashes names.names rest := fun clash =>
      kept (clash.of_append (before ++ name ++ blanks ++ ['(']) []
        (by rw [source_eq]; simp))
    rw [Names.mark, String.toList_ofList, markChars_eq_mapStretches kept,
      markChars_eq_mapStretches kept_before, markChars_eq_mapStretches kept_rest, source_eq]
    exact mapStretches_settle_append valid blank boundary rest

/-- A name that one of the lists holds twice, and a source in which its one call is marked. -/
theorem mark_eq_mark_iff_marked :
    ∃ names others, Names.ofStrings? ["ask", "input", "ask"] = .ok names ∧
      Names.ofStrings? ["input", "ask"] = .ok others ∧
      ¬Clashes names.names "input(await ask())".toList ∧
      ¬Clashes others.names "input(await ask())".toList ∧
      names.mark "input(await ask())" = others.mark "input(await ask())" := by
  have valid : ∀ name ∈ ["ask", "input", "ask"].map String.toList, isCallName name = true := by
    decide +kernel
  have valid' : ∀ name ∈ ["input", "ask"].map String.toList, isCallName name = true := by
    decide +kernel
  have kept (names : List (List Char)) : ¬Clashes names "input(await ask())".toList :=
    not_clashes_of_not_mem (c := Char.ofNat 0xe000) (by decide) (by decide)
  refine ⟨⟨_, valid⟩, ⟨_, valid'⟩, rfl, rfl, kept _, kept _, ?_⟩
  refine (mark_eq_mark_iff (kept _) (kept _)).1.2 fun name apart => ?_
  have asks : name = "ask".toList := by
    by_contra other
    have other' : ¬['a', 's', 'k'] = name := Ne.symm other
    apply apart
    simp [List.count_cons, other']
  rw [asks, everyCall_iff (by decide +kernel) local_endsMarked]
  decide +kernel

/-- A name that is listed twice puts two markers in front of its call. -/
theorem mark_ne_mark_of_repeated :
    ∃ names others, Names.ofStrings? ["input"] = .ok names ∧
      Names.ofStrings? ["input", "input"] = .ok others ∧
      (∀ name, name ∈ names.names ↔ name ∈ others.names) ∧
      names.mark "input()" = "await input()" ∧ others.mark "input()" = "await await input()" ∧
      names.mark "input()" ≠ others.mark "input()" := by
  have valid : ∀ name ∈ ["input"].map String.toList, isCallName name = true := by decide +kernel
  have valid' : ∀ name ∈ ["input", "input"].map String.toList, isCallName name = true := by
    decide +kernel
  have kept (names : List (List Char)) : ¬Clashes names "input()".toList :=
    not_clashes_of_not_mem (c := Char.ofNat 0xe000) (by decide) (by decide)
  have once : Names.mark ⟨_, valid⟩ "input()" = "await input()" := by
    rw [Names.mark, markChars_eq_mapStretches (kept _)]
    show String.ofList (mapStretches (settle (["input"].map String.toList)) _) = _
    decide +kernel
  have twice : Names.mark ⟨_, valid'⟩ "input()" = "await await input()" := by
    rw [Names.mark, markChars_eq_mapStretches (kept _)]
    show String.ofList (mapStretches (settle (["input", "input"].map String.toList)) _) = _
    decide +kernel
  refine ⟨⟨_, valid⟩, ⟨_, valid'⟩, rfl, rfl, fun name => by simp, once, twice, ?_⟩
  rw [once, twice]
  decide

end Calls
end HangulConsole
