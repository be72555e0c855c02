import HangulConsole.Proofs.Calls.Markers
import HangulConsole.Proofs.Calls.SettingAside

/-!
# The three passes make one

The passes over a source are followed through its parts: marked calls are set aside,
the remaining calls of each name are marked, and what was set aside is put back.  What
becomes of a stretch depends on that stretch alone, and for pairwise different names it is
what the single pass makes of it.
-/

namespace HangulConsole
namespace Calls

open Text

/-!
# Marking the parts
-/

namespace Part

def markEach (names : List (List Char)) (part : Part) : Part :=
  match part.held? with
  | none => { part with text := Calls.markEach names part.text }
  | some _ => part

theorem mark_markEach {names : List (List Char)} {name : List Char}
    (valid : ∀ other ∈ names ++ [name], isCallName other = true) (part : Part) :
    (part.markEach names).mark [name] = part.markEach (names ++ [name]) := by
  rcases part with ⟨text, held?⟩
  cases held? with
  | none => simp [mark, markEach, markStretch_markEach valid]
  | some index => rfl

theorem markEach_nil (part : Part) : part.markEach [] = part := by
  rcases part with ⟨text, held?⟩
  cases held? with
  | none => simp [markEach, markEach_of_not_mem]
  | some index => rfl

theorem not_mem_markEach {names : List (List Char)} {x : Char} (outside : x ∉ marker ++ [' '])
    {part : Part} (free : x ∉ part.text) : x ∉ (part.markEach names).text := by
  rcases part with ⟨text, held?⟩
  cases held? with
  | none => exact Calls.not_mem_markEach outside free
  | some index => exact free

end Part

section

variable {sentinel : Char} {name tail : List Char}

theorem markName_codeOf (valid : isCallName name = true) (secluded : isPrivate sentinel = true)
    (closed_tail : '(' ∉ tail) {parts : List Part} (closed : ∀ part ∈ parts, '(' ∉ part.text)
    {before : Option Char} (fresh : atBoundary before = true) :
    markName name before (codeOf sentinel parts tail) =
      codeOf sentinel (parts.map (Part.mark [name])) tail := by
  induction parts generalizing before with
  | nil => exact markName_of_closed valid closed_tail before
  | cons part parts ih =>
      rcases part with ⟨text, held?⟩
      have part_closed : '(' ∉ text := closed _ (List.mem_cons_self ..)
      have rest_closed : ∀ part ∈ parts, '(' ∉ part.text :=
        fun other mem => closed other (List.mem_cons_of_mem _ mem)
      rw [List.map_cons, codeOf_cons, codeOf_cons]
      cases held? with
      | none =>
          simp only [Part.code, Part.mark, List.append_assoc, List.singleton_append]
          rw [markName_stretch valid part_closed fresh, ih rest_closed (by decide +kernel)]
      | some index =>
          have stops := stops_of_isPrivate secluded
          have stop_fresh : atBoundary (some sentinel) = true := by
            simp [atBoundary, stops.not_identifier]
          simp only [Part.code, Part.mark, append_placeHolder]
          rw [markName_append_stop valid stops (ne_paren_of_isPrivate secluded)
            (paren_not_mem_placeHolder secluded part_closed index), ih rest_closed stop_fresh]

theorem foldl_markName_codeOf (done : List (List Char)) {names : List (List Char)}
    (valid : ∀ name ∈ done ++ names, isCallName name = true)
    (secluded : isPrivate sentinel = true) (closed_tail : '(' ∉ tail) {parts : List Part}
    (closed : ∀ part ∈ parts, '(' ∉ part.text) :
    names.foldl (fun text name => markName name none text)
        (codeOf sentinel (parts.map (Part.markEach done)) tail) =
      codeOf sentinel (parts.map (Part.markEach (done ++ names))) tail := by
  induction names generalizing done with
  | nil => rw [List.append_nil]; rfl
  | cons name names ih =>
      have split : done ++ name :: names = done ++ [name] ++ names := by simp
      rw [split] at valid ⊢
      have valid_done : ∀ other ∈ done ++ [name], isCallName other = true :=
        fun other mem => valid other (List.mem_append_left _ mem)
      have marked_closed : ∀ part ∈ parts.map (Part.markEach done), '(' ∉ part.text := by
        intro part mem
        rcases List.mem_map.1 mem with ⟨origin, origin_mem, rfl⟩
        exact Part.not_mem_markEach (by decide) (closed origin origin_mem)
      have once_more : (parts.map (Part.markEach done)).map (Part.mark [name]) =
          parts.map (Part.markEach (done ++ [name])) := by
        rw [List.map_map]
        exact List.map_congr_left fun part _ => Part.mark_markEach valid_done part
      rw [List.foldl_cons, markName_codeOf (valid_done name (by simp)) secluded closed_tail
        marked_closed rfl, once_more]
      exact ih (done ++ [name]) valid

theorem markAll_codeOf {names : List (List Char)} (valid : ∀ name ∈ names, isCallName name = true)
    (secluded : isPrivate sentinel = true) (closed_tail : '(' ∉ tail)
    {parts : List Part} (closed : ∀ part ∈ parts, '(' ∉ part.text) :
    markAll names (codeOf sentinel parts tail) =
      codeOf sentinel (parts.map (Part.markEach names)) tail := by
  have all := foldl_markName_codeOf [] valid secluded closed_tail closed
  have unmarked : parts.map (Part.markEach []) = parts := by
    rw [List.map_congr_left fun part _ => Part.markEach_nil part, List.map_id']
  rw [unmarked] at all
  exact all

/-!
# Putting back, part by part
-/

theorem putBackPieces_codeOf (secluded : isPrivate sentinel = true) (free_tail : sentinel ∉ tail)
    {names aside : List (List Char)} {parts : List Part}
    (sound : Sound sentinel names aside parts) :
    putBackPieces aside false (splitAt sentinel (codeOf sentinel parts tail)) =
      restoredOf aside parts tail := by
  induction parts with
  | nil =>
      rw [codeOf_nil, ← List.append_nil tail, putBackPieces_append free_tail]
      simp [splitAt, putBackPieces]
  | cons part parts ih =>
      rcases part with ⟨text, held?⟩
      have free : sentinel ∉ text := sound.free _ (List.mem_cons_self ..)
      rw [codeOf_cons, restoredOf_cons]
      cases held? with
      | none =>
          have free' : sentinel ∉ text ++ ['('] := by
            simp [free, ne_paren_of_isPrivate secluded]
          simp only [Part.code, Part.restored]
          rw [putBackPieces_append free', ih sound.tail]
      | some index =>
          rcases sound.held _ (List.mem_cons_self ..) index rfl with ⟨_, _, body, _, found⟩
          simp only [Part.code, Part.restored, found, List.append_assoc]
          rw [putBackPieces_append free, putBackPieces_placeHolder secluded found, ih sound.tail]
          rfl

theorem codeOf_eq_restoredOf {names : List (List Char)} {parts : List Part}
    (sound : Sound sentinel names [] parts) :
    codeOf sentinel parts tail = restoredOf [] parts tail := by
  induction parts with
  | nil => rfl
  | cons part parts ih =>
      rcases part with ⟨text, held?⟩
      rw [codeOf_cons, restoredOf_cons, ih sound.tail]
      cases held? with
      | none => rfl
      | some index =>
          rcases sound.held _ (List.mem_cons_self ..) index rfl with ⟨_, _, _, _, found⟩
          simp at found

theorem putBack_codeOf (secluded : isPrivate sentinel = true) (free_tail : sentinel ∉ tail)
    {names aside : List (List Char)} {parts : List Part}
    (sound : Sound sentinel names aside parts) :
    putBack sentinel aside (codeOf sentinel parts tail) = restoredOf aside parts tail := by
  cases aside with
  | nil => exact codeOf_eq_restoredOf sound
  | cons call aside => exact putBackPieces_codeOf secluded free_tail sound

theorem Sound.markEach {names aside : List (List Char)} {parts : List Part}
    (secluded : isPrivate sentinel = true) (sound : Sound sentinel names aside parts) :
    Sound sentinel names aside (parts.map (Part.markEach names)) where
  closed := by
    intro part mem
    rcases List.mem_map.1 mem with ⟨origin, origin_mem, rfl⟩
    exact Part.not_mem_markEach (by decide) (sound.closed origin origin_mem)
  free := by
    intro part mem
    rcases List.mem_map.1 mem with ⟨origin, origin_mem, rfl⟩
    exact Part.not_mem_markEach (not_mem_marker_of_isPrivate secluded)
      (sound.free origin origin_mem)
  held := by
    intro part mem index index_held
    rcases List.mem_map.1 mem with ⟨⟨text, held?⟩, origin_mem, rfl⟩
    cases held? with
    | none => simp [Part.markEach] at index_held
    | some other => exact sound.held _ origin_mem index index_held

/-!
# The outcome, stretch by stretch
-/

/-- A part that still has its parenthesis is a stretch of which no call is marked, and any other
part is one that ends in a marked call. -/
theorem restoredOf_markEach {names aside : List (List Char)}
    (valid : ∀ name ∈ names, isCallName name = true) (closed_tail : '(' ∉ tail)
    {parts : List Part} (sound : Sound sentinel names aside parts)
    (cleared : ∀ name ∈ names, Cleared name parts) :
    restoredOf aside (parts.map (Part.markEach names)) tail =
      mapStretches (settle names) (restoredOf aside parts tail) := by
  induction parts with
  | nil => exact (mapStretches_of_closed closed_tail).symm
  | cons part parts ih =>
      rcases part with ⟨text, held?⟩
      have closed : '(' ∉ text := sound.closed _ (List.mem_cons_self ..)
      have cleared_rest : ∀ name ∈ names, Cleared name parts :=
        fun name mem other other_mem => cleared name mem other (List.mem_cons_of_mem _ other_mem)
      rw [List.map_cons, restoredOf_cons, restoredOf_cons, ih sound.tail cleared_rest]
      cases held? with
      | none =>
          have settled : settle names text = markEach names text := by
            by_cases mem : Stretch.word text ∈ names
            · unfold settle
              rw [if_neg]
              intro marked
              obtain ⟨outer, body, shape, text_eq⟩ :=
                Stretch.markedNameAndBlanks_of_word_eq rfl marked
              exact cleared _ mem _ (List.mem_cons_self ..) rfl outer body text_eq shape
            · rw [settle_of_not_mem mem, markEach_of_not_mem mem]
          simp only [Part.restored, Part.markEach, List.append_assoc, List.singleton_append]
          rw [mapStretches_append closed, settled]
      | some index =>
          rcases sound.held _ (List.mem_cons_self ..) index rfl with ⟨name, mem, body, shape, found⟩
          have body_closed :=
            stops_paren.not_mem (plain_of_markedNameAndBlanks (valid name mem) shape)
          have closed' : '(' ∉ text ++ body := by simp [closed, body_closed]
          have marked := Stretch.word_eq_of_markedNameAndBlanks text (valid name mem) shape
          have text_eq (rest : List Char) :
              text ++ (body ++ ['(']) ++ rest = text ++ body ++ '(' :: rest := by simp
          simp only [Part.restored, Part.markEach, found, Option.getD_some]
          rw [text_eq, text_eq, mapStretches_append closed', settle_of_endsMarked marked.2]

theorem markOnce_eq_mapStretches {names : List (List Char)}
    (valid : ∀ name ∈ names, isCallName name = true) (source : List Char) :
    markOnce names source = mapStretches
      (fun text => if endsMarked (Stretch.front text).reverse then text else markStretch names text)
      source := by
  have from_fresh (before : List Char) : Fresh before -> markOnceFrom names before source =
      mapStretches (fun text => if endsMarked (Stretch.front text).reverse then text
        else markStretch names text) source := by
    induction source using stretch_induction generalizing before with
    | tail text closed =>
        intro _
        rw [markOnceFrom_of_closed valid closed, mapStretches_of_closed closed]
    | cons text rest closed ih =>
        intro fresh
        rw [markOnceFrom_stretch valid closed fresh, mapStretches_append closed,
          ih _ (fresh_cons _)]
  exact from_fresh [] fresh_nil

/-!
# Cutting a source into parts
-/

theorem exists_parts (names aside : List (List Char)) (source : List Char) :
    sentinel ∉ source -> ∃ parts tail, Sound sentinel names aside parts ∧ '(' ∉ tail ∧
      sentinel ∉ tail ∧ source = codeOf sentinel parts tail ∧
      source = restoredOf aside parts tail := by
  induction source using stretch_induction with
  | tail text closed =>
      intro absent
      exact ⟨[], text, Sound.nil, closed, absent, rfl, rfl⟩
  | cons text rest closed ih =>
      intro absent
      simp only [List.mem_append, List.mem_cons, not_or] at absent
      rcases ih absent.2.2 with ⟨parts, tail, sound, closed_tail, free_tail, code_eq, restored_eq⟩
      refine ⟨⟨text, none⟩ :: parts, tail, ?_, closed_tail, free_tail, ?_, ?_⟩
      · exact Sound.cons closed absent.1 (fun index held => absurd held (by simp)) sound
      · rw [codeOf_cons, ← code_eq]
        simp [Part.code]
      · rw [restoredOf_cons, ← restored_eq]
        simp [Part.restored]

end

/-- What the three passes over the characters of a source make of its stretches. -/
theorem markChars_eq_mapStretches_of_absent {names : Names} {source : List Char}
    (absent : pickSentinel source ∉ source) :
    names.markChars source = mapStretches (settle names.names) source := by
  have valid := names.valid
  have secluded := isPrivate_pickSentinel source
  obtain ⟨parts, tail, sound, closed_tail, free_tail, code_eq, restored_eq⟩ :=
    exists_parts names.names [] source absent
  obtain ⟨aside, parts', set_aside, relieved⟩ :=
    foldl_setAside_codeOf valid secluded closed_tail (fun name mem => mem) sound
  have set_aside_eq : setAsideAll (pickSentinel source) names.names source =
      (aside, codeOf (pickSentinel source) parts' tail) := by
    rw [← set_aside, ← code_eq]
    rfl
  have source_eq : source = restoredOf aside parts' tail :=
    restored_eq.trans relieved.restored_eq.symm
  rw [Names.markChars, set_aside_eq]
  dsimp only
  rw [markAll_codeOf valid secluded closed_tail relieved.sound.closed,
    putBack_codeOf secluded free_tail (relieved.sound.markEach secluded),
    restoredOf_markEach valid closed_tail relieved.sound relieved.cleared, ← source_eq]

theorem markChars_eq {names : Names} (different : names.names.Nodup) {source : List Char}
    (absent : pickSentinel source ∉ source) :
    names.markChars source = markOnce names.names source := by
  rw [markChars_eq_mapStretches_of_absent absent, markOnce_eq_mapStretches names.valid]
  apply mapStretches_congr
  intro text _
  unfold settle
  rw [markEach_of_nodup different]

theorem markOnce_congr {names others : List (List Char)}
    (same : ∀ name, name ∈ names ↔ name ∈ others) (source : List Char) :
    markOnce names source = markOnce others source := by
  have from_any (before : List Char) :
      markOnceFrom names before source = markOnceFrom others before source := by
    induction source generalizing before with
    | nil => rfl
    | cons c source ih =>
        rw [markOnceFrom, markOnceFrom, wantsMarker, wantsMarker, startsCall_congr same, ih]
  exact from_any []

def IsMarkedCall (names : List (List Char)) (call : List Char) : Prop :=
  ∃ name ∈ names, ∃ gap blanks, gap ≠ [] ∧ AllBlank gap ∧ AllBlank blanks ∧
    call = marker ++ gap ++ name ++ blanks ++ ['(']

theorem markOnce_append_markedCall {names : List (List Char)}
    (valid : ∀ name ∈ names, isCallName name = true) {call : List Char}
    (marked : IsMarkedCall names call) (front rest : List Char) :
    markOnce names (front ++ call ++ rest) =
      markOnce names front ++ call ++ markOnce names rest := by
  rcases marked with ⟨name, mem, gap, blanks, gap_ne, gapBlank, blank, rfl⟩
  have shape : MarkedNameAndBlanks name (marker ++ gap ++ (name ++ blanks)) :=
    ⟨gap, name ++ blanks, gap_ne, gapBlank, ⟨blanks, blank, rfl⟩, rfl⟩
  have kept := markOnceFrom_append_marked valid mem shape front rest [] fresh_nil
  simpa [markOnce] using kept

/-- Marking the calls of pairwise different names in three passes is marking them in one: the marker
is put where it belongs and all else is copied.  In particular marked calls come back as they were,
and the order of the names does not matter. -/
theorem mark_eq_markOnce {strings : List String} {names : Names}
    (accepted : Names.ofStrings? strings = .ok names) (different : strings.Nodup)
    {source : String} (absent : pickSentinel source.toList ∉ source.toList) :
    names.mark source = String.ofList (markOnce (strings.map String.toList) source.toList) ∧
      (∀ before text, wantsMarker (strings.map String.toList) before.reverse text = true ↔
        WantsMarker (strings.map String.toList) before text) ∧
      (∀ front call rest, IsMarkedCall (strings.map String.toList) call ->
        source.toList = front ++ call ++ rest ->
        (names.mark source).toList = markOnce (strings.map String.toList) front ++ call ++
          markOnce (strings.map String.toList) rest) ∧
      (∀ strings' names', Names.ofStrings? strings' = .ok names' -> strings'.Perm strings ->
        names'.mark source = names.mark source) := by
  have marks {strings : List String} {names : Names}
      (accepted : Names.ofStrings? strings = .ok names) (different : strings.Nodup) :
      names.mark source = String.ofList (markOnce (strings.map String.toList) source.toList) := by
    have names_eq := Names.names_of_ofStrings? accepted
    have nodup : names.names.Nodup := by
      rw [names_eq]
      exact List.Pairwise.map String.toList
        (fun first second other same => other (String.toList_inj.1 same)) different
    rw [Names.mark, markChars_eq nodup absent, names_eq]
  refine ⟨marks accepted different, fun _ _ => wantsMarker_iff, ?_, ?_⟩
  · intro front call rest marked source_eq
    rw [marks accepted different, String.toList_ofList, source_eq]
    refine markOnce_append_markedCall ?_ marked front rest
    rw [← Names.names_of_ofStrings? accepted]
    exact names.valid
  · intro strings' names' accepted' reordered
    rw [marks accepted' (reordered.nodup_iff.2 different), marks accepted different]
    refine congrArg String.ofList (markOnce_congr ?_ source.toList)
    intro name
    exact (reordered.map String.toList).mem_iff

/-- Two names of which one is the end of the other, and a source with marked and unmarked calls. -/
theorem mark_eq_markOnce_input_put :
    ∃ names, Names.ofStrings? ["put", "input"] = .ok names ∧ ["put", "input"].Nodup ∧
      pickSentinel "put(input (await\tput()))".toList ∉ "put(input (await\tput()))".toList ∧
      names.mark "put(input (await\tput()))" = "await put(await input (await\tput()))" := by
  have valid : ∀ name ∈ ["put".toList, "input".toList], isCallName name = true := by
    decide +kernel
  have accepted : Names.ofStrings? ["put", "input"] =
      .ok ⟨["put".toList, "input".toList], valid⟩ := rfl
  have different : ["put", "input"].Nodup := by decide
  have absent : pickSentinel "put(input (await\tput()))".toList ∉
      "put(input (await\tput()))".toList := by
    decide +kernel
  refine ⟨_, accepted, different, absent, ?_⟩
  rw [(mark_eq_markOnce accepted different absent).1]
  decide +kernel

end Calls
end HangulConsole
