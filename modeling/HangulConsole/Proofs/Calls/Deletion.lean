import HangulConsole.Proofs.Calls.Clash

/-!
# What marking adds to a source

Deleting the markers that were added gives the source again, character for character.  The one
exception is a source that clashes with its sentinel: that character is lost from it.
-/

namespace HangulConsole
namespace Calls

open Text

variable {text source : List Char}

/-- Deleting some markers of the text, each with the space behind it, gives the source. -/
inductive DeletesTo : List Char -> List Char -> Prop
  | nil : DeletesTo [] []
  | keep (c : Char) {text source : List Char} :
      DeletesTo text source -> DeletesTo (c :: text) (c :: source)
  | delete {text source : List Char} :
      DeletesTo text source -> DeletesTo (marker ++ ' ' :: text) source

namespace DeletesTo

theorem refl (text : List Char) : DeletesTo text text := by
  induction text with
  | nil => exact nil
  | cons c text ih => exact keep c ih

theorem append {text' source' : List Char} (first : DeletesTo text source)
    (second : DeletesTo text' source') : DeletesTo (text ++ text') (source ++ source') := by
  induction first with
  | nil => exact second
  | keep c _ ih => exact keep c ih
  | delete _ ih =>
      rw [List.append_assoc, List.cons_append]
      exact delete ih

theorem mem (deletes : DeletesTo text source) {c : Char} (inside : c ∈ source) : c ∈ text := by
  induction deletes with
  | nil => exact inside
  | keep d _ ih =>
      rcases List.mem_cons.1 inside with rfl | inside
      · exact List.mem_cons_self
      · exact List.mem_cons_of_mem d (ih inside)
  | delete _ ih => exact List.mem_append_right marker (List.mem_cons_of_mem ' ' (ih inside))

theorem markers (count : Nat) : DeletesTo (Calls.markers count) [] := by
  induction count with
  | zero => exact nil
  | succ count ih =>
      rw [markers_succ, List.append_assoc]
      exact ih.append (delete nil)

theorem settle (names : List (List Char)) (text : List Char) :
    DeletesTo (Calls.settle names text) text := by
  unfold Calls.settle
  split
  · exact refl text
  · have marked := (refl (Stretch.front text)).append
      (markers (names.count (Stretch.word text)))
    have whole := (marked.append (refl (Stretch.word text))).append (refl (Stretch.blanks text))
    rw [List.append_nil, Stretch.front_word_blanks] at whole
    exact whole

theorem mapStretches {f : List Char -> List Char} (each : ∀ text, DeletesTo (f text) text)
    (source : List Char) : DeletesTo (Calls.mapStretches f source) source := by
  induction source using stretch_induction with
  | tail text closed =>
      rw [mapStretches_of_closed closed]
      exact refl text
  | cons text rest closed ih =>
      rw [mapStretches_append closed]
      exact (each text).append (keep '(' ih)

end DeletesTo

/-- Marking adds markers and does nothing else, unless the source holds all characters that could
be its sentinel, and a marked call with them. -/
theorem deletesTo_mark_iff (names : Names) (source : String) :
    DeletesTo (names.mark source).toList source.toList ↔ ¬Clashes names.names source.toList := by
  rw [Names.mark, String.toList_ofList]
  constructor
  · intro deletes clash
    exact pickSentinel_not_mem_markChars clash.2
      (deletes.mem (pickSentinel_mem_iff.2 clash.1))
  · intro kept
    rw [markChars_eq_mapStretches kept]
    exact DeletesTo.mapStretches (DeletesTo.settle names.names) source.toList

/-- All characters that could be the sentinel, and a marked call. -/
def crowdedSource : String :=
  String.ofList (sentinelCandidates ++ Char.ofNat 0xffff :: " await input()".toList)

/-- The last resort is lost from it. -/
theorem not_deletesTo_mark_crowdedSource :
    ¬DeletesTo (Names.standard.mark crowdedSource).toList crowdedSource.toList := by
  rw [Names.mark, crowdedSource, String.toList_ofList, String.toList_ofList]
  intro deletes
  refine pickSentinel_not_mem_markChars ?_ (deletes.mem (pickSentinel_mem_iff.2 ?_))
  · refine ⟨sentinelCandidates ++ [Char.ofNat 0xffff, ' '], "await input(".toList, [')'], ?_, ?_⟩
    · rw [List.append_assoc, List.append_assoc]
      rfl
    · refine ⟨"input".toList, ?_, [' '], [], List.cons_ne_nil _ _, allBlank_space, ?_, rfl⟩
      · decide
      · intro c mem
        cases mem
  · intro c secluded
    cases mem_candidates_of_isPrivate secluded with
    | inl candidate => exact List.mem_append_left _ candidate
    | inr last =>
        rw [last]
        exact List.mem_append_right _ List.mem_cons_self

end Calls
end HangulConsole
