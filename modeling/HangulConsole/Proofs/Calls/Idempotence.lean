import HangulConsole.Proofs.Calls.Clash

/-!
# Marking twice

Marking settles every stretch of a source, and a settled stretch is left alone.  No marker holds a
character that could be the sentinel, so one that is spare in the source is spare in the outcome,
and the second time, too, nothing happens across stretches.
-/

namespace HangulConsole
namespace Calls

open Text

variable {source : List Char}

theorem markChars_markChars {names : Names} {c : Char} (secluded : isPrivate c = true)
    (free : c ∉ source) : names.markChars (names.markChars source) = names.markChars source := by
  have once : names.markChars source = mapStretches (settle names.names) source :=
    markChars_eq_mapStretches_of_absent (pickSentinel_not_mem secluded free)
  have still_free : c ∉ mapStretches (settle names.names) source :=
    not_mem_mapStretches (fun _ => not_mem_settle (not_mem_marker_of_isPrivate secluded)) free
  have closing (text : List Char) (closed : '(' ∉ text) : '(' ∉ settle names.names text :=
    not_mem_settle (by decide) closed
  calc
    names.markChars (names.markChars source)
      = names.markChars (mapStretches (settle names.names) source) := by rw [once]
    _ = mapStretches (settle names.names) (mapStretches (settle names.names) source) :=
        markChars_eq_mapStretches_of_absent (pickSentinel_not_mem secluded still_free)
    _ = mapStretches (settle names.names ∘ settle names.names) source :=
        mapStretches_mapStretches closing source
    _ = mapStretches (settle names.names) source :=
        mapStretches_congr fun text _ => settle_settle names.valid text
    _ = names.markChars source := once.symm

/-- Marking a marked source changes nothing, as long as one of the private-use characters does not
occur in the source. -/
theorem mark_mark (names : Names) (source : String)
    (spare : ∃ c : Char, 0xe000 ≤ c.toNat ∧ c.toNat ≤ 0xf8ff ∧ c ∉ source.toList) :
    names.mark (names.mark source) = names.mark source := by
  rcases spare with ⟨c, above, below, free⟩
  have secluded := isPrivate_of_mem_sentinelCandidates (mem_sentinelCandidates above below)
  unfold Names.mark
  rw [String.toList_ofList, markChars_markChars secluded free]

/-- A name that comes twice, one that is the end of another, the marker itself, and a number. -/
theorem mark_mark_awkward_names :
    ∃ names, Names.ofStrings? ["input", "put", "await", "7", "input"] = .ok names ∧
      (∃ c : Char, 0xe000 ≤ c.toNat ∧ c.toNat ≤ 0xf8ff ∧
        c ∉ "7(await input(await\tput(await (0))))".toList) ∧
      names.mark (names.mark "7(await input(await\tput(await (0))))") =
        names.mark "7(await input(await\tput(await (0))))" := by
  have valid : ∀ name ∈ ["input", "put", "await", "7", "input"].map String.toList,
      isCallName name = true := by
    decide +kernel
  have spare : ∃ c : Char, 0xe000 ≤ c.toNat ∧ c.toNat ≤ 0xf8ff ∧
      c ∉ "7(await input(await\tput(await (0))))".toList :=
    ⟨Char.ofNat 0xe000, by decide, by decide, by decide⟩
  exact ⟨⟨_, valid⟩, rfl, spare, mark_mark _ _ spare⟩

end Calls
end HangulConsole
