import HangulConsole.Proofs.Text.Lines
import HangulConsole.Proofs.Calls.Stretch

/-!
# Sources by their stretches

A source is a list of stretches, each with its parenthesis behind it, and a rest that holds
none.  What treats every stretch by itself is a map over that list; two such maps in a row
are one, as long as the first adds no parenthesis.
-/

namespace HangulConsole
namespace Calls

open Text

variable {f g : List Char -> List Char} {text rest source : List Char}

/-- What stands in front of each parenthesis of a source. -/
def stretches (source : List Char) : List (List Char) :=
  (splitAt '(' source).dropLast

def remainder (source : List Char) : List Char :=
  (splitAt '(' source).getLast?.getD []

def mapStretches (f : List Char -> List Char) (source : List Char) : List Char :=
  (stretches source).flatMap (fun text => f text ++ ['(']) ++ remainder source

/-!
# One stretch after another
-/

theorem splitAt_of_closed (closed : '(' ∉ text) : splitAt '(' text = [text] := by
  have empty : splitAt '(' [] = [[]] := rfl
  have whole := splitAt_append_of_not_mem closed empty
  rwa [List.append_nil] at whole

theorem stretches_of_closed (closed : '(' ∉ text) : stretches text = [] := by
  rw [stretches, splitAt_of_closed closed]
  rfl

theorem remainder_of_closed (closed : '(' ∉ text) : remainder text = text := by
  rw [remainder, splitAt_of_closed closed]
  rfl

theorem stretches_append (closed : '(' ∉ text) (rest : List Char) :
    stretches (text ++ '(' :: rest) = text :: stretches rest := by
  rw [stretches, splitAt_append_cons closed, List.dropLast_cons_of_ne_nil (splitAt_ne_nil _ _)]
  rfl

theorem remainder_append (closed : '(' ∉ text) (rest : List Char) :
    remainder (text ++ '(' :: rest) = remainder rest := by
  rw [remainder, splitAt_append_cons closed, List.getLast?_cons_of_ne_nil (splitAt_ne_nil _ _)]
  rfl

theorem mapStretches_of_closed (closed : '(' ∉ text) : mapStretches f text = text := by
  rw [mapStretches, stretches_of_closed closed, remainder_of_closed closed]
  rfl

theorem mapStretches_append (closed : '(' ∉ text) (rest : List Char) :
    mapStretches f (text ++ '(' :: rest) = f text ++ '(' :: mapStretches f rest := by
  rw [mapStretches, stretches_append closed, remainder_append closed]
  simp [mapStretches]

theorem not_mem_of_mem_stretches (mem : text ∈ stretches source) : '(' ∉ text :=
  not_mem_of_mem_splitAt (List.dropLast_subset _ mem)

theorem paren_not_mem_remainder (source : List Char) : '(' ∉ remainder source := by
  induction source using stretch_induction with
  | tail text closed =>
      rw [remainder_of_closed closed]
      exact closed
  | cons text rest closed ih =>
      rw [remainder_append closed]
      exact ih

/-!
# Maps over the stretches
-/

theorem mapStretches_congr (same : ∀ text ∈ stretches source, f text = g text) :
    mapStretches f source = mapStretches g source := by
  induction source using stretch_induction with
  | tail text closed => rw [mapStretches_of_closed closed, mapStretches_of_closed closed]
  | cons text rest closed ih =>
      rw [stretches_append closed] at same
      rw [mapStretches_append closed, mapStretches_append closed, same text List.mem_cons_self,
        ih fun other mem => same other (List.mem_cons_of_mem text mem)]

theorem mapStretches_id (source : List Char) : mapStretches id source = source := by
  induction source using stretch_induction with
  | tail text closed => exact mapStretches_of_closed closed
  | cons text rest closed ih =>
      rw [mapStretches_append closed, ih]
      rfl

theorem not_mem_mapStretches {x : Char} (each : ∀ text, x ∉ text -> x ∉ f text)
    (free : x ∉ source) : x ∉ mapStretches f source := by
  induction source using stretch_induction with
  | tail text closed =>
      rw [mapStretches_of_closed closed]
      exact free
  | cons text rest closed ih =>
      rw [mapStretches_append closed]
      simp only [List.mem_append, List.mem_cons, not_or] at free ⊢
      exact ⟨each text free.1, free.2.1, ih free.2.2⟩

theorem stretches_mapStretches (closing : ∀ text, '(' ∉ text -> '(' ∉ f text)
    (source : List Char) : stretches (mapStretches f source) = (stretches source).map f := by
  induction source using stretch_induction with
  | tail text closed =>
      rw [mapStretches_of_closed closed, stretches_of_closed closed]
      rfl
  | cons text rest closed ih =>
      rw [mapStretches_append closed, stretches_append (closing text closed),
        stretches_append closed, ih]
      rfl

theorem mapStretches_mapStretches (closing : ∀ text, '(' ∉ text -> '(' ∉ f text)
    (source : List Char) :
    mapStretches g (mapStretches f source) = mapStretches (g ∘ f) source := by
  induction source using stretch_induction with
  | tail text closed =>
      rw [mapStretches_of_closed closed, mapStretches_of_closed closed,
        mapStretches_of_closed closed]
  | cons text rest closed ih =>
      rw [mapStretches_append closed, mapStretches_append (closing text closed),
        mapStretches_append closed, ih]
      rfl

end Calls
end HangulConsole
