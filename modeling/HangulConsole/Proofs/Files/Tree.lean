import HangulConsole.Files.Tree

/-!
# Reading what was written

A path goes through directories only, and a file is written where no directory stands.
So a path leads to the same place before and after a file is written there: what is
written under a path is read back under it, and every other place keeps its entry.
-/

namespace HangulConsole
namespace Files

def Tree.Target.writable? : Tree.Target -> Option Place
  | .missing place => some place
  | .found place (.file _) => some place
  | .found _ .directory => none

namespace Tree

variable {tree : Tree} {place other : Place} {entry : Entry}

/-!
# Putting an entry at a place
-/

theorem find?_replace (entries : List (Place × Entry)) (place other : Place) (entry : Entry) :
    (entries.map fun row => if row.1 == place then (place, entry) else row).find?
        (fun row => row.1 == other) =
      (entries.find? fun row => row.1 == other).map
        fun row => if row.1 == place then (place, entry) else row := by
  have same_key : (fun row : Place × Entry => row.1 == other) ∘
      (fun row => if row.1 == place then (place, entry) else row) = fun row => row.1 == other := by
    funext row
    by_cases here : row.1 = place <;> simp [here]
  rw [List.find?_map, same_key]

theorem entryAt?_put_self (below : place ≠ []) :
    (tree.put place entry).entryAt? place = some entry := by
  have apart : place.isEmpty = false := by simpa using below
  unfold put entryAt?
  rw [apart, if_neg Bool.false_ne_true]
  split
  · rename_i present
    rcases List.any_eq_true.1 present with ⟨row, mem, here⟩
    cases found : tree.entries.find? (fun row => row.1 == place) with
    | none => exact absurd here (List.find?_eq_none.1 found row mem)
    | some row =>
        have there := List.find?_some found
        simp only [find?_replace, found, Option.map_some, there, if_true]
  · rename_i absent
    have none_found : tree.entries.find? (fun row => row.1 == place) = none := by
      rw [List.find?_eq_none]
      intro row mem here
      exact absent (List.any_eq_true.2 ⟨row, mem, here⟩)
    rw [List.find?_append, none_found]
    simp

theorem entryAt?_put_of_ne (different : other ≠ place) :
    (tree.put place entry).entryAt? other = tree.entryAt? other := by
  unfold put entryAt?
  split
  · rfl
  · split
    · cases found : tree.entries.find? (fun row => row.1 == other) with
      | none =>
          rw [find?_replace, found]
          rfl
      | some row =>
          have there : row.1 = other := by simpa using List.find?_some found
          rw [find?_replace, found]
          simp [there, different]
    · have elsewhere : (place == other) = false := by simpa using different.symm
      rw [List.find?_append]
      cases found : tree.entries.find? (fun row => row.1 == other) with
      | none => simp [elsewhere]
      | some row => simp

/-!
# Where a path leads
-/

theorem entryAt?_ne_directory {start : Place} {names : List (List Char)} {target : Target}
    (led : tree.walk start names = .ok target) (writable : target.writable? = some place) :
    tree.entryAt? place ≠ some .directory := by
  fun_induction tree.walk start names with
  | case1 p entry stands =>
      -- The path ends here.
      cases led
      cases entry with
      | file bytes =>
          cases writable
          simp [stands]
      | directory => cases writable
  | case5 p rest stands ih => exact ih led
  | case7 p name stands named short next free =>
      -- The last name is missing.
      injection led with target_eq
      rw [← target_eq] at writable
      injection writable with place_eq
      rw [← place_eq, free]
      simp
  | case9 p name rest stands named short next entry found ih => exact ih led
  | case2 | case3 | case4 | case6 | case8 => cases led

theorem entryAt?_nil : tree.entryAt? [] = some .directory := rfl

/-- The walk to a place at which a file is put meets directories only, and these stay. -/
theorem walk_put {start : Place} {names : List (List Char)} {target : Target}
    (led : tree.walk start names = .ok target) (writable : target.writable? = some place)
    (bytes : List UInt8) :
    (tree.put place (.file bytes)).walk start names = .ok (.found place (.file bytes)) := by
  have no_directory := entryAt?_ne_directory led writable
  have here : (tree.put place (.file bytes)).entryAt? place = some (.file bytes) := by
    apply entryAt?_put_self
    intro root
    exact no_directory (by rw [root, entryAt?_nil])
  have stays {p : Place} (stands : tree.entryAt? p = some .directory) :
      (tree.put place (.file bytes)).entryAt? p = some .directory := by
    rw [entryAt?_put_of_ne, stands]
    rintro rfl
    exact no_directory stands
  fun_induction tree.walk start names with
  | case1 p entry stands =>
      cases led
      cases entry with
      | file old =>
          cases writable
          rw [walk, here]
      | directory => cases writable
  | case5 p rest stands ih =>
      rw [walk, stays stands]
      exact ih led
  | case7 p name stands named short next free =>
      injection led with target_eq
      rw [← target_eq] at writable
      injection writable with place_eq
      subst place_eq
      rw [walk, stays stands]
      simp only [named, short, if_false]
      rw [here]
      simp only [walk]
      rw [here]
  | case9 p name rest stands named short next entry found ih =>
      -- What stands next may be the old file, so that its entry is the new one.
      have kept : ((tree.put place (.file bytes)).entryAt? next).isSome := by
        by_cases same : next = place
        · rw [same, here]
          rfl
        · rw [entryAt?_put_of_ne same, found]
          rfl
      rcases Option.isSome_iff_exists.1 kept with ⟨entry', found'⟩
      rw [walk, stays stands]
      simp only [named, short, if_false]
      rw [found']
      exact ih led
  | case2 | case3 | case4 | case6 | case8 => cases led

theorem resolve_put {path : List Char} {target : Target} (led : tree.resolve path = .ok target)
    (writable : target.writable? = some place) (bytes : List UInt8) :
    (tree.put place (.file bytes)).resolve path = .ok (.found place (.file bytes)) := by
  have same_workplace : (tree.put place (.file bytes)).workplace = tree.workplace := by
    unfold put
    split <;> rfl
  unfold resolve at led ⊢
  rw [same_workplace]
  split at led
  · cases led
  · split at led
    · cases led
    · split at led
      · cases led
      · simp only [*, if_false]
        exact walk_put led writable bytes

/-!
# Writing
-/

theorem eq_put_of_write {tree' : Tree} {path : String} {bytes : List UInt8}
    (written : tree.write path bytes = .ok tree') :
    ∃ target place, tree.resolve path.toList = .ok target ∧ target.writable? = some place ∧
      asksDirectory path.toList = false ∧ tree' = tree.put place (.file bytes) := by
  unfold write at written
  split at written
  · cases written
  · cases written
  · rename_i place old led
    split at written
    · cases written
    · split at written
      · cases written
      · rename_i named
        cases written
        exact ⟨_, place, led, rfl, by simpa using named, rfl⟩
  · rename_i place led
    split at written
    · cases written
    · split at written
      · cases written
      · rename_i named
        cases written
        exact ⟨_, place, led, rfl, by simpa using named, rfl⟩

theorem resolve_of_written {tree' : Tree} {path : String} {bytes : List UInt8}
    (written : tree.write path bytes = .ok tree') :
    ∃ place, tree'.resolve path.toList = .ok (.found place (.file bytes)) ∧
      ∀ other, other ≠ place -> tree'.entryAt? other = tree.entryAt? other := by
  rcases eq_put_of_write written with ⟨target, place, led, writable, _, rfl⟩
  exact ⟨place, resolve_put led writable bytes, fun other => entryAt?_put_of_ne⟩

theorem read_of_written {tree' : Tree} {path : String} {bytes : List UInt8}
    (written : tree.write path bytes = .ok tree') : tree'.read path = .ok bytes := by
  rcases eq_put_of_write written with ⟨target, place, led, writable, named, rfl⟩
  rw [read, resolve_put led writable bytes]
  simp [named]

end Tree
end Files
end HangulConsole
