/-!
# Scopes

The names that have a value, in the order in which they got their first one.
-/

namespace HangulConsole
namespace Guest

structure Scope (α : Type) where
  entries : List (String × α)
deriving Repr, Inhabited

namespace Scope

variable {α : Type}

def empty : Scope α := ⟨[]⟩

def get? (scope : Scope α) (name : String) : Option α :=
  (scope.entries.find? fun entry => entry.1 == name).map Prod.snd

def contains (scope : Scope α) (name : String) : Bool :=
  (scope.get? name).isSome

def putIn (name : String) (value : α) : List (String × α) -> List (String × α)
  | [] => [(name, value)]
  | entry :: rest =>
      if entry.1 == name then (name, value) :: rest else entry :: putIn name value rest

def put (scope : Scope α) (name : String) (value : α) : Scope α :=
  ⟨putIn name value scope.entries⟩

def putAll (scope more : Scope α) : Scope α :=
  more.entries.foldl (fun scope entry => scope.put entry.1 entry.2) scope

theorem find?_putIn_self (name : String) (value : α) (entries : List (String × α)) :
    ((putIn name value entries).find? fun entry => entry.1 == name) = some (name, value) := by
  induction entries with
  | nil => simp [putIn]
  | cons entry rest ih =>
      rw [putIn]
      split
      · simp
      · rename_i other
        simp [other, ih]

@[simp] theorem get?_put_self (scope : Scope α) (name : String) (value : α) :
    (scope.put name value).get? name = some value := by
  simp [get?, put, find?_putIn_self]

theorem find?_putIn_of_ne {name other : String} (value : α) (ne : other ≠ name)
    (entries : List (String × α)) :
    ((putIn name value entries).find? fun entry => entry.1 == other) =
      entries.find? fun entry => entry.1 == other := by
  induction entries with
  | nil => simp [putIn, ne.symm]
  | cons entry rest ih =>
      rw [putIn]
      split
      · rename_i same
        have entry_eq : entry.1 = name := by simpa using same
        simp [entry_eq, ne.symm]
      · simp [List.find?_cons, ih]

theorem get?_put_of_ne (scope : Scope α) {name other : String} (value : α)
    (ne : other ≠ name) : (scope.put name value).get? other = scope.get? other := by
  simp [get?, put, find?_putIn_of_ne value ne]

end Scope

end Guest
end HangulConsole
