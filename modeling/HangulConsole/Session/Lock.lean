/-!
# Locks

A lock is held by one task at a time.  The tasks that ask for it get it in the order
in which they asked; one that is given up leaves the others as they are.
-/

namespace HangulConsole

structure Lock where
  /-- The number of the task that has the lock. -/
  holder? : Option Nat
  /-- The numbers of the tasks that wait for the lock, the earliest first. -/
  waiters : List Nat
deriving Repr, DecidableEq

namespace Lock

def free : Lock := ⟨none, []⟩

def ask (lock : Lock) (task : Nat) : Lock :=
  match lock.holder? with
  | none => { lock with holder? := some task }
  | some _ => { lock with waiters := lock.waiters ++ [task] }

/-- Hands the lock on to the task that waits longest. -/
def release (lock : Lock) : Lock :=
  match lock.waiters with
  | [] => free
  | next :: rest => ⟨some next, rest⟩

def leave (lock : Lock) (task : Nat) : Lock :=
  if lock.holder? = some task then lock.release
  else { lock with waiters := lock.waiters.filter fun waiter => waiter != task }

end Lock

end HangulConsole
