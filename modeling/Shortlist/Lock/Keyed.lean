/-! # Locks by key

Every key that somebody holds or waits for has one lock. A key is entered before its lock is waited
for, and left after the lock was given back; when the last user leaves, the lock is dropped.
-/

namespace Shortlist

/-- Locks are told apart by numbers that are not used again. -/
abbrev LockId := Nat

structure KeyedLock where
  /-- The lock of every key in use. -/
  locks : List (String × LockId)
  /-- How many hold a key or wait for it. -/
  users : List (String × Nat)
  /-- The number of the next lock. -/
  next : LockId
deriving Repr

namespace KeyedLock

def empty : KeyedLock := ⟨[], [], 0⟩

def lock? (l : KeyedLock) (key : String) : Option LockId := l.locks.lookup key

def userCount (l : KeyedLock) (key : String) : Nat := (l.users.lookup key).getD 0

def contains (l : KeyedLock) (key : String) : Bool := (l.lock? key).isSome

def setUsers (key : String) (count : Nat) : List (String × Nat) → List (String × Nat)
  | [] => [(key, count)]
  | (k, n) :: rest => if k = key then (k, count) :: rest else (k, n) :: setUsers key count rest

/-- Counts one more user of a key, and tells its lock. -/
def enter (l : KeyedLock) (key : String) : LockId × KeyedLock :=
  let users := setUsers key (l.userCount key + 1) l.users
  match l.lock? key with
  | some lock => (lock, { l with users })
  | none => (l.next, { locks := l.locks ++ [(key, l.next)], users, next := l.next + 1 })

/-- Counts one user less; the last one takes the lock away. -/
def leave (l : KeyedLock) (key : String) : KeyedLock :=
  let count := l.userCount key - 1
  if count = 0 then
    { l with
      locks := l.locks.filter (·.1 ≠ key)
      users := l.users.filter (·.1 ≠ key) }
  else { l with users := setUsers key count l.users }

end KeyedLock

end Shortlist
