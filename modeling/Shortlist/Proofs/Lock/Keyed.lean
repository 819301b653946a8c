import Mathlib.Data.List.Basic
import Shortlist.Lock.Keyed

/-! # Locks of keys in use

A key has a lock as long as somebody uses it, and no two keys have the same lock. Entering a key and
leaving it keep this up when one user more or less is counted.
-/

namespace Shortlist.KeyedLock

variable {β : Type} {l : KeyedLock} {key k : String} {count : String → Nat} {i : LockId}

/-! ## Entries -/

theorem lookup_cons_ite (k' : String) (v : β) (entries : List (String × β)) (k : String) :
    ((k', v) :: entries).lookup k = if k = k' then some v else entries.lookup k := by
  by_cases hk : k = k'
  · simp [hk]
  · rw [List.lookup_cons, beq_false_of_ne hk, if_neg hk]

theorem lookup_setUsers (key : String) (n : Nat) (users : List (String × Nat)) (k : String) :
    (setUsers key n users).lookup k = if k = key then some n else users.lookup k := by
  induction users with
  | nil => rw [setUsers, lookup_cons_ite]
  | cons user users ih =>
    obtain ⟨k', n'⟩ := user
    rw [setUsers]
    split
    · next he =>
      subst he
      rw [lookup_cons_ite, lookup_cons_ite]
      split <;> rfl
    · next hne =>
      rw [lookup_cons_ite, lookup_cons_ite, ih]
      split
      · next he => rw [if_neg (he ▸ hne)]
      · rfl

theorem lookup_filter_ne (key : String) (entries : List (String × β)) (k : String) :
    (entries.filter (·.1 ≠ key)).lookup k = if k = key then none else entries.lookup k := by
  induction entries with
  | nil => simp
  | cons entry entries ih =>
    obtain ⟨k', v⟩ := entry
    rw [List.filter_cons, lookup_cons_ite]
    split
    · next hk =>
      rw [lookup_cons_ite, ih]
      split
      · next he => rw [if_neg (he ▸ of_decide_eq_true hk)]
      · rfl
    · next hk =>
      have he : k' = key := by simpa using hk
      rw [ih, ← he]
      split <;> rfl

/-! ## Entering and leaving -/

theorem enter_fst : (l.enter key).1 = (l.lock? key).getD l.next := by
  rw [enter]
  split <;> simp_all

theorem enter_next :
    (l.enter key).2.next = if (l.lock? key).isSome then l.next else l.next + 1 := by
  rw [enter]
  split <;> simp_all

theorem lookup_users_enter : (l.enter key).2.users.lookup k =
    if k = key then some (l.userCount key + 1) else l.users.lookup k := by
  rw [← lookup_setUsers, enter]
  split <;> rfl

theorem lock?_enter : (l.enter key).2.lock? k =
    if k = key then some ((l.lock? key).getD l.next) else l.lock? k := by
  rw [enter]
  split
  · next i h =>
    split
    · next he =>
      rw [he, h]
      exact h
    · rfl
  · next h =>
    change (l.locks ++ [(key, l.next)]).lookup k = _
    rw [List.lookup_append, lookup_cons_ite]
    split
    · next he =>
      rw [h, he, show l.locks.lookup key = none from h]
      rfl
    · exact Option.or_none

theorem leave_next : (l.leave key).next = l.next := by
  rw [leave]
  split <;> rfl

theorem lookup_users_leave : (l.leave key).users.lookup k =
    if k = key then (if l.userCount key ≤ 1 then none else some (l.userCount key - 1))
    else l.users.lookup k := by
  rw [leave]
  split
  · next h =>
    have hone : l.userCount key ≤ 1 := by omega
    rw [if_pos hone]
    exact lookup_filter_ne key l.users k
  · next h =>
    have hmany : ¬ l.userCount key ≤ 1 := by omega
    rw [if_neg hmany]
    exact lookup_setUsers key _ l.users k

theorem lock?_leave : (l.leave key).lock? k =
    if k = key ∧ l.userCount key ≤ 1 then none else l.lock? k := by
  rw [leave]
  split
  · next h =>
    have hone : l.userCount key ≤ 1 := by omega
    simp only [hone, and_true]
    exact lookup_filter_ne key l.locks k
  · next h => rw [if_neg fun hk => h (Nat.sub_eq_zero_of_le hk.2)]; rfl

/-! ## Counting -/

/-- Of every key so many users are counted. The keys with users are those with a lock, and locks are
told apart. -/
structure Counts (l : KeyedLock) (count : String → Nat) : Prop where
  users : ∀ k, l.users.lookup k = if count k = 0 then none else some (count k)
  locks : ∀ k, (l.lock? k).isSome ↔ 1 ≤ count k
  fresh : ∀ k i, l.lock? k = some i → i < l.next
  apart : ∀ k k' i, l.lock? k = some i → l.lock? k' = some i → k = k'

theorem counts_empty : empty.Counts fun _ => 0 where
  users _ := rfl
  locks _ := by simp [lock?, empty]
  fresh _ _ h := by simp [lock?, empty] at h
  apart _ _ _ h := by simp [lock?, empty] at h

namespace Counts

theorem userCount_eq (h : l.Counts count) (k : String) : l.userCount k = count k := by
  rw [userCount, h.users]
  split
  · next hk => exact hk.symm
  · rfl

theorem isSome_users_iff (h : l.Counts count) (k : String) :
    (l.users.lookup k).isSome ↔ 1 ≤ count k := by
  rw [h.users]
  split
  · next hk => simp [hk]
  · next hk => simpa using Nat.one_le_iff_ne_zero.mpr hk

/-- The lock given to a new user is one that no other key has. -/
theorem eq_key_of_lock? (h : l.Counts count)
    (hk : l.lock? k = some ((l.lock? key).getD l.next)) : k = key := by
  cases hkey : l.lock? key with
  | none =>
    rw [hkey] at hk
    exact absurd (h.fresh k _ hk) (Nat.lt_irrefl _)
  | some i =>
    rw [hkey] at hk
    exact h.apart k key i hk hkey

theorem enter (h : l.Counts count) (key : String) :
    (l.enter key).2.Counts fun k => if k = key then count k + 1 else count k where
  users k := by
    rw [lookup_users_enter, h.userCount_eq]
    split
    · next he => rw [he, if_neg (Nat.succ_ne_zero _)]
    · exact h.users k
  locks k := by
    rw [lock?_enter]
    split
    · simp
    · exact h.locks k
  fresh k i hi := by
    rw [enter_next]
    rw [lock?_enter] at hi
    split at hi
    · cases hkey : l.lock? key with
      | none =>
        rw [hkey] at hi
        exact Option.some.inj hi ▸ Nat.lt_succ_self l.next
      | some j =>
        rw [hkey] at hi
        exact Option.some.inj hi ▸ h.fresh key j hkey
    · split
      · exact h.fresh k i hi
      · exact Nat.lt_succ_of_lt (h.fresh k i hi)
  apart k k' i hi hi' := by
    rw [lock?_enter] at hi hi'
    split at hi
    · next he =>
      split at hi'
      · next he' => rw [he, he']
      · rw [he, h.eq_key_of_lock? (hi'.trans hi.symm)]
    · split at hi'
      · next he' => rw [he', h.eq_key_of_lock? (hi.trans hi'.symm)]
      · exact h.apart k k' i hi hi'

theorem leave (h : l.Counts count) (key : String) (hkey : 1 ≤ count key) :
    (l.leave key).Counts fun k => if k = key then count k - 1 else count k := by
  -- A key that keeps its lock had it before.
  have hold : ∀ {k i}, (l.leave key).lock? k = some i → l.lock? k = some i := by
    intro k i hi
    rw [lock?_leave] at hi
    split at hi
    · cases hi
    · exact hi
  refine ⟨fun k => ?_, fun k => ?_, fun k i hi => ?_, fun k k' i hi hi' => ?_⟩
  · rw [lookup_users_leave, h.userCount_eq]
    split
    · next he =>
      rw [he]
      exact if_congr (by omega) rfl rfl
    · exact h.users k
  · rw [lock?_leave, h.userCount_eq]
    split
    · next hk => simp [hk.1]; omega
    · next hk =>
      rw [h.locks k]
      split
      · next he =>
        rw [he]
        have hmany : ¬ count key ≤ 1 := fun hle => hk ⟨he, hle⟩
        omega
      · rfl
  · rw [leave_next]
    exact h.fresh k i (hold hi)
  · exact h.apart k k' i (hold hi) (hold hi')

end Counts

end Shortlist.KeyedLock
