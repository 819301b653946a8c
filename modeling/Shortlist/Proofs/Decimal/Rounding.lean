import Mathlib.Algebra.Ring.Int.Parity
import Mathlib.Tactic.Ring
import Shortlist.Decimal.Fixed

/-! # Rounding to fixed places

Rounding works on the exact number behind a double: the result is a nearest multiple of the last
place, and of two that are equally near it is the even one.
-/

namespace Shortlist.Decimal

/-- So many units are a rounded quotient: twice the distance is at most one denominator, and on a
tie the number of units is even. -/
structure Rounds (num : Int) (den : Nat) (units : Int) : Prop where
  near : 2 * (units * den - num).natAbs ≤ den
  even : 2 * (units * den - num).natAbs = den → Even units

/-- So many units of the last place are a double rounded to `places` places, if it is finite. -/
def IsNearest (places : Nat) (x : Float) (units : Int) : Prop :=
  ∀ num den, (Binary.ofFloat x).fraction? = some (num, den) → Rounds (num * 10 ^ places) den units

variable {num units : Int} {den : Nat}

theorem Rounds.neg (h : Rounds num den units) : Rounds (-num) den (-units) := by
  have hdistance : (-units * den - -num).natAbs = (units * den - num).natAbs := by
    rw [← Int.natAbs_neg]
    congr 1
    ring
  exact ⟨hdistance ▸ h.near, fun ht => (h.even (hdistance ▸ ht)).neg⟩

theorem rounds_roundDiv (num : Nat) (h : 0 < den) : Rounds num den (roundDiv num den) := by
  have hlt := Nat.mod_lt num h
  -- The distances to the two neighbours are the remainder and its complement.
  have hnum : (num : Int) = (num / den : Nat) * den + (num % den : Nat) := by
    exact_mod_cast (Nat.div_add_mod' num den).symm
  have hdown : ((num / den : Nat) * den - num : Int).natAbs = num % den := by omega
  have hup : ((num / den + 1 : Nat) * den - num : Int).natAbs = den - num % den := by
    rw [Nat.cast_succ, add_mul, one_mul]
    omega
  simp only [roundDiv]
  split_ifs with hlow hhigh heven
  · exact ⟨by omega, by omega⟩
  · exact ⟨by omega, by omega⟩
  · exact ⟨by omega, fun _ => (Int.even_coe_nat _).mpr (Nat.even_iff.mpr heven)⟩
  · exact ⟨by omega, fun _ => (Int.even_coe_nat _).mpr (Nat.even_iff.mpr (by omega))⟩

/-- Units of the last place are rounded as documented, whatever the double. -/
theorem isNearest_signedUnits (places : Nat) (x : Float) :
    IsNearest places x (signedUnits places x) := by
  intro num den h
  rw [signedUnits]
  cases hx : Binary.ofFloat x with
  | nan => simp [hx, Binary.fraction?] at h
  | infinite negative => simp [hx, Binary.fraction?] at h
  | finite negative m q =>
    simp only [hx, Binary.fraction?, Option.some.injEq, Prod.mk.injEq] at h
    obtain ⟨rfl, rfl⟩ := h
    have hden : 0 < Nat.pow 2 (-q).toNat := Nat.pow_pos (by decide)
    have hrounds := rounds_roundDiv (m * Nat.pow 10 places * Nat.pow 2 q.toNat) hden
    have hnum : ((m * Nat.pow 10 places * Nat.pow 2 q.toNat : Nat) : Int) =
        m * Nat.pow 2 q.toNat * 10 ^ places := by
      rw [mul_right_comm]
      push_cast [Nat.pow_eq]
      rfl
    rw [hnum] at hrounds
    cases negative with
    | false => exact hrounds
    | true =>
      rw [if_pos rfl, neg_mul]
      exact hrounds.neg

end Shortlist.Decimal
