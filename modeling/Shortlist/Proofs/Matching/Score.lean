import Mathlib.Algebra.BigOperators.Ring.List
import Mathlib.Algebra.Order.BigOperators.Group.List
import Shortlist.Proofs.Matching.Coverage

/-! # The score as a weighted mean

In exact numbers the score is the mean of the credits, weighted by the weights above zero. The mean
lies between zero and one by itself, and reaches these ends, or three fifths, only where the credits
of the requirements that weigh anything do.
-/

namespace Shortlist

open Weighted

section Sums

variable {α : Type} {l : List α} {f g : α → ℚ}

theorem sum_map_eq_iff (h : ∀ a ∈ l, f a ≤ g a) :
    (l.map f).sum = (l.map g).sum ↔ ∀ a ∈ l, f a = g a := by
  constructor
  · intro hs a ha
    by_contra hne
    have hlt := List.sum_lt_sum f g h ⟨a, ha, lt_of_le_of_ne (h a ha) hne⟩
    exact hlt.ne hs
  · intro he
    rw [List.map_congr_left he]

end Sums

theorem clampLow_eq_max (x : ℚ) : clampLow x = max 0 x := by
  unfold clampLow
  norm_num
  split_ifs with h
  · exact (max_eq_right h.le).symm
  · exact (max_eq_left (not_lt.mp h)).symm

theorem clampHigh_eq_min (x : ℚ) : clampHigh x = min 1 x := by
  unfold clampHigh
  norm_num
  split_ifs with h
  · exact (min_eq_right h.le).symm
  · exact (min_eq_left (not_lt.mp h)).symm

def totalWeight (rs : List (Weighted ℚ)) : ℚ := ((collapse rs).map fun r => max 0 r.weight).sum

namespace Profile

variable {p : Profile} {rs : List (Weighted ℚ)} {r : Weighted ℚ}

def creditOf (p : Profile) (r : Weighted ℚ) : ℚ := (Tier.ofSkill (.ofProfile p) r.skill).credit

def earnedWeight (p : Profile) (rs : List (Weighted ℚ)) : ℚ :=
  ((collapse rs).map fun r => max 0 r.weight * p.creditOf r).sum

theorem creditOf_nonneg : 0 ≤ p.creditOf r := Tier.credit_nonneg _

theorem creditOf_le_one : p.creditOf r ≤ 1 := Tier.credit_le_one _

theorem totals_grade :
    totals (grade (.ofProfile p) rs) = (totalWeight rs, p.earnedWeight rs) := by
  have hfold : ∀ (l : List (Weighted ℚ)) (a b : ℚ),
      (l.map fun r => (r, Tier.ofSkill (.ofProfile p) r.skill)).foldl
        (fun (x : ℚ × ℚ) (g : Graded ℚ) =>
          (x.1 + clampLow g.1.weight, x.2 + clampLow g.1.weight * g.2.credit)) (a, b) =
        (a + (l.map fun r => max 0 r.weight).sum,
          b + (l.map fun r => max 0 r.weight * p.creditOf r).sum) := by
    intro l
    induction l with
    | nil => simp
    | cons r l ih =>
      intro a b
      rw [List.map_cons, List.foldl_cons, ih, List.map_cons, List.map_cons, List.sum_cons,
        List.sum_cons, clampLow_eq_max, creditOf]
      simp only [add_assoc]
  have h := hfold (collapse rs) 0 0
  rw [zero_add, zero_add] at h
  simp only [totals, grade]
  norm_num
  exact h

theorem totalWeight_nonneg : 0 ≤ totalWeight rs :=
  List.sum_nonneg (List.forall_mem_map.mpr fun _ _ => le_max_left _ _)

theorem earnedWeight_nonneg : 0 ≤ p.earnedWeight rs :=
  List.sum_nonneg (List.forall_mem_map.mpr fun _ _ =>
    mul_nonneg (le_max_left _ _) creditOf_nonneg)

theorem mul_creditOf_le : max 0 r.weight * p.creditOf r ≤ max 0 r.weight :=
  mul_le_of_le_one_right (le_max_left _ _) creditOf_le_one

theorem earnedWeight_le_totalWeight : p.earnedWeight rs ≤ totalWeight rs :=
  List.sum_le_sum fun _ _ => mul_creditOf_le

/-- The quotient before it is cut to the unit interval. -/
def quotient (p : Profile) (rs : List (Weighted ℚ)) : ℚ :=
  if 0 < totalWeight rs then p.earnedWeight rs / totalWeight rs else 0

theorem quotient_nonneg (p : Profile) (rs : List (Weighted ℚ)) : 0 ≤ p.quotient rs := by
  unfold quotient
  split_ifs
  · exact div_nonneg earnedWeight_nonneg totalWeight_nonneg
  · exact le_rfl

theorem quotient_le_one (p : Profile) (rs : List (Weighted ℚ)) : p.quotient rs ≤ 1 := by
  unfold quotient
  split_ifs with h
  · exact (div_le_one h).mpr earnedWeight_le_totalWeight
  · exact zero_le_one

/-- Cutting to the unit interval changes nothing. -/
theorem score_eq_quotient : (p.fit rs).score = p.quotient rs := by
  have h : (p.fit rs).score = clampHigh (clampLow (p.quotient rs)) := by
    simp only [fit, score, totals_grade, quotient]
    norm_num
  rw [h, clampLow_eq_max, clampHigh_eq_min, max_eq_right (p.quotient_nonneg rs),
    min_eq_right (p.quotient_le_one rs)]

theorem max_mul_creditOf_eq_iff :
    max 0 r.weight * p.creditOf r = max 0 r.weight ↔ (0 < r.weight → p.creditOf r = 1) := by
  rcases le_or_gt r.weight 0 with hw | hw
  · simp [max_eq_left hw, not_lt.mpr hw]
  · rw [max_eq_right hw.le, mul_eq_left₀ hw.ne']
    exact ⟨fun h _ => h, fun h => h hw⟩

theorem max_mul_creditOf_eq_zero_iff :
    0 = max 0 r.weight * p.creditOf r ↔ (0 < r.weight → p.creditOf r = 0) := by
  rcases le_or_gt r.weight 0 with hw | hw
  · simp [max_eq_left hw, not_lt.mpr hw]
  · rw [max_eq_right hw.le, eq_comm, mul_eq_zero, or_iff_right hw.ne']
    exact ⟨fun h _ => h, fun h => h hw⟩

/-- All weight is earned exactly where every requirement that weighs anything has full credit. -/
theorem earnedWeight_eq_totalWeight_iff : p.earnedWeight rs = totalWeight rs ↔
    ∀ r ∈ collapse rs, 0 < r.weight → p.creditOf r = 1 := by
  rw [earnedWeight, totalWeight, sum_map_eq_iff fun _ _ => mul_creditOf_le]
  simp only [max_mul_creditOf_eq_iff]

/-- Nothing is earned exactly where no requirement that weighs anything has credit. -/
theorem earnedWeight_eq_zero_iff : p.earnedWeight rs = 0 ↔
    ∀ r ∈ collapse rs, 0 < r.weight → p.creditOf r = 0 := by
  have hle : ∀ r ∈ collapse rs, 0 ≤ max 0 r.weight * p.creditOf r :=
    fun _ _ => mul_nonneg (le_max_left _ _) creditOf_nonneg
  have hs := sum_map_eq_iff hle
  simp only [max_mul_creditOf_eq_zero_iff] at hs
  rw [eq_comm, earnedWeight, ← hs]
  simp

theorem mul_totalWeight_le_earnedWeight {q : ℚ}
    (h : ∀ r ∈ collapse rs, 0 < r.weight → q ≤ p.creditOf r) :
    q * totalWeight rs ≤ p.earnedWeight rs := by
  rw [totalWeight, ← List.sum_map_mul_left, earnedWeight]
  apply List.sum_le_sum
  intro r hr
  rw [mul_comm]
  rcases le_or_gt r.weight 0 with hw | hw
  · simp [max_eq_left hw]
  · exact mul_le_mul_of_nonneg_left (h r hr hw) (le_max_left _ _)

theorem mem_missing_iff (hr : r ∈ collapse rs) :
    r.skill ∈ (p.fit rs).missing ↔ p.creditOf r = 0 := by
  have hkey : ∀ x : Weighted ℚ, (!p.meets x.key) = true ↔ p.creditOf x = 0 := by
    intro x
    rw [meets_key, creditOf]
    cases Tier.ofSkill (.ofProfile p) x.skill <;> norm_num [Tier.isMatch]
  rw [missing_eq, List.mem_map]
  constructor
  · rintro ⟨x, hx, he⟩
    have hc := (hkey x).mp (List.mem_filter.mp hx).2
    rwa [creditOf, he] at hc
  · exact fun hc => ⟨r, List.mem_filter.mpr ⟨hr, (hkey r).mpr hc⟩, rfl⟩

theorem creditOf_eq_zero_or_le : p.creditOf r = 0 ∨ 3 / 5 ≤ p.creditOf r := by
  unfold creditOf
  cases Tier.ofSkill (.ofProfile p) r.skill <;> norm_num

theorem quotient_eq_one_iff :
    p.quotient rs = 1 ↔ 0 < totalWeight rs ∧ p.earnedWeight rs = totalWeight rs := by
  unfold quotient
  split_ifs with h
  · rw [div_eq_one_iff_eq h.ne', and_iff_right h]
  · simp [h]

theorem quotient_eq_zero_iff :
    p.quotient rs = 0 ↔ totalWeight rs = 0 ∨ p.earnedWeight rs = 0 := by
  unfold quotient
  split_ifs with h
  · rw [div_eq_zero_iff, or_comm]
  · simp [le_antisymm (not_lt.mp h) totalWeight_nonneg]

theorem score_le_score {q : Profile}
    (h : ∀ r ∈ collapse rs, 0 < r.weight → p.creditOf r ≤ q.creditOf r) :
    (p.fit rs).score ≤ (q.fit rs).score := by
  have hearned : p.earnedWeight rs ≤ q.earnedWeight rs := by
    apply List.sum_le_sum
    intro r hr
    rcases le_or_gt r.weight 0 with hw | hw
    · simp [max_eq_left hw]
    · exact mul_le_mul_of_nonneg_left (h r hr hw) (le_max_left _ _)
  rw [score_eq_quotient, score_eq_quotient, quotient, quotient]
  split_ifs with hw
  · exact div_le_div_of_nonneg_right hearned hw.le
  · exact le_rfl

/-- What the score means, in exact numbers: it is the weighted mean of the credits, with no need to
be cut to the unit interval, and full, no and middling scores say what they seem to say. -/
theorem score_is_weighted_mean (p : Profile) (rs : List (Weighted ℚ)) :
    [Tier.listed, .mentioned, .overlapping, .absent].map Tier.credit = [1, 4 / 5, 3 / 5, (0 : ℚ)] ∧
    (p.fit rs).score =
      (if 0 < totalWeight rs then p.earnedWeight rs / totalWeight rs else 0) ∧
    (0 < totalWeight rs → 0 ≤ p.earnedWeight rs / totalWeight rs ∧
      p.earnedWeight rs / totalWeight rs ≤ 1) ∧
    ((p.fit rs).score = 1 ↔ 0 < totalWeight rs ∧
      ∀ r ∈ collapse rs, 0 < r.weight → Tier.ofSkill (.ofProfile p) r.skill = .listed) ∧
    ((p.fit rs).score = 0 ↔ totalWeight rs = 0 ∨
      ∀ r ∈ collapse rs, 0 < r.weight → r.skill ∈ (p.fit rs).missing) ∧
    (0 < totalWeight rs → (∀ r ∈ collapse rs, 0 < r.weight → r.skill ∉ (p.fit rs).missing) →
      3 / 5 ≤ (p.fit rs).score) := by
  have hlisted : ∀ r, Tier.ofSkill (.ofProfile p) r.skill = .listed ↔ p.creditOf r = 1 :=
    fun r => (Tier.credit_eq_one_iff _).symm
  have hmissing : (∀ r ∈ collapse rs, 0 < r.weight → r.skill ∈ (p.fit rs).missing) ↔
      ∀ r ∈ collapse rs, 0 < r.weight → p.creditOf r = 0 :=
    forall₂_congr fun r hr => imp_congr_right fun _ => mem_missing_iff hr
  refine ⟨by simp, score_eq_quotient, fun h => ?_, ?_, ?_, fun h hall => ?_⟩
  · have hlow := p.quotient_nonneg rs
    have hhigh := p.quotient_le_one rs
    rw [quotient, if_pos h] at hlow hhigh
    exact ⟨hlow, hhigh⟩
  · rw [score_eq_quotient, quotient_eq_one_iff, earnedWeight_eq_totalWeight_iff]
    simp only [hlisted]
  · rw [score_eq_quotient, quotient_eq_zero_iff, earnedWeight_eq_zero_iff, hmissing]
  · have hmid : 3 / 5 * totalWeight rs ≤ p.earnedWeight rs := by
      refine mul_totalWeight_le_earnedWeight fun r hr hw => ?_
      rcases creditOf_eq_zero_or_le with hz | hle
      · exact (hall r hr hw ((mem_missing_iff hr).mpr hz)).elim
      · exact hle
    rw [score_eq_quotient, quotient, if_pos h]
    exact (le_div_iff₀ h).mpr hmid

theorem gopher_score_is_weighted_mean :
    0 < totalWeight gopherRoles ∧ (gopher.fit gopherRoles).score = 1 := by
  have hw : 0 < totalWeight gopherRoles := by decide +kernel
  have hc : collapse gopherRoles = [⟨"Golang!", 3⟩, ⟨"Rust", -2⟩] := by rfl
  have hv : "golang" ∈ Skill.variants "Golang!" :=
    Skill.mem_variants.mpr ⟨by decide +kernel, Or.inl (by decide +kernel)⟩
  have hv' : "golang" ∈ Skill.variants "Go" :=
    Skill.mem_variants.mpr ⟨by decide +kernel, Or.inr (Or.inl (by decide +kernel))⟩
  have hl : Tier.ofSkill (.ofProfile gopher) "Golang!" = .listed :=
    Tier.ofSkill_eq_listed List.mem_cons_self ⟨"golang", hv, hv'⟩
  refine ⟨hw, (gopher.score_is_weighted_mean gopherRoles).2.2.2.1.mpr ⟨hw, ?_⟩⟩
  rw [hc]
  simpa using hl

end Profile

end Shortlist
