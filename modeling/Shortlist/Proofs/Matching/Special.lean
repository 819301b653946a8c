import Shortlist.Proofs.Matching.Score
import Shortlist.Proofs.Validation.Stored

/-! # Weights of any kind

Nothing keeps a weight from being infinite, or from being no number at all. Sums, products and
quotients of such weights follow the rules for special values. The score is a number between zero
and one all the same: a weight above all numbers leaves no quotient that could be compared, so that
the score is zero, and the other special weights count as zero.
-/

namespace Shortlist

open Weighted

inductive Extended
  | finite (q : ℚ)
  | posInf
  | negInf
  | nan
  deriving DecidableEq

namespace Extended

/-! ## Arithmetic -/

/-- The infinity with the sign of a number. Zero has no sign to give. -/
def infinity (q : ℚ) : Extended := if 0 < q then posInf else if q < 0 then negInf else nan

def add : Extended → Extended → Extended
  | finite x, finite y => finite (x + y)
  | posInf, posInf | posInf, finite _ | finite _, posInf => posInf
  | negInf, negInf | negInf, finite _ | finite _, negInf => negInf
  | _, _ => nan

def mul : Extended → Extended → Extended
  | finite x, finite y => finite (x * y)
  | finite x, posInf | posInf, finite x => infinity x
  | finite x, negInf | negInf, finite x => infinity (-x)
  | posInf, posInf | negInf, negInf => posInf
  | posInf, negInf | negInf, posInf => negInf
  | _, _ => nan

/-- The quotient. Dividing by zero gives no value, so that anything may stand for it. -/
def divide (byZero : Extended → Extended) : Extended → Extended → Extended
  | x, finite y => if y = 0 then byZero x else mul x (finite y⁻¹)
  | finite _, posInf | finite _, negInf => finite 0
  | _, _ => nan

/-- Comparisons with what is no number fail. -/
def lt : Extended → Extended → Bool
  | finite x, finite y => x < y
  | negInf, finite _ | negInf, posInf | finite _, posInf => true
  | _, _ => false

def le : Extended → Extended → Bool
  | finite x, finite y => x ≤ y
  | negInf, finite _ | negInf, posInf | finite _, posInf => true
  | posInf, posInf | negInf, negInf => true
  | _, _ => false

instance : OfScientific Extended := ⟨fun m s e => finite (OfScientific.ofScientific m s e)⟩
instance : Add Extended := ⟨add⟩
instance : Mul Extended := ⟨mul⟩
instance : LT Extended := ⟨fun x y => lt x y = true⟩
instance : LE Extended := ⟨fun x y => le x y = true⟩
instance : DecidableLT Extended := fun x y => inferInstanceAs (Decidable (lt x y = true))
instance : DecidableLE Extended := fun x y => inferInstanceAs (Decidable (le x y = true))

variable {x y : ℚ} {w : Extended}

@[simp] theorem zero_eq_finite : (0.0 : Extended) = finite 0 := by
  change finite 0.0 = finite 0
  norm_num

@[simp] theorem one_eq_finite : (1.0 : Extended) = finite 1 := by
  change finite 1.0 = finite 1
  norm_num

@[simp] theorem finite_le_finite : finite x ≤ finite y ↔ x ≤ y := decide_eq_true_iff

theorem finite_lt_posInf : finite x < posInf := rfl

theorem not_lt_nan : ¬ w < nan := by
  cases w <;> exact Bool.false_ne_true

theorem infinity_of_nonneg (h : 0 ≤ x) : infinity x = posInf ∨ infinity x = nan := by
  rw [infinity, if_neg (not_lt.mpr h)]
  split
  · exact Or.inl rfl
  · exact Or.inr rfl

/-! ## What weights count for -/

/-- The number that a weight counts as, unless it is above all numbers. -/
def plain : Extended → ℚ
  | finite q => q
  | _ => 0

theorem clampLow_finite : clampLow (finite x) = finite (clampLow x) := by
  have hlt : (0.0 : Extended) < finite x ↔ (0.0 : ℚ) < x := decide_eq_true_iff
  rw [clampLow, clampLow]
  by_cases h : (0.0 : ℚ) < x
  · rw [if_pos h, if_pos (hlt.mpr h)]
  · rw [if_neg h, if_neg (hlt.not.mpr h)]
    rfl

theorem clampHigh_finite : clampHigh (finite x) = finite (clampHigh x) := by
  have hlt : finite x < (1.0 : Extended) ↔ x < (1.0 : ℚ) := decide_eq_true_iff
  rw [clampHigh, clampHigh]
  by_cases h : x < (1.0 : ℚ)
  · rw [if_pos h, if_pos (hlt.mpr h)]
  · rw [if_neg h, if_neg (hlt.not.mpr h)]
    rfl

theorem clampLow_posInf : clampLow posInf = posInf := rfl

theorem clampLow_nan : clampLow nan = finite 0 := by
  rw [clampLow, if_neg not_lt_nan, zero_eq_finite]

theorem clampLow_eq_finite (h : w ≠ posInf) : clampLow w = finite (clampLow w.plain) := by
  have hzero : clampLow (0 : ℚ) = 0 := by rw [clampLow_eq_max, max_self]
  have hnegInf : plain negInf = 0 := rfl
  have hnan : plain nan = 0 := rfl
  cases w with
  | finite q => exact clampLow_finite
  | posInf => exact (h rfl).elim
  | negInf =>
    have hlt : ¬ (0.0 : Extended) < negInf := Bool.false_ne_true
    rw [clampLow, if_neg hlt, hnegInf, hzero, zero_eq_finite]
  | nan => rw [clampLow_nan, hnan, hzero]

theorem credit_eq_finite (t : Tier) : (t.credit : Extended) = finite t.credit := by
  cases t <;> rfl

end Extended

/-! ## Sums -/

def Weighted.reweigh {ω ω' : Type} (f : ω → ω') (r : Weighted ω) : Weighted ω' :=
  ⟨r.skill, f r.weight⟩

section Reweigh

variable {ω ω' : Type} {f : ω → ω'}

@[simp] theorem Weighted.skill_reweigh (r : Weighted ω) : (reweigh f r).skill = r.skill := rfl

@[simp] theorem Weighted.key_reweigh (r : Weighted ω) : (reweigh f r).key = r.key := rfl

theorem Weighted.map_reweigh_put {r : Weighted ω} {xs : List (Weighted ω)} :
    (put r xs).map (reweigh f) = put (reweigh f r) (xs.map (reweigh f)) := by
  induction xs with
  | nil => rfl
  | cons x xs ih =>
    rw [put, List.map_cons, put, key_reweigh, key_reweigh]
    split
    · rfl
    · rw [List.map_cons, ih]

theorem Weighted.map_reweigh_collapse (rs : List (Weighted ω)) :
    (collapse rs).map (reweigh f) = collapse (rs.map (reweigh f)) := by
  induction rs using List.reverseRecOn with
  | nil => rfl
  | append_singleton rs r ih =>
    rw [List.map_append, List.map_singleton, collapse_concat, collapse_concat, ← ih, key_reweigh]
    split
    · rfl
    · exact map_reweigh_put

end Reweigh

section Count

variable {ω : Type} [OfScientific ω] [Add ω] [Mul ω] [LT ω] [DecidableLT ω]

def Graded.count (sums : ω × ω) (g : Graded ω) : ω × ω :=
  (sums.1 + clampLow g.1.weight, sums.2 + clampLow g.1.weight * g.2.credit)

theorem totals_eq_foldl (graded : List (Graded ω)) :
    totals graded = graded.foldl Graded.count (0.0, 0.0) := rfl

end Count

namespace Extended

variable {sums : Extended × Extended} {g : Graded Extended} {graded : List (Graded Extended)}

/-- The sums once a weight above all numbers has been counted. -/
structure Overrun (sums : Extended × Extended) : Prop where
  total : sums.1 = posInf
  earned : sums.2 = posInf ∨ sums.2 = nan

/-- A graded requirement with the number that its weight counts as. -/
def plainly (g : Graded Extended) : Graded ℚ := (g.1.reweigh plain, g.2)

/-- Sums that are numbers. -/
def exactly (sums : ℚ × ℚ) : Extended × Extended := (finite sums.1, finite sums.2)

theorem count_exactly (sums : ℚ × ℚ) (h : g.1.weight ≠ posInf) :
    Graded.count (exactly sums) g = exactly (Graded.count sums (plainly g)) := by
  rw [Graded.count, clampLow_eq_finite h, credit_eq_finite]
  rfl

theorem posInf_mul_credit (t : Tier) :
    posInf * (t.credit : Extended) = posInf ∨ posInf * (t.credit : Extended) = nan := by
  rw [credit_eq_finite]
  exact infinity_of_nonneg (Tier.credit_nonneg t)

theorem overrun_count_exactly (sums : ℚ × ℚ) (h : g.1.weight = posInf) :
    Overrun (Graded.count (exactly sums) g) := by
  rw [Graded.count, h, clampLow_posInf]
  refine ⟨rfl, ?_⟩
  rcases posInf_mul_credit g.2 with he | he <;> rw [he]
  · exact Or.inl rfl
  · exact Or.inr rfl

/-- Nothing that is counted later brings the sums back. -/
theorem Overrun.count (h : Overrun sums) (g : Graded Extended) : Overrun (Graded.count sums g) := by
  obtain ⟨total, earned⟩ := sums
  obtain ⟨rfl, hearned⟩ := h
  by_cases hw : g.1.weight = posInf
  · rw [Graded.count, hw, clampLow_posInf]
    refine ⟨rfl, ?_⟩
    rcases hearned with rfl | rfl <;> rcases posInf_mul_credit g.2 with he | he <;> rw [he]
    · exact Or.inl rfl
    · exact Or.inr rfl
    · exact Or.inr rfl
    · exact Or.inr rfl
  · rw [Graded.count, clampLow_eq_finite hw, credit_eq_finite]
    refine ⟨rfl, ?_⟩
    rcases hearned with rfl | rfl
    · exact Or.inl rfl
    · exact Or.inr rfl

theorem Overrun.foldl (h : Overrun sums) (graded : List (Graded Extended)) :
    Overrun (graded.foldl Graded.count sums) := by
  induction graded generalizing sums with
  | nil => exact h
  | cons g graded ih => exact ih (h.count g)

theorem foldl_exactly (sums : ℚ × ℚ) (h : ∀ g ∈ graded, g.1.weight ≠ posInf) :
    graded.foldl Graded.count (exactly sums) =
      exactly ((graded.map plainly).foldl Graded.count sums) := by
  induction graded generalizing sums with
  | nil => rfl
  | cons g graded ih =>
    obtain ⟨hg, hgraded⟩ := List.forall_mem_cons.mp h
    rw [List.foldl_cons, count_exactly sums hg, ih _ hgraded, List.map_cons, List.foldl_cons]

theorem overrun_foldl_exactly (sums : ℚ × ℚ) (h : ∃ g ∈ graded, g.1.weight = posInf) :
    Overrun (graded.foldl Graded.count (exactly sums)) := by
  induction graded generalizing sums with
  | nil => simp at h
  | cons g graded ih =>
    rw [List.foldl_cons]
    by_cases hg : g.1.weight = posInf
    · exact (overrun_count_exactly sums hg).foldl graded
    · rw [count_exactly sums hg]
      obtain ⟨g', hg', hw⟩ := h
      rcases List.mem_cons.mp hg' with rfl | hg'
      · exact (hg hw).elim
      · exact ih _ ⟨g', hg', hw⟩

/-! ## The score -/

/-- The score, for any value that may stand for a division by zero. -/
def scoreBy (byZero : Extended → Extended) (graded : List (Graded Extended)) : Extended :=
  @score Extended _ _ _ ⟨divide byZero⟩ _ _ graded

theorem scoreBy_eq (byZero : Extended → Extended) (graded : List (Graded Extended)) :
    scoreBy byZero graded = clampHigh (clampLow
      (if (0.0 : Extended) < (totals graded).1 then
        divide byZero (totals graded).2 (totals graded).1
      else 0.0)) := rfl

theorem scoreBy_of_overrun (byZero : Extended → Extended) (h : Overrun (totals graded)) :
    scoreBy byZero graded = finite 0 := by
  have hdiv : divide byZero (totals graded).2 (totals graded).1 = nan := by
    rcases h.earned with he | he <;> rw [he, h.total] <;> rfl
  have hzero : clampHigh (0 : ℚ) = 0 := by rw [clampHigh_eq_min, min_eq_right zero_le_one]
  rw [scoreBy_eq, h.total, ← h.total, hdiv, h.total, if_pos (zero_eq_finite ▸ finite_lt_posInf),
    clampLow_nan, clampHigh_finite, hzero]

theorem divide_finite (byZero : Extended → Extended) {x y : ℚ} (h : y ≠ 0) :
    divide byZero (finite x) (finite y) = finite (x / y) := by
  rw [divide, if_neg h, div_eq_mul_inv]
  rfl

/-- The divisor is above zero wherever the quotient is taken. -/
theorem scoreBy_of_exactly (byZero : Extended → Extended) {graded' : List (Graded ℚ)}
    (h : totals graded = exactly (totals graded')) :
    scoreBy byZero graded = finite (score graded') := by
  have hlt : (0.0 : Extended) < finite (totals graded').1 ↔ (0.0 : ℚ) < (totals graded').1 :=
    decide_eq_true_iff
  have hscore : score graded' = clampHigh (clampLow
      (if (0.0 : ℚ) < (totals graded').1 then (totals graded').2 / (totals graded').1 else 0.0)) :=
    rfl
  rw [scoreBy_eq, h, exactly, hscore]
  by_cases hw : (0.0 : ℚ) < (totals graded').1
  · have hne : (totals graded').1 ≠ 0 := by
      norm_num at hw
      exact hw.ne'
    rw [if_pos (hlt.mpr hw), if_pos hw, divide_finite byZero hne, clampLow_finite,
      clampHigh_finite]
  · have hzero : (0.0 : Extended) = finite 0.0 := rfl
    rw [if_neg (hlt.not.mpr hw), if_neg hw, hzero, clampLow_finite, clampHigh_finite]

end Extended

open Extended

namespace Profile

/-- The fit for requirements with weights of any kind, for any value that may stand for a division
by zero. -/
def fitBy (byZero : Extended → Extended) (p : Profile) (rs : List (Weighted Extended)) :
    Fit Extended :=
  @fit Extended _ _ _ ⟨divide byZero⟩ _ _ p rs

/-- The score that weights of any kind come to: zero if one of them is above all numbers, and
otherwise the score for the numbers that they count as. -/
def plainScore (p : Profile) (rs : List (Weighted Extended)) : ℚ :=
  if ∃ r ∈ collapse rs, r.weight = posInf then 0 else (p.fit (rs.map (reweigh plain))).score

theorem plainScore_bounds (p : Profile) (rs : List (Weighted Extended)) :
    0 ≤ p.plainScore rs ∧ p.plainScore rs ≤ 1 := by
  rw [plainScore, score_eq_quotient]
  by_cases h : ∃ r ∈ collapse rs, r.weight = posInf
  · rw [if_pos h]
    exact ⟨le_rfl, zero_le_one⟩
  · rw [if_neg h]
    exact ⟨quotient_nonneg _ _, quotient_le_one _ _⟩

theorem map_plainly_grade (e : Evidence) (rs : List (Weighted Extended)) :
    (grade e rs).map plainly = grade e (rs.map (reweigh plain)) := by
  rw [grade, grade, ← map_reweigh_collapse, List.map_map, List.map_map]
  apply List.map_congr_left
  intro r _
  rw [Function.comp_apply, Function.comp_apply, plainly, skill_reweigh]

theorem exists_mem_grade_iff {e : Evidence} {rs : List (Weighted Extended)} :
    (∃ g ∈ grade e rs, g.1.weight = posInf) ↔ ∃ r ∈ collapse rs, r.weight = posInf := by
  simp [grade]

theorem score_fitBy (byZero : Extended → Extended) (p : Profile) (rs : List (Weighted Extended)) :
    (p.fitBy byZero rs).score = finite (p.plainScore rs) := by
  have hscore : (p.fitBy byZero rs).score = scoreBy byZero (grade (.ofProfile p) rs) := rfl
  have hstart : ((0.0 : Extended), (0.0 : Extended)) = exactly (0.0, 0.0) := rfl
  rw [hscore, plainScore]
  by_cases h : ∃ r ∈ collapse rs, r.weight = posInf
  · rw [if_pos h]
    apply scoreBy_of_overrun
    rw [totals_eq_foldl, hstart]
    exact overrun_foldl_exactly _ (exists_mem_grade_iff.mpr h)
  · have hplain : ∀ g ∈ grade (.ofProfile p) rs, g.1.weight ≠ posInf :=
      fun g hg hw => h (exists_mem_grade_iff.mp ⟨g, hg, hw⟩)
    rw [if_neg h]
    apply scoreBy_of_exactly
    rw [totals_eq_foldl, hstart, foldl_exactly _ hplain, map_plainly_grade, totals_eq_foldl]

/-- Whatever the weights are, the score is a number between zero and one, and which one does not
depend on what a division by zero would come to. So it passes the check of scores, as does every
score that is computed from floating-point weights. -/
theorem score_of_any_weights (p : Profile) (rs : List (Weighted Extended)) :
    (0 ≤ p.plainScore rs ∧ p.plainScore rs ≤ 1) ∧
    (∀ byZero, (p.fitBy byZero rs).score = finite (p.plainScore rs) ∧
      Validation.bounded 0.0 1.0 (p.fitBy byZero rs).score = .valid (finite (p.plainScore rs))) ∧
    ∀ rs' : List Requirement,
      Analysis.score? (.float (p.fit rs').score) = .valid (p.fit rs').score := by
  have hbounds := p.plainScore_bounds rs
  refine ⟨hbounds, fun byZero => ⟨score_fitBy byZero p rs, ?_⟩, p.score?_fit⟩
  rw [score_fitBy, Validation.bounded, zero_eq_finite, one_eq_finite,
    if_pos (finite_le_finite.mpr hbounds.2), if_pos (finite_le_finite.mpr hbounds.1)]

end Profile

end Shortlist
