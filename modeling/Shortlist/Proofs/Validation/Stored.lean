import Shortlist.Matching.Fit
import Shortlist.Proofs.Validation.Valid

/-! # Reading what was stored

Vacancies and analyses are stored as documents and read back from them. A stored vacancy can be
read, and so can a stored analysis whose score is that of a fit.
-/

namespace Shortlist

open Validation

theorem Validation.itemsFrom_map {α β : Type} {check : Value → Validation α} {f : β → Value}
    {g : β → α} {bs : List β} (h : ∀ b ∈ bs, check (f b) = .valid (g b)) (index : Nat) :
    itemsFrom check index (bs.map f) = .valid (bs.map g) := by
  induction bs generalizing index with
  | nil => rfl
  | cons b bs ih =>
    obtain ⟨hb, hbs⟩ := List.forall_mem_cons.mp h
    rw [List.map_cons, itemsFrom, ih hbs, hb]
    rfl

theorem Requirement.ofValue_toValue (otherwise : Defect) (r : Requirement) :
    ofValue otherwise r.toValue = .valid r := rfl

theorem Vacancy.requirements_toValue (rs : List Requirement) :
    requirements (.list (rs.map Requirement.toValue)) = .valid (Weighted.collapse rs) := by
  rw [requirements, Validation.list, itemsFrom_map fun r _ => Requirement.ofValue_toValue _ r,
    List.map_id']
  rfl

section

variable {α : Type} {name : String} {check : Value → Validation α} {fs : Fields} {v : Value} {a : α}

theorem Validation.optional_of_get? {absent : α} (h : fs.get? name = some v)
    (hv : check v = .valid a) : optional name absent check fs = .valid a :=
  optional_eq_valid_iff.mpr (.inr ⟨v, h, hv⟩)

theorem Validation.required_of_get? (h : fs.get? name = some v) (hv : check v = .valid a) :
    required name check fs = .valid a :=
  required_eq_valid_iff.mpr ⟨v, h, hv⟩

end

theorem Vacancy.ofFields_toFields (o : Occasion) (v : Vacancy) :
    ofFields o v.toFields = .valid { v with skills := Weighted.collapse v.skills } :=
  ofFields_eq_valid_iff.mpr
    ⟨optional_of_get? rfl rfl, optional_of_get? rfl (optionalText_eq_valid_iff.mpr rfl),
      optional_of_get? rfl rfl, optional_of_get? rfl rfl,
      optional_of_get? rfl (requirements_toValue v.skills), optional_of_get? rfl rfl⟩

theorem Report.textItems_texts (ss : List String) : textItems (.texts ss) = .valid ss := by
  have htext (s : String) : text (.text s) = .valid s := rfl
  rw [textItems, Value.texts, Value.asList, itemsFrom_map fun s _ => htext s, List.map_id']

theorem Report.ofValue_toValue (r : Report) : ofValue r.toValue = .valid r := by
  have hlist (name : String) (ss : List String) {fs : Fields}
      (h : fs.get? name = some (.texts ss)) : optional name [] textItems fs = .valid ss :=
    optional_of_get? h (textItems_texts ss)
  change ofFields _ = _
  rw [ofFields, hlist "matched_skills" r.matchedSkills rfl,
    hlist "missing_skills" r.missingSkills rfl, hlist "unique_strengths" r.uniqueStrengths rfl,
    hlist "candidate_recommendations" r.candidateRecommendations rfl]
  rfl

theorem float_le_of_lt {x y : Float} (h : x < y) : x ≤ y := by
  have hlt : x.toModel.unpack.lt y.toModel.unpack = true := of_decide_eq_true h
  rw [Float.Model.UnpackedFloat.lt, beq_iff_eq] at hlt
  have hle : x.toModel.unpack.le y.toModel.unpack = true := by
    rw [Float.Model.UnpackedFloat.le, hlt]
    rfl
  exact decide_eq_true (p := x.toModel ≤ y.toModel) hle

theorem Analysis.score?_float {x : Float} (hlow : 0.0 ≤ x) (hhigh : x ≤ 1.0) :
    score? (.float x) = .valid x := by
  change bounded 0.0 1.0 _ = _
  rw [bounded, if_pos hhigh, if_pos hlow]

/-- The score of a fit passes the check that stored scores have to pass. -/
theorem Profile.score?_fit (p : Profile) (rs : List Requirement) :
    Analysis.score? (.float (p.fit rs).score) = .valid (p.fit rs).score := by
  have hclamp (x : Float) : Analysis.score? (.float (clampHigh (clampLow x))) =
      .valid (clampHigh (clampLow x)) := by
    have hlow : (0.0 : Float) ≤ clampLow x := by
      rw [clampLow]
      split
      · next h => exact float_le_of_lt h
      · decide
    have hhigh : clampHigh (clampLow x) ≤ (1.0 : Float) ∧
        (0.0 : Float) ≤ clampHigh (clampLow x) := by
      rw [clampHigh]
      split
      · next h => exact ⟨float_le_of_lt h, hlow⟩
      · decide
    exact Analysis.score?_float hhigh.2 hhigh.1
  exact hclamp _

theorem Analysis.ofFields_toFields (o : Occasion) {a : Analysis}
    (h : score? (.float a.score) = .valid a.score) : ofFields o a.toFields = .valid a :=
  ofFields_eq_valid_iff.mpr
    ⟨optional_of_get? rfl rfl, required_of_get? rfl rfl, required_of_get? rfl rfl,
      optional_of_get? rfl (optionalText_eq_valid_iff.mpr rfl), optional_of_get? rfl h,
      optional_of_get? rfl rfl, optional_of_get? rfl (Report.ofValue_toValue a.report),
      optional_of_get? rfl rfl⟩

end Shortlist
