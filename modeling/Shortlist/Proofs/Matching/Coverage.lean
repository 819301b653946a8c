import Mathlib.Data.List.Nodup
import Shortlist.Matching.Fit
import Shortlist.Proofs.Matching.Tier
import Shortlist.Proofs.Skill.Collapse

/-! # Coverage

The matched and the missing skills divide the collapsed requirements between them. Where a
requirement goes is decided by its key and the profile alone.
-/

namespace Shortlist

open Weighted

variable {ω : Type} {p : Profile} {rs : List (Weighted ω)} {r : Weighted ω}

/-- Whether a profile meets the requirement with a key. -/
def Profile.meets (p : Profile) (key : String) : Bool := (Tier.ofSkill (.ofProfile p) key).isMatch

theorem Profile.meets_key : p.meets r.key = (Tier.ofSkill (.ofProfile p) r.skill).isMatch := by
  rw [meets, key, Tier.ofSkill_normalize]

theorem collapse_filter_key (keep : String → Bool) :
    ((collapse rs).filter fun r => keep r.key).map key = (keys rs).filter keep := by
  rw [← map_key_collapse, List.filter_map]
  rfl

section Fit

variable [OfScientific ω] [Add ω] [Mul ω] [Div ω] [LT ω] [DecidableLT ω]

theorem Profile.matched_eq :
    (p.fit rs).matched = ((collapse rs).filter fun r => p.meets r.key).map (·.skill) := by
  simp only [fit, grade, List.filter_map, List.map_map, Function.comp_def, meets_key]

theorem Profile.missing_eq :
    (p.fit rs).missing = ((collapse rs).filter fun r => !p.meets r.key).map (·.skill) := by
  simp only [fit, grade, List.filter_map, List.map_map, Function.comp_def, meets_key]

theorem Profile.mem_matched {s : String} : s ∈ (p.fit rs).matched ↔
    ∃ r ∈ collapse rs, (Tier.ofSkill (.ofProfile p) r.skill).isMatch = true ∧ r.skill = s := by
  simp only [matched_eq, List.mem_map, List.mem_filter, meets_key, and_assoc]

theorem Profile.matched_append_missing_perm (p : Profile) (rs : List (Weighted ω)) :
    ((p.fit rs).matched ++ (p.fit rs).missing).Perm ((collapse rs).map (·.skill)) := by
  have hp := List.filter_append_perm (fun r => p.meets r.key) (collapse rs)
  rw [matched_eq, missing_eq, ← List.map_append]
  exact hp.map _

theorem last?_of_mem_fit {s : String} (h : s ∈ (p.fit rs).matched ++ (p.fit rs).missing) :
    (last? rs (Text.normalize s)).map (·.skill) = some s := by
  obtain ⟨r, hr, rfl⟩ := List.mem_map.mp ((p.matched_append_missing_perm rs).mem_iff.mp h)
  have hl := last?_of_mem_collapse hr
  rw [key] at hl
  rw [hl, Option.map_some]

theorem count_key (h : r ∈ rs) (hk : r.key ≠ "") :
    (((p.fit rs).matched ++ (p.fit rs).missing).map Text.normalize).count r.key = 1 := by
  have hm : ((collapse rs).map (·.skill)).map Text.normalize = keys rs := by
    rw [List.map_map, ← map_key_collapse]
    rfl
  rw [((p.matched_append_missing_perm rs).map Text.normalize).count_eq, hm]
  exact List.count_eq_one_of_mem nodup_keys (mem_keys.mpr ⟨hk, r, h, rfl⟩)

/-- The two lists of a fit divide the collapsed requirements. Every key of the input is in one of
them, once, and all keys keep the order of their first occurrence and show the spelling of the last;
`Profile.meets` tells the lists apart and knows neither weights nor other requirements. -/
theorem Profile.fit_divides_requirements (p : Profile) (rs : List (Weighted ω)) :
    ((p.fit rs).matched ++ (p.fit rs).missing).Perm ((collapse rs).map (·.skill)) ∧
    (∀ r ∈ rs, r.key ≠ "" →
      (((p.fit rs).matched ++ (p.fit rs).missing).map Text.normalize).count r.key = 1) ∧
    (p.fit rs).matched.map Text.normalize = (keys rs).filter p.meets ∧
    (p.fit rs).missing.map Text.normalize = (keys rs).filter (fun k => !p.meets k) ∧
    ∀ s ∈ (p.fit rs).matched ++ (p.fit rs).missing,
      (last? rs (Text.normalize s)).map (·.skill) = some s := by
  refine ⟨p.matched_append_missing_perm rs, fun r => count_key, ?_, ?_, fun s => last?_of_mem_fit⟩
  · rw [matched_eq, List.map_map]
    exact collapse_filter_key p.meets
  · rw [missing_eq, List.map_map]
    exact collapse_filter_key fun k => !p.meets k

end Fit

def gopher : Profile := ⟨"", ["Go"], [], []⟩

/-- One skill in two spellings with another between them. -/
def gopherRoles : List (Weighted ℚ) := [⟨"golang", 1⟩, ⟨"Rust", -2⟩, ⟨"Golang!", 3⟩]

theorem gopher_fit_divides :
    (⟨"golang", 1⟩ : Weighted ℚ) ∈ gopherRoles ∧ (⟨"golang", 1⟩ : Weighted ℚ).key ≠ "" ∧
    (((gopher.fit gopherRoles).matched ++ (gopher.fit gopherRoles).missing).map
      Text.normalize).count (⟨"golang", 1⟩ : Weighted ℚ).key = 1 := by
  have hm : (⟨"golang", 1⟩ : Weighted ℚ) ∈ gopherRoles := List.mem_cons_self
  have hk : (⟨"golang", 1⟩ : Weighted ℚ).key ≠ "" := by decide +kernel
  exact ⟨hm, hk, (gopher.fit_divides_requirements gopherRoles).2.1 _ hm hk⟩

end Shortlist
