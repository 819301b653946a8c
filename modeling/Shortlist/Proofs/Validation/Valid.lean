import Shortlist.Analysis.Basic
import Shortlist.Candidate.Resume
import Shortlist.Vacancy.Basic
import Shortlist.Validation.Record
import Shortlist.Validation.Scalar

/-! # Valid readings

A combined reading is valid exactly where its parts are. What was read is then known field by field.
-/

namespace Shortlist

namespace Validation

variable {α β : Type} {x : Validation α} {a : α} {b : β} {v : Value} {fs : Fields} {name : String}
  {check : Value → Validation α}

@[simp] theorem map_eq_valid_iff {f : α → β} :
    f <$> x = .valid b ↔ ∃ a, x = .valid a ∧ f a = b := by
  change map f x = .valid b ↔ _
  cases x <;> simp [map]

@[simp] theorem seq_eq_valid_iff {f : Validation (α → β)} :
    f <*> x = .valid b ↔ ∃ g a, f = .valid g ∧ x = .valid a ∧ g a = b := by
  change seq f (fun _ => x) = .valid b ↔ _
  cases f <;> cases x <;> simp [seq]

@[simp] theorem about_eq_valid_iff : x.about v = .valid a ↔ x = .valid a := by
  cases x <;> simp [about]

@[simp] theorem within_eq_valid_iff {step : PathStep} :
    x.within step = .valid a ↔ x = .valid a := by
  cases x <;> simp [within]

@[simp] theorem defect_ne_valid {d : Defect} : defect d ≠ .valid a := by
  simp [defect]

theorem required_eq_valid_iff :
    required name check fs = .valid a ↔ ∃ v, fs.get? name = some v ∧ check v = .valid a := by
  rw [required, within_eq_valid_iff]
  split <;> simp_all

theorem optional_eq_valid_iff {absent : α} : optional name absent check fs = .valid a ↔
    fs.get? name = none ∧ absent = a ∨ ∃ v, fs.get? name = some v ∧ check v = .valid a := by
  rw [optional, within_eq_valid_iff]
  split <;> simp_all

@[simp] theorem text_eq_valid_iff {s : String} : text v = .valid s ↔ v = .text s := by
  cases v <;> simp [text]

@[simp] theorem optionalText_eq_valid_iff {s : Option String} :
    optionalText v = .valid s ↔ v = .ofOption .text s := by
  cases s <;> cases v <;> simp [optionalText, text, map, Value.ofOption, defect]

theorem optional_optionalText_eq_some_iff {s : String} :
    optional name none optionalText fs = .valid (some s) ↔ fs.get? name = some (.text s) := by
  rw [optional_eq_valid_iff]
  simp [Value.ofOption]

end Validation

open Validation

theorem Resume.ofFields_eq_valid_iff {fs : Fields} {r : Resume} : ofFields fs = .valid r ↔
    required "resume_id" Validation.text fs = .valid r.resumeId ∧
    required "text" Validation.text fs = .valid r.text ∧
    optional "owner_id" none optionalText fs = .valid r.ownerId ∧
    optional "filename" none optionalText fs = .valid r.filename := by
  rw [ofFields]
  simp only [seq_eq_valid_iff, map_eq_valid_iff]
  constructor
  · rintro ⟨_, _, ⟨_, _, ⟨_, _, ⟨_, hid, rfl⟩, ht, rfl⟩, ho, rfl⟩, hf, rfl⟩
    exact ⟨hid, ht, ho, hf⟩
  · rintro ⟨hid, ht, ho, hf⟩
    exact ⟨_, _, ⟨_, _, ⟨_, _, ⟨_, hid, rfl⟩, ht, rfl⟩, ho, rfl⟩, hf, rfl⟩

theorem Vacancy.ofFields_eq_valid_iff {o : Occasion} {fs : Fields} {v : Vacancy} :
    ofFields o fs = .valid v ↔
      optional "vacancy_id" o.freshId Validation.text fs = .valid v.vacancyId ∧
      optional "owner_id" none optionalText fs = .valid v.ownerId ∧
      optional "title" "" Validation.text fs = .valid v.title ∧
      optional "description" "" Validation.text fs = .valid v.description ∧
      optional "skills" [] requirements fs = .valid v.skills ∧
      optional "created_at" o.now moment fs = .valid v.createdAt := by
  rw [ofFields]
  simp only [seq_eq_valid_iff, map_eq_valid_iff]
  constructor
  · rintro ⟨_, _, ⟨_, _, ⟨_, _, ⟨_, _, ⟨_, _, ⟨_, hid, rfl⟩, ho, rfl⟩, ht, rfl⟩, hd, rfl⟩, hs, rfl⟩,
      hc, rfl⟩
    exact ⟨hid, ho, ht, hd, hs, hc⟩
  · rintro ⟨hid, ho, ht, hd, hs, hc⟩
    exact ⟨_, _, ⟨_, _, ⟨_, _, ⟨_, _, ⟨_, _, ⟨_, hid, rfl⟩, ho, rfl⟩, ht, rfl⟩, hd, rfl⟩, hs, rfl⟩,
      hc, rfl⟩

theorem Analysis.ofFields_eq_valid_iff {o : Occasion} {fs : Fields} {a : Analysis} :
    ofFields o fs = .valid a ↔
      optional "analysis_id" o.freshId Validation.text fs = .valid a.analysisId ∧
      required "resume_id" Validation.text fs = .valid a.resumeId ∧
      required "vacancy_id" Validation.text fs = .valid a.vacancyId ∧
      optional "owner_id" none optionalText fs = .valid a.ownerId ∧
      optional "score" 0.0 score? fs = .valid a.score ∧
      optional "model_name" "" Validation.text fs = .valid a.modelName ∧
      optional "report" .empty Report.ofValue fs = .valid a.report ∧
      optional "created_at" o.now moment fs = .valid a.createdAt := by
  rw [ofFields]
  simp only [seq_eq_valid_iff, map_eq_valid_iff]
  constructor
  · rintro ⟨_, _, ⟨_, _, ⟨_, _, ⟨_, _, ⟨_, _, ⟨_, _, ⟨_, _, ⟨_, hid, rfl⟩, hr, rfl⟩, hv, rfl⟩,
      ho, rfl⟩, hs, rfl⟩, hm, rfl⟩, hp, rfl⟩, hc, rfl⟩
    exact ⟨hid, hr, hv, ho, hs, hm, hp, hc⟩
  · rintro ⟨hid, hr, hv, ho, hs, hm, hp, hc⟩
    exact ⟨_, _, ⟨_, _, ⟨_, _, ⟨_, _, ⟨_, _, ⟨_, _, ⟨_, _, ⟨_, hid, rfl⟩, hr, rfl⟩, hv, rfl⟩,
      ho, rfl⟩, hs, rfl⟩, hm, rfl⟩, hp, rfl⟩, hc, rfl⟩

end Shortlist
