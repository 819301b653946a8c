import Shortlist.Candidate.Record
import Shortlist.Proofs.Skill.Collapse
import Shortlist.Proofs.Validation.Stored
import Shortlist.Proofs.Value.Coerce

/-! # Reading again

Whatever value something was read from, writing it and reading that gives the same. Loose readings
give trimmed texts, vacancies collapsed requirements and analyses scores within the bounds, and
none of these changes when it is read once more, at any other time.
-/

namespace Shortlist

open Text Validation

namespace Validation

variable {α : Type} {check : Value → Validation α} {v : Value} {vs : List Value} {a : α}
  {as : List α} {index : Nat}

theorem record_eq_valid_iff {otherwise : Defect} {read : Fields → Validation α} :
    record otherwise read v = .valid a ↔ ∃ fs, v = .record fs ∧ read fs = .valid a := by
  cases v <;> simp [record]

theorem exists_of_mem_itemsFrom (h : itemsFrom check index vs = .valid as) (ha : a ∈ as) :
    ∃ v ∈ vs, check v = .valid a := by
  induction vs generalizing index as with
  | nil =>
    cases h
    cases ha
  | cons v vs ih =>
    rw [itemsFrom] at h
    simp only [seq_eq_valid_iff, map_eq_valid_iff, within_eq_valid_iff, about_eq_valid_iff] at h
    obtain ⟨_, rest, ⟨b, hb, rfl⟩, hrest, rfl⟩ := h
    rcases List.mem_cons.mp ha with rfl | ha
    · exact ⟨v, List.mem_cons_self, hb⟩
    · obtain ⟨w, hw, hwa⟩ := ih hrest ha
      exact ⟨w, List.mem_cons_of_mem _ hw, hwa⟩

end Validation

namespace Fields

variable {name : String} {fs gs : Fields}

theorem asText_again (fs : Fields) (h : gs.get? name = some (.text (fs.asText name))) :
    gs.asText name = fs.asText name := by
  rw [asText, h]
  exact Value.asText_text (trimmed_asText name fs)

theorem asTexts_again (fs : Fields) (h : gs.get? name = some (.texts (fs.asTexts name))) :
    gs.asTexts name = fs.asTexts name := by
  rw [asTexts, h]
  exact Value.asTexts_texts fun _ => of_mem_asTexts

end Fields

/-! ## Profiles -/

theorem Experience.ofValue_toValue {v : Value} {e : Experience} (h : ofValue v = .valid e) :
    ofValue e.toValue = .valid e := by
  obtain ⟨fs, rfl, he⟩ := record_eq_valid_iff.mp h
  cases he
  apply congrArg Validation.valid
  rw [ofFields, ofFields, Experience.mk.injEq]
  exact ⟨Fields.asText_again fs rfl, Fields.asText_again fs rfl, Fields.asText_again fs rfl,
    Fields.asText_again fs rfl, Fields.asText_again fs rfl⟩

theorem Education.ofValue_toValue {v : Value} {e : Education} (h : ofValue v = .valid e) :
    ofValue e.toValue = .valid e := by
  obtain ⟨fs, rfl, he⟩ := record_eq_valid_iff.mp h
  cases he
  apply congrArg Validation.valid
  rw [ofFields, ofFields, Education.mk.injEq]
  exact ⟨Fields.asText_again fs rfl, Fields.asText_again fs rfl, Fields.asText_again fs rfl,
    Fields.asText_again fs rfl⟩

namespace Profile

section Entries

variable {α : Type} {check : Value → Validation α} {write : α → Value} {fs gs : Fields}
  {as : List α} {name entry : String}

theorem entries_map (hwrite : ∀ a, ∃ fs, write a = .record fs) :
    entries entry (.list (as.map write)) = as.map write := by
  have hnull : (as.map write).filter (!·.isNull) = as.map write := by
    apply List.filter_eq_self.mpr
    intro v hv
    obtain ⟨a, -, rfl⟩ := List.mem_map.mp hv
    obtain ⟨fs, hfs⟩ := hwrite a
    rw [hfs]
    rfl
  rw [entries, Value.asList, hnull, List.map_map]
  apply List.map_congr_left
  intro a _
  obtain ⟨fs, hfs⟩ := hwrite a
  rw [Function.comp_apply, hfs]

theorem exists_of_mem_optional_entries {a : α}
    (h : optional name [] (fun v => itemsFrom check 0 (entries entry v)) fs = .valid as)
    (ha : a ∈ as) : ∃ v, check v = .valid a := by
  rcases optional_eq_valid_iff.mp h with ⟨-, rfl⟩ | ⟨v, -, hv⟩
  · cases ha
  · obtain ⟨w, -, hw⟩ := exists_of_mem_itemsFrom hv ha
    exact ⟨w, hw⟩

theorem optional_entries_again (hwrite : ∀ a, ∃ fs, write a = .record fs)
    (hcheck : ∀ v a, check v = .valid a → check (write a) = .valid a)
    (h : optional name [] (fun v => itemsFrom check 0 (entries entry v)) fs = .valid as)
    (hg : gs.get? name = some (.list (as.map write))) :
    optional name [] (fun v => itemsFrom check 0 (entries entry v)) gs = .valid as := by
  have hagain : ∀ a ∈ as, check (write a) = .valid a := by
    intro a ha
    obtain ⟨v, hv⟩ := exists_of_mem_optional_entries h ha
    exact hcheck v a hv
  apply optional_of_get? hg
  rw [entries_map hwrite, itemsFrom_map hagain, List.map_id']

end Entries

theorem ofFields_eq_valid_iff {fs : Fields} {p : Profile} : ofFields fs = .valid p ↔
    fs.asText "summary" = p.summary ∧ fs.asTexts "skills" = p.skills ∧
      optional "experience" []
        (fun v => itemsFrom Experience.ofValue 0 (entries "description" v)) fs =
          .valid p.experience ∧
      optional "education" [] (fun v => itemsFrom Education.ofValue 0 (entries "degree" v)) fs =
        .valid p.education := by
  rw [ofFields]
  simp only [seq_eq_valid_iff, map_eq_valid_iff]
  constructor
  · rintro ⟨_, _, ⟨_, hx, rfl⟩, he, rfl⟩
    exact ⟨rfl, rfl, hx, he⟩
  · rintro ⟨hs, hk, hx, he⟩
    exact ⟨_, _, ⟨_, hx, rfl⟩, he, by rw [hs, hk]⟩

theorem ofValue_toValue {v : Value} {p : Profile} (h : ofValue v = .valid p) :
    ofValue p.toValue = .valid p := by
  obtain ⟨fs, rfl, hp⟩ := record_eq_valid_iff.mp h
  obtain ⟨hsummary, hskills, hx, he⟩ := ofFields_eq_valid_iff.mp hp
  apply ofFields_eq_valid_iff.mpr
  refine ⟨?_, ?_, ?_, ?_⟩
  · rw [← hsummary]
    exact Fields.asText_again fs (hsummary ▸ rfl)
  · rw [← hskills]
    exact Fields.asTexts_again fs (hskills ▸ rfl)
  · exact optional_entries_again (fun e => ⟨_, rfl⟩) (fun _ _ => Experience.ofValue_toValue) hx rfl
  · exact optional_entries_again (fun e => ⟨_, rfl⟩) (fun _ _ => Education.ofValue_toValue) he rfl

/-- What a profile is after a reading: a further one leaves it alone. -/
def Settled (p : Profile) : Prop := ofValue p.toValue = .valid p

theorem settled_empty : empty.Settled := rfl

end Profile

namespace ProfileRecord

theorem ofFields_eq_valid_iff {now : Moment} {fs : Fields} {r : ProfileRecord} :
    ofFields now fs = .valid r ↔
      required "resume_id" Validation.text fs = .valid r.resumeId ∧
      optional "status" .pending (oneOf ProfileStatus.members) fs = .valid r.status ∧
      optional "model_name" "" Validation.text fs = .valid r.modelName ∧
      optional "error_message" "" Validation.text fs = .valid r.errorMessage ∧
      optional "profile" .empty Profile.ofValue fs = .valid r.profile ∧
      optional "updated_at" now moment fs = .valid r.updatedAt := by
  rw [ofFields]
  simp only [seq_eq_valid_iff, map_eq_valid_iff]
  constructor
  · rintro ⟨_, _, ⟨_, _, ⟨_, _, ⟨_, _, ⟨_, _, ⟨_, hid, rfl⟩, hs, rfl⟩, hm, rfl⟩, he, rfl⟩, hp, rfl⟩,
      hu, rfl⟩
    exact ⟨hid, hs, hm, he, hp, hu⟩
  · rintro ⟨hid, hs, hm, he, hp, hu⟩
    exact ⟨_, _, ⟨_, _, ⟨_, _, ⟨_, _, ⟨_, _, ⟨_, hid, rfl⟩, hs, rfl⟩, hm, rfl⟩, he, rfl⟩, hp, rfl⟩,
      hu, rfl⟩

theorem ofFields_toFields (now : Moment) {r : ProfileRecord} (h : r.profile.Settled) :
    ofFields now r.toFields = .valid r := by
  have hstatus : oneOf ProfileStatus.members (.text r.status.name) = .valid r.status := by
    cases r.status <;> rfl
  exact ofFields_eq_valid_iff.mpr
    ⟨required_of_get? rfl rfl, optional_of_get? rfl hstatus, optional_of_get? rfl rfl,
      optional_of_get? rfl rfl, optional_of_get? rfl h, optional_of_get? rfl rfl⟩

theorem settled_of_ofFields {now : Moment} {fs : Fields} {r : ProfileRecord}
    (h : ofFields now fs = .valid r) : r.profile.Settled := by
  obtain ⟨-, -, -, -, hp, -⟩ := ofFields_eq_valid_iff.mp h
  rcases optional_eq_valid_iff.mp hp with ⟨-, he⟩ | ⟨v, -, hv⟩
  · rw [← he]
    exact Profile.settled_empty
  · exact Profile.ofValue_toValue hv

theorem ofValue_toValue {now later : Moment} {v : Value} {r : ProfileRecord}
    (h : ofValue now v = .valid r) : ofValue later r.toValue = .valid r := by
  obtain ⟨fs, rfl, hr⟩ := record_eq_valid_iff.mp h
  exact ofFields_toFields later (settled_of_ofFields hr)

end ProfileRecord

/-! ## Vacancies and analyses -/

theorem Vacancy.ofValue_toValue {o o' : Occasion} {v : Value} {x : Vacancy}
    (h : ofValue o v = .valid x) : ofValue o' x.toValue = .valid x := by
  obtain ⟨fs, rfl, hx⟩ := record_eq_valid_iff.mp h
  obtain ⟨-, -, -, -, hs, -⟩ := ofFields_eq_valid_iff.mp hx
  have hskills : Weighted.collapse x.skills = x.skills := by
    rcases optional_eq_valid_iff.mp hs with ⟨-, he⟩ | ⟨w, -, hw⟩
    · rw [← he]
      rfl
    · obtain ⟨rs, -, he⟩ := map_eq_valid_iff.mp hw
      rw [← he, Weighted.collapse_collapse]
  have hread := x.ofFields_toFields o'
  rwa [hskills] at hread

theorem Narrative.ofValue_toValue {v : Value} {n : Narrative} (h : ofValue v = .valid n) :
    ofValue n.toValue = .valid n := by
  obtain ⟨fs, rfl, hn⟩ := record_eq_valid_iff.mp h
  cases hn
  apply congrArg Validation.valid
  rw [ofFields, ofFields, Narrative.mk.injEq]
  exact ⟨Fields.asText_again fs rfl, Fields.asTexts_again fs rfl, Fields.asText_again fs rfl,
    Fields.asTexts_again fs rfl⟩

theorem Analysis.score?_again {v : Value} {x : Float} (h : score? v = .valid x) :
    score? (.float x) = .valid x := by
  rw [score?] at h
  cases hy : float v with
  | invalid vs =>
    rw [hy] at h
    cases h
  | valid y =>
    rw [hy, andThen] at h
    have hxy : y = x := by
      rw [bounded] at h
      split at h
      · split at h
        · exact Validation.valid.inj h
        · exact (defect_ne_valid h).elim
      · exact (defect_ne_valid h).elim
    rw [hxy] at h
    exact h

theorem Analysis.ofValue_toValue {o o' : Occasion} {v : Value} {a : Analysis}
    (h : ofValue o v = .valid a) : ofValue o' a.toValue = .valid a := by
  obtain ⟨fs, rfl, ha⟩ := record_eq_valid_iff.mp h
  obtain ⟨-, -, -, -, hs, -⟩ := ofFields_eq_valid_iff.mp ha
  apply ofFields_toFields
  rcases optional_eq_valid_iff.mp hs with ⟨-, he⟩ | ⟨w, -, hw⟩
  · exact he ▸ score?_float (by decide) (by decide)
  · exact score?_again hw

end Shortlist
