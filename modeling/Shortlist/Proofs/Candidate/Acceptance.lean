import Shortlist.Analysis.Report
import Shortlist.Proofs.Validation.Again
import Shortlist.Proofs.Validation.Reports

/-! # Which values are profiles

Profiles and narratives are read loosely: whatever a field holds, it has a reading as a text or as a
list. All that a profile insists on is that the items of its two lists of entries are records, or
texts that stand for records. Each item that is neither is reported with its place.
-/

namespace Shortlist

open Text Validation

/-! ## Entries -/

def Value.isEntry : Value → Bool
  | .text _ => true
  | .record _ => true
  | _ => false

/-- The values that a field lists, nulls left out. -/
def Fields.listed (name : String) (fs : Fields) : List Value :=
  ((fs.get? name).map fun v => v.asList.filter (!·.isNull)).getD []

/-- What is wrong with a field that lists entries: each listed value that is none. -/
def Fields.strays (name : String) (fs : Fields) : List Violation :=
  ((fs.listed name).zipIdx.filter fun item => !item.1.isEntry).map fun item =>
    ⟨[.field name, .item item.2], .notRecord, item.1⟩

theorem Fields.strays_eq_nil_iff {name : String} {fs : Fields} :
    fs.strays name = [] ↔ ∀ v ∈ fs.listed name, v.isEntry = true := by
  rw [strays, List.map_eq_nil_iff, List.filter_eq_nil_iff]
  constructor
  · intro h v hv
    obtain ⟨i, hi⟩ := List.mem_iff_getElem?.mp hv
    have hitem := h (v, i) (List.mem_zipIdx_iff_getElem?.mpr hi)
    simpa using hitem
  · rintro h ⟨v, i⟩ hitem
    simp [h v (List.mem_of_getElem? (List.mem_zipIdx_iff_getElem?.mp hitem))]

def Value.asEntry (entry : String) : Value → Value
  | .text s => .record [(entry, .text s)]
  | v => v

namespace Profile

theorem entries_eq (entry : String) (v : Value) :
    entries entry v = (v.asList.filter (!·.isNull)).map (Value.asEntry entry) := rfl

section Reading

variable {α : Type} (read : Fields → α) (entry : String)

theorem reports_asEntry (v : Value) :
    ((record .notRecord (fun fs => .valid (read fs)) (v.asEntry entry)).about
      (v.asEntry entry)).Reports (if v.isEntry then [] else [⟨[], .notRecord, v⟩]) := by
  cases v with
  | text s => exact .valid _
  | record fs => exact .valid _
  | _ => exact .invalid (List.cons_ne_nil _ _)

theorem reports_itemsFrom (index : Nat) (vs : List Value) :
    (itemsFrom (record .notRecord fun fs => .valid (read fs)) index
        (vs.map (Value.asEntry entry))).Reports
      (((vs.zipIdx index).filter fun item => !item.1.isEntry).map fun item =>
        ⟨[.item item.2], .notRecord, item.1⟩) := by
  induction vs generalizing index with
  | nil => exact .valid []
  | cons v vs ih =>
    rw [List.map_cons, itemsFrom]
    have hitem := (((reports_asEntry read entry v).within (.item index)).map (g := List.cons)).seq
      (ih (index + 1))
    cases hv : v.isEntry with
    | true => simpa [hv] using hitem
    | false => simpa [hv, Violation.place] using hitem

theorem reports_optional_entries (name : String) (fs : Fields) :
    (optional name [] (fun v => itemsFrom (record .notRecord fun fs => .valid (read fs)) 0
      (entries entry v)) fs).Reports (fs.strays name) := by
  have hplace : fs.strays name =
      (((fs.listed name).zipIdx.filter fun item => !item.1.isEntry).map fun item =>
        ⟨[.item item.2], .notRecord, item.1⟩).map (Violation.place (.field name)) := by
    rw [List.map_map]
    rfl
  rw [hplace]
  apply Reports.optional
  · intro v hv
    have hlisted : fs.listed name = v.asList.filter (!·.isNull) := by
      rw [Fields.listed, hv]
      rfl
    rw [hlisted, entries_eq]
    apply (reports_itemsFrom read entry 0 _).about
    intro w hw
    obtain ⟨item, -, rfl⟩ := List.mem_map.mp hw
    exact Or.inl (List.cons_ne_nil _ _)
  · intro hv
    rw [Fields.listed, hv]
    rfl

end Reading

theorem reports_ofFields (fs : Fields) :
    (ofFields fs).Reports (fs.strays "experience" ++ fs.strays "education") :=
  (reports_optional_entries Experience.ofFields "description" "experience" fs).map.seq
    (reports_optional_entries Education.ofFields "degree" "education" fs)

end Profile

/-! ## Texts -/

def Experience.texts (e : Experience) : List String :=
  [e.company, e.role, e.start, e.end, e.description]

def Education.texts (e : Education) : List String := [e.institution, e.degree, e.start, e.end]

def Profile.texts (p : Profile) : List String :=
  p.summary :: (p.skills ++ p.experience.flatMap Experience.texts ++
    p.education.flatMap Education.texts)

theorem Experience.trimmed_of_ofValue {v : Value} {e : Experience} (h : ofValue v = .valid e) :
    ∀ s ∈ e.texts, Trimmed s := by
  obtain ⟨fs, -, he⟩ := record_eq_valid_iff.mp h
  cases he
  simp [texts, ofFields, Fields.trimmed_asText]

theorem Education.trimmed_of_ofValue {v : Value} {e : Education} (h : ofValue v = .valid e) :
    ∀ s ∈ e.texts, Trimmed s := by
  obtain ⟨fs, -, he⟩ := record_eq_valid_iff.mp h
  cases he
  simp [texts, ofFields, Fields.trimmed_asText]

theorem Profile.trimmed_of_ofFields {fs : Fields} {p : Profile} (h : ofFields fs = .valid p) :
    ∀ s ∈ p.texts, Trimmed s := by
  obtain ⟨hsummary, hskills, hx, he⟩ := ofFields_eq_valid_iff.mp h
  intro s hs
  simp only [texts, List.mem_cons, List.mem_append, List.mem_flatMap] at hs
  rcases hs with rfl | (hs | ⟨e, hmem, hs⟩) | ⟨e, hmem, hs⟩
  · rw [← hsummary]
    exact Fields.trimmed_asText _ fs
  · rw [← hskills] at hs
    exact (Fields.of_mem_asTexts hs).1
  · obtain ⟨v, hv⟩ := exists_of_mem_optional_entries hx hmem
    exact Experience.trimmed_of_ofValue hv s hs
  · obtain ⟨v, hv⟩ := exists_of_mem_optional_entries he hmem
    exact Education.trimmed_of_ofValue hv s hs

/-- A narrative is read from every record and from nothing else, and a profile from every record
that lists only entries. A record that is no profile is told about each listed value that is no
entry. The texts of a profile are trimmed, and its skills are not blank. -/
theorem Profile.ofValue_acceptance (v : Value) :
    ((∃ n, Narrative.ofValue v = .valid n) ↔ ∃ fs, v = .record fs) ∧
      ((∃ p, ofValue v = .valid p) ↔ ∃ fs : Fields, v = .record fs ∧
        ∀ w ∈ fs.listed "experience" ++ fs.listed "education", w.isEntry = true) ∧
      (∀ (fs : Fields) (ws : List Violation), v = .record fs → ofValue v = .invalid ws →
        ws = fs.strays "experience" ++ fs.strays "education") ∧
      ∀ p, ofValue v = .valid p →
        (∀ s ∈ p.texts, Trimmed s) ∧ ∀ s ∈ p.skills, isBlankText s = false := by
  refine ⟨?narrative, ?profile, ?reported, ?normal⟩
  case narrative =>
    constructor
    · rintro ⟨n, hn⟩
      obtain ⟨fs, hfs, -⟩ := record_eq_valid_iff.mp hn
      exact ⟨fs, hfs⟩
    · rintro ⟨fs, rfl⟩
      exact ⟨Narrative.ofFields fs, rfl⟩
  case profile =>
    constructor
    · rintro ⟨p, hp⟩
      obtain ⟨fs, rfl, hfs⟩ := record_eq_valid_iff.mp hp
      have hnil := (reports_ofFields fs).exists_valid_iff.mp ⟨p, hfs⟩
      rw [List.append_eq_nil_iff, Fields.strays_eq_nil_iff, Fields.strays_eq_nil_iff] at hnil
      exact ⟨fs, rfl, List.forall_mem_append.mpr hnil⟩
    · rintro ⟨fs, rfl, h⟩
      apply (reports_ofFields fs).exists_valid_iff.mpr
      rw [List.append_eq_nil_iff, Fields.strays_eq_nil_iff, Fields.strays_eq_nil_iff]
      exact List.forall_mem_append.mp h
  case reported =>
    rintro fs ws rfl hws
    exact (reports_ofFields fs).eq_of_invalid hws
  case normal =>
    intro p hp
    obtain ⟨fs, -, hfs⟩ := record_eq_valid_iff.mp hp
    refine ⟨trimmed_of_ofFields hfs, fun s hs => ?_⟩
    rw [← (ofFields_eq_valid_iff.mp hfs).2.1] at hs
    obtain ⟨htrim, hne⟩ := Fields.of_mem_asTexts hs
    exact htrim.isBlankText_eq_false hne

def scattered : Fields :=
  [("summary", .list [.text " Engineer", .null, .text "\t", .int 7]),
    ("skills", .list [.null, .text "Go ", .text "", .bool true]), ("education", .text "BSc; ,MSc"),
    ("experience", .list [.null, .record [("role", .text " Lead "), ("start", .int 2020)]])]

/-- A record in which three of the listed values are no entries. -/
def strewn : Fields :=
  [("education", .int 3),
    ("experience", .list [.null, .text "x", .bool true, .null, .list [.text "y"], .record []])]

theorem Profile.ofValue_acceptance_strewn :
    (∃ p, ofValue (.record scattered) = .valid p ∧ (∀ s ∈ p.texts, Trimmed s) ∧
      p.texts = ["Engineer None 7", "Go", "True", "", "Lead", "2020", "", "", "", "BSc", "", "",
        "", "MSc", "", ""]) ∧
    (¬ ∃ p, ofValue (.record strewn) = .valid p) ∧
    ∃ ws, ofValue (.record strewn) = .invalid ws ∧ ws.map (fun w => (w.path, w.defect)) =
      [([.field "experience", .item 1], .notRecord), ([.field "experience", .item 2], .notRecord),
        ([.field "education", .item 0], .notRecord)] := by
  obtain ⟨-, haccepted, -, hnormal⟩ := ofValue_acceptance (.record scattered)
  obtain ⟨-, hrejected, hreported, -⟩ := ofValue_acceptance (.record strewn)
  have hentries : ∀ w ∈ Fields.listed "experience" scattered ++ Fields.listed "education" scattered,
      w.isEntry = true := by decide +kernel
  have htexts : (ofValue (.record scattered)).toExcept.toOption.map texts =
      some ["Engineer None 7", "Go", "True", "", "Lead", "2020", "", "", "", "BSc", "", "",
        "", "MSc", "", ""] := by decide +kernel
  have hstrays : ¬ ∀ w ∈ Fields.listed "experience" strewn ++ Fields.listed "education" strewn,
      w.isEntry = true := by decide +kernel
  constructor
  · obtain ⟨p, hp⟩ := haccepted.mpr ⟨scattered, rfl, hentries⟩
    rw [hp] at htexts
    exact ⟨p, hp, (hnormal p hp).1, Option.some.inj htexts⟩
  · have hnone : ¬ ∃ p, ofValue (.record strewn) = .valid p := by
      rw [hrejected]
      rintro ⟨fs, hfs, h⟩
      cases hfs
      exact hstrays h
    refine ⟨hnone, ?_⟩
    cases hws : ofValue (.record strewn) with
    | valid p => exact (hnone ⟨p, hws⟩).elim
    | invalid ws =>
      refine ⟨ws, rfl, ?_⟩
      rw [hreported strewn ws rfl hws]
      decide +kernel

end Shortlist
