import Shortlist.Proofs.Service.Request
import Shortlist.Proofs.Validation.Stored

/-! # Taking in files

A file is taken in for a resume that is new or that the actor reaches. Saving sets its text and
leaves its owner; then only its profile is built. Somebody else's resume is refused as unknown.
-/

namespace Shortlist

open Program Validation Relation

/-- A document as saving makes it: with an id, a text and an owner. -/
structure IsResume (d : Document) : Prop where
  id : ∃ id, d.holds "resume_id" id = true
  text : ∃ t, d.get? "parsed_text" = some (.text t)
  owner : ∃ u, u ≠ "" ∧ d.holds "owner_id" u = true
  filename : ∃ f : Option String, d.get? "filename" = f.map .text

namespace Resumes

variable {d : Document} {resumeId text owner u : String} {filename : Option String}

theorem get?_resumeId_save :
    Fields.get? "resume_id" (d.merge (savedFields ⟨resumeId, text, some owner, filename⟩)) =
      d.get? "resume_id" := by
  cases filename <;> simp [savedFields, Fields.get?_set]

theorem holds_resumeId_save (id : String) :
    Document.holds (d.merge (savedFields ⟨resumeId, text, some owner, filename⟩)) "resume_id" id =
      d.holds "resume_id" id := by
  rw [Document.holds, Document.holds, get?_resumeId_save]

theorem holds_owner_save :
    Document.holds (d.merge (savedFields ⟨resumeId, text, some owner, filename⟩)) "owner_id" owner =
      true := by
  cases filename <;> simp [savedFields, Document.holds, Fields.get?_set]

theorem get?_text_save :
    Fields.get? "parsed_text" (d.merge (savedFields ⟨resumeId, text, some owner, filename⟩)) =
      some (.text text) := by
  cases filename <;> simp [savedFields, Fields.get?_set]

theorem isResume_save (hid : ∃ id, d.holds "resume_id" id = true) (howner : owner ≠ "")
    (hfile : ∃ f : Option String, d.get? "filename" = f.map .text) :
    IsResume (d.merge (savedFields ⟨resumeId, text, some owner, filename⟩)) where
  id := hid.imp fun id h => by rwa [holds_resumeId_save]
  text := ⟨text, get?_text_save⟩
  owner := ⟨owner, howner, holds_owner_save⟩
  filename := by
    cases filename with
    | none => simpa [savedFields, Fields.get?_set] using hfile
    | some f => exact ⟨some f, by simp [savedFields, Fields.get?_set]⟩

theorem ofDocument_of_isResume (h : IsResume d) (hu : d.holds "owner_id" u = true)
    (resumeId : String) : ∃ r, ofDocument resumeId d = .valid r ∧ r.ownerId = some u := by
  obtain ⟨t, ht⟩ := h.text
  obtain ⟨f, hf⟩ := h.filename
  have htext : (if (fieldOf d "parsed_text").isFalsy then Value.text ""
      else fieldOf d "parsed_text") = .text t := by
    rw [fieldOf, ht, Option.getD_some]
    split
    · next he =>
      rw [Value.isFalsy, String.isEmpty_iff] at he
      rw [he]
    · rfl
  have howner : fieldOf d "owner_id" = .ofOption .text (some u) := by
    rw [fieldOf, Document.holds_iff.mp hu]
    rfl
  have hfile : fieldOf d "filename" = .ofOption .text f := by
    rw [fieldOf, hf]
    cases f <;> rfl
  refine ⟨⟨resumeId, t, some u, f⟩, ?_, rfl⟩
  rw [ofDocument, htext, howner, hfile]
  exact Resume.ofFields_eq_valid_iff.mpr
    ⟨required_of_get? rfl rfl, required_of_get? rfl rfl,
      optional_of_get? rfl (optionalText_eq_valid_iff.mpr rfl),
      optional_of_get? rfl (optionalText_eq_valid_iff.mpr rfl)⟩

def saved (s : Store) (r : Resume) : Store :=
  (s.answer (.setFields .resumes [("resume_id", r.resumeId)] (savedFields r))).2

theorem upserts_saved (s : Store) (resumeId text owner : String) (filename : Option String) :
    ∃ ds, Upserts [("resume_id", resumeId)]
        (Fields.merge · (savedFields ⟨resumeId, text, some owner, filename⟩))
        (Fields.merge [("resume_id", .text resumeId)]
          (savedFields ⟨resumeId, text, some owner, filename⟩)) s.resumes ds ∧
      saved s ⟨resumeId, text, some owner, filename⟩ = { s with resumes := ds } := by
  obtain ⟨ds, hup, he⟩ := s.answer_setFields .resumes [("resume_id", resumeId)]
    (savedFields ⟨resumeId, text, some owner, filename⟩)
  exact ⟨ds, hup, by rw [saved, he]; rfl⟩

theorem holds_resumeId_added :
    Document.holds (Fields.merge [("resume_id", .text resumeId)]
      (savedFields ⟨resumeId, text, some owner, filename⟩)) "resume_id" resumeId = true := by
  rw [holds_resumeId_save]
  simp [Document.holds, Fields.get?]

/-- What is found with the id of a saved resume is what was there, or nothing, with its fields. -/
theorem find?_saved_self (s : Store) (resumeId text owner : String) (filename : Option String) :
    ∃ d : Document, (saved s ⟨resumeId, text, some owner, filename⟩).resumes.find?
        (Document.fits [("resume_id", resumeId)]) =
      some (d.merge (savedFields ⟨resumeId, text, some owner, filename⟩)) := by
  obtain ⟨ds, hup, he⟩ := upserts_saved s resumeId text owner filename
  rw [he]
  rcases hup.find?_self (fun _ hd => (holds_resumeId_save _).trans hd) holds_resumeId_added with
    ⟨old, hfound⟩ | hfound
  · exact ⟨old, hfound⟩
  · exact ⟨_, hfound⟩

theorem find?_saved_of_ne {id : String} (hne : id ≠ resumeId) (s : Store) :
    (saved s ⟨resumeId, text, some owner, filename⟩).resumes.find?
        (Document.fits [("resume_id", id)]) =
      s.resumes.find? (Document.fits [("resume_id", id)]) := by
  obtain ⟨ds, hup, he⟩ := upserts_saved s resumeId text owner filename
  rw [he]
  exact hup.find?_of_ne (fun _ hd => (holds_resumeId_save _).trans hd) holds_resumeId_added hne

theorem exists_mem_saved (s : Store) (resumeId text owner : String) (filename : Option String) :
    ∃ d ∈ (saved s ⟨resumeId, text, some owner, filename⟩).resumes,
      d.holds "resume_id" resumeId = true ∧ d.holds "owner_id" owner = true := by
  obtain ⟨d, hd⟩ := find?_saved_self s resumeId text owner filename
  exact ⟨_, List.mem_of_find?_eq_some hd, Document.fits_singleton ▸ List.find?_some hd,
    holds_owner_save⟩

end Resumes

namespace Profiles

variable {assistant : Option Assistant} {o : Occasion} {actor : Actor} {s s' : Store}
  {resumeId : String} {upload : Upload} {r : Except Fault ProfileRecord}

theorem ownerOf_of_ownerId {e : Resume} {u : String} (he : e.ownerId = some u) (hu : u ≠ "") :
    ownerOf actor (some e) = u := by
  have hne : (!u.isEmpty) = true := by simpa [String.isEmpty_iff] using hu
  rw [ownerOf, Option.bind_some, he, Option.filter_some, if_pos hne]
  rfl

/-- Everybody who has an id is, or leaves the resume to, somebody with an id. -/
theorem ownerOf_ne_empty (hactor : actor.userId ≠ "") (existing : Option Resume) :
    ownerOf actor existing ≠ "" := by
  rw [ownerOf]
  cases ho : (existing.bind Resume.ownerId).filter (!·.isEmpty) with
  | none => exact hactor
  | some u =>
    have hu := (Option.filter_eq_some_iff.mp ho).2
    simpa [String.isEmpty_iff] using hu

/-- Taking in a file changes nothing, or it saves the resume for the owner that it has or gets, and
then only records its profile. -/
theorem yields_ingest (h : (ingest assistant o actor resumeId upload).Yields s r s') : s' = s ∨
    ∃ existing text, (Resumes.find resumeId).Yields s (.ok existing) s ∧
      ReflTransGen (Records actor.scope)
        (Resumes.saved s ⟨resumeId, text, some (ownerOf actor existing), upload.filename⟩) s' := by
  obtain ⟨existing, s₁, hfind, h₁⟩ | ⟨fault, hfind, -⟩ := yields_bind_iff.mp h
  swap
  · exact Or.inl ((Resumes.looks_find resumeId (by rfl)).eq_of_yields hfind)
  obtain rfl := (Resumes.looks_find resumeId (by rfl)).eq_of_yields hfind
  dsimp only at h₁
  split at h₁
  · exact Or.inl (yields_done_iff.mp h₁).2
  next hscope =>
  obtain ⟨text, s₂, htext, h₂⟩ | ⟨fault, htext, -⟩ := yields_bind_iff.mp h₁
  swap
  · exact Or.inl (yields_done_iff.mp htext).2
  obtain ⟨-, rfl⟩ := yields_done_iff.mp htext
  obtain ⟨_, s₃, hsave, h₃⟩ | ⟨fault, hsave, -⟩ := yields_bind_iff.mp h₂
  swap
  · exact Or.inl (eq_of_yields_call_error hsave)
  obtain ⟨-, rfl⟩ := yields_call_ok_iff.mp hsave
  obtain ⟨d, hd, hid, hown⟩ := Resumes.exists_mem_saved _ resumeId text
    (ownerOf actor existing) upload.filename
  refine Or.inr ⟨existing, text, hfind, records_of_yields hd ?_ h₃⟩
  rw [Document.fits_scoped, Document.fits_singleton, hid, Bool.true_and]
  cases hu : actor.scope with
  | none => rfl
  | some u =>
    have he : u = ownerOf actor existing := by simpa [hu] using hscope
    rwa [Option.all_some, he]

theorem yields_ingest_refused {d : Document} {e : Resume}
    (hd : s.resumes.find? (Document.fits [("resume_id", resumeId)]) = some d)
    (he : Resumes.ofDocument resumeId d = .valid e)
    (hscope : actor.scope.any (· ≠ ownerOf actor (some e)) = true)
    (h : (ingest assistant o actor resumeId upload).Yields s r s') :
    s' = s ∧ (r = .error (.failure (unknownResume resumeId)) ∨
      ∃ fault, r = .error ((Resumes.operation "find_resume" resumeId .resumes).wrap fault)) := by
  obtain ⟨existing, s₁, hfind, h₁⟩ | ⟨fault, hfind, hr⟩ := yields_bind_iff.mp h
  · obtain ⟨rfl, ⟨rfl, hnone⟩ | ⟨d', e', hd', he', rfl⟩⟩ := Resumes.of_yields_find hfind
    · simp [hnone] at hd
    · obtain rfl := Option.some.inj (hd.symm.trans hd')
      obtain rfl : e = e' := by simpa [he] using he'
      dsimp only at h₁
      rw [if_pos hscope] at h₁
      obtain ⟨hr, rfl⟩ := yields_done_iff.mp h₁
      exact ⟨rfl, Or.inl hr⟩
  · refine ⟨(Resumes.looks_find resumeId (by rfl)).eq_of_yields hfind, Or.inr ?_⟩
    obtain ⟨found, s₁, hcall, hread⟩ | ⟨fault', hcall, hf⟩ := yields_bind_iff.mp hfind
    · obtain ⟨rfl, rfl⟩ := yields_call_ok_iff.mp hcall
      -- What is found can be read, so the lookup cannot have failed afterwards.
      have hfound : (s₁.answer (.findOne .resumes [("resume_id", resumeId)])).1 = some d := hd
      rw [hfound] at hread
      dsimp only at hread
      rw [he] at hread
      split at hread <;> cases (yields_done_iff.mp hread).1
    · obtain ⟨hne, -⟩ | ⟨fault'', hwrap, -⟩ := yields_call_iff.mp hcall
      · cases hne
      · exact ⟨fault'', by rw [hr, Except.error.inj hf, Except.error.inj hwrap]⟩

end Profiles

end Shortlist
