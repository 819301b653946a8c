import Shortlist.Proofs.Program.Trace
import Shortlist.Proofs.Session.Ownership

/-! # Stored records

What the profile records say in every session, whatever fails and whatever the text-generation
service replies: a profile is there if and only if the record is ok. As long as no call to the store
fails, the profile also is what the service made of the text that the resume has.
-/

namespace Shortlist

open Program

/-- A record is ok if and only if it has a profile, which comes from the assistant. -/
structure ProfileRecord.Sound (assistant : Option Assistant) (r : ProfileRecord) : Prop where
  ok : r.status = .ok → r.errorMessage = "" ∧ r.profile.isEmpty = false ∧
    ∃ a, assistant = some a ∧ r.modelName = a.modelName
  other : r.status = .pending ∨ r.status = .failed → r.profile = .empty

def Profiles.question (text : String) : Effect :=
  .ask Prompt.profileSystem (Prompt.forProfile (Text.take maxResumeLength (Text.strip text)))

/-- The service was asked about a text, and its reply holds the profile. -/
def ProfileRecord.Backed (text : String) (es : List Event) (r : ProfileRecord) : Prop :=
  ∃ reply : Option String, ⟨Profiles.question text, .ok reply⟩ ∈ es ∧
    Reply.decode Profile.target reply = .ok r.profile

def Resumes.HasText (s : Store) (resumeId text : String) : Prop :=
  ∃ d, s.resumes.find? (Document.fits [("resume_id", resumeId)]) = some d ∧
    d.get? "parsed_text" = some (.text text)

def Profiles.recorded (s : Store) (r : ProfileRecord) : Store :=
  (s.answer (.replace .profiles [("resume_id", r.resumeId)] r.toFields)).2

/-- What holds of a store after some events. The record of one resume may be left behind by a change
of the resume. -/
structure Accounted (assistant : Option Assistant) (behind : Option String) (es : List Event)
    (s : Store) : Prop where
  uniqueResumes : UniqueIn "resume_id" s.resumes
  uniqueProfiles : UniqueIn "resume_id" s.profiles
  texts : ∀ d ∈ s.resumes, ∃ t, d.get? "parsed_text" = some (.text t)
  records : ∀ d ∈ s.profiles, ∃ r : ProfileRecord, d = r.toFields ∧ r.Sound assistant ∧
    (some r.resumeId ≠ behind → Calm es → r.status = .ok →
      ∃ text, Resumes.HasText s r.resumeId text ∧ r.Backed text es)

variable {assistant : Option Assistant} {behind : Option String} {es es' : List Event}
  {s s' : Store} {o : Occasion} {actor : Actor} {r : ProfileRecord} {resumeId text : String}

theorem ProfileRecord.Backed.mono (h : r.Backed text es) (hs : es ⊆ es') : r.Backed text es' := by
  obtain ⟨reply, hreply, hd⟩ := h
  exact ⟨reply, hs hreply, hd⟩

namespace Profiles

theorem holds_resumeId_toFields (r : ProfileRecord) :
    Document.holds r.toFields "resume_id" r.resumeId = true :=
  Document.holds_iff.mpr rfl

theorem exists_recorded (s : Store) (r : ProfileRecord) : ∃ ds,
    Upserts [("resume_id", r.resumeId)] (fun _ => r.toFields) r.toFields s.profiles ds ∧
      recorded s r = { s with profiles := ds } := by
  obtain ⟨ds, hup, he⟩ := s.answer_replace .profiles [("resume_id", r.resumeId)] r.toFields
  exact ⟨ds, hup, by rw [recorded, he]; rfl⟩

theorem resumes_recorded (s : Store) (r : ProfileRecord) : (recorded s r).resumes = s.resumes := by
  obtain ⟨ds, -, he⟩ := exists_recorded s r
  rw [he]

end Profiles

namespace Accounted

theorem empty (assistant : Option Assistant) : Accounted assistant none [] .empty where
  uniqueResumes := .nil
  uniqueProfiles := .nil
  texts _ hd := by cases hd
  records _ hd := by cases hd

theorem mono (h : Accounted assistant behind es s) (hs : es ⊆ es') :
    Accounted assistant behind es' s where
  uniqueResumes := h.uniqueResumes
  uniqueProfiles := h.uniqueProfiles
  texts := h.texts
  records d hd := by
    obtain ⟨r, hr, hsound, hbacked⟩ := h.records d hd
    refine ⟨r, hr, hsound, fun hne hcalm hok => ?_⟩
    obtain ⟨text, htext, hb⟩ := hbacked hne (hcalm.of_subset hs) hok
    exact ⟨text, htext, hb.mono hs⟩

theorem append (h : Accounted assistant behind es s) (es' : List Event) :
    Accounted assistant behind (es ++ es') s :=
  h.mono (List.subset_append_left es es')

theorem weaken (h : Accounted assistant none es s) (behind : Option String) :
    Accounted assistant behind es s where
  uniqueResumes := h.uniqueResumes
  uniqueProfiles := h.uniqueProfiles
  texts := h.texts
  records d hd := by
    obtain ⟨r, hr, hsound, hbacked⟩ := h.records d hd
    exact ⟨r, hr, hsound, fun _ => hbacked (Option.some_ne_none _)⟩

/-- Once a call has failed, nothing is said about texts any more. -/
theorem of_not_calm (h : Accounted assistant behind es s) (hn : ¬ Calm es) :
    Accounted assistant none es s where
  uniqueResumes := h.uniqueResumes
  uniqueProfiles := h.uniqueProfiles
  texts := h.texts
  records d hd := by
    obtain ⟨r, hr, hsound, -⟩ := h.records d hd
    exact ⟨r, hr, hsound, fun _ hcalm => absurd hcalm hn⟩

theorem of_eq (h : Accounted assistant behind es s) (hr : s'.resumes = s.resumes)
    (hp : s'.profiles = s.profiles) : Accounted assistant behind es s' where
  uniqueResumes := hr ▸ h.uniqueResumes
  uniqueProfiles := hp ▸ h.uniqueProfiles
  texts := hr ▸ h.texts
  records := by
    rw [hp]
    simp only [Resumes.HasText, hr]
    exact h.records

/-- A sound record may be put in place. It makes up for a change of its resume. -/
theorem recorded (h : Accounted assistant (some r.resumeId) es s) (hsound : r.Sound assistant)
    (hbacked : Calm es → r.status = .ok →
      ∃ text, Resumes.HasText s r.resumeId text ∧ r.Backed text es) :
    Accounted assistant none es (Profiles.recorded s r) := by
  obtain ⟨ds, hup, he⟩ := Profiles.exists_recorded s r
  have hself := Profiles.holds_resumeId_toFields r
  have hunique : UniqueIn "resume_id" ds :=
    h.uniqueProfiles.upserts hup rfl (fun _ _ => hself) hself
  rw [he]
  refine ⟨h.uniqueResumes, hunique, h.texts, fun d hd => ?_⟩
  -- Whatever has the id of the record is the record.
  have hfound := hup.find?_eq hself r.resumeId
  rw [if_pos rfl] at hfound
  have hmem := List.mem_of_find?_eq_some hfound
  obtain hd' | ⟨_, _, _, rfl⟩ | rfl := hup.mem hd
  · obtain ⟨r', rfl, hsound', hbacked'⟩ := h.records d hd'
    by_cases hid : r'.resumeId = r.resumeId
    · have hsame := hunique.eq_of_holds hd hmem
        (hid ▸ Profiles.holds_resumeId_toFields r') hself
      exact ⟨r, hsame, hsound, fun _ => hbacked⟩
    · exact ⟨r', rfl, hsound', fun _ => hbacked' fun hsome => hid (Option.some.inj hsome)⟩
  · exact ⟨r, rfl, hsound, fun _ => hbacked⟩
  · exact ⟨r, rfl, hsound, fun _ => hbacked⟩

theorem saved (h : Accounted assistant none es s) (resumeId text owner : String)
    (filename : Option String) :
    Accounted assistant (some resumeId) es
        (Resumes.saved s ⟨resumeId, text, some owner, filename⟩) ∧
      Resumes.HasText (Resumes.saved s ⟨resumeId, text, some owner, filename⟩) resumeId text := by
  obtain ⟨ds, hup, he⟩ := Resumes.upserts_saved s resumeId text owner filename
  have hkept : ∀ d : Document, d.holds "resume_id" resumeId = true → Document.holds
      (d.merge (Resumes.savedFields ⟨resumeId, text, some owner, filename⟩)) "resume_id" resumeId =
        true := fun _ hd => (Resumes.holds_resumeId_save _).trans hd
  have hunique := h.uniqueResumes.upserts hup rfl hkept Resumes.holds_resumeId_added
  obtain ⟨d, hd⟩ := Resumes.find?_saved_self s resumeId text owner filename
  refine ⟨?_, _, hd, Resumes.get?_text_save⟩
  rw [he]
  refine ⟨hunique, h.uniqueProfiles, fun d hd => ?_, fun d hd => ?_⟩
  · obtain hd | ⟨old, _, _, rfl⟩ | rfl := hup.mem hd
    · exact h.texts d hd
    · exact ⟨text, Resumes.get?_text_save⟩
    · exact ⟨text, Resumes.get?_text_save⟩
  · obtain ⟨r, rfl, hsound, hbacked⟩ := h.records d hd
    refine ⟨r, rfl, hsound, fun hne hcalm hok => ?_⟩
    obtain ⟨text', ⟨d', hd', ht'⟩, hb⟩ := hbacked (Option.some_ne_none _) hcalm hok
    have hother : r.resumeId ≠ resumeId := fun hid => hne (congrArg some hid)
    refine ⟨text', ⟨d', ?_, ht'⟩, hb⟩
    exact (hup.find?_of_ne hkept Resumes.holds_resumeId_added hother).trans hd'

end Accounted

/-! ## Building profiles -/

section Build

variable {x : Except Fault ProfileRecord} {es₀ : List Event} {status : ProfileStatus}
  {error reason : String} {profile : Profile}

theorem Profiles.of_traces_settle
    (h : (settle o r status error profile).Traces s es x s') :
    (x = .ok { r with status, errorMessage := error, profile, updatedAt := o.now } ∧
        s' = recorded s { r with status, errorMessage := error, profile, updatedAt := o.now }) ∨
      (∃ fault, x = .error fault) ∧ s' = s ∧ ¬ Calm es := by
  obtain ⟨es₁, _, s₁, es₂, hcall, hp, rfl⟩ | ⟨fault, hcall, rfl⟩ := exists_of_traces_bind h
  · obtain ⟨rfl, rfl, rfl⟩ := eq_of_traces_done hp
    obtain ⟨-, hs⟩ | ⟨_, hne, -⟩ := of_traces_call hcall
    · exact Or.inl ⟨rfl, hs⟩
    · cases hne
  · obtain ⟨hne, -⟩ | ⟨_, -, hs, hcalm⟩ := of_traces_call hcall
    · cases hne
    · exact Or.inr ⟨⟨fault, rfl⟩, hs, hcalm⟩

theorem Profiles.of_traces_inquire {y : Except Fault (Except String (Option String))}
    (h : (inquire (Text.take maxResumeLength (Text.strip text))).Traces s es y s') :
    s' = s ∧ ∀ reply, y = .ok (.ok reply) → ⟨question text, .ok reply⟩ ∈ es := by
  obtain ⟨es₁, z, s₁, es₂, hmap, hhandle, rfl⟩ := exists_of_traces_andThen h
  obtain ⟨es₃, reply, s₂, es₄, hask, hp, rfl⟩ | ⟨fault, hask, rfl⟩ := exists_of_traces_bind hmap
  · obtain ⟨rfl, rfl⟩ := of_traces_ask hask
    obtain ⟨rfl, rfl, rfl⟩ := eq_of_traces_done hp
    obtain ⟨rfl, rfl, rfl⟩ := eq_of_traces_done hhandle
    refine ⟨rfl, fun reply' hy => ?_⟩
    obtain rfl : reply = reply' := Except.ok.inj (Except.ok.inj hy)
    exact List.mem_cons_self
  · obtain ⟨rfl, rfl⟩ := of_traces_ask hask
    dsimp only at hhandle
    split at hhandle
    all_goals
      obtain ⟨rfl, rfl, rfl⟩ := eq_of_traces_done hhandle
      exact ⟨rfl, nofun⟩

namespace Accounted

theorem settle (h : Accounted assistant (some r.resumeId) es₀ s)
    (ht : (Profiles.settle o r status error profile).Traces s es x s')
    (hsound : ProfileRecord.Sound assistant
      { r with status, errorMessage := error, profile, updatedAt := o.now })
    (hbacked : status = .ok → ∃ text, Resumes.HasText s r.resumeId text ∧
      ProfileRecord.Backed text (es₀ ++ es) { r with profile }) :
    Accounted assistant none (es₀ ++ es) s' := by
  let settled : ProfileRecord :=
    { r with status, errorMessage := error, profile, updatedAt := o.now }
  obtain ⟨-, rfl⟩ | ⟨-, rfl, hcalm⟩ := Profiles.of_traces_settle ht
  · exact (h.append es).recorded (r := settled) hsound fun _ => hbacked
  · refine (h.append es).of_not_calm fun hall => hcalm ?_
    exact hall.of_subset (List.subset_append_right es₀ es)

theorem giveUp (h : Accounted assistant (some r.resumeId) es₀ s)
    (ht : (Profiles.giveUp o r reason).Traces s es x s') :
    Accounted assistant none (es₀ ++ es) s' :=
  h.settle ht ⟨nofun, fun _ => rfl⟩ nofun

theorem conclude (h : Accounted assistant none es₀ s) {reply : Option String}
    (htext : Resumes.HasText s r.resumeId text)
    (hmodel : ∃ a, assistant = some a ∧ r.modelName = a.modelName)
    (hasked : ⟨Profiles.question text, .ok reply⟩ ∈ es₀)
    (ht : (Profiles.conclude o r reply).Traces s es x s') :
    Accounted assistant none (es₀ ++ es) s' := by
  have hbehind := h.weaken (some r.resumeId)
  rw [Profiles.conclude] at ht
  split at ht
  · next profile hd =>
    split at ht
    · exact hbehind.giveUp ht
    · next hne =>
      refine hbehind.settle ht ⟨fun _ => ⟨rfl, by simpa using hne, hmodel⟩, ?_⟩ fun _ => ?_
      · rintro (hok | hok) <;> cases hok
      · exact ⟨text, htext, reply, List.mem_append_left _ hasked, hd⟩
  · split at ht
    · exact hbehind.giveUp ht
    · obtain ⟨rfl, -, rfl⟩ := eq_of_traces_done ht
      exact h.append []
  · obtain ⟨rfl, -, rfl⟩ := eq_of_traces_done ht
    exact h.append []

/-- A build of a profile from the text that the resume has keeps the account, and makes up for a
change of the resume. -/
theorem build (h : Accounted assistant (some resumeId) es₀ s)
    (htext : Resumes.HasText s resumeId text)
    (ht : (Profiles.build assistant o resumeId text).Traces s es x s') :
    Accounted assistant none (es₀ ++ es) s' := by
  obtain ⟨es₁, pending, s₁, es₂, hsettle, hrest, rfl⟩ | ⟨fault, hsettle, -⟩ :=
    exists_of_traces_bind ht
  swap
  · exact h.settle hsettle ⟨nofun, fun _ => rfl⟩ nofun
  have h₁ := h.settle hsettle ⟨nofun, fun _ => rfl⟩ nofun
  rw [← List.append_assoc]
  obtain ⟨hpending, hs⟩ | ⟨⟨_, hne⟩, -⟩ := Profiles.of_traces_settle hsettle
  swap
  · cases hne
  have htext₁ : Resumes.HasText s₁ resumeId text := by
    rwa [Resumes.HasText, hs, Profiles.resumes_recorded]
  obtain rfl := Except.ok.inj hpending
  have hbehind := h₁.weaken (some resumeId)
  dsimp only at hrest
  split at hrest
  · exact hbehind.giveUp hrest
  split at hrest
  · exact hbehind.giveUp hrest
  next hassistant =>
  obtain ⟨es₃, y, s₂, es₄, hask, hlast, rfl⟩ | ⟨fault, hask, -⟩ := exists_of_traces_bind hrest
  · obtain ⟨rfl, hasked⟩ := Profiles.of_traces_inquire hask
    rw [← List.append_assoc]
    cases y with
    | error reason => exact (hbehind.append es₃).giveUp hlast
    | ok reply =>
      refine (h₁.append es₃).conclude htext₁ ?_ (List.mem_append_right _ (hasked reply rfl)) hlast
      cases assistant with
      | none => exact absurd rfl hassistant
      | some a => exact ⟨a, rfl, rfl⟩
  · obtain ⟨rfl, -⟩ := Profiles.of_traces_inquire hask
    exact h₁.append es₂

theorem buildAndSave (h : Accounted assistant (some resumeId) es₀ s)
    (htext : Resumes.HasText s resumeId text)
    (ht : (Profiles.buildAndSave assistant o resumeId text).Traces s es x s') :
    Accounted assistant none (es₀ ++ es) s' := by
  obtain ⟨es', hbuild, hsub⟩ := exists_of_traces_holding ht
  refine (h.build htext hbuild).mono (List.append_subset.mpr ⟨?_, ?_⟩)
  · exact List.subset_append_left es₀ es
  · exact List.Subset.trans hsub (List.subset_append_right es₀ es)

end Accounted

end Build

/-! ## Requests -/

/-- Neither a resume nor a profile record changes. -/
def Store.SameRecords (s s' : Store) : Prop := s'.resumes = s.resumes ∧ s'.profiles = s.profiles

theorem Store.sameRecords_answer {q : StoreCall} (hr : q.collection ≠ .resumes)
    (hp : q.collection ≠ .profiles) : s.SameRecords (s.answer q).2 :=
  ⟨s.documents_answer_of_ne .resumes hr.symm, s.documents_answer_of_ne .profiles hp.symm⟩

theorem Change.sameRecords (h : Change actor o s s') : s.SameRecords s' := by
  cases h with
  | vacancy => exact Store.sameRecords_answer nofun nofun
  | skills => exact Store.sameRecords_answer nofun nofun
  | analysis => exact Store.sameRecords_answer nofun nofun
  | removal => exact Store.sameRecords_answer nofun nofun

theorem sameRecords_of_reflGen (h : Relation.ReflGen (Change actor o) s s') :
    s.SameRecords s' := by
  cases h with
  | refl => exact ⟨rfl, rfl⟩
  | single h => exact h.sameRecords

namespace Accounted

variable {es₀ : List Event} {x : Except Fault ProfileRecord}

theorem sameRecords (h : Accounted assistant behind es s) (hs : s.SameRecords s')
    (es' : List Event) : Accounted assistant behind (es ++ es') s' :=
  (h.append es').of_eq hs.1 hs.2

theorem hasText_of_readText (h : Accounted assistant behind es s) {owner : Option String}
    {d : Document} {resume : Resume}
    (hd : s.resumes.find? (Document.fits (Filter.scoped [("resume_id", resumeId)] owner)) = some d)
    (hread : Resumes.readText resumeId d = .valid resume) :
    Resumes.HasText s resumeId resume.text := by
  have hmem := List.mem_of_find?_eq_some hd
  have hfit := List.find?_some hd
  rw [Document.fits_scoped, Bool.and_eq_true, Document.fits_singleton] at hfit
  obtain ⟨t, ht⟩ := h.texts d hmem
  obtain ⟨v, hv, htext⟩ := Validation.required_eq_valid_iff.mp
    (Resume.ofFields_eq_valid_iff.mp hread).2.1
  obtain rfl := Validation.text_eq_valid_iff.mp htext
  have hsame : t = resume.text := by
    simpa [Fields.get?, Resumes.fieldOf, ht] using hv
  exact ⟨d, h.uniqueResumes.find?_eq_some hmem hfit.1, hsame ▸ ht⟩

/-- A lookup that comes first changes nothing; what matters is what comes after it. -/
theorem bind_looks {α β : Type} {p : Program α} {f : α → Program β} {x : Except Fault β}
    (h : Accounted assistant none es₀ s) (hp : p.ReadOnly) (ht : (p >>= f).Traces s es x s')
    (hf : ∀ a es₁ es₂, p.Yields s (.ok a) s → Accounted assistant none es₁ s →
      (f a).Traces s es₂ x s' → Accounted assistant none (es₁ ++ es₂) s') :
    Accounted assistant none (es₀ ++ es) s' := by
  obtain ⟨es₁, a, s₁, es₂, hlook, hrest, rfl⟩ | ⟨fault, hlook, -⟩ := exists_of_traces_bind ht
  · obtain rfl := hp.eq_of_yields hlook.yields
    rw [← List.append_assoc]
    exact hf a (es₀ ++ es₁) es₂ hlook.yields (h.append es₁) hrest
  · obtain rfl := hp.eq_of_yields hlook.yields
    exact h.append es

theorem ingest (h : Accounted assistant none es₀ s) {upload : Upload}
    (ht : (Profiles.ingest assistant o actor resumeId upload).Traces s es x s') :
    Accounted assistant none (es₀ ++ es) s' := by
  refine h.bind_looks (Resumes.looks_find resumeId (by rfl)) ht fun existing es₁ es₂ _ h h₁ => ?_
  dsimp only at h₁
  split at h₁
  · obtain ⟨rfl, -, rfl⟩ := eq_of_traces_done h₁
    exact h.append []
  obtain ⟨es₃, text, s₂, es₄, htext, h₂, rfl⟩ | ⟨fault, htext, -⟩ := exists_of_traces_bind h₁
  swap
  · obtain ⟨rfl, -, rfl⟩ := eq_of_traces_done htext
    exact h.append []
  obtain ⟨rfl, -, rfl⟩ := eq_of_traces_done htext
  obtain ⟨es₅, _, s₃, es₆, hsave, h₃, rfl⟩ | ⟨fault, hsave, -⟩ := exists_of_traces_bind h₂
  swap
  · obtain ⟨hne, -⟩ | ⟨_, -, rfl, -⟩ := of_traces_call hsave
    · cases hne
    · exact h.append es₄
  obtain ⟨-, rfl⟩ | ⟨_, hne, -⟩ := of_traces_call hsave
  · obtain ⟨hsaved, hhas⟩ := (h.append es₅).saved resumeId text
      (Profiles.ownerOf actor existing) upload.filename
    rw [List.nil_append, ← List.append_assoc]
    exact hsaved.buildAndSave hhas h₃
  · cases hne

theorem rebuild (h : Accounted assistant none es₀ s)
    (ht : (Profiles.rebuild assistant o actor resumeId).Traces s es x s') :
    Accounted assistant none (es₀ ++ es) s' := by
  refine h.bind_looks (Resumes.looks_get resumeId _ (by rfl)) ht fun _ _ _ hget h hbuild => ?_
  obtain ⟨-, d, hd, hread⟩ := Resumes.of_yields_get hget
  exact (h.weaken _).buildAndSave (h.hasText_of_readText hd hread) hbuild

theorem resolveRecord (h : Accounted assistant none es₀ s) {resume : Resume}
    (htext : Resumes.HasText s resume.resumeId resume.text)
    (ht : (Analyses.resolveRecord assistant o resume).Traces s es x s') :
    Accounted assistant none (es₀ ++ es) s' := by
  refine h.bind_looks (Resumes.looks_findRecord o resume.resumeId (by rfl)) ht
    fun found _ _ _ h hrest => ?_
  cases found with
  | some record =>
    obtain ⟨rfl, -, rfl⟩ := eq_of_traces_done hrest
    exact h.append []
  | none => exact (h.weaken _).buildAndSave htext hrest

theorem createAnalysis (h : Accounted assistant none es₀ s) {vacancyId : String}
    {x : Except Fault Analysis}
    (ht : (Analyses.create assistant o actor resumeId vacancyId).Traces s es x s') :
    Accounted assistant none (es₀ ++ es) s' := by
  refine h.bind_looks (Vacancies.looks_get o vacancyId _ (by rfl)) ht fun _ _ _ _ h h₁ => ?_
  refine h.bind_looks (Resumes.looks_get resumeId _ (by rfl)) h₁ fun resume _ _ hr h h₂ => ?_
  obtain ⟨-, d, hd, hread⟩ := Resumes.of_yields_get hr
  have htext := h.hasText_of_readText hd hread
  rw [← Resumes.resumeId_of_readText hread] at htext
  obtain ⟨es₅, record, s₃, es₆, hrec, h₃, rfl⟩ | ⟨fault, hrec, -⟩ := exists_of_traces_bind h₂
  swap
  · exact h.resolveRecord htext hrec
  rw [← List.append_assoc]
  refine (h.resolveRecord htext hrec).sameRecords ?_ es₆
  refine Calls.invariant (?_ : Calls (fun q => q.collection = .analyses) _) ?_ h₃.yields ⟨rfl, rfl⟩
  · refine Calls.ite trivial (Calls.bind ?_ fun _ => Calls.bind (calls_call _ rfl) fun _ => trivial)
    exact (Analyses.calls_enrich _ _ _).mono fun _ hq => hq.elim
  · intro q t hq hsame
    have hstep : t.SameRecords (t.answer q).2 :=
      Store.sameRecords_answer (by rw [hq]; nofun) (by rw [hq]; nofun)
    exact ⟨hstep.1.trans hsame.1, hstep.2.trans hsame.2⟩

theorem request (h : Accounted assistant none es₀ s) {q : Request} {x : Except Fault q.Answer}
    (ht : (q.program assistant o actor).Traces s es x s') :
    Accounted assistant none (es₀ ++ es) s' := by
  have hread (hp : (q.program assistant o actor).ReadOnly) :
      Accounted assistant none (es₀ ++ es) s' := by
    rw [hp.eq_of_yields ht.yields]
    exact h.append es
  cases q with
  | ingest resumeId upload => exact h.ingest ht
  | rebuildProfile resumeId => exact h.rebuild ht
  | getProfile resumeId => exact hread (Profiles.readOnly_get o actor resumeId)
  | createVacancy title description skills =>
    rw [Request.program] at ht
    exact h.sameRecords (sameRecords_of_reflGen (Vacancies.yields_create ht.yields)) es
  | getVacancy vacancyId => exact hread (Vacancies.looks_get o vacancyId _ (by rfl))
  | listVacancies limit offset => exact hread (Vacancies.looks_list o _ limit offset (by rfl))
  | updateSkills vacancyId skills =>
    exact h.sameRecords (sameRecords_of_reflGen (Vacancies.yields_updateSkillsFor ht.yields)) es
  | createAnalysis resumeId vacancyId => exact h.createAnalysis ht
  | getAnalysis analysisId => exact hread (Analyses.looks_getFor o actor analysisId (by rfl))
  | listAnalyses limit offset => exact hread (Analyses.looks_list o _ limit offset (by rfl))
  | listByVacancy vacancyId limit offset =>
    exact hread (Analyses.readOnly_listByVacancyFor o actor vacancyId limit offset)
  | vacancyReport vacancyId => exact hread (Analyses.readOnly_vacancyReport o actor vacancyId)
  | deleteAnalysis analysisId =>
    exact h.sameRecords (sameRecords_of_reflGen (Analyses.yields_deleteFor ht.yields)) es

end Accounted

/-! ## Sessions with one assistant -/

inductive History (assistant : Option Assistant) : List Event → Store → Prop where
  | start : History assistant [] .empty
  | serve {es es' : List Event} {s s' : Store} {o : Occasion} {actor : Actor} {q : Request}
      {x : Except Fault q.Answer} (h : History assistant es s)
      (ht : (q.program assistant o actor).Traces s es' x s') :
      History assistant (es ++ es') s'

theorem History.accounted (h : History assistant es s) : Accounted assistant none es s := by
  induction h with
  | start => exact .empty assistant
  | serve _ ht ih => exact ih.request ht

/-- Every stored record is sound, and an ok record is backed by the text of its resume unless a call
to the store failed. -/
theorem History.records_sound_and_backed (h : History assistant es s) : ∀ d ∈ s.profiles,
    ∃ r : ProfileRecord, d = r.toFields ∧ r.Sound assistant ∧
      (Calm es → r.status = .ok →
        ∃ text, Resumes.HasText s r.resumeId text ∧ r.Backed text es) := by
  intro d hd
  obtain ⟨r, hr, hsound, hbacked⟩ := h.accounted.records d hd
  exact ⟨r, hr, hsound, hbacked (Option.some_ne_none _)⟩

section Office

open Analyses Session

def admitted : World := after beforeOpening "u1" recruiter (.ingest "r1" plainFile)

/-- The record of the resume is ok, and backed by its text. -/
theorem records_sound_and_backed_admitted : ∃ es, History extractor es admitted.store ∧ Calm es ∧
    ∃ d ∈ admitted.store.profiles, ∃ r : ProfileRecord, d = r.toFields ∧ r.status = .ok ∧
      ∃ text, Resumes.HasText admitted.store r.resumeId text ∧ r.Backed text es := by
  obtain ⟨es, hes, hcalm⟩ := exists_traces_run
    (Request.program extractor { noon with freshId := "u1" } recruiter (.ingest "r1" plainFile))
    beforeOpening
  have hhistory : History extractor ([] ++ es) admitted.store := .serve .start hes
  have hcalm := hcalm rfl
  have hok : admitted.store.profiles.any (·.holds "status" "ok") = true := by decide +kernel
  obtain ⟨d, hd, hstatus⟩ := List.any_eq_true.mp hok
  obtain ⟨r, rfl, -, hbacked⟩ := hhistory.records_sound_and_backed d hd
  have hrok : r.status = .ok := by
    have hname := Document.holds_iff.mp hstatus
    cases hr : r.status with
    | ok => rfl
    | _ => simp [ProfileRecord.toFields, Fields.get?, hr, ProfileStatus.name] at hname
  exact ⟨_, hhistory, hcalm, _, hd, r, rfl, hrok, hbacked hcalm hrok⟩

end Office

end Shortlist
