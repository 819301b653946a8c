import Shortlist.Proofs.Service.Lookup
import Shortlist.Proofs.Validation.Valid

/-! # Enrichment

Whatever the text-generation service says, or fails to say, an analysis of a vacancy and a resume
with a finished profile is made and stored. The reply decides about the narrative only; score and
skills are those of the match.
-/

namespace Shortlist

theorem Json.Error.isError_fault (e : Json.Error) : e.fault.isError = true := by
  rw [fault]
  split <;> rfl

theorem Reply.isError_of_decode {α : Type} {target : Target α} {reply : Option String} {e : Fault}
    (h : decode target reply = .error e) : e.isError = true := by
  have hslice : ∀ {cs slice : List Char}, decodeSlice target cs slice = .error e →
      e.isError = true := by
    intro cs slice h
    simp only [decodeSlice] at h
    split at h
    · next error _ =>
      split at h
      · cases h
        rfl
      · cases h
        exact error.isError_fault
    · split at h
      · cases h
      · cases h
        rfl
  simp only [decode] at h
  split at h
  · cases h
  · split at h
    · exact hslice h
    · cases h
      rfl

/-- What the next question will be answered with. -/
def World.reply (w : World) : Except Fault (Option String) := w.replies.headD (.ok none)

/-- The store is at hand, its calls succeed, and no question is cancelled: the service replies, or
fails with an error of any kind. -/
structure World.Serves (w : World) (s : Store) : Prop where
  store : w.store = s
  calm : w.pendingFaults = []
  replies : ∀ r ∈ w.replies, ∀ text, r ≠ .error (.cancelled text)

section World

variable {w : World} {s : Store} {x y : String} {e : Fault}

theorem World.answerQuestion_fst : (w.answerQuestion x y).1 = w.reply := by
  simp only [answerQuestion, reply]
  split <;> simp_all

theorem World.isError_of_reply (h : ∀ r ∈ w.replies, ∀ text, r ≠ .error (.cancelled text))
    (he : w.reply = .error e) : e.isError = true := by
  cases hr : w.replies with
  | nil => simp [World.reply, hr] at he
  | cons r rest =>
    have hm : .error e ∈ w.replies := by
      rw [World.reply, hr, List.headD_cons] at he
      rw [hr, he]
      exact List.mem_cons_self
    cases e with
    | cancelled text => exact (h _ hm text rfl).elim
    | _ => rfl

theorem World.Serves.isError (h : w.Serves s) (he : w.reply = .error e) : e.isError = true :=
  World.isError_of_reply h.replies he

theorem World.Serves.run {α : Type} (h : w.Serves s) (p : Program α) :
    (p.run w).2.Serves (p.run w).2.store := by
  induction p generalizing w s with
  | done r => exact ⟨rfl, h.calm, h.replies⟩
  | perform effect next ih =>
    have hkept : (w.answer effect).2.pendingFaults = [] ∧
        ∀ r ∈ (w.answer effect).2.replies, ∀ text, r ≠ .error (.cancelled text) := by
      cases effect with
      | store q =>
        change (w.answerCall q).2.pendingFaults = [] ∧ ∀ r ∈ (w.answerCall q).2.replies, _
        rw [World.answerCall_of_calm h.calm]
        exact ⟨h.calm, h.replies⟩
      | ask x y =>
        change (w.answerQuestion x y).2.pendingFaults = [] ∧
          ∀ r ∈ (w.answerQuestion x y).2.replies, _
        simp only [World.answerQuestion]
        split
        · exact ⟨h.calm, h.replies⟩
        · exact ⟨h.calm, h.replies⟩
        · next reply rest hr =>
          exact ⟨h.calm, fun r hmem => h.replies r (hr ▸ List.mem_cons_of_mem _ hmem)⟩
      | acquire key => exact ⟨h.calm, h.replies⟩
      | release key => exact ⟨h.calm, h.replies⟩
    exact ih _ ⟨rfl, hkept.1, hkept.2⟩

theorem World.Serves.answerQuestion (h : w.Serves s) :
    (w.answerQuestion x y).2.store = s ∧ (w.answerQuestion x y).2.pendingFaults = [] := by
  simp only [World.answerQuestion]
  split <;> exact ⟨h.store, h.calm⟩

end World

namespace Analyses

/-- What a reply is good for: a narrative, unless asking failed, the reply cannot be decoded, or
nothing in it tells anything. -/
def comment (reply : Except Fault (Option String)) : Except Fault Narrative := do
  let narrative ← Reply.decode Narrative.target (← reply)
  if narrative.isEmpty then .error (.failure noNarrative) else .ok narrative

def reportOf (assistant : Option Assistant) (p : Profile) (fit : Fit Float)
    (comment : Except Fault Narrative) : Report × String :=
  match assistant, comment with
  | none, _ => (baselineReport fit p, "")
  | some a, .ok narrative => ((baselineReport fit p).withNarrative narrative, a.modelName)
  | some _, .error e =>
    ({ baselineReport fit p with hrRecommendation := failureNote e.text }, "")

variable {w : World} {s : Store} {e : Fault} {assistant : Option Assistant} {v : Vacancy}
  {p : Profile} {fit : Fit Float} {o : Occasion} {actor : Actor} {resumeId vacancyId : String}
  {resume : Resume} {record : ProfileRecord}

theorem comment_eq_error_iff {reply : Except Fault (Option String)} :
    comment reply = .error e ↔ reply = .error e ∨
      ∃ t, reply = .ok t ∧ (Reply.decode Narrative.target t = .error e ∨
        ∃ n, Reply.decode Narrative.target t = .ok n ∧ n.isEmpty = true ∧
          e = .failure noNarrative) := by
  cases reply with
  | error e' => simp [comment, bind, Except.bind]
  | ok t =>
    cases hd : Reply.decode Narrative.target t with
    | error e' => simp [comment, bind, Except.bind, hd]
    | ok n =>
      have he : Fault.failure noNarrative = e ↔ e = .failure noNarrative := eq_comm
      cases hn : n.isEmpty <;> simp [comment, bind, Except.bind, hd, hn, he]

theorem isError_of_comment (h : w.Serves s) (he : comment w.reply = .error e) :
    e.isError = true := by
  rcases comment_eq_error_iff.mp he with hr | ⟨t, _, hd | ⟨_, _, _, rfl⟩⟩
  · exact h.isError hr
  · exact Reply.isError_of_decode hd
  · rfl

theorem run_narrate (v : Vacancy) (p : Profile) (fit : Fit Float) (h : w.Serves s) :
    ∃ w', (narrate v p fit).run w = (comment w.reply, w') ∧ w'.store = s ∧
      w'.pendingFaults = [] := by
  have hask : ∀ x y, (Program.ask x y).run w = (w.reply, (w.answerQuestion x y).2) :=
    fun x y => Prod.ext World.answerQuestion_fst rfl
  refine ⟨(w.answerQuestion Prompt.enrichmentSystem
    (Prompt.forNarrative v p fit.matched fit.missing)).2, ?_, h.answerQuestion⟩
  rw [narrate]
  cases hr : w.reply with
  | error e => exact Program.run_bind_error ((hask _ _).trans (by rw [hr]))
  | ok t =>
    refine (Program.run_bind_ok ((hask _ _).trans (by rw [hr]))).trans ?_
    cases hd : Reply.decode Narrative.target t with
    | error e =>
      refine (Program.run_bind_error rfl).trans ?_
      simp [comment, bind, Except.bind, hd]
    | ok n =>
      refine (Program.run_bind_ok rfl).trans ?_
      cases hn : n.isEmpty <;> simp [comment, bind, Except.bind, hd, hn]

theorem run_enrich (assistant : Option Assistant) (v : Vacancy) (p : Profile) (fit : Fit Float)
    (h : w.Serves s) : ∃ w',
    (enrich assistant v p fit).run w = (.ok (reportOf assistant p fit (comment w.reply)), w') ∧
      w'.store = s ∧ w'.pendingFaults = [] := by
  cases assistant with
  | none => exact ⟨w, rfl, h.store, h.calm⟩
  | some a =>
    obtain ⟨w', hn, hs, hf⟩ := run_narrate v p fit h
    refine ⟨w', ?_, hs, hf⟩
    have hm := Program.run_map
      (fun narrative => ((baselineReport fit p).withNarrative narrative, a.modelName))
      (narrate v p fit) w
    rw [hn] at hm
    cases hc : comment w.reply with
    | ok n => exact Program.run_handle_ok (hm.trans (by rw [hc]; rfl))
    | error e =>
      exact Program.run_handle_error (hm.trans (by rw [hc]; rfl)) (isError_of_comment h hc)

/-- Once vacancy, resume and record are there, a finished profile leads to an analysis, which is
stored. -/
theorem run_create_of_resolved (assistant : Option Assistant) {w' : World}
    (hv : (Vacancies.get o vacancyId actor.scope).run w = (.ok v, w))
    (hr : (Resumes.get resumeId actor.scope).run w = (.ok resume, w))
    (hrec : (resolveRecord assistant o resume).run w = (.ok record, w'))
    (hok : record.status = .ok) (h : w'.Serves s) :
    ∃ x : Analysis, ∃ w'', (create assistant o actor resumeId vacancyId).run w = (.ok x, w'') ∧
      w''.store = { s with analyses := s.analyses ++ [x.toFields] } ∧
      x.resumeId = resumeId ∧ x.vacancyId = vacancyId ∧
      x.ownerId = some (analysisOwner actor v resume.ownerId) ∧
      x.score = (record.profile.fit v.skills).score ∧
      (x.report, x.modelName) =
        reportOf assistant record.profile (record.profile.fit v.skills) (comment w'.reply) := by
  obtain ⟨w₁, he, hs, hf⟩ := run_enrich assistant v record.profile
    (record.profile.fit v.skills) h
  let x : Analysis :=
    { analysisId := o.freshId, resumeId, vacancyId,
      ownerId := some (analysisOwner actor v resume.ownerId),
      score := (record.profile.fit v.skills).score,
      modelName := (reportOf assistant record.profile (record.profile.fit v.skills)
        (comment w'.reply)).2,
      report := (reportOf assistant record.profile (record.profile.fit v.skills)
        (comment w'.reply)).1,
      createdAt := o.now }
  let w'' : World :=
    { w₁ with
      store := { s with analyses := s.analyses ++ [x.toFields] }
      journal := w₁.journal ++ [.insert .analyses x.toFields] }
  have hi : (insert x).run w₁ = (.ok (), w'') := by
    rw [insert, Program.run_call, World.answerCall_of_calm hf, hs]
    rfl
  refine ⟨x, w'', ?_, rfl, rfl, rfl, rfl, rfl, rfl⟩
  rw [create]
  refine (Program.run_bind_ok hv).trans ((Program.run_bind_ok hr).trans ?_)
  refine (Program.run_bind_ok hrec).trans ?_
  rw [if_neg fun hne => hne hok]
  refine (Program.run_bind_ok he).trans ?_
  exact Program.run_bind_ok hi

theorem run_create (assistant : Option Assistant)
    (hv : ((Vacancies.getFor o actor vacancyId).run (.quiet s)).1 = .ok v)
    (hr : ((Resumes.get resumeId actor.scope).run (.quiet s)).1 = .ok resume)
    (hp : ((Resumes.findRecord o resumeId).run (.quiet s)).1 = .ok (some record))
    (hok : record.status = .ok) (h : w.Serves s) :
    ∃ x : Analysis, ∃ w', (create assistant o actor resumeId vacancyId).run w = (.ok x, w') ∧
      w'.store = { s with analyses := s.analyses ++ [x.toFields] } ∧
      x.resumeId = resumeId ∧ x.vacancyId = vacancyId ∧
      x.ownerId = some (analysisOwner actor v resume.ownerId) ∧
      x.score = (record.profile.fit v.skills).score ∧
      (x.report, x.modelName) =
        reportOf assistant record.profile (record.profile.fit v.skills) (comment w.reply) := by
  have hread : ∀ {α : Type} {p : Program α} {a : α}, p.ReadOnly →
      (p.run (.quiet s)).1 = .ok a → p.run w = (.ok a, w) := by
    intro α p a hp ha
    rw [hp.run_eq h.calm, h.store, ha]
  have hid : resume.resumeId = resumeId := by
    have hy := Program.yields_run (Resumes.get resumeId actor.scope) (.quiet s)
    rw [hr] at hy
    obtain ⟨_, _, hd⟩ := (Resumes.of_yields_get hy).2
    exact Resumes.resumeId_of_readText hd
  have hrec : (resolveRecord assistant o resume).run w = (.ok record, w) := by
    rw [resolveRecord, hid]
    exact Program.run_bind_ok (hread (Resumes.looks_findRecord o resumeId (by rfl)) hp)
  exact run_create_of_resolved assistant (hread (Vacancies.looks_get o vacancyId _ (by rfl)) hv)
    (hread (Resumes.looks_get resumeId _ (by rfl)) hr) hrec hok h

/-- What an analysis says beyond the match: without a service, or where commenting failed, only the
summary of the profile and, after a failure, a note of it; otherwise what the narrative says. -/
def Narrates (x : Analysis) (p : Profile) (assistant : Option Assistant)
    (comment : Except Fault Narrative) : Prop :=
  match assistant, comment with
  | none, _ =>
    x.modelName = "" ∧ x.report.candidateSummary = p.summary ∧ x.report.uniqueStrengths = [] ∧
      x.report.candidateRecommendations = [] ∧ x.report.hrRecommendation = ""
  | some _, .error e =>
    x.modelName = "" ∧ x.report.candidateSummary = p.summary ∧ x.report.uniqueStrengths = [] ∧
      x.report.candidateRecommendations = [] ∧ x.report.hrRecommendation = failureNote e.text
  | some a, .ok n =>
    x.modelName = a.modelName ∧
      (Text.isBlankText n.candidateSummary = false →
        x.report.candidateSummary = n.candidateSummary) ∧
      (Text.isBlankText n.candidateSummary = true → x.report.candidateSummary = p.summary) ∧
      x.report.uniqueStrengths = n.uniqueStrengths ∧
      x.report.candidateRecommendations = n.candidateRecommendations ∧
      x.report.hrRecommendation = n.hrRecommendation

theorem narrates_of_reportOf {x : Analysis} {c : Except Fault Narrative}
    (h : (x.report, x.modelName) = reportOf assistant p fit c) : Narrates x p assistant c := by
  obtain ⟨hr, hm⟩ := Prod.mk.inj h
  cases assistant with
  | none => simp [Narrates, hr, hm, baselineReport, Report.empty]
  | some a =>
    cases c with
    | error e => simp [Narrates, hr, hm, baselineReport, Report.empty]
    | ok n => simp +contextual [Narrates, hr, hm, baselineReport, Report.withNarrative]

theorem skills_of_reportOf {x : Analysis} {c : Except Fault Narrative}
    (h : (x.report, x.modelName) = reportOf assistant p fit c) :
    x.report.matchedSkills = fit.matched ∧ x.report.missingSkills = fit.missing := by
  obtain ⟨hr, _⟩ := Prod.mk.inj h
  cases assistant with
  | none => exact ⟨congrArg _ hr, congrArg _ hr⟩
  | some a => cases c <;> exact ⟨congrArg _ hr, congrArg _ hr⟩

/-- For an actor who sees a vacancy, a resume and its finished profile, analyses are made and stored
whatever service there is and whatever it replies. Two of them agree in all that matching decides,
and `Narrates` tells what the replies decide. -/
theorem enrichment_leaves_match_alone
    (hv : ((Vacancies.getFor o actor vacancyId).run (.quiet s)).1 = .ok v)
    (hr : ((Resumes.get resumeId actor.scope).run (.quiet s)).1 = .ok resume)
    (hp : ((Resumes.findRecord o resumeId).run (.quiet s)).1 = .ok (some record))
    (hok : record.status = .ok) (a₁ a₂ : Option Assistant) {w₁ w₂ : World} (h₁ : w₁.Serves s)
    (h₂ : w₂.Serves s) :
    ∃ x₁ x₂ : Analysis, ∃ w₁' w₂' : World,
      (create a₁ o actor resumeId vacancyId).run w₁ = (.ok x₁, w₁') ∧
      (create a₂ o actor resumeId vacancyId).run w₂ = (.ok x₂, w₂') ∧
      w₁'.store = { s with analyses := s.analyses ++ [x₁.toFields] } ∧
      w₂'.store = { s with analyses := s.analyses ++ [x₂.toFields] } ∧
      (x₁.score = (record.profile.fit v.skills).score ∧ x₂.score = x₁.score) ∧
      (x₁.report.matchedSkills = (record.profile.fit v.skills).matched ∧
        x₂.report.matchedSkills = x₁.report.matchedSkills) ∧
      (x₁.report.missingSkills = (record.profile.fit v.skills).missing ∧
        x₂.report.missingSkills = x₁.report.missingSkills) ∧
      x₂.resumeId = x₁.resumeId ∧ x₂.vacancyId = x₁.vacancyId ∧ x₂.ownerId = x₁.ownerId ∧
      Narrates x₁ record.profile a₁ (comment w₁.reply) ∧
      Narrates x₂ record.profile a₂ (comment w₂.reply) := by
  obtain ⟨x₁, w₁', hrun₁, hs₁, hrid₁, hvid₁, howner₁, hscore₁, hrep₁⟩ :=
    run_create a₁ hv hr hp hok h₁
  obtain ⟨x₂, w₂', hrun₂, hs₂, hrid₂, hvid₂, howner₂, hscore₂, hrep₂⟩ :=
    run_create a₂ hv hr hp hok h₂
  obtain ⟨hm₁, hn₁⟩ := skills_of_reportOf hrep₁
  obtain ⟨hm₂, hn₂⟩ := skills_of_reportOf hrep₂
  exact ⟨x₁, x₂, w₁', w₂', hrun₁, hrun₂, hs₁, hs₂, ⟨hscore₁, hscore₂.trans hscore₁.symm⟩,
    ⟨hm₁, hm₂.trans hm₁.symm⟩, ⟨hn₁, hn₂.trans hn₁.symm⟩, hrid₂.trans hrid₁.symm,
    hvid₂.trans hvid₁.symm, howner₂.trans howner₁.symm, narrates_of_reportOf hrep₁,
    narrates_of_reportOf hrep₂⟩

/-- Noon of the first day of 2024. -/
def noon : Occasion := ⟨⟨Moment.clockAt 2024 1 1 43200, some 0⟩, "a1"⟩

def recruiter : Actor := ⟨"alice", false⟩

/-- A vacancy for which "Go" is required, and a resume with a finished profile, of one owner. -/
def desk : Store where
  vacancies :=
    [[("vacancy_id", .text "v1"), ("owner_id", .text "alice"),
      ("skills", .list [.record [("skill", .text "Go")]]), ("created_at", .time noon.now)]]
  resumes :=
    [[("resume_id", .text "r1"), ("owner_id", .text "alice"), ("parsed_text", .text "Gopher")]]
  profiles :=
    [[("resume_id", .text "r1"), ("status", .text "ok"),
      ("profile", .record [("summary", .text "Gopher"), ("skills", .list [.text "golang"])]),
      ("updated_at", .time noon.now)]]
  analyses := []

def proseWorld : World := { World.quiet desk with replies := [.ok (some "A fine candidate.")] }

theorem enrichment_leaves_match_alone_desk : ∃ x₁ x₂ : Analysis,
    ((create none noon recruiter "r1" "v1").run (.quiet desk)).1 = .ok x₁ ∧
    ((create (some ⟨"m"⟩) noon recruiter "r1" "v1").run proseWorld).1 = .ok x₂ ∧
    x₂.score = x₁.score ∧ x₂.report.matchedSkills = x₁.report.matchedSkills := by
  have hv : ((Vacancies.getFor noon recruiter "v1").run (.quiet desk)).1 =
      .ok ⟨"v1", some "alice", "", "", Weighted.collapse [⟨"Go", 1.0⟩], noon.now⟩ := rfl
  have hr : ((Resumes.get "r1" recruiter.scope).run (.quiet desk)).1 =
      .ok ⟨"r1", "Gopher", some "alice", none⟩ := rfl
  have hp : ((Resumes.findRecord noon "r1").run (.quiet desk)).1 =
      .ok (some ⟨"r1", .ok, "", "", ⟨"Gopher", ["golang"], [], []⟩, noon.now⟩) := rfl
  have hq : (World.quiet desk).Serves desk := ⟨rfl, rfl, by simp [World.quiet]⟩
  have hw : proseWorld.Serves desk := ⟨rfl, rfl, by simp [proseWorld]⟩
  obtain ⟨x₁, x₂, w₁, w₂, h₁, h₂, _, _, ⟨_, hs⟩, ⟨_, hm⟩, _⟩ :=
    enrichment_leaves_match_alone hv hr hp rfl none (some ⟨"m"⟩) hq hw
  exact ⟨x₁, x₂, congrArg Prod.fst h₁, congrArg Prod.fst h₂, hs, hm⟩

end Analyses

end Shortlist
