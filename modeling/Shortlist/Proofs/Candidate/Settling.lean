import Shortlist.Proofs.Analysis.Enrichment
import Shortlist.Proofs.Chat.Decoding

/-! # Settling of profiles

As long as its records can be written, a build stores a pending record and then ends with a record
that is ok or failed, whatever the text-generation service does. The only replies that keep it from
ending so are those that overrun the reader: they leave the pending record behind.
-/

namespace Shortlist

open Program

/-- Records can be written, and no question is cancelled. -/
structure World.Responsive (w : World) : Prop where
  writes : ∀ p ∈ w.pendingFaults, p.collection = .profiles → p.method ≠ .replaceOne
  replies : ∀ r ∈ w.replies, ∀ text, r ≠ .error (.cancelled text)

namespace Profiles

variable {w : World} {assistant : Option Assistant} {o : Occasion} {r : ProfileRecord}
  {resumeId text : String}

def Stored (r : ProfileRecord) (s : Store) : Prop :=
  s.profiles.find? (Document.fits [("resume_id", r.resumeId)]) = some r.toFields

/-- A build ended with a record that is not pending any more, and that is stored. -/
def Settled (resumeId : String) (ending : Except Fault ProfileRecord × World) : Prop :=
  ∃ r, ending.1 = .ok r ∧ r.resumeId = resumeId ∧ (r.status = .ok ∨ r.status = .failed) ∧
    Stored r ending.2.store

/-- The service gets asked about a text, and its reply overruns the reader. -/
def Overrun (assistant : Option Assistant) (text : String) (w : World) : Prop :=
  (Text.strip text).isEmpty = false ∧ assistant.isSome = true ∧
    ∃ reply, w.reply = .ok reply ∧ Reply.Overruns Profile.target reply

theorem run_settle (hw : w.Responsive) (status : ProfileStatus) (error : String)
    (profile : Profile) :
    ∃ w', (settle o r status error profile).run w =
        (.ok { r with status, errorMessage := error, profile, updatedAt := o.now }, w') ∧
      Stored { r with status, errorMessage := error, profile, updatedAt := o.now } w'.store ∧
      w'.Responsive ∧ w'.reply = w.reply := by
  let settled : ProfileRecord :=
    { r with status, errorMessage := error, profile, updatedAt := o.now }
  have hcalm : w.pendingFaults.find? (PendingFault.awaits
      (.replace .profiles [("resume_id", settled.resumeId)] settled.toFields)) = none := by
    refine List.find?_eq_none.mpr fun p hp ha => ?_
    simp only [PendingFault.awaits, Bool.and_eq_true, decide_eq_true_eq] at ha
    exact hw.writes p hp ha.1 ha.2
  have hsave := run_call
    (Resumes.operation "upsert_profile" settled.resumeId .profiles)
    (.replace .profiles [("resume_id", settled.resumeId)] settled.toFields) w
  rw [World.answerCall, hcalm] at hsave
  obtain ⟨ds, hup, he⟩ :=
    w.store.answer_replace .profiles [("resume_id", settled.resumeId)] settled.toFields
  have hfound := hup.find?_eq (Document.holds_iff.mpr rfl) settled.resumeId
  rw [if_pos rfl] at hfound
  refine ⟨_, run_bind_ok hsave, ?_, ⟨hw.writes, hw.replies⟩, rfl⟩
  dsimp only
  rw [he]
  exact hfound

theorem settled_giveUp (hw : w.Responsive) (reason : String) :
    Settled r.resumeId ((giveUp o r reason).run w) := by
  obtain ⟨w', hrun, hstored, -, -⟩ := run_settle (o := o) (r := r) hw .failed reason .empty
  rw [giveUp, hrun]
  exact ⟨_, rfl, rfl, Or.inr rfl, hstored⟩

theorem run_inquire (hw : w.Responsive) (text : String) :
    ∃ w', (inquire text).run w =
        (.ok (match w.reply with
          | .ok reply => .ok reply
          | .error fault => .error fault.text), w') ∧ w'.store = w.store ∧ w'.Responsive := by
  let asked := w.answerQuestion Prompt.profileSystem (Prompt.forProfile text)
  have hask : (Program.ask Prompt.profileSystem (Prompt.forProfile text)).run w =
      (w.reply, asked.2) := Prod.ext World.answerQuestion_fst rfl
  have hmap := run_map Except.ok (Program.ask Prompt.profileSystem (Prompt.forProfile text)) w
    (α := Option String) (β := Except String (Option String))
  rw [hask] at hmap
  have hw' : asked.2.store = w.store ∧ asked.2.Responsive := by
    simp only [asked, World.answerQuestion]
    split
    · exact ⟨rfl, hw.writes, hw.replies⟩
    · exact ⟨rfl, hw.writes, hw.replies⟩
    · next reply rest hr =>
      exact ⟨rfl, hw.writes, fun r hr' => hw.replies r (hr ▸ List.mem_cons_of_mem _ hr')⟩
  refine ⟨asked.2, ?_, hw'⟩
  cases hr : w.reply with
  | ok reply => exact run_handle_ok (by rw [hmap, hr]; rfl)
  | error fault =>
    exact run_handle_error (by rw [hmap, hr]; rfl) (World.isError_of_reply hw.replies hr)

theorem settled_conclude (hw : w.Responsive) {reply : Option String}
    (h : ¬ Reply.Overruns Profile.target reply) :
    Settled r.resumeId ((conclude o r reply).run w) := by
  rw [conclude]
  obtain ⟨profile, hd⟩ | ⟨f, hd, hf⟩ := Reply.decode_of_not_overruns h
  · simp only [hd]
    split
    · exact settled_giveUp hw unusable
    · obtain ⟨w', hrun, hstored, -, -⟩ := run_settle (o := o) (r := r) hw .ok "" profile
      rw [hrun]
      exact ⟨_, rfl, rfl, Or.inl rfl, hstored⟩
  · simp only [hd, hf, if_true]
    exact settled_giveUp hw unusable

theorem run_conclude_of_overruns {reply : Option String}
    (h : Reply.Overruns Profile.target reply) :
    ∃ kind message, (conclude o r reply).run w = (.error (.foreign kind message), w) := by
  obtain ⟨kind, message, hd⟩ := Reply.decode_of_overruns h
  refine ⟨kind, message, ?_⟩
  rw [conclude]
  simp only [hd]
  rfl

/-- What is left of a build once its pending record is stored. -/
theorem run_buildAndSave (hw : w.Responsive) (assistant : Option Assistant) (o : Occasion)
    (resumeId text : String) : ∃ (pending : ProfileRecord) (w' : World),
      pending.status = .pending ∧ pending.resumeId = resumeId ∧ Stored pending w'.store ∧
      w'.Responsive ∧ w'.reply = w.reply ∧
      (buildAndSave assistant o resumeId text).run w =
        (if (Text.strip text).isEmpty then giveUp o pending emptyText
          else if assistant.isNone then giveUp o pending notConfigured
          else inquire (Text.take maxResumeLength (Text.strip text)) >>= fun
            | .error reason => giveUp o pending reason
            | .ok reply => conclude o pending reply).run w' := by
  let fresh : ProfileRecord :=
    { resumeId, status := .pending, modelName := Assistant.nameOf assistant, errorMessage := "",
      profile := .empty, updatedAt := o.now }
  obtain ⟨w', hrun, hstored, hw', hreply⟩ := run_settle (o := o) (r := fresh) hw .pending "" .empty
  refine ⟨fresh, w', rfl, rfl, hstored, hw', hreply, ?_⟩
  rw [buildAndSave, run_holding, build]
  exact run_bind_ok hrun

theorem pending_of_overrun (hw : w.Responsive) (h : Overrun assistant text w) (o : Occasion)
    (resumeId : String) :
    ∃ kind message w', (buildAndSave assistant o resumeId text).run w =
        (.error (.foreign kind message), w') ∧
      ∃ r : ProfileRecord, r.resumeId = resumeId ∧ r.status = .pending ∧ Stored r w'.store := by
  obtain ⟨htext, hassistant, reply, hreply, hover⟩ := h
  obtain ⟨pending, w', hstatus, hid, hstored, hw', hsame, hrun⟩ :=
    run_buildAndSave hw assistant o resumeId text
  obtain ⟨w'', hask, hstore, -⟩ :=
    run_inquire hw' (Text.take maxResumeLength (Text.strip text))
  obtain ⟨kind, message, hconclude⟩ :=
    run_conclude_of_overruns (o := o) (r := pending) (w := w'') hover
  refine ⟨kind, message, w'', ?_, pending, hid, hstatus, hstore ▸ hstored⟩
  rw [hsame, hreply] at hask
  rw [hrun, htext, if_neg Bool.false_ne_true, Option.isNone_eq_false_iff.mpr hassistant,
    if_neg Bool.false_ne_true, run_bind_ok hask]
  exact hconclude

/-- A build settles unless the service gets asked and its reply overruns the reader. -/
theorem settled_iff_not_overrun (hw : w.Responsive) (assistant : Option Assistant) (o : Occasion)
    (resumeId text : String) :
    Settled resumeId ((buildAndSave assistant o resumeId text).run w) ↔
      ¬ Overrun assistant text w := by
  constructor
  · rintro ⟨r, hr, -⟩ hover
    obtain ⟨kind, message, w', hrun, -⟩ :=
      pending_of_overrun hw hover o resumeId
    rw [hrun] at hr
    cases hr
  · intro hover
    obtain ⟨pending, w', -, rfl, -, hw', hsame, hrun⟩ :=
      run_buildAndSave hw assistant o resumeId text
    rw [hrun]
    split
    · exact settled_giveUp hw' emptyText
    split
    · exact settled_giveUp hw' notConfigured
    next htext hassistant =>
    obtain ⟨w'', hask, -, hw''⟩ := run_inquire hw' (Text.take maxResumeLength (Text.strip text))
    rw [run_bind_ok hask, hsame]
    cases hreply : w.reply with
    | error fault => exact settled_giveUp hw'' fault.text
    | ok reply =>
      refine settled_conclude hw'' fun hlong => hover ⟨?_, ?_, reply, hreply, hlong⟩
      · simpa using htext
      · cases assistant with
        | none => exact (hassistant rfl).elim
        | some a => rfl

def proseful : World :=
  { World.quiet .empty with replies := [.ok (some "Sure: \x7b\"skills\": [\"Go\"]\x7d.")] }

theorem settled_iff_not_overrun_proseful : proseful.Responsive ∧
    Settled "r1" ((buildAndSave (some ⟨"m"⟩) Analyses.noon "r1" "Go").run proseful) := by
  have hw : proseful.Responsive := ⟨by simp [proseful, World.quiet], by simp [proseful]⟩
  refine ⟨hw, (settled_iff_not_overrun hw (some ⟨"m"⟩) Analyses.noon "r1" "Go").mpr ?_⟩
  rintro ⟨-, -, reply, hreply, hover⟩
  obtain rfl : some "Sure: \x7b\"skills\": [\"Go\"]\x7d." = reply := Except.ok.inj hreply
  obtain ⟨kind, message, hd⟩ := Reply.decode_of_overruns hover
  have hread : (Reply.decode Profile.target
      (some "Sure: \x7b\"skills\": [\"Go\"]\x7d.")).isOk = true := by decide +kernel
  rw [hd] at hread
  cases hread

def countingOn (ds : List Char) : World :=
  { World.quiet .empty with replies := [.ok (some (String.ofList (Json.numberObject ds)))] }

def countedBuild (ds : List Char) : Except Fault ProfileRecord × World :=
  (buildAndSave (some ⟨"m"⟩) Analyses.noon "r1" "Go").run (countingOn ds)

theorem not_settled_of_tooLong {ds : List Char} (h : Json.TooLong ds) :
    ¬ Settled "r1" (countedBuild ds) ∧ ∃ r : ProfileRecord,
      r.resumeId = "r1" ∧ r.status = .pending ∧ Stored r (countedBuild ds).2.store := by
  have hw : (countingOn ds).Responsive := ⟨by simp [countingOn, World.quiet], by simp [countingOn]⟩
  have hover : Overrun (some ⟨"m"⟩) "Go" (countingOn ds) :=
    ⟨by decide, rfl, _, rfl, Reply.overruns_of_tooLong h⟩
  obtain ⟨kind, message, w', hrun, hpending⟩ := pending_of_overrun hw hover Analyses.noon "r1"
  rw [countedBuild, hrun]
  refine ⟨?_, hpending⟩
  rintro ⟨r, hr, -⟩
  cases hr

/-- An integer of one digit too many leaves the record of a resume pending. -/
theorem not_settled_of_longInteger :
    ¬ Settled "r1" (countedBuild (List.replicate 4301 '1')) ∧ ∃ r : ProfileRecord,
      r.resumeId = "r1" ∧ r.status = .pending ∧
        Stored r (countedBuild (List.replicate 4301 '1')).2.store := by
  refine not_settled_of_tooLong ⟨?_, ?_, ?_⟩
  · intro c hc
    rw [List.eq_of_mem_replicate hc]
    decide
  · rw [List.head?_replicate]
    decide
  · rw [List.length_replicate]
    decide

end Profiles

end Shortlist
