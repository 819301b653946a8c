import Shortlist.Validation.Record

/-! # What a reading reports

A reading reports the violations that it finds, in order. A reading that is made of others reports
what they report, one after another, and one that reports nothing is valid.
-/

namespace Shortlist

/-- The same defect inside a whole of which its value is a part. -/
def Violation.place (step : PathStep) (w : Violation) : Violation :=
  { w with path := step :: w.path }

namespace Validation

/-- These are the violations that are found; there are none exactly if the reading is valid. -/
inductive Reports {α : Type} : Validation α → List Violation → Prop where
  | valid (a : α) : Reports (.valid a) []
  | invalid {ws : List Violation} (h : ws ≠ []) : Reports (.invalid ws) ws

variable {α β : Type} {x : Validation α} {f : Validation (α → β)} {g : α → β} {v : Value}
  {fs : Fields} {vs ws : List Violation}

namespace Reports

theorem exists_valid_iff (h : x.Reports ws) : (∃ a, x = .valid a) ↔ ws = [] := by
  cases h with
  | valid a => simp
  | invalid hne => simp [hne]

theorem eq_of_invalid (h : x.Reports ws) (hx : x = .invalid vs) : vs = ws := by
  subst hx
  cases h
  rfl

theorem map (h : x.Reports ws) : (g <$> x).Reports ws := by
  cases h with
  | valid a => exact .valid (g a)
  | invalid hne => exact .invalid hne

theorem seq (hf : f.Reports vs) (hx : x.Reports ws) : (f <*> x).Reports (vs ++ ws) := by
  cases hf with
  | valid g =>
    cases hx with
    | valid a => exact .valid (g a)
    | invalid hne => exact .invalid hne
  | invalid hne =>
    cases hx with
    | valid a =>
      rw [List.append_nil]
      exact .invalid hne
    | invalid _ => exact .invalid (List.append_ne_nil_of_left_ne_nil hne _)

theorem within (h : x.Reports ws) (step : PathStep) :
    (x.within step).Reports (ws.map (Violation.place step)) := by
  cases h with
  | valid a => exact .valid a
  | invalid hne => exact .invalid (by simpa using hne)

theorem about (h : x.Reports ws) (hp : ∀ w ∈ ws, w.path ≠ [] ∨ w.found = v) :
    (x.about v).Reports ws := by
  cases h with
  | valid a => exact .valid a
  | invalid hne =>
    have hsame : ws.map (fun w => if w.path.isEmpty then { w with found := v } else w) = ws := by
      refine (List.map_congr_left ?_).trans (List.map_id ws)
      rintro ⟨path, defect, found⟩ hw
      rcases hp _ hw with hpath | rfl
      · simp_all
      · simp
    rw [Validation.about, hsame]
    exact .invalid hne

theorem optional {name : String} {absent : α} {check : Value → Validation α}
    (hsome : ∀ v, fs.get? name = some v → ((check v).about v).Reports ws)
    (hnone : fs.get? name = none → ws = []) :
    (optional name absent check fs).Reports (ws.map (Violation.place (.field name))) := by
  rw [Validation.optional]
  apply Reports.within
  cases hv : fs.get? name with
  | none =>
    rw [hnone hv]
    exact .valid absent
  | some v => exact hsome v hv

end Reports

end Validation

end Shortlist
