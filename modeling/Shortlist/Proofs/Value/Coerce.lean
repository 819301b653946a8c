import Shortlist.Candidate.Profile
import Shortlist.Proofs.Text.Tokens

/-! # Loose readings

A loose reading is a trimmed text, or a list of trimmed texts none of which is empty. Read loosely
once more it stays as it is.
-/

namespace Shortlist

/-! ## Trimmed texts -/

namespace Text

variable {cs : List Char} {ws : List (List Char)} {s : String}

structure Bare (cs : List Char) : Prop where
  head : ∀ c, cs.head? = some c → isBlank c = false
  last : ∀ c, cs.getLast? = some c → isBlank c = false

theorem bare_nil : Bare [] := ⟨by simp, by simp⟩

theorem Bare.stripChars_eq (h : Bare cs) : stripChars cs = cs := stripChars_eq_self h.head h.last

theorem isBlank_of_head?_dropWhile {c : Char} (h : (cs.dropWhile isBlank).head? = some c) :
    isBlank c = false := by
  have hn := List.head?_dropWhile_not isBlank cs
  rw [h] at hn
  exact hn

theorem bare_stripChars (cs : List Char) : Bare (stripChars cs) where
  head c hc := by
    have hp : stripChars cs <+: cs.dropWhile isBlank := by
      rw [stripChars, dropEndWhile, ← List.reverse_suffix, List.reverse_reverse]
      exact List.dropWhile_suffix _
    obtain ⟨rest, hrest⟩ := hp
    have hhead : (cs.dropWhile isBlank).head? = some c := by
      rw [← hrest, List.head?_append, hc, Option.some_or]
    exact isBlank_of_head?_dropWhile hhead
  last c hc := by
    rw [stripChars, dropEndWhile, List.getLast?_reverse] at hc
    exact isBlank_of_head?_dropWhile hc

def Trimmed (s : String) : Prop := strip s = s

theorem trimmed_iff : Trimmed s ↔ Bare s.toList := by
  constructor
  · intro h
    have hs := congrArg String.toList h
    rw [strip, String.toList_ofList] at hs
    rw [← hs]
    exact bare_stripChars _
  · intro h
    rw [Trimmed, strip, h.stripChars_eq, String.ofList_toList]

theorem Trimmed.isBlankText_eq_false {s : String} (h : Trimmed s) (hne : s ≠ "") :
    isBlankText s = false := by
  obtain ⟨c, cs, hs⟩ := List.exists_cons_of_ne_nil (mt String.toList_eq_nil_iff.mp hne)
  have hc : isBlank c = false := (trimmed_iff.mp h).head c (by rw [hs, List.head?_cons])
  simp [isBlankText, hs, hc]

theorem trimmed_empty : Trimmed "" := rfl

theorem trimmed_strip (s : String) : Trimmed (strip s) := by
  rw [trimmed_iff, strip, String.toList_ofList]
  exact bare_stripChars _

theorem bare_intercalate (h : ∀ w ∈ ws, w ≠ [] ∧ Bare w) :
    Bare ([' '].intercalate ws) ∧ (ws ≠ [] → [' '].intercalate ws ≠ []) := by
  induction ws with
  | nil => exact ⟨bare_nil, fun hn => (hn rfl).elim⟩
  | cons w ws ih =>
    obtain ⟨⟨hne, hw⟩, hws⟩ := List.forall_mem_cons.mp h
    obtain ⟨hb, hjoined⟩ := ih hws
    by_cases hn : ws = []
    · subst hn
      rw [List.intercalate_singleton]
      exact ⟨hw, fun _ => hne⟩
    · have hrest := List.getLast?_eq_some_getLast (hjoined hn)
      obtain ⟨d, v, rfl⟩ := List.exists_cons_of_ne_nil hne
      rw [List.intercalate_cons_of_ne_nil hn]
      refine ⟨⟨fun c hc => hw.head c (by simpa using hc), fun c hc => hb.last c ?_⟩, by simp⟩
      rwa [List.getLast?_append, hrest, Option.some_or, ← hrest] at hc

theorem trimmed_join {ts : List String} (h : ∀ t ∈ ts, Trimmed t ∧ t ≠ "") :
    Trimmed (join " " ts) := by
  rw [trimmed_iff, toList_join]
  refine (bare_intercalate ?_).1
  rintro w hw
  obtain ⟨t, ht, rfl⟩ := List.mem_map.mp hw
  obtain ⟨htrim, hne⟩ := h t ht
  exact ⟨by simpa using hne, trimmed_iff.mp htrim⟩

end Text

open Text

/-! ## Values -/

namespace Value

variable {v : Value} {vs : List Value} {ss : List String}

theorem of_mem_trimmedTexts {s : String} (h : s ∈ trimmedTexts vs) : Trimmed s ∧ s ≠ "" := by
  obtain ⟨hs, hne⟩ := List.mem_filter.mp h
  obtain ⟨v, -, rfl⟩ := List.mem_map.mp hs
  exact ⟨trimmed_strip _, by simpa using hne⟩

theorem trimmed_asText (v : Value) : Trimmed v.asText := by
  cases v with
  | null => exact trimmed_empty
  | list items => exact trimmed_join fun _ => of_mem_trimmedTexts
  | _ => exact trimmed_strip _

theorem of_mem_asTexts {s : String} (h : s ∈ v.asTexts) : Trimmed s ∧ s ≠ "" :=
  of_mem_trimmedTexts h

theorem asText_text {s : String} (h : Trimmed s) : asText (.text s) = s := h

theorem asTexts_texts (h : ∀ s ∈ ss, Trimmed s ∧ s ≠ "") : (texts ss).asTexts = ss := by
  have hnull : (ss.map text).filter (!·.isNull) = ss.map text := by
    apply List.filter_eq_self.mpr
    rintro v hv
    obtain ⟨s, -, rfl⟩ := List.mem_map.mp hv
    rfl
  have hstrip : ss.map strip = ss := by
    rw [List.map_congr_left fun s hs => (h s hs).1, List.map_id']
  rw [texts, asTexts, asList, hnull, trimmedTexts, List.map_map]
  change (ss.map strip).filter _ = ss
  rw [hstrip, List.filter_eq_self]
  intro s hs
  simpa using (h s hs).2

end Value

theorem Fields.trimmed_asText (name : String) (fs : Fields) : Trimmed (fs.asText name) := by
  rw [asText]
  cases fs.get? name with
  | none => exact trimmed_empty
  | some v => exact v.trimmed_asText

theorem Fields.of_mem_asTexts {name s : String} {fs : Fields} (h : s ∈ fs.asTexts name) :
    Trimmed s ∧ s ≠ "" := by
  rw [asTexts] at h
  cases hv : fs.get? name with
  | none => simp [hv] at h
  | some v => exact Value.of_mem_asTexts (by simpa [hv] using h)

end Shortlist
