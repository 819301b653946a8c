import Shortlist.Text.Lowercase

/-! # Lower-cased text

The case table maps no character onto one that it maps again, and neither sigma nor the dotted I
survives as a capital. Lower-cased text is therefore left alone by a second lower-casing. Between
texts on the two sides of a neutral character lower-casing carries nothing over.
-/

namespace Shortlist.Text

namespace CaseRun

def Covers (r : CaseRun) (n : Nat) : Prop :=
  r.first ≤ n ∧ n ≤ r.last ∧ (n - r.first) % r.step = 0

theorem exists_of_image? {runs : List CaseRun} {n m : Nat} (h : image? runs n = some m) :
    ∃ r ∈ runs, r.Covers n ∧ m = r.image + (n - r.first) := by
  induction runs with
  | nil => simp [image?] at h
  | cons r rest ih =>
    rw [image?] at h
    split at h
    · simp at h
    · next hlow =>
      split at h
      · next hin =>
        simp only [Bool.and_eq_true, decide_eq_true_eq, beq_iff_eq] at hin
        refine ⟨r, List.mem_cons_self, ⟨Nat.le_of_not_lt hlow, hin⟩, ?_⟩
        exact (Option.some.inj h).symm
      · obtain ⟨s, hs, hc, he⟩ := ih h
        exact ⟨s, List.mem_cons_of_mem _ hs, hc, he⟩

theorem image?_eq_none {runs : List CaseRun} {n : Nat} (h : ∀ r ∈ runs, ¬ r.Covers n) :
    image? runs n = none := by
  cases hi : image? runs n with
  | none => rfl
  | some m =>
    obtain ⟨r, hr, hc, _⟩ := exists_of_image? hi
    exact (h r hr hc).elim

/-- Enough for the images of `r` to lie outside the domain of `s`: the two intervals are apart, or
`s` maps every other code point and the images are the ones it skips. -/
def apart (r s : CaseRun) : Bool :=
  Nat.blt (r.image + (r.last - r.first)) s.first || Nat.blt s.last r.image ||
    (s.step == 2 && (r.step == 2 || r.first == r.last) && r.image % 2 != s.first % 2)

theorem not_covers_of_apart {r s : CaseRun} {n : Nat} (ha : apart r s = true) (hc : r.Covers n) :
    ¬ s.Covers (r.image + (n - r.first)) := by
  rintro ⟨hlow, hhigh, hstep⟩
  obtain ⟨hrlow, hrhigh, hrstep⟩ := hc
  simp only [apart, Bool.or_eq_true, Bool.and_eq_true, Nat.blt_eq, beq_iff_eq, bne_iff_ne] at ha
  rcases ha with (h | h) | ⟨⟨hs, hr | hr⟩, hne⟩
  · omega
  · omega
  · rw [hs] at hstep
    rw [hr] at hrstep
    omega
  · rw [hs] at hstep
    omega

end CaseRun

open CaseRun

theorem apart_smallRuns : (smallRuns.all fun r => smallRuns.all (apart r)) = true := by
  decide +kernel

theorem image?_smallRuns_image {n m : Nat} (h : image? smallRuns n = some m) :
    image? smallRuns m = none := by
  obtain ⟨r, hr, hc, rfl⟩ := exists_of_image? h
  refine image?_eq_none fun s hs => not_covers_of_apart ?_ hc
  exact List.all_eq_true.mp (List.all_eq_true.mp apart_smallRuns r hr) s hs

theorem toNat_ofNat (n : Nat) : (Char.ofNat n).toNat = n ∨ Char.ofNat n = Char.ofNat 0 := by
  by_cases h : n.isValidChar
  · refine Or.inl ?_
    rw [Char.ofNat, dif_pos h]
    rfl
  · refine Or.inr ?_
    rw [Char.ofNat, dif_neg h]
    rfl

@[simp] theorem lowerChar_lowerChar (c : Char) : lowerChar (lowerChar c) = lowerChar c := by
  cases hi : image? smallRuns c.toNat with
  | none => simp [lowerChar, CaseRun.map, hi]
  | some m =>
    have hc : lowerChar c = Char.ofNat m := by simp [lowerChar, CaseRun.map, hi]
    rw [hc]
    rcases toNat_ofNat m with hn | hz
    · simp [lowerChar, CaseRun.map, hn, image?_smallRuns_image hi]
    · rw [hz]; decide

/-- A character that lower-casing leaves alone wherever it stands. -/
structure IsSmall (c : Char) : Prop where
  fixed : lowerChar c = c
  ne_sigma : c ≠ 'Σ'
  ne_dotted : c ≠ 'İ'

/-- The dotted capital I is not the image of another character. -/
theorem lowerChar_eq_dotted {c : Char} (h : lowerChar c = 'İ') : c = 'İ' := by
  cases hi : image? smallRuns c.toNat with
  | none => simpa [lowerChar, CaseRun.map, hi] using h
  | some m =>
    have hm : (Char.ofNat m).toNat = 0x130 := by
      have := congrArg Char.toNat h
      simpa [lowerChar, CaseRun.map, hi] using this
    rcases toNat_ofNat m with hn | hz
    · obtain ⟨r, hr, ⟨hlow, hhigh, _⟩, he⟩ := exists_of_image? hi
      have hout : ∀ r ∈ smallRuns, 0x130 < r.image ∨ r.image + (r.last - r.first) < 0x130 := by
        decide +kernel
      have := hout r hr
      omega
    · rw [hz] at hm
      exact absurd hm (by decide)

theorem isSmall_lowerChar {c : Char} (h : c ≠ 'İ') : IsSmall (lowerChar c) where
  fixed := lowerChar_lowerChar c
  ne_sigma := by
    intro hs
    have := lowerChar_lowerChar c
    rw [hs] at this
    exact absurd this (by decide)
  ne_dotted hd := h (lowerChar_eq_dotted hd)

theorem isSmall_of_mem_lowerOne {before : Bool} {c x : Char} {rest : List Char}
    (h : x ∈ lowerOne before c rest) : IsSmall x := by
  unfold lowerOne at h
  split at h
  · rw [List.mem_singleton] at h
    subst h
    split <;> constructor <;> decide
  · split at h
    · simp only [List.mem_cons, List.not_mem_nil, or_false] at h
      rcases h with rfl | rfl <;> constructor <;> decide
    · next hi =>
      rw [List.mem_singleton] at h
      exact h ▸ isSmall_lowerChar hi

theorem isSmall_of_mem_lowerFrom {before : Bool} {cs : List Char} {x : Char}
    (h : x ∈ lowerFrom before cs) : IsSmall x := by
  induction cs generalizing before with
  | nil => simp [lowerFrom] at h
  | cons c cs ih =>
    rw [lowerFrom, List.mem_append] at h
    rcases h with h | h
    · exact isSmall_of_mem_lowerOne h
    · exact ih h

theorem isSmall_of_mem_lowerChars {cs : List Char} {x : Char} (h : x ∈ lowerChars cs) : IsSmall x :=
  isSmall_of_mem_lowerFrom h

theorem lowerFrom_eq_self {before : Bool} {cs : List Char} (h : ∀ c ∈ cs, IsSmall c) :
    lowerFrom before cs = cs := by
  induction cs generalizing before with
  | nil => rfl
  | cons c cs ih =>
    obtain ⟨hc, hcs⟩ := List.forall_mem_cons.mp h
    rw [lowerFrom, ih hcs, lowerOne, if_neg hc.ne_sigma, if_neg hc.ne_dotted, hc.fixed]
    rfl

theorem lowerChars_eq_self {cs : List Char} (h : ∀ c ∈ cs, IsSmall c) : lowerChars cs = cs :=
  lowerFrom_eq_self h

/-- A character that counts where the form of a sigma is decided, and has no case. -/
structure IsNeutral (c : Char) : Prop where
  not_cased : isCased c = false
  not_ignorable : isCaseIgnorable c = false

section IsNeutral

variable {a b : List Char} {c : Char}

theorem isNeutral_space : IsNeutral ' ' where
  not_cased := by decide
  not_ignorable := by decide

theorem IsNeutral.lowerOne_eq (h : IsNeutral c) (before : Bool) (rest : List Char) :
    lowerOne before c rest = [lowerChar c] := by
  have hsigma : c ≠ 'Σ' := by
    rintro rfl
    exact absurd h.not_cased (by decide)
  have hdotted : c ≠ 'İ' := by
    rintro rfl
    exact absurd h.not_cased (by decide)
  rw [lowerOne, if_neg hsigma, if_neg hdotted]

theorem IsNeutral.casedAhead_append_cons (h : IsNeutral c) :
    casedAhead (a ++ c :: b) = casedAhead a := by
  induction a with
  | nil => simp [casedAhead, h.not_ignorable, h.not_cased]
  | cons x a ih => rw [List.cons_append, casedAhead, casedAhead, ih]

theorem IsNeutral.lowerOne_append_cons (h : IsNeutral c) (before : Bool) (x : Char) :
    lowerOne before x (a ++ c :: b) = lowerOne before x a := by
  rw [lowerOne, lowerOne, h.casedAhead_append_cons]

theorem IsNeutral.lowerFrom_append_cons (h : IsNeutral c) (before : Bool) :
    lowerFrom before (a ++ c :: b) = lowerFrom before a ++ lowerChar c :: lowerChars b := by
  induction a generalizing before with
  | nil =>
    rw [List.nil_append, lowerFrom, lowerFrom, h.lowerOne_eq, h.not_ignorable, h.not_cased]
    rfl
  | cons x a ih =>
    rw [List.cons_append, lowerFrom, lowerFrom, h.lowerOne_append_cons, ih, List.append_assoc]

/-- The texts on the two sides of a neutral character are lower-cased on their own. -/
theorem IsNeutral.lowerChars_append_cons (h : IsNeutral c) :
    lowerChars (a ++ c :: b) = lowerChars a ++ lowerChar c :: lowerChars b :=
  h.lowerFrom_append_cons false

end IsNeutral

end Shortlist.Text
