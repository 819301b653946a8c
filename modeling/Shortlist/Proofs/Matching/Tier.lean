import Mathlib.Algebra.Order.Field.Basic
import Mathlib.Algebra.Order.Field.Rat
import Mathlib.Tactic.NormNum
import Shortlist.Matching.Tier
import Shortlist.Proofs.Skill.Variants

/-! # The order of tiers

Better tiers earn more. The tier of a requirement depends on the normal form of its skill and grows
with the evidence: more spellings, more tokens or more phrases in the free text never lower it.
-/

namespace Shortlist

namespace Overlap

def share (o : Overlap) : ℚ := o.hits / o.size

variable {a b o : Overlap} {known known' phrases : PhraseSet} {phrase : String} {q : ℚ}

theorem three_fifths_le_div_iff {h n : ℕ} (hn : 0 < n) : 3 / 5 ≤ (h : ℚ) / n ↔ 3 * n ≤ 5 * h := by
  have hpos : (0 : ℚ) < n := by exact_mod_cast hn
  rw [div_le_div_iff₀ (by norm_num) hpos]
  norm_cast
  omega

theorem isSufficient_iff (h : 0 < o.size) : o.isSufficient = true ↔ 3 / 5 ≤ o.share := by
  rw [isSufficient, decide_eq_true_eq, share, three_fifths_le_div_iff h]

theorem size_best (ha : 0 < a.size) (hb : 0 < b.size) : 0 < (a.best b).size := by
  unfold best
  split <;> assumption

theorem share_best_le_iff (ha : 0 < a.size) (hb : 0 < b.size) :
    (a.best b).share ≤ q ↔ a.share ≤ q ∧ b.share ≤ q := by
  have ha' : (0 : ℚ) < a.size := by exact_mod_cast ha
  have hb' : (0 : ℚ) < b.size := by exact_mod_cast hb
  have hlt : a.hits * b.size < b.hits * a.size ↔ a.share < b.share := by
    rw [share, share, div_lt_div_iff₀ ha' hb']
    norm_cast
  unfold best
  split
  · next h => exact ⟨fun hq => ⟨(hlt.mp h).le.trans hq, hq⟩, fun hq => hq.2⟩
  · next h => exact ⟨fun hq => ⟨hq, (not_lt.mp (hlt.not.mp h)).trans hq⟩, fun hq => hq.1⟩

theorem size_ofPhrase : 0 < (ofPhrase known phrase).size := by
  simp only [ofPhrase]
  split
  · decide
  · next h => exact Nat.lt_of_lt_of_le (by decide) (Nat.le_of_not_lt h)

theorem share_ofPhrase_mono (h : known ⊆ known') :
    (ofPhrase known phrase).share ≤ (ofPhrase known' phrase).share := by
  simp only [ofPhrase]
  split
  · exact le_rfl
  · have hc : (Text.tokens phrase).countP known.contains ≤
        (Text.tokens phrase).countP known'.contains :=
      List.countP_mono_left fun t _ ht => by simpa using h (by simpa using ht)
    simp only [share]
    gcongr

theorem share_ofPhrases_le_iff :
    (ofPhrases known phrases).share ≤ q ↔
      0 ≤ q ∧ ∀ phrase ∈ phrases, (ofPhrase known phrase).share ≤ q := by
  have hfold : ∀ (phrases : List String) (found : Overlap), 0 < found.size →
      ((phrases.foldl (fun found phrase => found.best (ofPhrase known phrase)) found).share ≤ q ↔
        found.share ≤ q ∧ ∀ phrase ∈ phrases, (ofPhrase known phrase).share ≤ q) := by
    intro phrases
    induction phrases with
    | nil => simp
    | cons phrase rest ih =>
      intro found hf
      rw [List.foldl_cons, ih _ (size_best hf size_ofPhrase), share_best_le_iff hf size_ofPhrase,
        and_assoc, List.forall_mem_cons]
  rw [ofPhrases, hfold phrases nothing (by decide)]
  simp [share, nothing]

theorem size_ofPhrases : 0 < (ofPhrases known phrases).size := by
  have hfold : ∀ (phrases : List String) (found : Overlap), 0 < found.size →
      0 < (phrases.foldl (fun found phrase => found.best (ofPhrase known phrase)) found).size := by
    intro phrases
    induction phrases with
    | nil => exact fun _ => id
    | cons phrase rest ih => exact fun found hf => ih _ (size_best hf size_ofPhrase)
  exact hfold phrases nothing (by decide)

theorem share_ofPhrases_mono (h : known ⊆ known') :
    (ofPhrases known phrases).share ≤ (ofPhrases known' phrases).share := by
  have hle : (ofPhrases known' phrases).share ≤ (ofPhrases known' phrases).share := le_rfl
  obtain ⟨hz, hall⟩ := share_ofPhrases_le_iff.mp hle
  exact share_ofPhrases_le_iff.mpr ⟨hz, fun p hp => (share_ofPhrase_mono h).trans (hall p hp)⟩

end Overlap

namespace Evidence

variable {e f : Evidence} {s : String}

/-- A spelling of the skill is listed. -/
def Lists (e : Evidence) (s : String) : Prop := ∃ v ∈ Skill.variants s, v ∈ e.variants

/-- A spelling of the skill stands in the free text. -/
def Mentions (e : Evidence) (s : String) : Prop :=
  ∃ v ∈ Skill.variants s, Text.containsPhrase e.corpus v = true

/-- The skill has several tokens, and the known ones among them make up three fifths. -/
def Overlaps (e : Evidence) (s : String) : Prop :=
  1 < (Text.tokens (Text.normalize s)).length ∧
    3 / 5 ≤ (Overlap.ofPhrases e.tokens (Skill.rejoins s)).share

/-- Evidence `f` supports whatever evidence `e` supports. -/
structure Extends (e f : Evidence) : Prop where
  variants : e.variants ⊆ f.variants
  tokens : e.tokens ⊆ f.tokens
  corpus : ∀ v, Text.containsPhrase e.corpus v = true → Text.containsPhrase f.corpus v = true

theorem Extends.lists (h : e.Extends f) : e.Lists s → f.Lists s :=
  fun ⟨v, hv, he⟩ => ⟨v, hv, h.variants he⟩

theorem Extends.mentions (h : e.Extends f) : e.Mentions s → f.Mentions s :=
  fun ⟨v, hv, he⟩ => ⟨v, hv, h.corpus v he⟩

theorem Extends.overlaps (h : e.Extends f) : e.Overlaps s → f.Overlaps s :=
  fun ⟨hl, hs⟩ => ⟨hl, hs.trans (Overlap.share_ofPhrases_mono h.tokens)⟩

end Evidence

namespace Tier

variable {e f : Evidence} {s t : String}

@[simp] theorem credit_listed : (listed.credit : ℚ) = 1 := by norm_num [credit]
@[simp] theorem credit_mentioned : (mentioned.credit : ℚ) = 4 / 5 := by norm_num [credit]
@[simp] theorem credit_overlapping : (overlapping.credit : ℚ) = 3 / 5 := by norm_num [credit]
@[simp] theorem credit_absent : (absent.credit : ℚ) = 0 := by norm_num [credit]

@[simp] theorem ofSkill_normalize (e : Evidence) (s : String) :
    ofSkill e (Text.normalize s) = ofSkill e s := by
  simp [ofSkill]

theorem ofSkill_congr (h : Text.normalize s = Text.normalize t) : ofSkill e s = ofSkill e t := by
  rw [← ofSkill_normalize e s, h, ofSkill_normalize]

open Classical in
/-- The tiers are tried from the best to the worst. -/
theorem ofSkill_eq (e : Evidence) (s : String) : ofSkill e s =
    if e.Lists s then listed
    else if e.Mentions s then mentioned
    else if e.Overlaps s then overlapping
    else absent := by
  have hl : (Skill.variants s).meets e.variants = true ↔ e.Lists s := PhraseSet.meets_iff
  have hm : (Skill.variants s).any (Text.containsPhrase e.corpus) = true ↔ e.Mentions s := by
    simp [Evidence.Mentions]
  have ho : (decide (1 < (Text.tokens (Text.normalize s)).length) &&
      (Overlap.ofPhrases e.tokens (Skill.rejoins s)).isSufficient) = true ↔ e.Overlaps s := by
    rw [Bool.and_eq_true, decide_eq_true_eq, Overlap.isSufficient_iff Overlap.size_ofPhrases]
    rfl
  simp only [ofSkill, hl, hm, ho]

theorem ofSkill_eq_listed_iff : ofSkill e s = listed ↔ e.Lists s := by
  rw [ofSkill_eq]
  split_ifs <;> simp_all

theorem ofSkill_eq_listed {p : Profile} (ht : t ∈ p.skills)
    (h : ∃ v ∈ Skill.variants s, v ∈ Skill.variants t) : ofSkill (.ofProfile p) s = listed := by
  obtain ⟨v, hs, hv⟩ := h
  have hp : v ∈ p.variants := PhraseSet.mem_ofList.mpr (List.mem_flatMap.mpr ⟨t, ht, hv⟩)
  exact ofSkill_eq_listed_iff.mpr ⟨v, hs, hp⟩

theorem credit_nonneg (t : Tier) : 0 ≤ (t.credit : ℚ) := by
  cases t <;> norm_num

theorem credit_le_one (t : Tier) : (t.credit : ℚ) ≤ 1 := by
  cases t <;> norm_num

theorem le_credit_of_mentions (h : e.Mentions s) : 4 / 5 ≤ ((ofSkill e s).credit : ℚ) := by
  rw [ofSkill_eq, if_pos h]
  split_ifs <;> norm_num

theorem le_credit_of_overlaps (h : e.Overlaps s) : 3 / 5 ≤ ((ofSkill e s).credit : ℚ) := by
  rw [ofSkill_eq, if_pos h]
  split_ifs <;> norm_num

/-- A credit is not lowered where nothing is lost that could earn it. -/
theorem credit_le_credit (hl : e.Lists s → f.Lists s) (hm : e.Mentions s → f.Mentions s)
    (ho : e.Overlaps s → f.Overlaps s) : ((ofSkill e s).credit : ℚ) ≤ (ofSkill f s).credit := by
  rw [ofSkill_eq e s]
  split_ifs with hle hme hoe
  · rw [ofSkill_eq_listed_iff.mpr (hl hle)]
  · rw [credit_mentioned]
    exact le_credit_of_mentions (hm hme)
  · rw [credit_overlapping]
    exact le_credit_of_overlaps (ho hoe)
  · rw [credit_absent]
    exact credit_nonneg _

theorem credit_mono (h : e.Extends f) : ((ofSkill e s).credit : ℚ) ≤ (ofSkill f s).credit :=
  credit_le_credit h.lists h.mentions h.overlaps

theorem credit_eq_one_iff (t : Tier) : (t.credit : ℚ) = 1 ↔ t = listed := by
  constructor
  · intro h
    cases t with
    | listed => rfl
    | _ => norm_num at h
  · rintro rfl
    exact credit_listed

theorem isMatch_iff (t : Tier) : t.isMatch = true ↔ 3 / 5 ≤ (t.credit : ℚ) := by
  cases t <;> norm_num [isMatch]

theorem credit_injective : Function.Injective (credit : Tier → ℚ) := by
  intro a b h
  cases a <;> cases b <;> first | rfl | (exfalso; norm_num at h)

end Tier

end Shortlist
