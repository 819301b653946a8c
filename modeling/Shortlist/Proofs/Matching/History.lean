import Shortlist.Proofs.Matching.Corpus
import Shortlist.Proofs.Matching.Rejoining

/-! # More history

Entries that are added to a history put words into the free text and take none away. They cannot
touch what the skills earn. A phrase that stood in the free text still stands there, unless a word
of a new entry has come between its own: the free text is one row of words, and a phrase may run
from the end of one entry into the next.
-/

namespace Shortlist

open Text Weighted

/-- A profile whose history has grown. The mark of an entry tells whether it is new. -/
structure Insertion where
  summary : String
  skills : List String
  experience : List (Experience × Bool)
  education : List (Education × Bool)

section Kept

variable {α β : Type}

/-- The items without the new ones. -/
def kept (items : List (α × Bool)) : List α := (items.filter (!·.2)).map Prod.fst

def parts (g : α → List β) (items : List (α × Bool)) : List (β × Bool) :=
  items.flatMap fun a => (g a.1).map (·, a.2)

theorem kept_append (xs ys : List (α × Bool)) : kept (xs ++ ys) = kept xs ++ kept ys := by
  simp [kept]

theorem kept_map_old (l : List α) : kept (l.map (·, false)) = l := by
  simp [kept, List.filter_map, Function.comp_def]

theorem kept_map_new (l : List α) : kept (l.map (·, true)) = [] := by
  simp [kept, List.filter_map, Function.comp_def]

theorem map_fst_map (l : List α) (mark : Bool) : (l.map (·, mark)).map Prod.fst = l := by
  simp [Function.comp_def]

theorem kept_parts (g : α → List β) (items : List (α × Bool)) :
    kept (parts g items) = (kept items).flatMap g := by
  induction items with
  | nil => rfl
  | cons a items ih =>
    obtain ⟨a, mark⟩ := a
    have hparts : parts g ((a, mark) :: items) = (g a).map (·, mark) ++ parts g items := rfl
    rw [hparts, kept_append, ih]
    -- An old item keeps all its parts, a new one none.
    cases mark with
    | false => rw [kept_map_old]; rfl
    | true => rw [kept_map_new]; rfl

theorem map_fst_parts (g : α → List β) (items : List (α × Bool)) :
    (parts g items).map Prod.fst = (items.map Prod.fst).flatMap g := by
  simp [parts, List.map_flatMap, List.flatMap_map, Function.comp_def]

theorem infix_parts {g : α → List β} {items : List (α × Bool)} {a : α} {mark : Bool}
    (h : (a, mark) ∈ items) : (g a).map (·, mark) <:+: parts g items := by
  obtain ⟨xs, ys, rfl⟩ := List.append_of_mem h
  exact ⟨parts g xs, parts g ys, by simp [parts]⟩

theorem exists_kept_iff {xs ys : List α} :
    (∃ items, kept items = xs ∧ items.map Prod.fst = ys) ↔ xs.Sublist ys := by
  constructor
  · rintro ⟨items, rfl, rfl⟩
    exact List.filter_sublist.map Prod.fst
  · intro h
    induction h with
    | slnil => exact ⟨[], rfl, rfl⟩
    | cons a _ ih =>
      obtain ⟨items, rfl, rfl⟩ := ih
      exact ⟨(a, true) :: items, rfl, rfl⟩
    | cons_cons a _ ih =>
      obtain ⟨items, rfl, rfl⟩ := ih
      exact ⟨(a, false) :: items, rfl, rfl⟩

end Kept

theorem Profile.mentions_iff {p : Profile} {s : String} : (Evidence.ofProfile p).Mentions s ↔
    ∃ v ∈ Skill.variants s, tokens v <:+: tokens p.corpus := by
  refine exists_congr fun v => and_congr_right fun hv => ?_
  have hr := Skill.respells_of_mem_variants hv
  have htoken := hr.isToken fun _ => isToken_of_mem_tokens_normalize
  have hne := hr.ne_nil (tokens_normalize_ne_nil (Skill.mem_variants.mp hv).1)
  have hiff := containsPhrase_join_iff
    (fun t (ht : t ∈ tokens p.corpus) => isToken_of_mem_tokens_normalize ht) htoken
  rwa [join_tokens, join_tokens, and_iff_right hne] at hiff

/-- A skill in which no alias stands is mentioned only as it is written. -/
theorem Profile.mentions_iff_infix {p : Profile} {s : String} (hs : normalize s ≠ "")
    (hf : ∀ g ∈ Skill.aliasGroups, ∀ m ∈ g, ¬ tokens m <:+: tokens (normalize s)) :
    (Evidence.ofProfile p).Mentions s ↔ tokens (normalize s) <:+: tokens p.corpus := by
  rw [mentions_iff]
  constructor
  · rintro ⟨v, hv, hin⟩
    rwa [Skill.eq_normalize_of_mem_variants hf hv] at hin
  · intro hin
    exact ⟨_, Skill.normalize_mem_variants hs, hin⟩

open Classical in
theorem Tier.ofSkill_of_skills_eq_nil {p : Profile} (h : p.skills = []) (s : String) :
    Tier.ofSkill (.ofProfile p) s =
      if (Evidence.ofProfile p).Mentions s then .mentioned else .absent := by
  have hnil : ∀ v, v ∉ p.variants := by
    intro v hv
    rw [Profile.variants, h] at hv
    simp at hv
  have hl : ¬ (Evidence.ofProfile p).Lists s := by
    rintro ⟨v, -, hv⟩
    exact hnil v hv
  have ho : ¬ (Evidence.ofProfile p).Overlaps s := by
    intro ho
    have hnone : (Evidence.ofProfile p).hits s = 0 := by
      rw [Evidence.hits, List.countP_eq_zero]
      intro t _ ht
      obtain ⟨v, hv, -⟩ := Evidence.mem_tokensOf.mp (List.contains_iff_mem.mp ht)
      exact hnil v hv
    have henough := ((Evidence.aliasClosed_ofProfile p).overlaps_iff ho.1).mp ho
    have hmany := ho.1
    omega
  rw [Tier.ofSkill_eq, if_neg hl, if_neg ho]

namespace Insertion

variable {i : Insertion} {s v : String}

def before (i : Insertion) : Profile := ⟨i.summary, i.skills, kept i.experience, kept i.education⟩

def after (i : Insertion) : Profile :=
  ⟨i.summary, i.skills, i.experience.map Prod.fst, i.education.map Prod.fst⟩

theorem exists_iff {p q : Profile} : (∃ i : Insertion, i.before = p ∧ i.after = q) ↔
    p.summary = q.summary ∧ p.skills = q.skills ∧ p.experience.Sublist q.experience ∧
      p.education.Sublist q.education := by
  constructor
  · rintro ⟨i, rfl, rfl⟩
    exact ⟨rfl, rfl, exists_kept_iff.mp ⟨_, rfl, rfl⟩, exists_kept_iff.mp ⟨_, rfl, rfl⟩⟩
  · obtain ⟨summary, skills, experience, education⟩ := p
    obtain ⟨summary', skills', experience', education'⟩ := q
    rintro ⟨rfl, rfl, he, hd⟩
    obtain ⟨jobs, rfl, rfl⟩ := exists_kept_iff.mpr he
    obtain ⟨courses, rfl, rfl⟩ := exists_kept_iff.mpr hd
    exact ⟨⟨summary, skills, jobs, courses⟩, rfl, rfl⟩

/-- The words of the free text, with the marks of the entries they belong to. -/
def words (i : Insertion) : List (String × Bool) :=
  (tokens (normalize i.summary)).map (·, false) ++ parts Experience.words i.experience ++
    parts Education.words i.education

theorem tokens_corpus_before (i : Insertion) : tokens i.before.corpus = kept i.words := by
  rw [words, kept_append, kept_append, kept_map_old, kept_parts, kept_parts]
  exact i.before.tokens_corpus

theorem tokens_corpus_after (i : Insertion) : tokens i.after.corpus = i.words.map Prod.fst := by
  rw [words, List.map_append, List.map_append, map_fst_map, map_fst_parts, map_fst_parts]
  exact i.after.tokens_corpus

/-- A phrase stands in the free text in words that were there before, and nothing has come between
them. -/
def Spares (i : Insertion) (v : String) : Prop := (tokens v).map (·, false) <:+: i.words

/-- A phrase stands in the summary or inside one of the entries that were there before. -/
def Inside (i : Insertion) (v : String) : Prop :=
  tokens v <:+: tokens (normalize i.summary) ∨
    (∃ e, (e, false) ∈ i.experience ∧ tokens v <:+: e.words) ∨
      ∃ e, (e, false) ∈ i.education ∧ tokens v <:+: e.words

/-- If it was for a phrase in the free text that a skill earned its credit, one such phrase has been
spared. -/
def Keeps (i : Insertion) (s : String) : Prop :=
  Tier.ofSkill (.ofProfile i.before) s = .mentioned → ∃ v ∈ Skill.variants s, i.Spares v

theorem Spares.before (h : i.Spares v) : tokens v <:+: tokens i.before.corpus := by
  rw [tokens_corpus_before, ← kept_map_old (tokens v)]
  exact (h.filter _).map Prod.fst

theorem Spares.after (h : i.Spares v) : tokens v <:+: tokens i.after.corpus := by
  rw [tokens_corpus_after, ← map_fst_map (tokens v) false]
  exact h.map Prod.fst

theorem Inside.spares (h : i.Inside v) : i.Spares v := by
  rw [Spares, words]
  rcases h with h | ⟨e, he, h⟩ | ⟨e, he, h⟩
  · rw [List.append_assoc]
    exact (h.map (·, false)).trans (List.prefix_append _ _).isInfix
  · have hjob := (h.map (·, false)).trans (infix_parts he)
    exact hjob.trans (List.infix_append _ _ _)
  · have hcourse := (h.map (·, false)).trans (infix_parts he)
    exact hcourse.trans (List.suffix_append _ _).isInfix

theorem variants_after (i : Insertion) :
    (Evidence.ofProfile i.after).variants = (Evidence.ofProfile i.before).variants := by
  have hv : i.after.variants = i.before.variants := by
    rw [Profile.variants, Profile.variants, after, before]
  exact hv

theorem tokens_after (i : Insertion) :
    (Evidence.ofProfile i.after).tokens = (Evidence.ofProfile i.before).tokens :=
  congrArg Evidence.tokensOf i.variants_after

theorem lists_after_iff :
    (Evidence.ofProfile i.after).Lists s ↔ (Evidence.ofProfile i.before).Lists s := by
  rw [Evidence.Lists, Evidence.Lists, variants_after]

theorem overlaps_after_iff :
    (Evidence.ofProfile i.after).Overlaps s ↔ (Evidence.ofProfile i.before).Overlaps s := by
  rw [Evidence.Overlaps, Evidence.Overlaps, tokens_after]

/-- Credit is lost exactly where the free text had earned it and mentions the skill no more. -/
theorem credit_lt_iff :
    ((Tier.ofSkill (.ofProfile i.after) s).credit : ℚ) <
        (Tier.ofSkill (.ofProfile i.before) s).credit ↔
      Tier.ofSkill (.ofProfile i.before) s = .mentioned ∧
        ¬ (Evidence.ofProfile i.after).Mentions s := by
  constructor
  · intro hlt
    have hlost : ¬ ((Evidence.ofProfile i.before).Mentions s →
        (Evidence.ofProfile i.after).Mentions s) := fun hm =>
      hlt.not_ge (Tier.credit_le_credit lists_after_iff.mpr hm overlaps_after_iff.mpr)
    obtain ⟨hb, ha⟩ := Classical.not_imp.mp hlost
    -- A listed skill stays listed and could not have lost anything.
    have hl : ¬ (Evidence.ofProfile i.before).Lists s := by
      intro hl
      rw [Tier.ofSkill_eq_listed_iff.mpr hl,
        Tier.ofSkill_eq_listed_iff.mpr (lists_after_iff.mpr hl)] at hlt
      exact lt_irrefl _ hlt
    exact ⟨by rw [Tier.ofSkill_eq, if_neg hl, if_pos hb], ha⟩
  · rintro ⟨hb, ha⟩
    have hl : ¬ (Evidence.ofProfile i.after).Lists s := by
      intro hl
      have hlisted := Tier.ofSkill_eq_listed_iff.mpr (lists_after_iff.mp hl)
      exact absurd (hb.symm.trans hlisted) (by decide)
    rw [hb, Tier.ofSkill_eq, if_neg hl, if_neg ha]
    split_ifs <;> norm_num

theorem Spares.mentions (hv : v ∈ Skill.variants s) (h : i.Spares v) :
    (Evidence.ofProfile i.before).Mentions s ∧ (Evidence.ofProfile i.after).Mentions s :=
  ⟨Profile.mentions_iff.mpr ⟨v, hv, h.before⟩, Profile.mentions_iff.mpr ⟨v, hv, h.after⟩⟩

theorem Keeps.credit_le (h : i.Keeps s) : ((Tier.ofSkill (.ofProfile i.before) s).credit : ℚ) ≤
    (Tier.ofSkill (.ofProfile i.after) s).credit := by
  by_contra hlt
  obtain ⟨hearned, hlost⟩ := credit_lt_iff.mp (not_le.mp hlt)
  obtain ⟨v, hv, hspared⟩ := h hearned
  exact hlost (hspared.mentions hv).2

theorem Keeps.mem_matched {ω : Type} [OfScientific ω] [Add ω] [Mul ω] [Div ω] [LT ω] [DecidableLT ω]
    {rs : List (Weighted ω)} (h : i.Keeps s) (hs : s ∈ (i.before.fit rs).matched) :
    s ∈ (i.after.fit rs).matched := by
  obtain ⟨r, hr, hm, rfl⟩ := Profile.mem_matched.mp hs
  rw [Tier.isMatch_iff] at hm
  exact Profile.mem_matched.mpr ⟨r, hr, (Tier.isMatch_iff _).mpr (hm.trans h.credit_le), rfl⟩

/-- A history that grows takes credit for a skill away only where the free text had earned it and
mentions the skill no more. That needs a new entry whose words come between those of every phrase
that had earned it, and no phrase inside the summary or inside one entry can be broken so. All other
skills keep their credit and stay matched, and the score is not lowered where this holds of every
requirement that weighs anything. -/
theorem fit_grows_with_history (i : Insertion) :
    (∀ s, ((Tier.ofSkill (.ofProfile i.after) s).credit : ℚ) <
        (Tier.ofSkill (.ofProfile i.before) s).credit ↔
      Tier.ofSkill (.ofProfile i.before) s = .mentioned ∧
        ¬ (Evidence.ofProfile i.after).Mentions s) ∧
    (∀ s, ∀ v ∈ Skill.variants s, i.Inside v → i.Keeps s) ∧
    (∀ s, i.Keeps s → ((Tier.ofSkill (.ofProfile i.before) s).credit : ℚ) ≤
      (Tier.ofSkill (.ofProfile i.after) s).credit) ∧
    (∀ (ω : Type) [OfScientific ω] [Add ω] [Mul ω] [Div ω] [LT ω] [DecidableLT ω]
      (rs : List (Weighted ω)) (s : String),
        i.Keeps s → s ∈ (i.before.fit rs).matched → s ∈ (i.after.fit rs).matched) ∧
    ∀ rs : List (Weighted ℚ), (∀ r ∈ collapse rs, 0 < r.weight → i.Keeps r.skill) →
      (i.before.fit rs).score ≤ (i.after.fit rs).score :=
  ⟨fun _ => credit_lt_iff, fun _ v hv h _ => ⟨v, hv, h.spares⟩, fun _ => Keeps.credit_le,
    fun _ _ _ _ _ _ _ _ _ => Keeps.mem_matched,
    fun _ h => Profile.score_le_score fun r hr hw => (h r hr hw).credit_le⟩

/-- A requirement for a phrase in which no alias stands. -/
def phraseWanted : List (Weighted ℚ) := [⟨"Event Sourcing", 1⟩]

theorem collapse_phraseWanted : collapse phraseWanted = [⟨"Event Sourcing", 1⟩] := by rfl

theorem normalize_phraseWanted : normalize "Event Sourcing" = "event sourcing" := by decide

theorem mentions_phraseWanted {p : Profile} : (Evidence.ofProfile p).Mentions "Event Sourcing" ↔
    ["event", "sourcing"] <:+: tokens p.corpus := by
  have htokens : tokens "event sourcing" = ["event", "sourcing"] := by decide
  rw [← htokens, ← normalize_phraseWanted]
  exact Profile.mentions_iff_infix (by decide) (by decide +kernel)

theorem score_phraseWanted (p : Profile) : (p.fit phraseWanted).score =
    (Tier.ofSkill (.ofProfile p) "Event Sourcing").credit := by
  have hw : totalWeight phraseWanted = 1 := by decide +kernel
  rw [Profile.score_eq_quotient, Profile.quotient, hw, Profile.earnedWeight, collapse_phraseWanted]
  simp [Profile.creditOf]

theorem matched_phraseWanted {p : Profile}
    (h : Tier.ofSkill (.ofProfile p) "Event Sourcing" = .mentioned) :
    "Event Sourcing" ∈ (p.fit phraseWanted).matched := by
  refine Profile.mem_matched.mpr ⟨⟨"Event Sourcing", 1⟩, ?_, by rw [h]; rfl, rfl⟩
  rw [collapse_phraseWanted]
  exact List.mem_singleton_self _

theorem missing_phraseWanted {p : Profile}
    (h : Tier.ofSkill (.ofProfile p) "Event Sourcing" = .absent) :
    "Event Sourcing" ∈ (p.fit phraseWanted).missing := by
  have hmem : ⟨"Event Sourcing", 1⟩ ∈ collapse phraseWanted := by
    rw [collapse_phraseWanted]
    exact List.mem_singleton_self _
  rw [Profile.mem_missing_iff hmem, Profile.creditOf, h, Tier.credit_absent]

/-- A phrase runs from one job into the next. Another job and a course come around the two. -/
def surrounded : Insertion where
  summary := "Engineer"
  skills := []
  experience :=
    [(⟨"Globex", "Analyst", "2022", "2024", ""⟩, true),
      (⟨"Acme", "Engineer", "2020", "2022", "Payments driven by event"⟩, false),
      (⟨"Sourcing GmbH", "Buyer", "2016", "2018", ""⟩, false)]
  education := [(⟨"MIT", "BSc", "2012", "2016"⟩, true)]

theorem fit_grows_with_history_surrounded :
    Tier.ofSkill (.ofProfile surrounded.before) "Event Sourcing" = .mentioned ∧
    surrounded.Keeps "Event Sourcing" ∧
    "Event Sourcing" ∈ (surrounded.after.fit phraseWanted).matched ∧
    (surrounded.before.fit phraseWanted).score ≤ (surrounded.after.fit phraseWanted).score := by
  have hbefore : Tier.ofSkill (.ofProfile surrounded.before) "Event Sourcing" = .mentioned := by
    rw [Tier.ofSkill_of_skills_eq_nil rfl, if_pos (mentions_phraseWanted.mpr (by decide +kernel))]
  have hkeeps : surrounded.Keeps "Event Sourcing" := by
    have hspares : surrounded.Spares "event sourcing" := by
      unfold Spares
      decide +kernel
    rw [← normalize_phraseWanted] at hspares
    exact fun _ => ⟨_, Skill.normalize_mem_variants (by decide +kernel), hspares⟩
  have hmatched := matched_phraseWanted hbefore
  have hall : ∀ r ∈ collapse phraseWanted, 0 < r.weight → surrounded.Keeps r.skill := by
    rw [collapse_phraseWanted, List.forall_mem_singleton]
    exact fun _ => hkeeps
  exact ⟨hbefore, hkeeps,
    (fit_grows_with_history surrounded).2.2.2.1 ℚ phraseWanted _ hkeeps hmatched,
    (fit_grows_with_history surrounded).2.2.2.2 phraseWanted hall⟩

/-- The same two jobs, with the other one between them. -/
def interrupted : Insertion where
  summary := "Engineer"
  skills := []
  experience :=
    [(⟨"Acme", "Engineer", "2020", "2022", "Payments driven by event"⟩, false),
      (⟨"Globex", "Analyst", "2018", "2020", ""⟩, true),
      (⟨"Sourcing GmbH", "Buyer", "2016", "2018", ""⟩, false)]
  education := []

theorem inserted_entry_costs :
    Tier.ofSkill (.ofProfile interrupted.before) "Event Sourcing" = .mentioned ∧
    Tier.ofSkill (.ofProfile interrupted.after) "Event Sourcing" = .absent ∧
    "Event Sourcing" ∈ (interrupted.before.fit phraseWanted).matched ∧
    "Event Sourcing" ∈ (interrupted.after.fit phraseWanted).missing ∧
    (interrupted.after.fit phraseWanted).score < (interrupted.before.fit phraseWanted).score := by
  have hbefore : Tier.ofSkill (.ofProfile interrupted.before) "Event Sourcing" = .mentioned := by
    rw [Tier.ofSkill_of_skills_eq_nil rfl, if_pos (mentions_phraseWanted.mpr (by decide +kernel))]
  have hafter : Tier.ofSkill (.ofProfile interrupted.after) "Event Sourcing" = .absent := by
    rw [Tier.ofSkill_of_skills_eq_nil rfl,
      if_neg (mentions_phraseWanted.not.mpr (by decide +kernel))]
  refine ⟨hbefore, hafter, matched_phraseWanted hbefore, missing_phraseWanted hafter, ?_⟩
  rw [score_phraseWanted, score_phraseWanted, hbefore, hafter]
  norm_num

end Insertion

end Shortlist
