import Shortlist.Proofs.Matching.Growth
import Shortlist.Proofs.Skill.Respelling

/-! # Rejoined phrases

The tokens that are known from a candidate's skills come with all their one-token aliases. A phrase
whose tokens give way to such aliases therefore has known tokens at the same places as before, and
the best share among rejoined phrases is that of the phrase itself, whichever of them are looked at.
-/

namespace Shortlist

open Text

namespace Skill

section Aliases

variable {cap : Nat} {lists : List (List String)} {s t u v : String} {ts us : List String}

theorem isToken_of_mem_tokenVariants (ht : IsToken t) (h : u ∈ tokenVariants t) : IsToken u :=
  (respells_of_mem_tokenVariants ht h).isToken (List.forall_mem_singleton.mpr ht) u
    (List.mem_singleton_self u)

theorem mem_tokenVariants_self (ht : IsToken t) : t ∈ tokenVariants t :=
  (mem_tokenVariants ht).mpr (Or.inl rfl)

theorem mem_tokenVariants_congr (ht : IsToken t) (h : u ∈ tokenVariants t) :
    v ∈ tokenVariants u ↔ v ∈ tokenVariants t := by
  have hu := isToken_of_mem_tokenVariants ht h
  rcases (mem_tokenVariants ht).mp h with rfl | ⟨ha, hs⟩
  · rfl
  · obtain ⟨g, hg, htg, hug⟩ := exists_group_of_mem_aliasesOf ha
    have hsingle : isSingleToken t = true := by simpa [isSingleToken] using ht.space_not_mem
    rw [mem_tokenVariants hu, mem_tokenVariants ht, aliasesOf_eq g hg u hug,
      aliasesOf_eq g hg t htg]
    constructor
    · rintro (rfl | hv)
      · exact Or.inr ⟨hug, hs⟩
      · exact Or.inr hv
    · rintro (rfl | hv)
      · exact Or.inr ⟨htg, hsingle⟩
      · exact Or.inr hv

theorem firstChoices_ne_nil (hc : 0 < cap) (h : ∀ l ∈ lists, l ≠ []) :
    firstChoices cap lists ≠ [] := by
  induction lists with
  | nil => simp [firstChoices]
  | cons l lists ih =>
    obtain ⟨hl, hls⟩ := List.forall_mem_cons.mp h
    obtain ⟨option, rest, rfl⟩ := List.exists_cons_of_ne_nil hl
    obtain ⟨tail, tails, ht⟩ := List.exists_cons_of_ne_nil (ih hls)
    simp [firstChoices, ht, hc.ne']

theorem rejoinsWithin_ne_nil (hc : 0 < cap) (hn : tokens (normalize s) ≠ []) :
    rejoinsWithin cap s ≠ [] := by
  have hchoices : firstChoices cap ((tokens (normalize s)).map tokenVariants) ≠ [] := by
    apply firstChoices_ne_nil hc
    intro l hl
    obtain ⟨t, ht, rfl⟩ := List.mem_map.mp hl
    exact List.ne_nil_of_mem (mem_tokenVariants_self (isToken_of_mem_tokens_normalize ht))
  obtain ⟨choice, choices, he⟩ := List.exists_cons_of_ne_nil hchoices
  have hmem : join " " choice ∈ rejoinsWithin cap s := by
    simp [rejoinsWithin, hn, he]
  exact List.ne_nil_of_mem hmem

end Aliases

end Skill

open Skill

namespace Evidence

variable {e : Evidence} {phrases : PhraseSet} {s t u v : String} {ts us : List String}

/-- A token is known together with all its one-token aliases. -/
def AliasClosed (e : Evidence) : Prop :=
  ∀ t u, IsToken t → u ∈ tokenVariants t → (u ∈ e.tokens ↔ t ∈ e.tokens)

theorem aliasClosed_ofProfile (p : Profile) : (ofProfile p).AliasClosed := by
  have hword : ∀ v ∈ p.variants, ∀ w ∈ Text.tokens v, IsToken w := by
    intro v hv
    obtain ⟨k, -, hv⟩ := Profile.mem_variants.mp hv
    exact (respells_of_mem_variants hv).isToken fun _ => isToken_of_mem_tokens_normalize
  intro t u ht h
  change u ∈ tokensOf p.variants ↔ t ∈ tokensOf p.variants
  rw [mem_tokensOf, mem_tokensOf]
  constructor
  · rintro ⟨v, hv, w, hw, huw⟩
    refine ⟨v, hv, w, hw, ?_⟩
    rw [← mem_tokenVariants_congr (hword v hv w hw) huw, mem_tokenVariants_congr ht h]
    exact mem_tokenVariants_self ht
  · rintro ⟨v, hv, w, hw, htw⟩
    refine ⟨v, hv, w, hw, ?_⟩
    rwa [← mem_tokenVariants_congr (hword v hv w hw) htw]

theorem mem_tokens_of_skill {p : Profile} (hs : s ∈ p.skills)
    (ht : t ∈ Text.tokens (normalize s)) : t ∈ (ofProfile p).tokens := by
  have hne : normalize s ≠ "" := by
    intro he
    rw [he] at ht
    exact List.not_mem_nil ht
  have hp : normalize s ∈ p.variants :=
    PhraseSet.mem_ofList.mpr (List.mem_flatMap.mpr ⟨s, hs, normalize_mem_variants hne⟩)
  exact mem_tokensOf.mpr
    ⟨_, hp, t, ht, mem_tokenVariants_self (isToken_of_mem_tokens_normalize ht)⟩

theorem not_mentions_of_corpus_eq (h : e.corpus = "") : ¬ e.Mentions s := by
  rintro ⟨v, hv, hc⟩
  have htoken : ∀ t ∈ Text.tokens v, IsToken t :=
    (respells_of_mem_variants hv).isToken fun _ => isToken_of_mem_tokens_normalize
  rw [h, ← join_tokens v, show "" = join " " [] from rfl,
    containsPhrase_join_iff (by simp) htoken] at hc
  exact hc.1 (List.infix_nil.mp hc.2)

/-- The number of known tokens in a skill. -/
def hits (e : Evidence) (s : String) : Nat := (Text.tokens (normalize s)).countP e.tokens.contains

def share (e : Evidence) (s : String) : ℚ := e.hits s / (Text.tokens (normalize s)).length

theorem share_nonneg (e : Evidence) (s : String) : 0 ≤ e.share s :=
  div_nonneg (Nat.cast_nonneg _) (Nat.cast_nonneg _)

namespace AliasClosed

theorem countP_eq (he : e.AliasClosed) (h : Rewords ts us) (ht : ∀ t ∈ ts, IsToken t) :
    us.countP e.tokens.contains = ts.countP e.tokens.contains := by
  induction h with
  | nil => rfl
  | cons htu _ ih =>
    obtain ⟨hhead, htail⟩ := List.forall_mem_cons.mp ht
    rw [List.countP_cons, List.countP_cons, ih htail]
    simp [he _ _ hhead htu]

/-- A rejoined phrase has the share of the skill. -/
theorem ofPhrase_eq (he : e.AliasClosed) (hn : 1 < (Text.tokens (normalize s)).length)
    (h : Rewords (Text.tokens (normalize s)) (Text.tokens v)) :
    Overlap.ofPhrase e.tokens v = ⟨e.hits s, (Text.tokens (normalize s)).length⟩ := by
  have hcount := he.countP_eq h fun _ => isToken_of_mem_tokens_normalize
  have hlength := h.length_eq
  rw [Overlap.ofPhrase, if_neg (by omega), hcount, hlength, hits]

theorem share_ofPhrases (he : e.AliasClosed) (hn : 1 < (Text.tokens (normalize s)).length)
    (hne : phrases ≠ [])
    (h : ∀ v ∈ phrases, Rewords (Text.tokens (normalize s)) (Text.tokens v)) :
    (Overlap.ofPhrases e.tokens phrases).share = e.share s := by
  have hshare : ∀ v ∈ phrases, (Overlap.ofPhrase e.tokens v).share = e.share s := by
    intro v hv
    rw [he.ofPhrase_eq hn (h v hv), Overlap.share, share]
  -- Both sides have the same upper bounds.
  apply eq_of_forall_ge_iff
  intro q
  rw [Overlap.share_ofPhrases_le_iff]
  constructor
  · rintro ⟨-, hall⟩
    obtain ⟨v, hv⟩ := List.exists_mem_of_ne_nil _ hne
    exact hshare v hv ▸ hall v hv
  · intro hq
    exact ⟨(e.share_nonneg s).trans hq, fun v hv => (hshare v hv).trans_le hq⟩

theorem share_rejoinsWithin {cap : Nat} (he : e.AliasClosed) (hc : 0 < cap)
    (hn : 1 < (Text.tokens (normalize s)).length) :
    (Overlap.ofPhrases e.tokens (rejoinsWithin cap s)).share = e.share s := by
  have hne : Text.tokens (normalize s) ≠ [] := List.ne_nil_of_length_pos (by omega)
  exact he.share_ofPhrases hn (rejoinsWithin_ne_nil hc hne) fun _ => rewords_of_mem_rejoinsWithin

theorem share_rejoins (he : e.AliasClosed) (hn : 1 < (Text.tokens (normalize s)).length) :
    (Overlap.ofPhrases e.tokens (rejoins s)).share = e.share s := by
  rw [rejoins_eq]
  exact he.share_rejoinsWithin (by decide) hn

theorem share_congr (he : e.AliasClosed)
    (h : Rewords (Text.tokens (normalize s)) (Text.tokens (normalize t))) :
    e.share t = e.share s := by
  have hcount := he.countP_eq h fun _ => isToken_of_mem_tokens_normalize
  rw [share, share, hits, hits, hcount, h.length_eq]

theorem overlaps_iff (he : e.AliasClosed) (hn : 1 < (Text.tokens (normalize s)).length) :
    e.Overlaps s ↔ 3 * (Text.tokens (normalize s)).length ≤ 5 * e.hits s := by
  have hpos : 0 < (Text.tokens (normalize s)).length := by omega
  rw [Overlaps, and_iff_right hn, he.share_rejoins hn, share,
    Overlap.three_fifths_le_div_iff hpos]

end AliasClosed

end Evidence

/-- The best share among the rejoined phrases of a skill of several tokens is the share of the known
tokens among those of the skill itself. It is the same for every bound on the number of phrases, for
any choice of phrases whose tokens are aliases of the skill's, and for skills that are written in
such aliases. So a skill that is neither listed nor mentioned overlaps exactly if three fifths of
its own tokens are known. -/
theorem share_of_any_rejoins (p : Profile) {s : String} (hn : 1 < (tokens (normalize s)).length) :
    (Overlap.ofPhrases (Evidence.ofProfile p).tokens (rejoins s)).share =
      (Evidence.ofProfile p).share s ∧
    (∀ cap, 0 < cap →
      (Overlap.ofPhrases (Evidence.ofProfile p).tokens (rejoinsWithin cap s)).share =
        (Evidence.ofProfile p).share s) ∧
    (∀ phrases ≠ [], (∀ v ∈ phrases, Rewords (tokens (normalize s)) (tokens v)) →
      (Overlap.ofPhrases (Evidence.ofProfile p).tokens phrases).share =
        (Evidence.ofProfile p).share s) ∧
    (∀ t, Rewords (tokens (normalize s)) (tokens (normalize t)) →
      (Overlap.ofPhrases (Evidence.ofProfile p).tokens (rejoins t)).share =
        (Evidence.ofProfile p).share s) ∧
    (¬ (Evidence.ofProfile p).Lists s → ¬ (Evidence.ofProfile p).Mentions s →
      (Tier.ofSkill (.ofProfile p) s = .overlapping ↔
        3 * (tokens (normalize s)).length ≤ 5 * (Evidence.ofProfile p).hits s)) := by
  have he := Evidence.aliasClosed_ofProfile p
  refine ⟨he.share_rejoins hn, fun cap hc => he.share_rejoinsWithin hc hn,
    fun phrases => he.share_ofPhrases hn, fun t ht => ?_, fun hl hm => ?_⟩
  · have hnt : 1 < (tokens (normalize t)).length := ht.length_eq ▸ hn
    rw [← he.share_congr ht]
    exact he.share_rejoins hnt
  · rw [← he.overlaps_iff hn, Tier.ofSkill_eq, if_neg hl, if_neg hm]
    split_ifs with ho
    · simp [ho]
    · simp [ho]

/-- A profile with an abbreviation where vacancies write the word in full. -/
def abbreviator : Profile := ⟨"", ["JS", "lead"], [], []⟩

theorem length_tokens_of_mem_abbreviator {v : String} (h : v ∈ abbreviator.variants) :
    (tokens v).length = 1 := by
  have hone : ∀ s ∈ abbreviator.skills, (tokens (normalize s)).length = 1 ∧
      ∀ v ∈ aliasesOf (normalize s), (tokens v).length = 1 := by decide
  obtain ⟨s, hs, hv⟩ := List.mem_flatMap.mp (PhraseSet.mem_ofList.mp h)
  obtain ⟨hnormal, haliases⟩ := hone s hs
  obtain ⟨-, rfl | ha | ⟨hlong, -⟩⟩ := mem_variants.mp hv
  · exact hnormal
  · exact haliases v ha
  · omega

theorem not_lists_abbreviator :
    ¬ (Evidence.ofProfile abbreviator).Lists "JavaScript developer lead" := by
  rintro ⟨v, hv, hp⟩
  have hone := length_tokens_of_mem_abbreviator hp
  have hthree : (tokens (normalize "JavaScript developer lead")).length = 3 := by decide
  obtain ⟨-, rfl | ha | ⟨-, hr | he⟩⟩ := mem_variants.mp hv
  · omega
  · have hnone : aliasesOf (normalize "JavaScript developer lead") = [] := by decide
    simp [hnone] at ha
  · have hlength := (rewords_of_mem_rejoinsWithin (rejoins_eq _ ▸ hr)).length_eq
    omega
  · have hlong : ∀ v ∈ expansions (normalize "JavaScript developer lead"),
        (tokens v).length ≠ 1 := by decide
    exact hlong v he hone

theorem two_le_hits_abbreviator :
    2 ≤ (Evidence.ofProfile abbreviator).hits "JavaScript developer lead" := by
  have htokens : tokens (normalize "JavaScript developer lead") =
      ["javascript", "developer", "lead"] := by decide
  have hjs : "js" ∈ (Evidence.ofProfile abbreviator).tokens :=
    Evidence.mem_tokens_of_skill (s := "JS") (by decide) (by decide)
  have hlead : "lead" ∈ (Evidence.ofProfile abbreviator).tokens :=
    Evidence.mem_tokens_of_skill (s := "lead") (by decide) (by decide)
  have htoken : IsToken "js" := isToken_iff.mpr (by decide)
  have halias : "javascript" ∈ tokenVariants "js" :=
    (mem_tokenVariants htoken).mpr (Or.inr (by decide))
  have hjavascript := (Evidence.aliasClosed_ofProfile abbreviator _ _ htoken halias).mpr hjs
  rw [Evidence.hits, htokens]
  simp [List.countP_cons, hjavascript, hlead]

/-- Two of three tokens are known, one of them by its alias, and the bound could as well be one. -/
theorem share_of_any_rejoins_abbreviator :
    1 < (tokens (normalize "JavaScript developer lead")).length ∧
    (Overlap.ofPhrases (Evidence.ofProfile abbreviator).tokens
      (rejoinsWithin 1 "JavaScript developer lead")).share =
        (Evidence.ofProfile abbreviator).share "JavaScript developer lead" ∧
    Tier.ofSkill (.ofProfile abbreviator) "JavaScript developer lead" = .overlapping := by
  have hthree : (tokens (normalize "JavaScript developer lead")).length = 3 := by decide +kernel
  have hn : 1 < (tokens (normalize "JavaScript developer lead")).length := by omega
  have hcorpus : (Evidence.ofProfile abbreviator).corpus = "" := by decide +kernel
  have hhits := two_le_hits_abbreviator
  obtain ⟨-, hcap, -, -, htier⟩ := share_of_any_rejoins abbreviator hn
  refine ⟨hn, hcap 1 (by decide), ?_⟩
  apply (htier not_lists_abbreviator (Evidence.not_mentions_of_corpus_eq hcorpus)).mpr
  omega

end Shortlist
