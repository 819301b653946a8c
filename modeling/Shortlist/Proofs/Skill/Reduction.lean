import Shortlist.Proofs.Skill.Outline
import Shortlist.Proofs.Skill.Respelling

/-! # Reduced rows

Reading a row of tokens from left to right, every member of an alias group can be contracted to the
shortest one as soon as it is complete. What remains does not change when aliases are swapped. In a
clear outline nothing but the members at its places is contracted, so that respellings of clear
outlines have the same outline.
-/

namespace Shortlist.Skill

open Text

/-- The shortest one-token alias of a token. -/
def standIn (t : String) : String := if aliasesOf t = [] then t else shortest (aliasesOf t)

/-- One token more behind a reduced row, whose last token stands first. -/
def push (row : List String) (t : String) : List String :=
  match standIn t, row with
  | "js", "node" :: row => "nodejs" :: row
  | "js", "react" :: row => "react" :: row
  | "api", "rest" :: row => "rest" :: row
  | "cloud", "google" :: row => "gcp" :: row
  | "platform", "gcp" :: row => "gcp" :: row
  | "services", "web" :: "amazon" :: row => "aws" :: row
  | "learning", "machine" :: row => "ml" :: row
  | "cd", "ci" :: row => "cicd" :: row
  | "azure", row => "azure" :: row.dropWhile (· = "microsoft")
  | u, row => u :: row

def contracted : List (List String) :=
  [["node", "js"], ["react", "js"], ["rest", "api"], ["google", "cloud"], ["gcp", "platform"],
    ["amazon", "web", "services"], ["machine", "learning"], ["ci", "cd"], ["microsoft", "azure"]]

section Push

variable {ts us row : List String} {g : List String} {m t : String}

theorem foldl_push_member (hg : g ∈ aliasGroups) (hm : m ∈ g) (row : List String) :
    (tokens m).foldl push row = push row (shortest g) := by
  have htable : (aliasGroups.flatMap fun g => g.map fun m => (tokens m, shortest g)) =
      [(["amazon", "web", "services"], "aws"), (["aws"], "aws"), (["azure"], "azure"),
        (["microsoft", "azure"], "azure"), (["ci", "cd"], "cicd"), (["cicd"], "cicd"),
        (["gcp"], "gcp"), (["google", "cloud"], "gcp"), (["google", "cloud", "platform"], "gcp"),
        (["go"], "go"), (["golang"], "go"), (["javascript"], "js"), (["js"], "js"),
        (["k8s"], "k8s"), (["kubernetes"], "k8s"), (["machine", "learning"], "ml"), (["ml"], "ml"),
        (["node", "js"], "nodejs"), (["nodejs"], "nodejs"), (["postgres"], "postgres"),
        (["postgresql"], "postgres"), (["react"], "react"), (["react", "js"], "react"),
        (["reactjs"], "react"), (["rest"], "rest"), (["rest", "api"], "rest"), (["ts"], "ts"),
        (["typescript"], "ts")] := by decide
  have hall : ∀ x ∈ aliasGroups.flatMap fun g => g.map fun m => (tokens m, shortest g),
      x.1.foldl push row = push row x.2 := by
    rw [htable]
    simp only [List.forall_mem_cons]
    and_intros
    all_goals first | rfl | exact fun _ h => nomatch h
  exact hall _ (List.mem_flatMap.mpr ⟨g, hg, List.mem_map_of_mem hm⟩)

/-- Swapping aliases makes no difference, whatever stands in front. -/
theorem AliasSwap.foldl_push (h : AliasSwap ts us) (row : List String) :
    ts.foldl push row = us.foldl push row := by
  obtain ⟨vs, ws, hg, hm, hn⟩ := h
  simp only [List.foldl_append]
  rw [foldl_push_member hg hm, foldl_push_member hg hn]

theorem Respells.foldl_push (h : Respells ts us) (row : List String) :
    ts.foldl push row = us.foldl push row := by
  induction h with
  | refl => rfl
  | tail _ hstep ih => exact ih.trans (hstep.foldl_push row)

theorem push_eq_cons (hs : standIn t = t) (h : ∀ r ∈ contracted, ¬ r.reverse <+: t :: row) :
    push row t = t :: row := by
  simp only [contracted, List.forall_mem_cons] at h
  obtain ⟨hnode, hreact, hrest, hcloud, hplatform, hamazon, hmachine, hci, hazure, -⟩ := h
  unfold push
  rw [hs]
  split
  · exact (hnode (by simp)).elim
  · exact (hreact (by simp)).elim
  · exact (hrest (by simp)).elim
  · exact (hcloud (by simp)).elim
  · exact (hplatform (by simp)).elim
  · exact (hamazon (by simp)).elim
  · exact (hmachine (by simp)).elim
  · exact (hci (by simp)).elim
  · cases row with
    | nil => rfl
    | cons u row =>
      have hu : u ≠ "microsoft" := by
        rintro rfl
        exact hazure (by simp)
      simp [hu]
  · rfl

theorem foldl_push_eq_reverse (hs : ∀ t ∈ ts, standIn t = t)
    (h : ∀ r ∈ contracted, ¬ r <:+: ts) : ts.foldl push [] = ts.reverse := by
  induction ts using List.reverseRecOn with
  | nil => rfl
  | append_singleton ts t ih =>
    obtain ⟨hts, ht⟩ := List.forall_mem_append.mp hs
    have hprefix := List.prefix_append ts [t]
    have hrest := ih hts fun r hr hi => h r hr (hi.trans hprefix.isInfix)
    rw [List.foldl_append, hrest, List.foldl_cons, List.foldl_nil, List.reverse_concat]
    apply push_eq_cons (ht t (List.mem_singleton_self t))
    intro r hr hp
    rw [← List.reverse_concat, List.reverse_prefix] at hp
    exact h r hr hp.isInfix

end Push

/-! ## Clear outlines -/

theorem tokens_shortest : ∀ g ∈ aliasGroups, tokens (shortest g) = [shortest g] := by
  decide

theorem aliasesOf_shortest {g : List String} (hg : g ∈ aliasGroups) :
    aliasesOf (shortest g) = g := aliasesOf_eq g hg _ (shortest_mem g hg)

theorem standIn_shortest {g : List String} (hg : g ∈ aliasGroups) :
    standIn (shortest g) = shortest g := by
  rw [standIn, aliasesOf_shortest hg, if_neg (List.ne_nil_of_mem (shortest_mem g hg))]

theorem shortest_inj {g h : List String} (hg : g ∈ aliasGroups) (hh : h ∈ aliasGroups)
    (he : shortest g = shortest h) : g = h := by
  rw [← aliasesOf_shortest hg, he, aliasesOf_shortest hh]

/-- What is contracted is a member, but for one row that is what swapping leaves of a member. -/
theorem contracted_cases : ∀ r ∈ contracted, r = ["gcp", "platform"] ∨
    1 < r.length ∧ ∃ g ∈ aliasGroups, ∃ m ∈ g, tokens m = r := by decide

def Part.token : Part → String
  | word t => t
  | place g => shortest g

namespace Outline.Clear

variable {o o' : Outline} {p : Part} {c d : List String → String} {g : List String} {m t : String}

theorem admits_shortest (h : o.Clear) : o.Admits shortest :=
  fun g hg => shortest_mem g (h.group_mem g hg)

theorem spell_shortest (h : o.Clear) (hp : p ∈ o) : p.spell shortest = [p.token] := by
  cases p with
  | word t => rfl
  | place g => exact tokens_shortest g (h.group_mem g hp)

theorem ne_member (h : o.Clear) (ht : .word t ∈ o) (hg : g ∈ aliasGroups) : t ∉ g := by
  intro hm
  obtain ⟨xs, ys, rfl⟩ := List.append_of_mem ht
  have hpre : tokens t <+: [t] ++ row ys shortest := by
    rw [(h.token t ht).tokens_eq]
    exact List.prefix_append _ _
  obtain ⟨k, hk, -⟩ := h.inside shortest h.admits_shortest (.word t) ys (List.suffix_append xs _)
    [t] (List.cons_ne_nil t []) List.suffix_rfl g hg t hm hpre
  cases hk

theorem standIn_token (h : o.Clear) (hp : p ∈ o) : standIn p.token = p.token := by
  cases p with
  | word t =>
    refine if_pos ?_
    by_contra hne
    obtain ⟨u, hu⟩ := List.exists_mem_of_ne_nil _ hne
    obtain ⟨g, hg, htg, -⟩ := exists_group_of_mem_aliasesOf hu
    exact h.ne_member hp hg htg
  | place g => exact standIn_shortest (h.group_mem g hp)

theorem row_shortest (h : o.Clear) : o.row shortest = o.map Part.token := by
  rw [row, List.map_eq_flatMap]
  exact List.flatMap_congr fun p hp => h.spell_shortest hp

theorem exists_start_shortest (h : o.Clear) {old : List String} (hn : old ≠ [])
    (hi : old <:+: o.row shortest) :
    ∃ p rest, p :: rest <:+ o ∧ old <+: p.token :: row rest shortest := by
  obtain ⟨p, rest, v, hp, hv, hs, hpre⟩ := exists_start hn hi
  rw [h.spell_shortest (hp.subset List.mem_cons_self)] at hs
  have hvp : v = [p.token] := (List.suffix_cons_iff.mp hs).resolve_right fun he =>
    hv (List.suffix_nil.mp he)
  subst hvp
  exact ⟨p, rest, hp, hpre⟩

theorem not_infix_member (h : o.Clear) (hg : g ∈ aliasGroups) (hm : m ∈ g)
    (hlong : 1 < (tokens m).length) : ¬ tokens m <:+: o.row shortest := by
  intro hi
  obtain ⟨p, rest, hp, hpre⟩ := h.exists_start_shortest (tokens_member g hg m hm).1 hi
  have hspell := h.spell_shortest (hp.subset List.mem_cons_self)
  obtain ⟨-, -, hle⟩ := h.inside shortest h.admits_shortest p rest hp [p.token]
    (List.cons_ne_nil _ _) (hspell ▸ List.suffix_rfl) g hg m hm hpre
  exact absurd hle.length_le (not_le.mpr hlong)

/-- If `platform` followed the shortest member, it would belong to the longest one. -/
theorem not_infix_platform (h : o.Clear) : ¬ ["gcp", "platform"] <:+: o.row shortest := by
  intro hi
  have hgroup : ["gcp", "google cloud", "google cloud platform"] ∈ aliasGroups := by decide
  have hother : ∀ g ∈ aliasGroups, shortest g ≠ "platform" := by decide
  have hlast : "google cloud platform" ∈ ["gcp", "google cloud", "google cloud platform"] := by
    decide
  obtain ⟨p, rest, hp, hpre⟩ := h.exists_start_shortest (by simp) hi
  obtain ⟨hgcp, hplatform⟩ := List.cons_prefix_cons.mp hpre
  have hrest := (List.suffix_cons p rest).trans hp
  -- The first of the two tokens stands at a place of the group.
  obtain rfl : p = .place ["gcp", "google cloud", "google cloud platform"] := by
    cases p with
    | word t =>
      obtain rfl : "gcp" = t := hgcp
      exact (h.ne_member (hp.subset List.mem_cons_self) hgroup (by decide)).elim
    | place g =>
      have hg := h.group_mem g (hp.subset List.mem_cons_self)
      exact congrArg Part.place (shortest_inj hg hgroup hgcp.symm)
  cases rest with
  | nil => simp [row] at hplatform
  | cons q rest =>
    have hq : q ∈ o := hrest.subset List.mem_cons_self
    rw [row_cons, h.spell_shortest hq, List.singleton_append, List.cons_prefix_cons] at hplatform
    obtain rfl : q = .word "platform" := by
      cases q with
      | word t => exact congrArg Part.word hplatform.1.symm
      | place g => exact (hother g (h.group_mem g hq) hplatform.1.symm).elim
    -- With another member at the place, the longest one runs out of it.
    have hadmits : o.Admits (Function.update shortest
        ["gcp", "google cloud", "google cloud platform"] "google cloud") :=
      h.admits_shortest.update fun _ => by decide
    have htokens : tokens "google cloud" = ["google", "cloud"] := by decide
    have hlong : tokens "google cloud platform" = ["google", "cloud", "platform"] := by
      decide
    obtain ⟨-, -, hle⟩ := h.inside _ hadmits _ _ hp (tokens "google cloud") (by simp [htokens])
      (by rw [Part.spell, Function.update_self]) _ hgroup _ hlast
      (by rw [hlong, htokens, row_cons, Part.spell]; exact List.prefix_append _ _)
    rw [hlong, htokens] at hle
    exact absurd hle.length_le (by decide)

/-- The row of shortest members is reduced. -/
theorem foldl_push_row (h : o.Clear) :
    (o.row shortest).foldl push [] = (o.row shortest).reverse := by
  apply foldl_push_eq_reverse
  · rw [h.row_shortest]
    exact List.forall_mem_map.mpr fun p hp => h.standIn_token hp
  · intro r hr
    rcases contracted_cases r hr with rfl | ⟨hlong, g, hg, m, hm, rfl⟩
    · exact h.not_infix_platform
    · exact h.not_infix_member hg hm hlong

theorem respells_shortest (h : o.Clear) (hc : o.Admits c) :
    Respells (o.row c) (o.row shortest) := by
  have hall : ∀ rest ⊆ o, Respells (row rest c) (row rest shortest) := by
    intro rest
    induction rest with
    | nil => exact fun _ => .refl []
    | cons p rest ih =>
      intro hs
      obtain ⟨hp, hrest⟩ := List.cons_subset.mp hs
      refine Respells.append ?_ (ih hrest)
      cases p with
      | word t => exact .refl [t]
      | place g =>
        have hg := h.group_mem g hp
        exact .of_mem hg (hc g hp) (shortest_mem g hg)
  exact hall o (List.Subset.refl o)

theorem token_inj {p q : Part} (h : o.Clear) (h' : o'.Clear) (hp : p ∈ o) (hq : q ∈ o')
    (he : p.token = q.token) : p = q := by
  cases p with
  | word t =>
    cases q with
    | word u => exact congrArg Part.word he
    | place g =>
      obtain rfl : t = shortest g := he
      have hg := h'.group_mem g hq
      exact (h.ne_member hp hg (shortest_mem g hg)).elim
  | place g =>
    have hg := h.group_mem g hp
    cases q with
    | word u =>
      obtain rfl : shortest g = u := he
      exact (h'.ne_member hq hg (shortest_mem g hg)).elim
    | place k => exact congrArg Part.place (shortest_inj hg (h'.group_mem k hq) he)

theorem eq_of_map_token_eq (h : o.Clear) (h' : o'.Clear)
    (he : o.map Part.token = o'.map Part.token) : o = o' := by
  have hall : ∀ xs ⊆ o, ∀ ys ⊆ o', xs.map Part.token = ys.map Part.token → xs = ys := by
    intro xs
    induction xs with
    | nil =>
      intro _ ys _ he
      exact (List.map_eq_nil_iff.mp he.symm).symm
    | cons p xs ih =>
      intro hxs ys hys he
      obtain ⟨q, ys, rfl, hq, hrest⟩ := List.map_eq_cons_iff.mp he.symm
      obtain ⟨hp, hxs⟩ := List.cons_subset.mp hxs
      obtain ⟨hqo, hys⟩ := List.cons_subset.mp hys
      rw [h.token_inj h' hp hqo hq.symm, ih hxs ys hys hrest.symm]
  exact hall o (List.Subset.refl o) o' (List.Subset.refl o') he

/-- Respellings of clear outlines have the same outline. -/
theorem eq_of_respells (h : o.Clear) (h' : o'.Clear) (hc : o.Admits c) (hd : o'.Admits d)
    (hr : Respells (o.row c) (o'.row d)) : o = o' := by
  apply h.eq_of_map_token_eq h'
  have hshortest : Respells (o.row shortest) (o'.row shortest) :=
    ((h.respells_shortest hc).symm.trans hr).trans (h'.respells_shortest hd)
  have hpush := hshortest.foldl_push []
  rw [h.foldl_push_row, h'.foldl_push_row, List.reverse_inj] at hpush
  rw [← h.row_shortest, ← h'.row_shortest, hpush]

end Outline.Clear

end Shortlist.Skill
