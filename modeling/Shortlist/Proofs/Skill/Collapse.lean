import Mathlib.Data.List.Basic
import Mathlib.Data.List.Induction
import Shortlist.Proofs.Text.Tokens
import Shortlist.Skill.Requirement

/-! # Collapsed requirements

Collapsing keeps one requirement for every key: the keys stand in the order of their first
occurrence, and every key carries the last requirement that was given for it. Collapsing the parts
of a list before the whole makes no difference.
-/

namespace Shortlist.Weighted

variable {ω : Type} {rs xs ys : List (Weighted ω)} {r x : Weighted ω} {k : String}

/-- The keys of some requirements, each where it first occurs. Skills without words have no key. -/
def keys (rs : List (Weighted ω)) : List String :=
  ((rs.map key).filter (!·.isEmpty)).eraseDups

def last? (rs : List (Weighted ω)) (k : String) : Option (Weighted ω) :=
  rs.reverse.find? (·.key = k)

theorem map_key_put :
    (put r xs).map key =
      if r.key ∈ xs.map key then xs.map key else xs.map key ++ [r.key] := by
  induction xs with
  | nil => simp [put]
  | cons x xs ih =>
    rw [put]
    by_cases hx : x.key = r.key
    · simp [hx]
    · rw [if_neg hx, List.map_cons, ih]
      simp only [List.map_cons, List.mem_cons, Ne.symm hx, false_or]
      split <;> rfl

theorem mem_put (hn : (xs.map key).Nodup) (h : x ∈ put r xs) :
    x = r ∨ x ∈ xs ∧ x.key ≠ r.key := by
  induction xs with
  | nil => exact Or.inl (List.mem_singleton.mp h)
  | cons y xs ih =>
    obtain ⟨hy, hn⟩ := List.nodup_cons.mp hn
    rw [put] at h
    split at h
    · next hk =>
      rcases List.mem_cons.mp h with rfl | h
      · exact Or.inl rfl
      · refine Or.inr ⟨List.mem_cons_of_mem _ h, fun he => hy ?_⟩
        exact List.mem_map.mpr ⟨x, h, he.trans hk.symm⟩
    · next hk =>
      rcases List.mem_cons.mp h with rfl | h
      · exact Or.inr ⟨List.mem_cons_self, hk⟩
      · exact (ih hn h).imp_right fun ⟨hm, hne⟩ => ⟨List.mem_cons_of_mem _ hm, hne⟩

theorem mem_keys : k ∈ keys rs ↔ k ≠ "" ∧ ∃ r ∈ rs, r.key = k := by
  simp [keys, List.mem_eraseDups, and_comm]

theorem eraseDups_concat (ks : List String) :
    (ks ++ [k]).eraseDups = if k ∈ ks then ks.eraseDups else ks.eraseDups ++ [k] := by
  rw [List.eraseDups_append]
  by_cases h : k ∈ ks <;> simp [List.removeAll, h, List.eraseDups_cons]

theorem keys_concat : keys (rs ++ [r]) =
    if r.key.isEmpty then keys rs
    else if r.key ∈ keys rs then keys rs else keys rs ++ [r.key] := by
  rw [keys, List.map_append, List.filter_append]
  by_cases he : r.key.isEmpty
  · simp [he, keys]
  · have hs : [r.key].filter (!·.isEmpty) = [r.key] := by simpa using he
    rw [if_neg he, List.map_singleton, hs, eraseDups_concat, keys]
    simp only [List.mem_eraseDups]

theorem collapse_concat : collapse (rs ++ [r]) =
    if r.key.isEmpty then collapse rs else put r (collapse rs) := by
  simp [collapse]

theorem map_key_collapse : (collapse rs).map key = keys rs := by
  induction rs using List.reverseRecOn with
  | nil => rfl
  | append_singleton rs r ih =>
    rw [collapse_concat, keys_concat]
    split
    · exact ih
    · rw [map_key_put, ih]

theorem nodup_keys : (keys rs).Nodup := by
  induction rs using List.reverseRecOn with
  | nil => exact List.nodup_nil
  | append_singleton rs r ih =>
    rw [keys_concat]
    split
    · exact ih
    · split
      · exact ih
      · next hm =>
        refine List.nodup_append.mpr ⟨ih, List.pairwise_singleton _ _, fun a ha b hb => ?_⟩
        rw [List.mem_singleton.mp hb]
        exact fun he => hm (he ▸ ha)

theorem nodup_collapse : ((collapse rs).map key).Nodup := map_key_collapse ▸ nodup_keys

theorem key_ne_empty_of_mem_collapse (h : x ∈ collapse rs) : x.key ≠ "" := by
  have hx : x.key ∈ keys rs := map_key_collapse ▸ List.mem_map_of_mem h
  exact (mem_keys.mp hx).1

theorem last?_concat : last? (rs ++ [r]) k = if r.key = k then some r else last? rs k := by
  rw [last?, List.reverse_concat, List.find?_cons]
  by_cases hk : r.key = k <;> simp [hk, last?]

theorem last?_of_mem_collapse (h : x ∈ collapse rs) : last? rs x.key = some x := by
  induction rs using List.reverseRecOn with
  | nil => simp [collapse] at h
  | append_singleton rs r ih =>
    rw [collapse_concat] at h
    rw [last?_concat]
    split at h
    · next he =>
      have hne : r.key ≠ x.key := by
        intro hk
        rw [hk] at he
        exact key_ne_empty_of_mem_collapse h (by simpa using he)
      rw [if_neg hne, ih h]
    · rcases mem_put nodup_collapse h with rfl | ⟨hm, hne⟩
      · rw [if_pos rfl]
      · rw [if_neg (Ne.symm hne), ih hm]

theorem isBlankText_of_mem_collapse (h : x ∈ collapse rs) : Text.isBlankText x.skill = false := by
  cases hb : Text.isBlankText x.skill with
  | false => rfl
  | true => exact (key_ne_empty_of_mem_collapse h (Text.normalize_eq_empty hb)).elim

/-! ## Collapsing again -/

/-- Collapsed requirements are told by the keys and the last requirement for each of them. -/
theorem collapse_eq_filterMap (rs : List (Weighted ω)) :
    collapse rs = (keys rs).filterMap (last? rs) := by
  rw [← map_key_collapse, List.filterMap_map]
  have hlast : ∀ x ∈ collapse rs, (last? rs ∘ key) x = some x := fun x => last?_of_mem_collapse
  rw [List.filterMap_congr hlast, List.filterMap_some]

theorem collapse_congr (hk : keys xs = keys ys) (hl : ∀ k ≠ "", last? xs k = last? ys k) :
    collapse xs = collapse ys := by
  rw [collapse_eq_filterMap, collapse_eq_filterMap, hk]
  apply List.filterMap_congr
  intro k hkey
  exact hl k (mem_keys.mp hkey).1

theorem keys_append (xs ys : List (Weighted ω)) :
    keys (xs ++ ys) = keys xs ++ (keys ys).filter (· ∉ keys xs) := by
  induction ys using List.reverseRecOn with
  | nil => simp [keys]
  | append_singleton ys r ih =>
    rw [← List.append_assoc, keys_concat, keys_concat, ih]
    split
    · rfl
    · by_cases hx : r.key ∈ keys xs <;> by_cases hy : r.key ∈ keys ys <;>
        simp [hx, hy, List.filter_append]

theorem last?_append (xs ys : List (Weighted ω)) (k : String) :
    last? (xs ++ ys) k = (last? ys k).or (last? xs k) := by
  rw [last?, List.reverse_append, List.find?_append, last?, last?]

theorem eraseDups_of_nodup {ks : List String} (h : ks.Nodup) : ks.eraseDups = ks := by
  induction ks using List.reverseRecOn with
  | nil => rfl
  | append_singleton ks k ih =>
    obtain ⟨hks, -, hne⟩ := List.nodup_append.mp h
    have hk : k ∉ ks := fun hm => hne k hm k List.mem_cons_self rfl
    rw [eraseDups_concat, if_neg hk, ih hks]

theorem keys_collapse (rs : List (Weighted ω)) : keys (collapse rs) = keys rs := by
  have hne : ∀ k ∈ keys rs, (!k.isEmpty) = true := by
    intro k hk
    simpa using (mem_keys.mp hk).1
  rw [keys, map_key_collapse, List.filter_eq_self.mpr hne, eraseDups_of_nodup nodup_keys]

theorem last?_collapse (rs : List (Weighted ω)) (hk : k ≠ "") :
    last? (collapse rs) k = last? rs k := by
  cases hx : last? (collapse rs) k with
  | some x =>
    obtain rfl : x.key = k := by simpa using List.find?_some hx
    have hmem : x ∈ collapse rs := List.mem_reverse.mp (List.mem_of_find?_eq_some hx)
    exact (last?_of_mem_collapse hmem).symm
  | none =>
    rw [last?, List.find?_eq_none] at hx
    symm
    rw [last?, List.find?_eq_none]
    intro r hr hrk
    -- The key of a requirement is kept, so some collapsed requirement has it.
    have hkey : k ∈ (collapse rs).map key := by
      rw [map_key_collapse, mem_keys]
      exact ⟨hk, r, List.mem_reverse.mp hr, by simpa using hrk⟩
    obtain ⟨x, hmem, hxk⟩ := List.mem_map.mp hkey
    exact hx x (List.mem_reverse.mpr hmem) (by simpa using hxk)

/-- Collapsing can be done before requirements are put together as well as after. -/
theorem collapse_append_collapse (xs ys : List (Weighted ω)) :
    collapse (collapse xs ++ collapse ys) = collapse (xs ++ ys) := by
  apply collapse_congr
  · rw [keys_append, keys_append, keys_collapse, keys_collapse]
  · intro k hk
    rw [last?_append, last?_append, last?_collapse xs hk, last?_collapse ys hk]

theorem collapse_collapse (rs : List (Weighted ω)) : collapse (collapse rs) = collapse rs := by
  simpa [collapse] using collapse_append_collapse rs []

end Shortlist.Weighted
