import Mathlib.Data.List.Basic
import Mathlib.Tactic.Tauto
import Shortlist.Candidate.Archive

/-! # Documents of a collection

What lookups see of documents that are changed, and how a collection changes by the calls of the
store: the first document that fits a filter is changed in its place or goes, or one is added. Where
ids are unique, a document is the only one that its id finds.
-/

namespace Shortlist

namespace Fields

variable {name n : String} {fs : Fields}

theorem get?_set (v : Value) :
    (set n v fs).get? name = if n = name then some v else fs.get? name := by
  induction fs with
  | nil => simp [set, get?]
  | cons field rest ih =>
    obtain ⟨m, x⟩ := field
    by_cases hm : m = n
    · subst hm
      simp only [set, get?, if_true]
      split <;> rfl
    · simp only [set, get?, if_neg hm, ih]
      split
      · next h => rw [if_neg (fun hn => hm (h.trans hn.symm))]
      · rfl

@[simp] theorem merge_nil : fs.merge [] = fs := rfl

@[simp] theorem merge_cons (n : String) (v : Value) (new : Fields) :
    fs.merge ((n, v) :: new) = (set n v fs).merge new := rfl

theorem get?_erase (h : n ≠ name) : (fs.erase n).get? name = fs.get? name := by
  induction fs with
  | nil => rfl
  | cons field rest ih =>
    obtain ⟨m, v⟩ := field
    rw [erase, List.filter_cons]
    by_cases hm : m = n
    · subst hm
      rw [get?, if_neg h, ← ih, erase]
      simp
    · simp only [ne_eq, hm, not_false_eq_true, decide_true, if_true, get?]
      split
      · rfl
      · exact ih

theorem erase_set (v : Value) (h : n ≠ name) :
    (set n v fs).erase name = set n v (fs.erase name) := by
  induction fs with
  | nil => simp [set, erase, h]
  | cons field rest ih =>
    obtain ⟨k, x⟩ := field
    rw [erase, erase] at ih ⊢
    by_cases hk : k = n
    · subst hk
      simp [set, h]
    · rw [set, if_neg hk, List.filter_cons, List.filter_cons, ih]
      split
      · rw [set, if_neg hk]
      · rfl

end Fields

namespace Document

variable {d : Document} {f : Filter} {name text text' : String}

theorem holds_iff : d.holds name text = true ↔ d.get? name = some (.text text) := by
  rw [holds]
  split <;> simp_all

theorem eq_of_holds (h : d.holds name text = true) (h' : d.holds name text' = true) :
    text = text' := by
  simpa [holds_iff.mp h] using holds_iff.mp h'

theorem fits_singleton : d.fits [(name, text)] = d.holds name text := by
  simp [fits]

/-- A document fits a filter limited to an owner if it fits the filter and is the owner's. -/
theorem fits_scoped (owner : Option String) :
    d.fits (f.scoped owner) = (d.fits f && owner.all fun u => d.holds "owner_id" u) := by
  cases owner <;> simp [Filter.scoped, fits]

theorem stored?_eq_some_iff {fs : Fields} : d.stored? = some fs ↔ d ≠ [] ∧ fs = d.erase "_id" := by
  cases d <;> simp [stored?, eq_comm]

theorem stored?_of_holds (h : d.holds name text = true) : d.stored? = some (d.erase "_id") := by
  refine stored?_eq_some_iff.mpr ⟨?_, rfl⟩
  rintro rfl
  simp [holds_iff, Fields.get?] at h

theorem isEmpty_erase_of_holds (h : d.holds name text = true) (hn : name ≠ "_id") :
    List.isEmpty (Fields.erase "_id" d) = false := by
  have hg : Fields.get? name (Fields.erase "_id" d) = d.get? name := Fields.get?_erase hn.symm
  rw [holds_iff.mp h] at hg
  cases he : Fields.erase "_id" d with
  | nil => simp [he, Fields.get?] at hg
  | cons => rfl

end Document

/-! ## Changing the first that fits -/

section ChangeFirst

variable {f : Filter} {change : Document → Document} {ds ds' : List Document} {d : Document}

theorem changeFirst_eq_none_iff :
    changeFirst f change ds = none ↔ ∀ d ∈ ds, d.fits f = false := by
  induction ds with
  | nil => simp [changeFirst]
  | cons d ds ih =>
    rw [changeFirst]
    split <;> simp_all

theorem exists_of_changeFirst (h : changeFirst f change ds = some (d, ds')) :
    ∃ xs old ys, ds = xs ++ old :: ys ∧ (∀ x ∈ xs, x.fits f = false) ∧ old.fits f = true ∧
      d = change old ∧ ds' = xs ++ change old :: ys := by
  induction ds generalizing ds' with
  | nil => simp [changeFirst] at h
  | cons x ds ih =>
    rw [changeFirst] at h
    split at h
    · next hx =>
      obtain ⟨rfl, rfl⟩ := Prod.mk.inj (Option.some.inj h)
      exact ⟨[], x, ds, rfl, by simp, hx, rfl, rfl⟩
    · next hx =>
      obtain ⟨⟨_, rest⟩, hrest, he⟩ := Option.map_eq_some_iff.mp h
      obtain ⟨rfl, rfl⟩ := Prod.mk.inj he
      obtain ⟨xs, old, ys, rfl, hxs, hold, hd, rfl⟩ := ih hrest
      exact ⟨x :: xs, old, ys, rfl, by simpa [hx] using hxs, hold, hd, rfl⟩

theorem changeFirst_append {xs ys : List Document} (hxs : ∀ x ∈ xs, x.fits f = false) :
    changeFirst f change (xs ++ ys) =
      (changeFirst f change ys).map fun (d, rest) => (d, xs ++ rest) := by
  induction xs with
  | nil => simp
  | cons x xs ih =>
    rw [List.cons_append, changeFirst, if_neg (by simp [hxs x List.mem_cons_self]),
      ih fun y hy => hxs y (List.mem_cons_of_mem _ hy), Option.map_map]
    rfl

/-- A change of what fits can be watched in any part of the collection that the filter stays in. -/
theorem changeFirst_filter {p : Document → Bool} (hf : ∀ d, d.fits f = true → p d = true)
    (hc : ∀ d, d.fits f = true → p (change d) = true) :
    changeFirst f change (ds.filter p) =
      (changeFirst f change ds).map fun (d, rest) => (d, rest.filter p) := by
  induction ds with
  | nil => rfl
  | cons d ds ih =>
    rw [List.filter_cons]
    cases hd : d.fits f with
    | true => simp [changeFirst, hd, hf d hd, hc d hd]
    | false =>
      simp only [changeFirst, hd, Bool.false_eq_true, if_false, Option.map_map]
      split
      · next hp => simp [changeFirst, hd, ih, Function.comp_def, hp]
      · next hp => simp [ih, Function.comp_def, hp]

theorem exists_of_find? {q : Document → Bool} (h : ds.find? q = some d) :
    ∃ xs ys, ds = xs ++ d :: ys ∧ ds.eraseP q = xs ++ ys := by
  obtain ⟨hq, xs, ys, rfl, hxs⟩ := List.find?_eq_some_iff_append.mp h
  refine ⟨xs, ys, rfl, ?_⟩
  rw [List.eraseP_append_right _ fun x hx => by simpa using hxs x hx, List.eraseP_cons_of_pos hq]

/-- So can the removal of the first that fits, if that document is in the part. -/
theorem filter_eraseP {p q : Document → Bool} (h : ∀ d, ds.find? q = some d → p d = true) :
    (ds.eraseP q).filter p = (ds.filter p).eraseP q := by
  induction ds with
  | nil => rfl
  | cons d ds ih =>
    cases hq : q d with
    | true =>
      have hp : p d = true := h d (List.find?_cons_of_pos hq)
      rw [List.eraseP_cons_of_pos hq, List.filter_cons_of_pos hp, List.eraseP_cons_of_pos hq]
    | false =>
      have hrest := ih fun d' hd' => h d' (by rwa [List.find?_cons_of_neg (by simp [hq])])
      rw [List.eraseP_cons_of_neg (by simp [hq]), List.filter_cons, List.filter_cons, hrest]
      split
      · rw [List.eraseP_cons_of_neg (by simp [hq])]
      · rfl

inductive Upserts (f : Filter) (change : Document → Document) (added : Document) :
    List Document → List Document → Prop where
  | changed {xs ys : List Document} {old : Document} (hxs : ∀ x ∈ xs, x.fits f = false)
      (hold : old.fits f = true) :
      Upserts f change added (xs ++ old :: ys) (xs ++ change old :: ys)
  | added {ds : List Document} (hds : ∀ d ∈ ds, d.fits f = false) :
      Upserts f change added ds (ds ++ [added])

theorem mem_exchange {xs ys : List Document} {old x : Document} (hx : x ∈ xs ++ d :: ys) :
    x ∈ xs ++ old :: ys ∨ x = d := by
  simp only [List.mem_append, List.mem_cons] at hx ⊢
  tauto

theorem Upserts.mem {added x : Document} (h : Upserts f change added ds ds') (hx : x ∈ ds') :
    x ∈ ds ∨ (∃ old ∈ ds, old.fits f = true ∧ x = change old) ∨ x = added := by
  cases h with
  | changed hxs hold =>
    exact (mem_exchange hx).imp_right fun hx =>
      Or.inl ⟨_, List.mem_append_right _ List.mem_cons_self, hold, hx⟩
  | added hds =>
    exact (List.mem_append.mp hx).imp_right fun hx => Or.inr (List.mem_singleton.mp hx)

theorem Upserts.find?_self {key id : String} {added : Document}
    (h : Upserts [(key, id)] change added ds ds')
    (hc : ∀ d : Document, d.holds key id = true → (change d).holds key id = true)
    (ha : added.holds key id = true) :
    (∃ old, ds'.find? (Document.fits [(key, id)]) = some (change old)) ∨
      ds'.find? (Document.fits [(key, id)]) = some added := by
  have hskip {xs ys : List Document} (hxs : ∀ x ∈ xs, x.fits [(key, id)] = false) {d : Document}
      (hd : d.holds key id = true) :
      (xs ++ d :: ys).find? (Document.fits [(key, id)]) = some d := by
    rw [List.find?_append, List.find?_eq_none.mpr fun x hx => by simp [hxs x hx],
      List.find?_cons_of_pos (by rwa [Document.fits_singleton]), Option.none_or]
  cases h with
  | changed hxs hold =>
    rw [Document.fits_singleton] at hold
    exact Or.inl ⟨_, hskip hxs (hc _ hold)⟩
  | added hds => exact Or.inr (hskip hds ha)

theorem Upserts.find?_of_ne {key id id' : String} {added : Document}
    (h : Upserts [(key, id)] change added ds ds')
    (hc : ∀ d : Document, d.holds key id = true → (change d).holds key id = true)
    (ha : added.holds key id = true) (hne : id' ≠ id) :
    ds'.find? (Document.fits [(key, id')]) = ds.find? (Document.fits [(key, id')]) := by
  have hother {x : Document} (hx : x.holds key id = true) : x.fits [(key, id')] = false := by
    rw [Document.fits_singleton]
    exact Bool.eq_false_iff.mpr fun hx' => hne (Document.eq_of_holds hx' hx)
  cases h with
  | changed hxs hold =>
    rw [Document.fits_singleton] at hold
    rw [List.find?_append, List.find?_append, List.find?_cons_of_neg (by simp [hother (hc _ hold)]),
      List.find?_cons_of_neg (by simp [hother hold])]
  | added hds =>
    rw [List.find?_append, List.find?_cons_of_neg (by simp [hother ha]), List.find?_nil,
      Option.or_none]

/-- After a document is put in the place of those with its id, lookups by id find it. -/
theorem Upserts.find?_eq {key id : String} (h : Upserts [(key, id)] (fun _ => d) d ds ds')
    (hd : d.holds key id = true) (id' : String) :
    ds'.find? (Document.fits [(key, id')]) =
      if id' = id then some d else ds.find? (Document.fits [(key, id')]) := by
  split
  · next he =>
    obtain ⟨_, hfound⟩ | hfound := h.find?_self (fun _ _ => hd) hd
    · exact he ▸ hfound
    · exact he ▸ hfound
  · next hne => exact h.find?_of_ne (fun _ _ => hd) hd hne

end ChangeFirst

namespace Store

variable (s : Store) (c : Collection) (f : Filter) {ds : List Document}

@[simp] theorem documents_withDocuments (c' : Collection) :
    (s.withDocuments c ds).documents c' = if c' = c then ds else s.documents c' := by
  cases c <;> cases c' <;> rfl

theorem documents_withDocuments_of_ne {c' : Collection} (hc : c ≠ c') (ds : List Document) :
    (s.withDocuments c' ds).documents c = s.documents c :=
  (documents_withDocuments s c' c).trans (if_neg hc)

theorem documents_answer_of_ne {q : StoreCall} (hc : c ≠ q.collection) :
    (s.answer q).2.documents c = s.documents c := by
  cases q with
  | findOne _ _ => rfl
  | findPage _ _ _ _ => rfl
  | insert c' d => exact s.documents_withDocuments_of_ne c hc _
  | delete c' f => exact s.documents_withDocuments_of_ne c hc _
  | setFields c' f fs =>
    rw [answer]
    split <;> exact s.documents_withDocuments_of_ne c hc _
  | replace c' f d =>
    rw [answer]
    split <;> exact s.documents_withDocuments_of_ne c hc _
  | updateOne c' f fs =>
    rw [answer]
    split
    · exact s.documents_withDocuments_of_ne c hc _
    · rfl

theorem answer_setFields (fs : Fields) : ∃ ds,
    Upserts f (Fields.merge · fs) (f.toFields.merge fs) (s.documents c) ds ∧
      s.answer (.setFields c f fs) = ((), s.withDocuments c ds) := by
  rw [answer]
  split
  · next h =>
    obtain ⟨xs, old, ys, hds, hxs, hold, _, rfl⟩ := exists_of_changeFirst h
    exact ⟨_, hds ▸ .changed hxs hold, rfl⟩
  · next h => exact ⟨_, .added (changeFirst_eq_none_iff.mp h), rfl⟩

theorem answer_replace (d : Document) : ∃ ds,
    Upserts f (fun _ => d) d (s.documents c) ds ∧
      s.answer (.replace c f d) = ((), s.withDocuments c ds) := by
  rw [answer]
  split
  · next h =>
    obtain ⟨xs, old, ys, hds, hxs, hold, _, rfl⟩ := exists_of_changeFirst h
    exact ⟨_, hds ▸ .changed hxs hold, rfl⟩
  · next h => exact ⟨_, .added (changeFirst_eq_none_iff.mp h), rfl⟩

/-- Where no document fits, one is added, or takes the place of the last if that fits. -/
theorem answer_replace_append {xs ys : List Document} (d : Document)
    (hds : s.documents c = xs ++ ys) (hxs : ∀ x ∈ xs, x.fits f = false)
    (hys : ys = [] ∨ ∃ old : Document, old.fits f = true ∧ ys = [old]) :
    (s.answer (.replace c f d)).2 = s.withDocuments c (xs ++ [d]) := by
  rw [answer, hds, changeFirst_append hxs]
  rcases hys with rfl | ⟨old, hold, rfl⟩
  · rw [List.append_nil]
    rfl
  · rw [changeFirst, if_pos hold]
    rfl

theorem answer_updateOne (fs : Fields) : s.answer (.updateOne c f fs) = (none, s) ∨
    ∃ xs old ys, s.documents c = xs ++ old :: ys ∧ old.fits f = true ∧
      s.answer (.updateOne c f fs) =
        (some (old.merge fs), s.withDocuments c (xs ++ old.merge fs :: ys)) := by
  rw [answer]
  split
  · next h =>
    obtain ⟨xs, old, ys, hds, -, hold, rfl, rfl⟩ := exists_of_changeFirst h
    exact Or.inr ⟨xs, old, ys, hds, hold, rfl⟩
  · exact Or.inl rfl

theorem answer_updateOne_filter {p : Document → Bool} (fs : Fields)
    (hf : ∀ d : Document, d.fits f = true → p d = true)
    (hc : ∀ d : Document, d.fits f = true → p (d.merge fs) = true) :
    let found := changeFirst f (Fields.merge · fs) ((s.documents c).filter p)
    (s.answer (.updateOne c f fs)).1 = found.map Prod.fst ∧
      ∃ ds, (s.answer (.updateOne c f fs)).2 = s.withDocuments c ds ∧
        ds.filter p = (found.map Prod.snd).getD ((s.documents c).filter p) := by
  intro found
  have hfound : found = _ := changeFirst_filter hf hc
  rw [answer]
  split
  · next h =>
    rw [h] at hfound
    rw [hfound]
    exact ⟨rfl, _, rfl, rfl⟩
  · next h =>
    rw [h] at hfound
    rw [hfound]
    exact ⟨rfl, s.documents c, by cases c <;> rfl, rfl⟩

end Store

/-! ## Unique ids -/

def Collection.key : Collection → String
  | .resumes => "resume_id"
  | .profiles => "resume_id"
  | .vacancies => "vacancy_id"
  | .analyses => "analysis_id"

def UniqueIn (key : String) (ds : List Document) : Prop :=
  ∀ id, ds.countP (Document.holds · key id) ≤ 1

def Store.UniqueIds (s : Store) : Prop := ∀ c : Collection, UniqueIn c.key (s.documents c)

theorem Store.UniqueIds.withDocuments {s : Store} (h : s.UniqueIds) {c : Collection}
    {ds : List Document} (hds : UniqueIn c.key ds) : (s.withDocuments c ds).UniqueIds := by
  intro c'
  rw [documents_withDocuments]
  split
  · next he => rwa [he]
  · exact h c'

namespace UniqueIn

variable {key id : String} {ds xs ys : List Document} {d d' : Document}

theorem nil : UniqueIn key [] := fun _ => Nat.zero_le 1

theorem sublist (h : UniqueIn key ds) (hs : List.Sublist xs ds) : UniqueIn key xs :=
  fun id => Nat.le_trans hs.countP_le (h id)

theorem find?_eq_some_of_fits (h : UniqueIn key ds) (hd : d ∈ ds) (hk : d.holds key id = true)
    {f : Filter} (hfit : d.fits f = true)
    (hf : ∀ x : Document, x.fits f = true → x.holds key id = true) :
    ds.find? (Document.fits f) = some d := by
  obtain ⟨xs, ys, rfl⟩ := List.append_of_mem hd
  have hxs : ∀ x ∈ xs, x.fits f = false := by
    intro x hx
    by_contra hn
    have hpos : 0 < xs.countP (Document.holds · key id) :=
      List.countP_pos_iff.mpr ⟨x, hx, hf x (by simpa using hn)⟩
    have hle := h id
    rw [List.countP_append, List.countP_cons, if_pos hk] at hle
    omega
  have hnone : xs.find? (Document.fits f) = none :=
    List.find?_eq_none.mpr fun x hx => by simp [hxs x hx]
  simp [List.find?_append, hnone, hfit]

theorem find?_eq_some (h : UniqueIn key ds) (hd : d ∈ ds) (hk : d.holds key id = true) :
    ds.find? (Document.fits [(key, id)]) = some d :=
  h.find?_eq_some_of_fits hd hk (Document.fits_singleton ▸ hk) fun _ hx =>
    Document.fits_singleton ▸ hx

theorem eq_of_holds (h : UniqueIn key ds) (hd : d ∈ ds) (hd' : d' ∈ ds)
    (hk : d.holds key id = true) (hk' : d'.holds key id = true) : d = d' :=
  Option.some.inj ((h.find?_eq_some hd hk).symm.trans (h.find?_eq_some hd' hk'))

theorem find?_filter (h : UniqueIn key ds) (p : Document → Bool) (id : String) :
    (ds.filter p).find? (Document.fits [(key, id)]) =
      (ds.find? (Document.fits [(key, id)])).filter p := by
  cases hd : ds.find? (Document.fits [(key, id)]) with
  | none =>
    rw [List.find?_eq_none] at hd
    exact List.find?_eq_none.mpr fun x hx => hd x (List.mem_of_mem_filter hx)
  | some d =>
    have hk : d.holds key id = true := Document.fits_singleton ▸ List.find?_some hd
    have hmem := List.mem_of_find?_eq_some hd
    rw [Option.filter_some]
    split
    · next hp =>
      exact (h.sublist List.filter_sublist).find?_eq_some (List.mem_filter.mpr ⟨hmem, hp⟩) hk
    · next hp =>
      refine List.find?_eq_none.mpr fun x hx hfit => hp ?_
      obtain ⟨hx, hpx⟩ := List.mem_filter.mp hx
      rwa [h.eq_of_holds hmem hx hk (Document.fits_singleton ▸ hfit)]

theorem concat (h : UniqueIn key ds)
    (hd : ∀ id, d.holds key id = true → ∀ x ∈ ds, x.holds key id = false) :
    UniqueIn key (ds ++ [d]) := by
  intro id
  rw [List.countP_append, List.countP_singleton]
  split
  · next hk =>
    have hzero : ds.countP (Document.holds · key id) = 0 :=
      List.countP_eq_zero.mpr fun x hx => by simp [hd id hk x hx]
    omega
  · exact h id

theorem exchange (h : UniqueIn key (xs ++ d :: ys))
    (hd : ∀ id, d'.holds key id = true → d.holds key id = true) :
    UniqueIn key (xs ++ d' :: ys) := by
  intro id
  have hle := h id
  simp only [List.countP_append, List.countP_cons] at hle ⊢
  have hdd : (if d'.holds key id then 1 else 0) ≤ if d.holds key id then 1 else 0 := by
    cases hk : d'.holds key id with
    | true => simp [hd id hk]
    | false => simp
  omega

theorem upserts {f : Filter} {change : Document → Document} {added : Document}
    {ds ds' : List Document} (h : UniqueIn key ds) (hup : Upserts f change added ds ds')
    (hf : f = [(key, id)]) (hc : ∀ d, d.holds key id = true → (change d).holds key id = true)
    (ha : added.holds key id = true) : UniqueIn key ds' := by
  subst hf
  cases hup with
  | changed hxs hold =>
    rw [Document.fits_singleton] at hold
    exact h.exchange fun id' hid' => Document.eq_of_holds hid' (hc _ hold) ▸ hold
  | added hds =>
    refine h.concat fun id' hid' x hx => ?_
    rw [Document.eq_of_holds hid' ha, ← Document.fits_singleton]
    exact hds x hx

end UniqueIn

end Shortlist
