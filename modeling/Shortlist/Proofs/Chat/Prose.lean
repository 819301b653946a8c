import Shortlist.Proofs.Chat.Decoding
import Shortlist.Proofs.Json.Extent
import Shortlist.Proofs.Validation.Again

/-! # Objects in prose

A service may wrap the object that it is asked for in prose, as long as no opening brace stands
before it and no closing brace behind it. Either the whole reply is the object, or it is no object
at all and the slice between the outermost braces is taken.
-/

namespace Shortlist

open Text

namespace Json

/-- The text is one object, from its opening to its closing brace. -/
structure IsObject (o : List Char) (v : Value) : Prop where
  braces : ∃ body, o = braced body
  read : readChars o = .ok v

theorem isBlank_of_isSpace {c : Char} (h : isSpace c = true) : isBlank c = true := by
  simp only [isSpace, Bool.or_eq_true, decide_eq_true_eq] at h
  rcases h with ((rfl | rfl) | rfl) | rfl <;> decide

/-- A trimmed text that writes a record is an object. -/
theorem isObject_of_readChars {cs : List Char} {fs : Fields} (hb : Bare cs)
    (h : readChars cs = .ok (.record fs)) : IsObject cs (.record fs) := by
  obtain ⟨lead, body, trail, hcs, hlead, htrail⟩ := exists_braces_of_readChars h
  refine ⟨⟨body, ?_⟩, h⟩
  obtain rfl : lead = [] := by
    cases lead with
    | nil => rfl
    | cons c lead =>
      have hblank := isBlank_of_isSpace (hlead c List.mem_cons_self)
      have hbare := hb.head c (by rw [hcs]; rfl)
      rw [hblank] at hbare
      cases hbare
  obtain rfl : trail = [] := by
    rcases List.eq_nil_or_concat' trail with rfl | ⟨trail, c, rfl⟩
    · rfl
    · have hblank := isBlank_of_isSpace (htrail c (by simp))
      have hbare := hb.last c (by rw [hcs, ← List.append_assoc, List.getLast?_concat])
      rw [hblank] at hbare
      cases hbare
  rw [hcs, List.nil_append, List.append_nil]
  rfl

end Json

open Json

section Wrapped

variable {p s body : List Char}

theorem Json.IsObject.of_wrapped {v : Value} (h : IsObject (p ++ braced body ++ s) v)
    (hp : '\x7b' ∉ p) (hs : '\x7d' ∉ s) : p = [] ∧ s = [] := by
  obtain ⟨inside, hinside⟩ := h.braces
  constructor
  · cases p with
    | nil => rfl
    | cons c p =>
      have hc : c = '\x7b' := (List.cons.inj hinside).1
      exact (hp (hc ▸ List.mem_cons_self)).elim
  · rcases List.eq_nil_or_concat' s with rfl | ⟨s, c, rfl⟩
    · rfl
    · have hlast : (p ++ braced body ++ (s ++ [c])).getLast? = (braced inside).getLast? := by
        rw [hinside]
      rw [← List.append_assoc, List.getLast?_concat, braced, ← List.cons_append,
        List.getLast?_concat] at hlast
      have hc : c = '\x7d' := Option.some.inj hlast
      exact (hs (by simp [hc])).elim

end Wrapped

variable {α : Type} {target : Target α} {a : α} {v : Value} {cs o p s : List Char}

/-- Nothing but a record holds the target. -/
def Target.OfRecords (target : Target α) : Prop :=
  ∀ v a, target.read v = .valid a → ∃ fs, v = .record fs

theorem Profile.target_ofRecords : Profile.target.OfRecords := by
  intro v p h
  obtain ⟨fs, hfs, -⟩ := Validation.record_eq_valid_iff.mp h
  exact ⟨fs, hfs⟩

theorem Narrative.target_ofRecords : Narrative.target.OfRecords := by
  intro v n h
  obtain ⟨fs, hfs, -⟩ := Validation.record_eq_valid_iff.mp h
  exact ⟨fs, hfs⟩

namespace Reply

theorem decodeWhole?_eq_some_iff : decodeWhole? target cs = some a ↔
    ∃ v, readChars cs = .ok v ∧ target.read v = .valid a := by
  unfold decodeWhole?
  constructor
  · intro h
    split at h
    · next v hv =>
      split at h
      · next b hb =>
        cases h
        exact ⟨v, hv, hb⟩
      · cases h
    · cases h
  · rintro ⟨v, hv, ha⟩
    simp [hv, ha]

theorem isObject_of_decodeWhole? (ht : target.OfRecords) (hb : Bare cs)
    (h : decodeWhole? target cs = some a) : ∃ v, IsObject cs v ∧ target.read v = .valid a := by
  obtain ⟨v, hv, ha⟩ := decodeWhole?_eq_some_iff.mp h
  obtain ⟨fs, rfl⟩ := ht v a ha
  exact ⟨.record fs, isObject_of_readChars hb hv, ha⟩

theorem decodeSlice_of_isObject (ho : IsObject o v) (ha : target.read v = .valid a) :
    decodeSlice target cs o = .ok a := by
  simp [decodeSlice, ho.read, ha]

theorem decode_wrapped (ht : target.OfRecords) (ho : IsObject o v) (ha : target.read v = .valid a)
    (hp : '\x7b' ∉ p) (hs : '\x7d' ∉ s) :
    decode target (some (String.ofList (p ++ o ++ s))) = .ok a := by
  obtain ⟨body, rfl⟩ := ho.braces
  have hp' : '\x7b' ∉ p.dropWhile isBlank := fun h => hp (List.dropWhile_subset _ h)
  have hs' : '\x7d' ∉ dropEndWhile isBlank s := by
    intro h
    rw [dropEndWhile, List.mem_reverse] at h
    exact hs (List.mem_reverse.mp (List.dropWhile_subset _ h))
  have hbare := bare_stripChars (p ++ braced body ++ s)
  rw [stripChars_wrapped] at hbare
  simp only [decode, Option.getD_some, String.toList_ofList, stripChars_wrapped]
  split
  · next b hb =>
    obtain ⟨w, hw, hwb⟩ := isObject_of_decodeWhole? ht hbare hb
    obtain ⟨hfront, hback⟩ := hw.of_wrapped hp' hs'
    rw [hfront, hback, List.nil_append, List.append_nil] at hw
    have hwv : w = v := Except.ok.inj (hw.read.symm.trans ho.read)
    rw [hwv, ha] at hwb
    cases hwb
    rfl
  · rw [objectSlice?_wrapped hp' hs']
    exact decodeSlice_of_isObject ho ha

/-- An object is the slice of itself. -/
theorem objectSlice?_of_isObject (ho : IsObject o v) : objectSlice? o = some o := by
  obtain ⟨body, rfl⟩ := ho.braces
  exact objectSlice?_braced body

end Reply

/-- Prose around an object does not matter to the target. -/
structure Target.SeesThroughProse (target : Target α) : Prop where
  /-- What an object holds is found in every reply that wraps it. -/
  wrapped (p o s : String) (v : Value) (a : α) (hp : '\x7b' ∉ p.toList) (hs : '\x7d' ∉ s.toList)
    (ho : IsObject o.toList v) (ha : target.read v = .valid a) :
    Reply.decode target (some (p ++ o ++ s)) = .ok a ∧ Reply.decode target (some o) = .ok a
  /-- What the first stage finds in a reply, the second finds as well. -/
  whole (reply : Option String) (a : α)
    (h : Reply.decodeWhole? target (stripChars (reply.getD "").toList) = some a) :
    ∃ slice, Reply.objectSlice? (stripChars (reply.getD "").toList) = some slice ∧
      Reply.decodeSlice target (stripChars (reply.getD "").toList) slice = .ok a

theorem Target.OfRecords.seesThroughProse (ht : target.OfRecords) : target.SeesThroughProse where
  wrapped p o s v a hp hs ho ha := by
    constructor
    · have h := Reply.decode_wrapped ht ho ha hp hs
      rwa [← String.toList_append, ← String.toList_append, String.ofList_toList] at h
    · have h := Reply.decode_wrapped ht ho ha (p := []) (s := []) (by simp) (by simp)
      rwa [List.nil_append, List.append_nil, String.ofList_toList] at h
  whole reply a h := by
    obtain ⟨v, ho, ha⟩ := Reply.isObject_of_decodeWhole? ht (bare_stripChars _) h
    exact ⟨_, Reply.objectSlice?_of_isObject ho, Reply.decodeSlice_of_isObject ho ha⟩

/-- Neither the profile nor the narrative in a reply depends on the prose around the object. -/
theorem Reply.targets_seeThroughProse :
    Profile.target.SeesThroughProse ∧ Narrative.target.SeesThroughProse :=
  ⟨Profile.target_ofRecords.seesThroughProse, Narrative.target_ofRecords.seesThroughProse⟩

/-- An object with braces in a string, a field that occurs twice and a number that is none. -/
def tangled : String :=
  "\x7b\"summary\": \"\x7d \x7b\", \"skills\": \"Go; C\"," ++
    " \"skills\": [\"Lean \", null], \"n\": NaN\x7d"

theorem Reply.targets_seeThroughProse_tangled :
    decode Profile.target
        (some ("\ufeff[ \x7d Sure:\n```json\n" ++ tangled ++ "\n``` ] \x7b\t")) =
      .ok ⟨"\x7d \x7b", ["Lean"], [], []⟩ := by
  have hread : (readChars tangled.toList).toOption.bind
      (fun v => (Profile.ofValue v).toExcept.toOption) = some ⟨"\x7d \x7b", ["Lean"], [], []⟩ := by
    decide +kernel
  have hbraces : tangled.toList = braced (tangled.toList.drop 1).dropLast := by decide +kernel
  cases hv : readChars tangled.toList with
  | error e => simp [hv, Except.toOption] at hread
  | ok v =>
    cases ha : Profile.ofValue v with
    | invalid ws => simp [hv, ha, Except.toOption, Validation.toExcept] at hread
    | valid a =>
      have hwrapped := targets_seeThroughProse.1.wrapped "\ufeff[ \x7d Sure:\n```json\n" tangled
        "\n``` ] \x7b\t" v a (by decide) (by decide) ⟨⟨_, hbraces⟩, hv⟩ ha
      rw [hwrapped.1]
      simpa [hv, ha, Except.toOption, Validation.toExcept] using hread

end Shortlist
