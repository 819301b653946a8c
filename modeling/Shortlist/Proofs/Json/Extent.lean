import Mathlib.Data.List.TakeWhile
import Shortlist.Json.Reader

/-! # How far a reading goes

Reading the beginning of a text leaves an end of it. An object is read from an opening brace, and
what is left begins right behind a closing one.
-/

namespace Shortlist.Json

open Decimal

variable {α β : Type}

inductive Gives (P : α → List Char → Prop) : Except Stuck (α × List Char) → Prop where
  | stuck (s : Stuck) : Gives P (.error s)
  | ok {a : α} {rest : List Char} (h : P a rest) : Gives P (.ok (a, rest))

namespace Gives

variable {x : Except Stuck (α × List Char)} {P P' : α → List Char → Prop}
  {Q : β → List Char → Prop} {a : α} {rest : List Char}

theorem of_eq_ok (hx : Gives P x) (h : x = .ok (a, rest)) : P a rest := by
  subst h
  cases hx with
  | ok ha => exact ha

theorem mono (hx : Gives P x) (h : ∀ a rest, P a rest → P' a rest) : Gives P' x := by
  cases hx with
  | stuck s => exact .stuck s
  | ok ha => exact .ok (h _ _ ha)

theorem map {f : α × List Char → β × List Char} (hx : Gives P x)
    (h : ∀ a rest, P a rest → Q (f (a, rest)).1 (f (a, rest)).2) : Gives Q (x.map f) := by
  cases hx with
  | stuck s => exact .stuck s
  | ok ha => exact .ok (h _ _ ha)

theorem bind {f : α × List Char → Except Stuck (β × List Char)} (hx : Gives P x)
    (h : ∀ a rest, P a rest → Gives Q (f (a, rest))) : Gives Q (x >>= f) := by
  cases hx with
  | stuck s => exact .stuck s
  | ok ha => exact h _ _ ha

end Gives

variable {cs rest : List Char}

theorem skipSpace_suffix (cs : List Char) : skipSpace cs <:+ cs := List.dropWhile_suffix _

/-! ## Strings and constants -/

theorem gives_stringFrom (opening : List Char) (high : Option Nat) (cs : List Char) :
    Gives (fun _ rest => rest <:+ cs) (stringFrom opening high cs) := by
  fun_induction stringFrom opening high cs with
  | case1 | case2 | case6 | case8 | case10 => exact .stuck _
  | case9 => exact .ok (List.suffix_cons _ _)
  -- An escaped code unit takes six characters, any other escape two.
  | case3 _ _ _ _ _ _ _ _ _ _ ih | case4 _ _ _ _ _ _ _ _ _ _ _ ih | case5 _ _ _ _ _ _ _ _ _ ih =>
    exact ih.map fun _ _ h => h.trans ⟨[_, _, _, _, _, _], rfl⟩
  | case7 _ _ _ _ _ _ ih => exact ih.map fun _ _ h => h.trans ⟨[_, _], rfl⟩
  | case11 _ _ _ _ _ _ _ _ ih => exact ih.map fun _ _ h => h.trans (List.suffix_cons _ _)

theorem gives_string (cs : List Char) : Gives (fun _ rest => rest <:+ cs) (string cs) :=
  (gives_stringFrom _ _ cs).map fun _ _ h => h

/-- A value that is no record is read from the beginning of a text. -/
structure ScalarRead (cs : List Char) (v : Value) (rest : List Char) : Prop where
  suffix : rest <:+ cs
  ne_record : ∀ fs, v ≠ .record fs

theorem scalarRead_constant? {v : Value} (h : constant? cs = some (v, rest)) :
    ScalarRead cs v rest := by
  obtain ⟨⟨word, w⟩, hw, he⟩ := Option.map_eq_some_iff.mp h
  cases he
  have hmem := List.mem_of_find?_eq_some hw
  simp only [constants, List.mem_cons, Prod.mk.injEq, List.not_mem_nil, or_false] at hmem
  constructor
  · exact List.drop_suffix _ _
  · rcases hmem with ⟨-, rfl⟩ | ⟨-, rfl⟩ | ⟨-, rfl⟩ | ⟨-, rfl⟩ | ⟨-, rfl⟩ | ⟨-, rfl⟩
    all_goals rintro fs ⟨⟩

/-! ## Numbers -/

theorem whole?_suffix {ds : List Char} (h : whole? cs = some (ds, rest)) : rest <:+ cs := by
  unfold whole? at h
  split at h
  · cases h
    exact List.suffix_cons _ _
  · split at h
    · cases h
      exact List.dropWhile_suffix _
    · cases h
  · cases h

theorem fraction?_suffix {ds : List Char} (h : fraction? cs = some (ds, rest)) : rest <:+ cs := by
  unfold fraction? at h
  split at h
  · dsimp only at h
    split at h
    · cases h
    · cases h
      exact (List.dropWhile_suffix _).trans (List.suffix_cons _ _)
  · cases h

theorem exponent?_suffix {n : Int} (h : exponent? cs = some (n, rest)) : rest <:+ cs := by
  have hdigits {m : Int} {ds : List Char} (h : (if (ds.takeWhile isDigit).isEmpty then none
      else some (m, ds.dropWhile isDigit)) = some (n, rest)) : rest <:+ ds := by
    split at h
    · cases h
    · cases h
      exact List.dropWhile_suffix _
  unfold exponent? at h
  split at h
  · split at h
    · dsimp only at h
      split at h
      · exact (hdigits h).trans ⟨[_, _], rfl⟩
      · exact (hdigits h).trans ⟨[_, _], rfl⟩
      · exact (hdigits h).trans (List.suffix_cons _ _)
    · cases h
  · cases h

theorem gives_numberAfter (negative : Bool) (whole rest : List Char) :
    Gives (ScalarRead rest) (numberAfter negative whole rest) := by
  have hfraction : ((fraction? rest).map Prod.snd).getD rest <:+ rest := by
    cases hf : fraction? rest with
    | none => exact List.suffix_rfl
    | some found => exact fraction?_suffix hf
  have hexponent (ds : List Char) : ((exponent? ds).map Prod.snd).getD ds <:+ ds := by
    cases he : exponent? ds with
    | none => exact List.suffix_rfl
    | some found => exact exponent?_suffix he
  unfold numberAfter
  dsimp only
  split
  · split
    · exact .stuck _
    · exact .ok ⟨List.suffix_rfl, fun fs => by simp⟩
  · exact .ok ⟨(hexponent _).trans hfraction, fun fs => by simp⟩

theorem gives_number (cs : List Char) : Gives (ScalarRead cs) (number cs) := by
  unfold number
  dsimp only
  split
  · next whole after hw =>
    apply (gives_numberAfter _ whole after).mono
    rintro v rest ⟨h, hv⟩
    constructor
    · apply (h.trans (whole?_suffix hw)).trans
      split
      · exact List.suffix_cons _ _
      · exact List.suffix_rfl
    · exact hv
  · exact .stuck _

/-! ## Values -/

/-- A value is read from the beginning of a text, and a record from one brace to another. -/
structure ValueRead (cs : List Char) (v : Value) (rest : List Char) : Prop where
  suffix : rest <:+ cs
  braces : ∀ fs, v = .record fs → ∃ body, cs = '\x7b' :: body ∧ '\x7d' :: rest <:+ body

theorem ScalarRead.valueRead {v : Value} (h : ScalarRead cs v rest) : ValueRead cs v rest :=
  ⟨h.suffix, fun fs hfs => (h.ne_record fs hfs).elim⟩

/-- What stands behind the opening brace of a record is read up to its closing brace. -/
theorem valueRead_record {fs : Fields} (h : '\x7d' :: rest <:+ cs) :
    ValueRead ('\x7b' :: cs) (.record fs) rest where
  suffix := (List.suffix_cons _ _).trans (h.trans (List.suffix_cons _ _))
  braces _ _ := ⟨cs, rfl, h⟩

section Nested

variable {fuel : Nat}
  (hvalue : ∀ depth cs, Gives (ValueRead cs) (value fuel depth cs))
  (hitems : ∀ depth cs, Gives (fun _ rest => rest <:+ cs) (items fuel depth cs))
  (hmembers : ∀ depth fs cs, Gives (fun _ rest => '\x7d' :: rest <:+ cs)
    (members fuel depth fs cs))

include hvalue hitems in
theorem gives_items_succ (depth : Nat) (cs : List Char) :
    Gives (fun _ rest => rest <:+ cs) (items (fuel + 1) depth cs) := by
  rw [items]
  apply (hvalue depth cs).bind
  intro v rest hv
  have hrest := (skipSpace_suffix rest).trans hv.suffix
  dsimp only
  split
  · next r hr =>
    rw [hr] at hrest
    exact .ok ((List.suffix_cons _ _).trans hrest)
  · next r hr =>
    rw [hr] at hrest
    apply (hitems depth (skipSpace r)).bind
    intro vs after hvs
    exact .ok (hvs.trans ((skipSpace_suffix r).trans ((List.suffix_cons _ _).trans hrest)))
  · exact .stuck _

include hvalue hmembers in
theorem gives_members_succ (depth : Nat) (fs : Fields) (cs : List Char) :
    Gives (fun _ rest => '\x7d' :: rest <:+ cs) (members (fuel + 1) depth fs cs) := by
  unfold members
  split
  · next cs =>
    apply (gives_string cs).bind
    intro name rest hname
    have hrest := (skipSpace_suffix rest).trans (hname.trans (List.suffix_cons '"' cs))
    dsimp only
    split
    · next r hr =>
      rw [hr] at hrest
      apply (hvalue depth (skipSpace r)).bind
      intro v after hv
      have hafter := (skipSpace_suffix after).trans (hv.suffix.trans ((skipSpace_suffix r).trans
        ((List.suffix_cons _ _).trans hrest)))
      dsimp only
      split
      · next r' hr' =>
        rw [hr'] at hafter
        exact .ok hafter
      · next r' hr' =>
        rw [hr'] at hafter
        apply (hmembers depth _ _).mono
        intro _ _ h
        exact h.trans ((skipSpace_suffix r').trans ((List.suffix_cons _ _).trans hafter))
      · exact .stuck _
    · exact .stuck _
  · exact .stuck _

include hitems hmembers in
theorem gives_value_succ (depth : Nat) (cs : List Char) :
    Gives (ValueRead cs) (value (fuel + 1) depth cs) := by
  unfold value
  split
  · next rest =>
    apply (gives_string rest).bind
    intro s r h
    apply Gives.ok
    exact ScalarRead.valueRead ⟨h.trans (List.suffix_cons _ _), fun fs => by simp⟩
  · next rest =>
    have hspace := skipSpace_suffix rest
    split
    · exact .stuck _
    · split
      · next r hr =>
        rw [hr] at hspace
        exact .ok (valueRead_record hspace)
      · apply (hmembers (depth - 1) [] _).bind
        intro fs r h
        exact .ok (valueRead_record (h.trans hspace))
  · next rest =>
    have hspace := skipSpace_suffix rest
    split
    · exact .stuck _
    · split
      · next r hr =>
        rw [hr] at hspace
        exact .ok (ScalarRead.valueRead ⟨(List.suffix_cons _ _).trans
          (hspace.trans (List.suffix_cons _ _)), fun fs => by simp⟩)
      · apply (hitems (depth - 1) _).bind
        intro vs r h
        apply Gives.ok
        exact ScalarRead.valueRead
          ⟨(h.trans hspace).trans (List.suffix_cons _ _), fun fs => by simp⟩
  · split
    · next found hfound => exact .ok (scalarRead_constant? hfound).valueRead
    · exact (gives_number cs).mono fun _ _ => ScalarRead.valueRead

end Nested

theorem gives_nested (fuel : Nat) :
    (∀ depth cs, Gives (ValueRead cs) (value fuel depth cs)) ∧
      (∀ depth cs, Gives (fun _ rest => rest <:+ cs) (items fuel depth cs)) ∧
      ∀ depth fs cs, Gives (fun _ rest => '\x7d' :: rest <:+ cs) (members fuel depth fs cs) := by
  induction fuel with
  | zero =>
    refine ⟨fun depth cs => ?_, fun depth cs => ?_, fun depth fs cs => ?_⟩
    · rw [value]
      exact .stuck _
    · rw [items]
      exact .stuck _
    · rw [members]
      exact .stuck _
  | succ fuel ih =>
    obtain ⟨hvalue, hitems, hmembers⟩ := ih
    exact ⟨gives_value_succ hitems hmembers, gives_items_succ hvalue hitems,
      gives_members_succ hvalue hmembers⟩

theorem gives_value (fuel depth : Nat) (cs : List Char) :
    Gives (ValueRead cs) (value fuel depth cs) := (gives_nested fuel).1 depth cs

/-- A text that writes a record has it between two braces, with nothing but white space around. -/
theorem exists_braces_of_readChars {fs : Fields} (h : readChars cs = .ok (.record fs)) :
    ∃ lead body trail, cs = lead ++ ('\x7b' :: body ++ ['\x7d']) ++ trail ∧
      (∀ c ∈ lead, isSpace c = true) ∧ ∀ c ∈ trail, isSpace c = true := by
  simp only [readChars] at h
  split at h
  · cases h
  · next v rest hv =>
    split at h
    · next hrest =>
      cases h
      obtain ⟨inside, hcs, body, hbody⟩ := ((gives_value _ _ _).of_eq_ok hv).braces fs rfl
      refine ⟨cs.takeWhile isSpace, body, rest, ?_, fun c hc => List.mem_takeWhile_imp hc,
        List.dropWhile_eq_nil_iff.mp hrest⟩
      calc
        cs = cs.takeWhile isSpace ++ skipSpace cs := List.takeWhile_append_dropWhile.symm
        _ = _ := by rw [hcs, ← hbody]; simp
    · cases h

end Shortlist.Json
