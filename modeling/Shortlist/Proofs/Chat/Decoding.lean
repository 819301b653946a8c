import Mathlib.Data.List.TakeWhile
import Shortlist.Chat.Reply
import Shortlist.Proofs.Text.Words

/-! # Decoding replies

An object is sliced out of the reply between its outermost braces. A reply gives what is looked for,
or it counts as unusable. There is one exception: the reader gives up on an integer of too many
digits and on lists and objects that are nested too deeply, and what it says then is passed on as it
is.
-/

namespace Shortlist

/-! ## Texts between braces -/

def Json.braced (body : List Char) : List Char := '\x7b' :: (body ++ ['\x7d'])

section Braced

open Text Json

variable {p s body : List Char}

theorem stripChars_wrapped (p body s : List Char) : stripChars (p ++ braced body ++ s) =
    p.dropWhile isBlank ++ braced body ++ dropEndWhile isBlank s := by
  have hopen : isBlank '\x7b' = false := by decide
  have hclose : isBlank '\x7d' = false := by decide
  have hfront : (p ++ braced body ++ s).dropWhile isBlank =
      (p.dropWhile isBlank ++ '\x7b' :: body) ++ '\x7d' :: s := by
    simp [braced, dropWhile_append_cons hopen]
  rw [stripChars, hfront, dropEndWhile_append_cons hclose]
  simp [braced]

theorem stripChars_braced (body : List Char) : stripChars (braced body) = braced body := by
  have h := stripChars_wrapped [] body []
  simpa [dropEndWhile] using h

theorem Reply.objectSlice?_wrapped (hp : '\x7b' ∉ p) (hs : '\x7d' ∉ s) :
    objectSlice? (p ++ braced body ++ s) = some (braced body) := by
  have hfront : (p ++ braced body ++ s).dropWhile (· ≠ '\x7b') =
      ('\x7b' :: body) ++ '\x7d' :: s := by
    have hall : p.dropWhile (· ≠ '\x7b') = [] := by
      rw [List.dropWhile_eq_nil_iff]
      intro c hc
      rw [decide_eq_true_eq]
      rintro rfl
      exact hp hc
    have happend : p ++ braced body ++ s = p ++ '\x7b' :: (body ++ '\x7d' :: s) := by
      simp [braced]
    rw [happend, dropWhile_append_cons (by decide), hall]
    rfl
  have hback : dropEndWhile (· ≠ '\x7d') s = [] := by
    rw [dropEndWhile, List.reverse_eq_nil_iff, List.dropWhile_eq_nil_iff]
    intro c hc
    rw [decide_eq_true_eq]
    rintro rfl
    exact hs (List.mem_reverse.mp hc)
  rw [objectSlice?, hfront, dropEndWhile_append_cons (by decide), hback]
  rfl

theorem Reply.objectSlice?_braced (body : List Char) :
    objectSlice? (braced body) = some (braced body) := by
  have h : objectSlice? ([] ++ braced body ++ []) = some (braced body) :=
    objectSlice?_wrapped (by simp) (by simp)
  rwa [List.nil_append, List.append_nil] at h

end Braced

/-! ## Integers of too many digits -/

namespace Json

open Decimal

/-- Digits that write an integer, but more of them than are read. -/
structure TooLong (ds : List Char) : Prop where
  digit : ∀ c ∈ ds, isDigit c = true
  head_ne : ds.head? ≠ some '0'
  length_lt : maxIntegerDigits < ds.length

def numberObject (ds : List Char) : List Char :=
  '\x7b' :: '"' :: 'n' :: '"' :: ':' :: (ds ++ ['\x7d'])

variable {ds rest : List Char}

theorem TooLong.exists_cons (h : TooLong ds) : ∃ d ds', ds = d :: ds' ∧ isDigit d = true := by
  cases ds with
  | nil => exact absurd h.length_lt (Nat.not_lt_zero _)
  | cons d ds' => exact ⟨d, ds', rfl, h.digit d List.mem_cons_self⟩

theorem constant?_eq_none {d : Char} (hd : isDigit d = true) : constant? (d :: ds) = none := by
  have hwords : constants.all (fun e => e.1.head?.any (!isDigit ·)) = true := by decide
  have hfind : constants.find? (·.1.isPrefixOf (d :: ds)) = none := by
    refine List.find?_eq_none.mpr fun e he hpre => ?_
    have hword := List.all_eq_true.mp hwords e he
    cases hw : e.1 with
    | nil => simp [hw] at hword
    | cons c cs =>
      rw [hw, List.isPrefixOf_cons_cons, Bool.and_eq_true, beq_iff_eq] at hpre
      simp [hw, hpre.1, hd] at hword
  rw [constant?, hfind]
  rfl

namespace TooLong

theorem number_eq (h : TooLong ds) (rest : List Char) :
    number (ds ++ '\x7d' :: rest) = .error ⟨rest.length + 1, .integerTooLong ds.length⟩ := by
  have hbrace : ¬ isDigit '\x7d' = true := by decide
  have htake : (ds ++ '\x7d' :: rest).takeWhile isDigit = ds := by
    rw [List.takeWhile_append_of_pos h.digit, List.takeWhile_cons_of_neg hbrace, List.append_nil]
  have hdrop : (ds ++ '\x7d' :: rest).dropWhile isDigit = '\x7d' :: rest := by
    rw [List.dropWhile_append_of_pos h.digit, List.dropWhile_cons_of_neg hbrace]
  have hfraction : fraction? ('\x7d' :: rest) = none := rfl
  have hexponent : exponent? ('\x7d' :: rest) = none := rfl
  have hafter : numberAfter false ds ('\x7d' :: rest) =
      .error ⟨rest.length + 1, .integerTooLong ds.length⟩ := by
    simp [numberAfter, hfraction, hexponent, h.length_lt]
  obtain ⟨d, ds', rfl, hd⟩ := h.exists_cons
  have hzero : d ≠ '0' := fun he => h.head_ne (congrArg some he)
  have hwhole : whole? (d :: ds' ++ '\x7d' :: rest) = some (d :: ds', '\x7d' :: rest) := by
    rw [List.cons_append] at htake hdrop ⊢
    rw [whole?.eq_2 _ _ hzero, if_pos hd, htake, hdrop]
  rw [List.cons_append] at hwhole ⊢
  rw [number]
  · simp only [hwhole, hafter]
  · intro r he
    rw [(List.cons.inj he).1] at hd
    exact absurd hd (by decide)

theorem value_eq (h : TooLong ds) (fuel depth : Nat) :
    value (fuel + 1) depth (ds ++ '\x7d' :: rest) =
      .error ⟨rest.length + 1, .integerTooLong ds.length⟩ := by
  have hnumber := h.number_eq rest
  obtain ⟨d, ds', rfl, hd⟩ := h.exists_cons
  rw [List.cons_append] at hnumber ⊢
  rw [value]
  · rw [constant?_eq_none hd]
    exact hnumber
  -- None of the characters with which other values begin is a digit.
  all_goals
    intro r he
    rw [(List.cons.inj he).1] at hd
    exact absurd hd (by decide)

theorem skipSpace_eq (h : TooLong ds) : skipSpace (ds ++ rest) = ds ++ rest := by
  obtain ⟨d, ds', rfl, hd⟩ := h.exists_cons
  refine List.dropWhile_cons_of_neg fun hs => ?_
  simp only [isSpace, Bool.or_eq_true, decide_eq_true_eq] at hs
  rcases hs with ((rfl | rfl) | rfl) | rfl <;> exact absurd hd (by decide)

theorem readChars_numberObject (h : TooLong ds) : ∃ position,
    readChars (numberObject ds) = .error ⟨position, .integerTooLong ds.length⟩ := by
  have hmembers (fuel depth : Nat) :
      members (fuel + 2) depth [] ('"' :: 'n' :: '"' :: ':' :: (ds ++ ['\x7d'])) =
        .error ⟨1, .integerTooLong ds.length⟩ := by
    have hname : string ('n' :: '"' :: ':' :: (ds ++ ['\x7d'])) =
        .ok ("n", ':' :: (ds ++ ['\x7d'])) := rfl
    have hcolon : skipSpace (':' :: (ds ++ ['\x7d'])) = ':' :: (ds ++ ['\x7d']) := rfl
    rw [members, hname]
    simp only [bind, Except.bind, hcolon, h.skipSpace_eq, h.value_eq, List.length_nil]
  have hobject (fuel depth : Nat) : value (fuel + 3) (depth + 1) (numberObject ds) =
      .error ⟨1, .integerTooLong ds.length⟩ := by
    have hquote : skipSpace ('"' :: 'n' :: '"' :: ':' :: (ds ++ ['\x7d'])) =
        '"' :: 'n' :: '"' :: ':' :: (ds ++ ['\x7d']) := rfl
    rw [numberObject, value, if_neg (Nat.succ_ne_zero depth)]
    simp [bind, Except.bind, hquote, hmembers]
  have hfuel : 2 * (numberObject ds).length + 2 = 2 * ds.length + 11 + 3 := by
    simp only [numberObject, List.length_cons, List.length_append, List.length_nil]
    omega
  have hread := hobject (2 * ds.length + 11) 979
  rw [← hfuel] at hread
  refine ⟨(numberObject ds).length - 1, ?_⟩
  have hspace : skipSpace (numberObject ds) = numberObject ds := rfl
  rw [readChars, hspace, show maxDepth = 979 + 1 from rfl, hread]

end TooLong

end Json

namespace Reply

variable {α : Type} {target : Target α} {reply : Option String}

/-- The reader gives up on the object in a reply, although it may be one. -/
def Overruns (target : Target α) (reply : Option String) : Prop :=
  let cs := Text.stripChars (reply.getD "").toList
  decodeWhole? target cs = none ∧
    ∃ slice e, objectSlice? cs = some slice ∧ Json.readChars slice = .error e ∧
      e.reason ≠ .malformed

theorem decode_of_not_overruns (h : ¬ Overruns target reply) :
    (∃ a, decode target reply = .ok a) ∨
      ∃ f, decode target reply = .error (.failure f) ∧ f.kind = .responseParse := by
  simp only [decode]
  split
  · exact Or.inl ⟨_, rfl⟩
  · next hwhole =>
    split
    · next slice hslice =>
      simp only [decodeSlice]
      split
      · next e he =>
        split
        · exact Or.inr ⟨_, rfl, rfl⟩
        · next hne => exact (h ⟨hwhole, slice, e, hslice, he, hne⟩).elim
      · split
        · exact Or.inl ⟨_, rfl⟩
        · exact Or.inr ⟨_, rfl, rfl⟩
    · exact Or.inr ⟨_, rfl, rfl⟩

/-- What the reader says when it gives up is passed on. -/
theorem decode_of_overruns (h : Overruns target reply) :
    ∃ kind text, decode target reply = .error (.foreign kind text) := by
  obtain ⟨hwhole, slice, ⟨position, reason⟩, hslice, he, hne⟩ := h
  simp only [decode, hwhole, hslice, decodeSlice, he]
  cases reason with
  | malformed => exact (hne rfl).elim
  | integerTooLong digits => exact ⟨_, _, rfl⟩
  | tooDeep inList => exact ⟨_, _, rfl⟩

theorem overruns_of_tooLong {ds : List Char} (h : Json.TooLong ds) :
    Overruns target (some (String.ofList (Json.numberObject ds))) := by
  obtain ⟨position, he⟩ := h.readChars_numberObject
  have hbraced : Json.numberObject ds = Json.braced ('"' :: 'n' :: '"' :: ':' :: ds) := rfl
  have hstrip : Text.stripChars (Json.numberObject ds) = Json.numberObject ds := by
    rw [hbraced]
    exact stripChars_braced _
  have hslice : objectSlice? (Json.numberObject ds) = some (Json.numberObject ds) := by
    rw [hbraced]
    exact objectSlice?_braced _
  have hwhole : decodeWhole? target (Json.numberObject ds) = none := by
    rw [decodeWhole?, he]
  refine ⟨?_, Json.numberObject ds, ⟨position, _⟩, ?_, he, by simp⟩
  · rwa [Option.getD_some, String.toList_ofList, hstrip]
  · rwa [Option.getD_some, String.toList_ofList, hstrip]

end Reply

end Shortlist
