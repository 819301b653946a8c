import Shortlist.Matching.Evidence

/-! # Tiers

How well a candidate meets a required skill: by a listed skill, by the free text of the profile, by
most of the skill's tokens, or not. Each tier earns a credit.
-/

namespace Shortlist

inductive Tier where
  /-- A listed skill has a common spelling with the requirement. -/
  | listed
  /-- A spelling of the requirement stands in the free text. -/
  | mentioned
  /-- The candidate's skills have most tokens of the requirement. -/
  | overlapping
  | absent
deriving DecidableEq, Repr

/-- The share of a phrase's tokens that are found elsewhere. -/
structure Overlap where
  hits : Nat
  size : Nat
deriving DecidableEq, Repr

namespace Overlap

def nothing : Overlap := ⟨0, 1⟩

/-- The larger of two shares, the first if they are equal. -/
def best (a b : Overlap) : Overlap := if a.hits * b.size < b.hits * a.size then b else a

/-- The share of a phrase of at least two tokens. -/
def ofPhrase (known : PhraseSet) (phrase : String) : Overlap :=
  let tokens := Text.tokens phrase
  if tokens.length < 2 then nothing else ⟨tokens.countP known.contains, tokens.length⟩

def ofPhrases (known phrases : PhraseSet) : Overlap :=
  phrases.foldl (fun found phrase => found.best (ofPhrase known phrase)) nothing

def isSufficient (o : Overlap) : Bool := 3 * o.size ≤ 5 * o.hits

def toFloat (o : Overlap) : Float := Float.ofNat o.hits / Float.ofNat o.size

end Overlap

namespace Tier

variable {ω : Type}

def credit [OfScientific ω] : Tier → ω
  | .listed => 1.0
  | .mentioned => 0.8
  | .overlapping => 0.6
  | .absent => 0.0

def isMatch : Tier → Bool
  | .absent => false
  | _ => true

/-- The tier of a required skill. Only skills of several tokens can match by some of them. -/
def ofSkill (e : Evidence) (skill : String) : Tier :=
  let spellings := Skill.variants skill
  if spellings.meets e.variants then .listed
  else if spellings.any (Text.containsPhrase e.corpus) then .mentioned
  else if 1 < (Text.tokens (Text.normalize skill)).length &&
      (Overlap.ofPhrases e.tokens (Skill.rejoins skill)).isSufficient then .overlapping
  else .absent

end Tier

end Shortlist
