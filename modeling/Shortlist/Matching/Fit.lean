import Shortlist.Matching.Tier
import Shortlist.Skill.Requirement
import Shortlist.Validation.Record
import Shortlist.Validation.Scalar

/-! # Fit

Which requirements a candidate meets, and the average of the credits earned, weighted by the
requirements. The score is computed in any type of numbers that has what it takes.
-/

namespace Shortlist

structure Fit (ω : Type) where
  matched : List String
  missing : List String
  score : ω

section Score

variable {ω : Type} [OfScientific ω] [Add ω] [Mul ω] [Div ω] [LT ω] [DecidableLT ω]

/-- Anything not above zero becomes zero. -/
def clampLow (x : ω) : ω := if (0.0 : ω) < x then x else 0.0

/-- Anything not below one becomes one. -/
def clampHigh (x : ω) : ω := if x < (1.0 : ω) then x else 1.0

/-- A requirement with the tier it was met in. -/
abbrev Graded (ω : Type) := Weighted ω × Tier

/-- The weights counted, and the credits earned with them. -/
def totals (graded : List (Graded ω)) : ω × ω :=
  graded.foldl
    (fun (total, earned) (r, tier) =>
      let weight := clampLow r.weight
      (total + weight, earned + weight * tier.credit))
    (0.0, 0.0)

/-- The weighted mean of the credits, between zero and one; zero where nothing has weight. -/
def score (graded : List (Graded ω)) : ω :=
  let (total, earned) := totals graded
  clampHigh (clampLow (if (0.0 : ω) < total then earned / total else 0.0))

def grade (e : Evidence) (requirements : List (Weighted ω)) : List (Graded ω) :=
  (Weighted.collapse requirements).map fun r => (r, .ofSkill e r.skill)

def Profile.fit (p : Profile) (requirements : List (Weighted ω)) : Fit ω :=
  let graded := grade (.ofProfile p) requirements
  let skills (keep : Tier → Bool) := (graded.filter fun g => keep g.2).map fun g => g.1.skill
  ⟨skills Tier.isMatch, skills fun t => !t.isMatch, score graded⟩

end Score

namespace Fit

open Validation

def ofFields (fs : Fields) : Validation (Fit Float) :=
  mk <$> optional "matched_skills" [] (list text) fs
    <*> optional "missing_skills" [] (list text) fs
    <*> optional "score" 0.0 float fs

def ofValue : Value → Validation (Fit Float) := record .notRecord ofFields

def toValue (f : Fit Float) : Value :=
  .record
    [("matched_skills", .texts f.matched), ("missing_skills", .texts f.missing),
      ("score", .float f.score)]

end Fit

end Shortlist
