import Shortlist.Text.Words

/-! # Weighted requirements

A requirement names a skill and weighs it. Requirements whose skills share a normal form are one
requirement: it keeps the place of the first and takes the spelling and the weight of the last.
-/

namespace Shortlist

structure Weighted (ω : Type) where
  skill : String
  weight : ω

/-- A requirement as stored and exchanged. -/
abbrev Requirement := Weighted Float

namespace Weighted

variable {ω : Type}

/-- What tells requirements apart: the normal form of the skill. -/
def key (r : Weighted ω) : String := Text.normalize r.skill

def put (r : Weighted ω) : List (Weighted ω) → List (Weighted ω)
  | [] => [r]
  | x :: xs => if x.key = r.key then r :: xs else x :: put r xs

/-- Requirements without repetition; those whose skill holds no word are left out. -/
def collapse (rs : List (Weighted ω)) : List (Weighted ω) :=
  rs.foldl (fun kept r => if r.key.isEmpty then kept else put r kept) []

end Weighted

end Shortlist
