import Shortlist.Skill.Alias
import Shortlist.Skill.PhraseSet

/-! # Variants of a skill

The spellings of a skill that a match accepts: its normal form, its aliases as a whole, every
combination of its tokens' one-token aliases, and the phrases that arise when aliased sub-phrases
are swapped group by group. A swap can change the number of tokens; a rejoined phrase keeps it.
-/

namespace Shortlist.Skill

open Text

def isSingleToken (phrase : String) : Bool := !phrase.toList.contains ' '

/-- The one-token aliases of a token, the token included. -/
def tokenVariants (token : String) : PhraseSet :=
  let t := normalize token
  if t.isEmpty then [] else .ofList (t :: (aliasesOf t).filter isSingleToken)

/-- The first `cap` ways to choose one item of every list; the last choice varies fastest. -/
def firstChoices (cap : Nat) : List (List String) → List (List String)
  | [] => [[]]
  | options :: rest =>
    let tails := firstChoices cap rest
    (options.flatMap fun option => tails.map (option :: ·)).take cap

def maxRejoins : Nat := 64

/-- The phrases that arise when every token is replaced by one of its variants. -/
def rejoins (skill : String) : PhraseSet :=
  let parts := tokens (normalize skill)
  if parts.isEmpty then []
  else .ofList ((firstChoices maxRejoins (parts.map tokenVariants)).map (join " "))

def longest? : List String → Option String
  | [] => none
  | phrase :: rest =>
    match longest? rest with
    | none => some phrase
    | some other => if phrase.length < other.length then some other else some phrase

/-- The phrases that arise when the longest member of a group inside a phrase is swapped for each
other member. A phrase that is itself a member is left alone. -/
def swaps (group : List String) (phrase : String) : List String :=
  match longest? (group.filter (containsPhrase phrase)) with
  | none => []
  | some old =>
    if old = phrase then []
    else (group.filter (· ≠ old)).map (substitutePhrase phrase old)

def addSwaps (phrases : List String) (group : List String) : List String :=
  phrases ++ phrases.flatMap (swaps group)

def expansions (phrase : String) : List String := aliasGroups.foldl addSwaps [phrase]

/-- The normal forms that count as the same skill; none for a skill without words. -/
def variants (skill : String) : PhraseSet :=
  let base := normalize skill
  if base.isEmpty then []
  else
    .ofList
      (base :: aliasesOf base ++
        if 1 < (tokens base).length then rejoins base ++ expansions base else [])

end Shortlist.Skill
