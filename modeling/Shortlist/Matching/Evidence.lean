import Shortlist.Candidate.Profile
import Shortlist.Skill.Variants

/-! # Evidence

What a requirement is compared with: the accepted spellings of the candidate's skills, their tokens,
and the free text of the profile in normal form.
-/

namespace Shortlist

structure Evidence where
  variants : PhraseSet
  tokens : PhraseSet
  corpus : String

namespace Profile

def variants (p : Profile) : PhraseSet := .ofList (p.skills.flatMap Skill.variants)

/-- The texts about the candidate other than the skills. -/
def freeTexts (p : Profile) : List String :=
  p.summary ::
    ((p.experience.flatMap fun e => [e.company, e.role, e.description]) ++
      p.education.flatMap fun e => [e.institution, e.degree])

def corpus (p : Profile) : String :=
  Text.normalize (Text.join " " (p.freeTexts.filter (!·.isEmpty)))

end Profile

namespace Evidence

/-- The tokens of some phrases with their one-token aliases. -/
def tokensOf (phrases : PhraseSet) : PhraseSet :=
  .ofList ((phrases.flatMap Text.tokens).flatMap Skill.tokenVariants)

def ofProfile (p : Profile) : Evidence :=
  ⟨p.variants, tokensOf p.variants, p.corpus⟩

end Evidence

end Shortlist
