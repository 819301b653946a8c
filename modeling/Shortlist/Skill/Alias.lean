import Shortlist.Skill.PhraseSet

/-! # Alias groups

Spellings that count as the same skill. The groups are listed in any order and spelling. What is
looked up are their members in normal form, so that `ci/cd` and `ci cd` are one member; the table of
these is written out, and follows from the list. No phrase belongs to two groups, but a member of
one group can hold a member of another as a sub-phrase.
-/

namespace Shortlist.Skill

open Text

def listedGroups : List (List String) :=
  [["postgres", "postgresql"],
    ["k8s", "kubernetes"],
    ["go", "golang"],
    ["js", "javascript"],
    ["ts", "typescript"],
    ["rest", "rest api"],
    ["cicd", "ci cd", "ci/cd"],
    ["nodejs", "node js", "node.js"],
    ["reactjs", "react js", "react.js", "react"],
    ["aws", "amazon web services"],
    ["gcp", "google cloud", "google cloud platform"],
    ["azure", "microsoft azure"],
    ["ml", "machine learning"]]

def membersOf (listed : List String) : PhraseSet :=
  .ofList ((listed.map normalize).filter (!·.isEmpty))

/-- The group that a phrase is listed in, the last one if there are several. -/
def listedGroup? (phrase : String) : Option PhraseSet :=
  (listedGroups.map membersOf).reverse.find? (·.contains phrase)

/-- Groups in the order of their members, the members of a group in ascending order. -/
def aliasGroups : List (List String) :=
  [["amazon web services", "aws"],
    ["azure", "microsoft azure"],
    ["ci cd", "cicd"],
    ["gcp", "google cloud", "google cloud platform"],
    ["go", "golang"],
    ["javascript", "js"],
    ["k8s", "kubernetes"],
    ["machine learning", "ml"],
    ["node js", "nodejs"],
    ["postgres", "postgresql"],
    ["react", "react js", "reactjs"],
    ["rest", "rest api"],
    ["ts", "typescript"]]

/-- The members of the group that a phrase belongs to; none for a phrase without aliases. -/
def aliasesOf (phrase : String) : List String :=
  (aliasGroups.find? (·.contains phrase)).getD []

end Shortlist.Skill
