import Shortlist.Text.CapitalTable

/-! # Upper case

Full upper-casing. Some characters, such as the sharp s and ligatures, become several capitals.
-/

namespace Shortlist.Text

def upperOne (c : Char) : List Char :=
  match capitalSequences.lookup c.toNat with
  | some sequence => sequence.map Char.ofNat
  | none => [CaseRun.map capitalRuns c]

def upper (s : String) : String := String.ofList (s.toList.flatMap upperOne)

end Shortlist.Text
