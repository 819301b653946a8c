import Shortlist.Failure.Basic

/-! # Values where a text is due

What is handed in by others may be any value. Only a text can be used as one; where a text may be
left out, every empty value stands for the empty text.
-/

namespace Shortlist.Value

def expectText : Value → Except Fault String
  | .text s => .ok s
  | _ => .error (.foreign .attribute "")

/-- A value that has to be a text or empty. -/
def expectTextIfAny (v : Value) : Except Fault String :=
  if v.isFalsy then .ok "" else v.expectText

/-- Values that have to be texts, counted from `index`. -/
def expectTextsFrom (index : Nat) : List Value → Except Fault (List String)
  | [] => .ok []
  | .text s :: rest => (s :: ·) <$> expectTextsFrom (index + 1) rest
  | v :: _ =>
    .error <| .foreign .type <|
      "sequence item " ++ toString index ++ ": expected str instance, " ++ v.kindName ++ " found"

def expectTexts (vs : List Value) : Except Fault (List String) := expectTextsFrom 0 vs

end Shortlist.Value
