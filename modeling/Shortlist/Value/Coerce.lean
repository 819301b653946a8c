import Shortlist.Text.Blank
import Shortlist.Value.Text

/-! # Loose readings

Text-generation services answer with a text where a list is due, with null where a text is due, and
so on. Every value has a loose reading as a list and one as a text.
-/

namespace Shortlist.Value

/-- The non-blank parts of a text between commas and semicolons, trimmed. -/
def listedParts (s : String) : List String :=
  let parts := Text.split ',' (String.ofList (s.toList.map fun c => if c = ';' then ',' else c))
  (parts.map Text.strip).filter (!·.isEmpty)

/-- A list stands for itself, null for no items, a text for its listed parts, and any other value
for itself as the only item. -/
def asList : Value → List Value
  | .null => []
  | .text s => (listedParts s).map .text
  | .list items => items
  | v => [v]

def trimmedTexts (vs : List Value) : List String :=
  (vs.map fun v => Text.strip v.plain).filter (!·.isEmpty)

/-- The trimmed text of a value; null has the empty text, and the items of a list are joined. -/
def asText : Value → String
  | .null => ""
  | .list items => Text.join " " (trimmedTexts items)
  | v => Text.strip v.plain

def isNull : Value → Bool
  | .null => true
  | _ => false

/-- The trimmed non-blank texts that a value lists, nulls left out. -/
def asTexts (v : Value) : List String := trimmedTexts (v.asList.filter (!·.isNull))

end Shortlist.Value
