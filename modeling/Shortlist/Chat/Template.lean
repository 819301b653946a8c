import Shortlist.Text.Split

/-! # Templates

Texts with slots. The source of a template writes a slot as its name between braces, and a brace of
the text twice.
-/

namespace Shortlist

inductive Template.Piece where
  | text (s : String)
  | slot (name : String)

abbrev Template := List Template.Piece

namespace Template

def doubleBraces (s : String) : String :=
  String.ofList (s.toList.flatMap fun c => if c = '\x7b' || c = '\x7d' then [c, c] else [c])

def Piece.source : Piece → String
  | .text s => doubleBraces s
  | .slot name => "\x7b" ++ name ++ "\x7d"

/-- How the template is written down. -/
def source (t : Template) : String := Text.join "" (t.map Piece.source)

def Piece.fill (values : List (String × String)) : Piece → String
  | .text s => s
  | .slot name => (values.lookup name).getD ""

def fill (t : Template) (values : List (String × String)) : String :=
  Text.join "" (t.map (Piece.fill values))

end Template

end Shortlist
