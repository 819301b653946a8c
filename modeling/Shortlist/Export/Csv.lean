import Shortlist.Text.Split

/-! # Comma-separated rows

A field is put between quotes only when it has to be; inside the quotes a quote is written twice.
Every row ends with a line feed. A carriage return ends no row: earlier releases of the library that
writes the rows leave it bare, later ones put it between quotes.
-/

namespace Shortlist.Csv

/-- Which line breaks call for quotes. -/
inductive Quoting where
  | feeds
  | feedsAndReturns
deriving DecidableEq, Repr

def Quoting.calledForBy (quoting : Quoting) (c : Char) : Bool :=
  c = ',' || c = '"' || c = '\n' || (c = '\r' && quoting = .feedsAndReturns)

def doubleQuotes (cs : List Char) : List Char :=
  cs.flatMap fun c => if c = '"' then ['"', '"'] else [c]

variable (quoting : Quoting)

def field (cs : List Char) : List Char :=
  if cs.any quoting.calledForBy then '"' :: (doubleQuotes cs ++ ['"']) else cs

def row (fields : List (List Char)) : List Char :=
  [','].intercalate (fields.map (field quoting)) ++ ['\n']

def table (rows : List (List String)) : String :=
  String.ofList (rows.flatMap fun r => row quoting (r.map String.toList))

end Shortlist.Csv
