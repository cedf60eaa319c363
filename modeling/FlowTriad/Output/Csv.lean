/-
`Output/Csv.lean` -- the points of a variable as comma-separated values.

The first row names the columns; every point is one row after it, series by series.
A field that holds a comma, a quote or a line feed is quoted, with its quotes
doubled, so that no field can be taken for two.
-/
import FlowTriad.Variable.Resolution

set_option autoImplicit false

namespace FlowTriad.Csv

/-- The names of the columns. -/
def header : String := "source,time_s,value"

/-- Whether a field cannot stand as it is. -/
def needsQuotes (field : List Char) : Bool :=
  field.any fun c => c == ',' || c == '"' || c == '\n'

/-- A field as it stands in a row. -/
def encodeField (field : List Char) : List Char :=
  if needsQuotes field then
    '"' :: field.flatMap (fun c => if c = '"' then ['"', '"'] else [c]) ++ ['"']
  else field

/-- The number of digits after the point of a time. -/
def timePlaces : Nat := 6

/-- The row of a point, with the end of its line. -/
def row (s : Source) (p : Point) : String :=
  String.ofList (encodeField s.label.toList) ++ "," ++ Decimal.fixed timePlaces p.1 ++ "," ++
    Decimal.plain p.2 ++ "\n"

/-- The rows of a series. -/
def rows (s : PointSeries) : String :=
  String.join (s.points.map (row s.source))

/-- The points of a variable as a text. -/
def text (v : ResolvedVariable) : String :=
  header ++ "\n" ++ String.join (v.series.map rows)

end FlowTriad.Csv
