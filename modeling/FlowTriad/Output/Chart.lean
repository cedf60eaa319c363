/-
`Output/Chart.lean` -- the chart of a variable.

A chart is kept as what it shows: a title, two axes with the ranges they cover, and
one line for each series. The ranges come from the bounds of the points, widened so
that no point lies on the frame and no range is empty. Where points lie at infinity or
too far apart, or none of them has a number for a coordinate, a range has no scale;
the drawing of such a chart breaks off after its title.

The texts of a chart are what can be told of a drawing without its geometry. Those
that are not numbers, and so cannot be mistaken for marks on an axis, are its
captions.
-/
import FlowTriad.Text
import FlowTriad.Text.Casing
import FlowTriad.Variable.Resolution

set_option autoImplicit false

namespace FlowTriad

/-- A colour, by its red, green and blue parts. -/
structure Color where
  red : Nat
  green : Nat
  blue : Nat
  deriving DecidableEq, Repr

/-- The colour of a source's line. -/
def Source.color : Source → Color
  | .kernelSocket => ⟨31, 119, 180⟩
  | .inKernelProbe => ⟨214, 39, 40⟩
  | .trafficGenerator => ⟨44, 160, 44⟩

/-- Whether numbers can be laid out along a range: its width is a number, and finite. -/
def Range.hasScale (r : Range) : Bool :=
  (r.2 - r.1).isFinite

/-- What a chart of one variable shows. -/
structure Chart where
  title : String
  timeAxis : String
  valueAxis : String
  times : Range
  values : Range
  series : List PointSeries
  deriving DecidableEq

namespace Chart

/-! ## 1. Contents -/

/-- The title of a variable, followed by the congestion algorithm in capitals where one
is given that is more than white space. -/
def titleWith (algorithm : Option String) (title : String) : String :=
  match algorithm with
  | none => title
  | some a =>
      let a := Text.trim a.toList
      if a.isEmpty then title else title ++ " - " ++ String.ofList (Text.upper a)

/-- The distance between 1 and the next double. -/
def epsilon : Float := 2.220446049250313e-16

/-- A range with room at both ends: a twentieth of its width, or, where it has none, a
tenth of its distance from zero, or 1 at zero. -/
def paddedRange (lo hi : Float) : Range :=
  let span := hi - lo
  if span.abs < epsilon then
    let pad := if lo.abs < epsilon then 1.0 else lo.abs * 0.1
    (lo - pad, hi + pad)
  else (lo - span * 0.05, hi + span * 0.05)

/-- The label of the time axis. -/
def timeLabel : String := "Time [s]"

/-- The chart of a variable. Without points it shows the range from 0 to 1. -/
def of (algorithm : Option String) (v : ResolvedVariable) : Chart :=
  let (ts, xs) := v.bounds?.getD ((0.0, 1.0), (0.0, 1.0))
  { title := titleWith algorithm v.description.title
    timeAxis := timeLabel
    valueAxis := v.description.axis
    times := paddedRange ts.1 ts.2
    values := paddedRange xs.1 xs.2
    series := v.series }

/-- Whether both axes have a scale, without which nothing but the title is drawn. -/
def hasScale (c : Chart) : Bool :=
  c.times.hasScale && c.values.hasScale

/-! ## 2. Texts -/

/-- A character as it stands in a document with markup. -/
def escaped (c : Char) : List Char :=
  match c with
  | '&' => "&amp;".toList
  | '<' => "&lt;".toList
  | '>' => "&gt;".toList
  | '"' => "&quot;".toList
  | '\'' => "&apos;".toList
  | c => [c]

/-- A text as it stands in a document with markup. -/
def markup (s : String) : String :=
  String.ofList (s.toList.flatMap escaped)

/-- The title and, on a chart with a scale, the labels of the axes and of the series. -/
def texts (c : Chart) : List String :=
  if c.hasScale then [c.title, c.timeAxis, c.valueAxis] ++ c.series.map (·.source.label)
  else [c.title]

/-- Whether a text reads as a number: digits with an optional point, sign and exponent,
or a name for infinity or for what is no number. -/
def isNumeric (s : List Char) : Bool :=
  let unsigned := match s with
    | '+' :: r => r
    | '-' :: r => r
    | r => r
  if ["inf", "infinity", "nan"].contains (String.ofList (unsigned.map Text.foldAscii)) then true
  else
    let whole := unsigned.takeWhile Text.isDigit
    let (fraction, rest) := match unsigned.dropWhile Text.isDigit with
      | '.' :: r => (r.takeWhile Text.isDigit, r.dropWhile Text.isDigit)
      | r => ([], r)
    let tail := match rest with
      | 'e' :: r => some r
      | 'E' :: r => some r
      | [] => some ['0']
      | _ => none
    let digits := tail.map fun r => match r with
      | '+' :: r => r
      | '-' :: r => r
      | r => r
    !(whole.isEmpty && fraction.isEmpty) &&
      (digits.map fun r => !r.isEmpty && r.all Text.isDigit).getD false

/-- The texts that are not numbers, as they stand in the drawing: in byte order, and
each once. -/
def captions (c : Chart) : List String :=
  let shown := c.texts.map fun s => String.ofList (Text.trim (markup s).toList)
  (Keyed.ofList ((shown.filter (!isNumeric ·.toList)).map (·, ()))).entries.map (·.1)

/-! ## 3. Drawing -/

/-- The width and the height of a drawing. -/
def size : Nat × Nat := (1200, 600)

/-- Where a number of a range falls between two places of the drawing. -/
def place (r : Range) (fromPlace toPlace : Float) (x : Float) : String :=
  Decimal.fixed 2 (fromPlace + (x - r.1) / (r.2 - r.1) * (toPlace - fromPlace))

/-- A colour as the drawing names it. -/
def colorText (c : Color) : String :=
  "rgb(" ++ toString c.red ++ "," ++ toString c.green ++ "," ++ toString c.blue ++ ")"

/-- A text at a place of the drawing. -/
def textElement (x y size : Nat) (s : String) : String :=
  "<text x=\"" ++ toString x ++ "\" y=\"" ++ toString y ++
    "\" font-family=\"sans-serif\" font-size=\"" ++ toString size ++ "\">\n" ++ markup s ++
    "\n</text>\n"

/-- The line of a series. -/
def lineElement (c : Chart) (s : PointSeries) : String :=
  let points := s.points.map fun (t, x) =>
    place c.times 100.0 1180.0 t ++ "," ++ place c.values 540.0 60.0 x
  "<polyline fill=\"none\" stroke=\"" ++ colorText s.source.color ++ "\" points=\"" ++
    " ".intercalate points ++ "\"/>\n"

/-- The name space of the elements of a drawing. -/
def drawingNamespace : String :=
  "/".intercalate ["http:", "", "www.w3.org", "2000", "svg"]

/-- The axes with their labels, the lines, and the labels of the lines. -/
def plotElements (c : Chart) : String :=
  let legend := c.series.zipIdx.map fun (s, i) => textElement 120 (80 + 20 * i) 14 s.source.label
  textElement 600 590 18 c.timeAxis ++ textElement 10 50 18 c.valueAxis ++
    String.join (c.series.map c.lineElement) ++ String.join legend

/-- The chart as a drawing in a document with markup. -/
def drawing (c : Chart) : String :=
  let box := toString size.1 ++ "\" height=\"" ++ toString size.2
  "<svg width=\"" ++ box ++ "\" xmlns=\"" ++ drawingNamespace ++ "\">\n" ++
    textElement 480 34 28 c.title ++ (if c.hasScale then c.plotElements else "") ++ "</svg>\n"

end Chart

end FlowTriad
