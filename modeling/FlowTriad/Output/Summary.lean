/-
`Output/Summary.lean` -- what a run reports at its end.

The summary says where time begins, how much each source contributed, which
variables were drawn and into which files, and which were passed over and why. It
exists as a text to be read and as a JSON document to be processed; both say the
same.
-/
import FlowTriad.Comparison
import FlowTriad.Instant
import FlowTriad.Json.Writer
import FlowTriad.Text

set_option autoImplicit false

namespace FlowTriad

/-- The version of the program. -/
def programVersion : String := "0.1.0"

/-- The name of the program. -/
def programName : String := "tcpinfo-xval"

/-- What one source contributed. -/
structure SourceSummary where
  source : Source
  samples : Nat
  /-- The times of its first and last sample. -/
  first : Float
  last : Float
  /-- The number of discarded records, where the source reports in lines. -/
  discarded : Option Nat
  deriving DecidableEq

/-- The files of a variable. -/
structure Rendered where
  name : String
  chart : String
  table : Option String
  deriving DecidableEq, Repr

/-- The report of a run. -/
structure Summary where
  epoch : Instant
  epochSource : Source
  sources : List SourceSummary
  rendered : List Rendered
  skipped : List Unresolved
  deriving DecidableEq

namespace Summary

/-- The summary of a comparison of which nothing is drawn yet. -/
def of (c : Comparison) : Summary :=
  let discarded (s : Source) : Option Nat :=
    match s with
    | .kernelSocket => some c.kernelCount.discarded
    | .inKernelProbe => some c.probeCount.discarded
    | .trafficGenerator => none
  { epoch := c.set.epoch
    epochSource := c.set.epochSource
    sources := c.set.toList.map fun s =>
      let (first, last) := s.span?.getD (0.0, 0.0)
      ⟨s.source, s.samples.length, first, last, discarded s.source⟩
    rendered := []
    skipped := c.resolution.skipped }

/-- The summary with the files of one more variable. -/
def add (s : Summary) (r : Rendered) : Summary :=
  { s with rendered := s.rendered ++ [r] }

/-! ## 1. As a text -/

/-- The line of a source. -/
def sourceLine (s : SourceSummary) : String :=
  "  " ++ Text.alignLeft 8 s.source.label ++ " " ++ Text.alignRight 6 (toString s.samples) ++
    " samples  " ++ Text.alignRight 10 (Decimal.fixed 3 s.first) ++ "s .. " ++
    Decimal.fixed 3 s.last ++ "s" ++
    (match s.discarded with
     | some n => "  (" ++ toString n ++ " records filtered)"
     | none => "") ++ "\n"

/-- The line of a variable that was drawn. -/
def renderedLine (r : Rendered) : String :=
  "  " ++ Text.alignLeft 10 r.name ++ " " ++ r.chart ++
    (match r.table with
     | some t => ", " ++ t
     | none => "") ++ "\n"

/-- The summary to be read. The variables that were passed over are named only if there
are any. -/
def text (s : Summary) : String :=
  "epoch: " ++ s.epoch.written ++ " (" ++ s.epochSource.name ++ ")\n" ++
    String.join (s.sources.map sourceLine) ++
    "rendered " ++ toString s.rendered.length ++ " variable(s):\n" ++
    String.join (s.rendered.map renderedLine) ++
    (if s.skipped.isEmpty then ""
     else
      "skipped " ++ toString s.skipped.length ++ " variable(s):\n" ++
        String.join (s.skipped.map fun u => "  " ++ u.message ++ "\n"))

/-! ## 2. As a document -/

/-- The name of the document's format. -/
def formatName : String := "tcpinfo-xval-summary-v1"

/-- A member that is left out where it has no value. -/
def optionalMember (name : String) (v : Option Json) : List (String × Json) :=
  (v.map (name, ·)).toList

/-- A count as a JSON value. -/
def count (n : Nat) : Json :=
  .number (.integer n)

/-- A source in the document. -/
def sourceJson (s : SourceSummary) : Json :=
  .object ([("source", .string s.source.name), ("label", .string s.source.label),
    ("samples", count s.samples), ("first_s", .number (.real s.first)),
    ("last_s", .number (.real s.last))] ++ optionalMember "discarded" (s.discarded.map count))

/-- A variable that was drawn, in the document. -/
def renderedJson (r : Rendered) : Json :=
  .object ([("variable", .string r.name), ("chart", .string r.chart)] ++
    optionalMember "csv" (r.table.map .string))

/-- A variable that was passed over, in the document. -/
def skippedJson (u : Unresolved) : Json :=
  .object [("variable", .string u.name), ("source", .string u.source.name), ("key", .string u.key),
    ("sample_index", count u.sample), ("reason", .string u.message)]

/-- The summary as a JSON value, its members in the order of the format. -/
def json (s : Summary) : Json :=
  .object [("version", .string programVersion), ("format", .string formatName),
    ("epoch", .string s.epoch.written), ("epoch_source", .string s.epochSource.name),
    ("sources", .array (s.sources.map sourceJson)),
    ("rendered", .array (s.rendered.map renderedJson)),
    ("skipped", .array (s.skipped.map skippedJson))]

/-- The summary to be processed. -/
def document (s : Summary) : String :=
  s.json.pretty

end Summary

end FlowTriad
