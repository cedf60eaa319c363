/-
`FlowTriad.lean` -- one connection, seen from three places.

The kernel's socket interface, a probe inside the kernel and the tool that generates
the traffic all report on the same connection, each in its own units and with its own
clock. This library reads the three captures, puts them on one time axis, brings the
quantities they share to one unit, and draws each quantity as three lines in one
chart, so that a disagreement can be seen.

The way of the data is the order in which to read: `Capture` (what the files say),
`Timeline` (when), `Alignment` (since when), `Variable` (in which unit), `Comparison`
(all of it), `Output` (charts, tables, summaries) and `Session` (a run of the program).

`Proofs` follows the same way: which captures, reports, timestamps and settings are accepted,
what an other one is refused for and what the readers keep of a text, that neither a capture
nor a report gets out of order when it is put in time, what an alignment is and which series
it leaves in order, when a distance in time is the same both ways, what becomes of the
numbers of a sample, that variables have nothing to do with each other, what laying tables of
names over each other makes of them, that the spelling of a name does not matter, and of a
comparison what it keeps, what it is refused for, when it breaks off, what the settings of
variables cannot reach, and when one file under two names is still one file. The last of them
say what a run brings out: that the axes of a chart hold all points, that an exported table
is read back, field by field and double by double, which directory the outputs go into, and
what is left behind, when the run fails, of the variables before, and when it succeeds, of
those that its summary names. Below them is what is known of doubles, which times and values
are, and of the decimals that they are written as, of JSON documents, of days, of tables, and
of paths and files.
-/
import FlowTriad.Alignment
import FlowTriad.Calendar
import FlowTriad.Capture.Lines
import FlowTriad.Capture.Record
import FlowTriad.Capture.Report
import FlowTriad.CommandLine
import FlowTriad.Comparison
import FlowTriad.Decimal.Layout
import FlowTriad.Decimal.Numeral
import FlowTriad.Decimal.Parts
import FlowTriad.Decimal.Shortest
import FlowTriad.Fault
import FlowTriad.Files
import FlowTriad.Instant
import FlowTriad.Instant.ReportTime
import FlowTriad.Instant.Stamp
import FlowTriad.Json
import FlowTriad.Json.Reader
import FlowTriad.Json.Writer
import FlowTriad.Keyed
import FlowTriad.Main
import FlowTriad.Output.Chart
import FlowTriad.Output.Csv
import FlowTriad.Output.Summary
import FlowTriad.Path
import FlowTriad.Proofs.Alignment.Sorted
import FlowTriad.Proofs.Alignment.Specification
import FlowTriad.Proofs.Calendar
import FlowTriad.Proofs.Capture.Contents
import FlowTriad.Proofs.Capture.Format
import FlowTriad.Proofs.Capture.Kept
import FlowTriad.Proofs.Capture.LineKind
import FlowTriad.Proofs.Capture.Report
import FlowTriad.Proofs.Capture.ReportFormat
import FlowTriad.Proofs.Capture.Sharing
import FlowTriad.Proofs.Comparison.BreakingOff
import FlowTriad.Proofs.Comparison.Independence
import FlowTriad.Proofs.Comparison.Measurements
import FlowTriad.Proofs.Comparison.Refusal
import FlowTriad.Proofs.Comparison.Sharing
import FlowTriad.Proofs.Comparison.Stages
import FlowTriad.Proofs.Decimal.Layout
import FlowTriad.Proofs.Decimal.Numeral
import FlowTriad.Proofs.Decimal.Shortest
import FlowTriad.Proofs.Double.Addition
import FlowTriad.Proofs.Double.Finite
import FlowTriad.Proofs.Double.Interval
import FlowTriad.Proofs.Double.Mantissa
import FlowTriad.Proofs.Double.Nearest
import FlowTriad.Proofs.Double.Operations
import FlowTriad.Proofs.Double.Outward
import FlowTriad.Proofs.Double.Rounding
import FlowTriad.Proofs.Double.Scientific
import FlowTriad.Proofs.Double.Value
import FlowTriad.Proofs.Files
import FlowTriad.Proofs.Files.Directories
import FlowTriad.Proofs.Instant.Distance
import FlowTriad.Proofs.Instant.Mirrored
import FlowTriad.Proofs.Instant.Moving
import FlowTriad.Proofs.Instant.Seconds
import FlowTriad.Proofs.Instant.Stamp
import FlowTriad.Proofs.Instant.Truncation
import FlowTriad.Proofs.Intervals
import FlowTriad.Proofs.Intervals.Series
import FlowTriad.Proofs.Items
import FlowTriad.Proofs.Json.Reader
import FlowTriad.Proofs.Json.Requirement
import FlowTriad.Proofs.Keyed
import FlowTriad.Proofs.Outcome
import FlowTriad.Proofs.Output.Axes
import FlowTriad.Proofs.Output.Quoting
import FlowTriad.Proofs.Output.Table
import FlowTriad.Proofs.Path
import FlowTriad.Proofs.Session.Accounting
import FlowTriad.Proofs.Session.Delivery
import FlowTriad.Proofs.Session.Failing
import FlowTriad.Proofs.Session.OutputDirectory
import FlowTriad.Proofs.Session.Spelling
import FlowTriad.Proofs.Settings
import FlowTriad.Proofs.Settings.Defects
import FlowTriad.Proofs.Text
import FlowTriad.Proofs.Text.Casing
import FlowTriad.Proofs.Timeline
import FlowTriad.Proofs.Variable.Independence
import FlowTriad.Proofs.Variable.NameTable
import FlowTriad.Proofs.Variable.Points
import FlowTriad.Proofs.Variable.Respelling
import FlowTriad.Proofs.Variable.Specification
import FlowTriad.Proofs.Variable.Units
import FlowTriad.Session
import FlowTriad.Settings
import FlowTriad.Settings.Loading
import FlowTriad.Source
import FlowTriad.Text
import FlowTriad.Text.Casing
import FlowTriad.Text.Casing.Table
import FlowTriad.Timeline
import FlowTriad.Toml
import FlowTriad.Toml.Quoted
import FlowTriad.Toml.Reader
import FlowTriad.Toml.Scalar
import FlowTriad.Variable
import FlowTriad.Variable.NameTable
import FlowTriad.Variable.Resolution
