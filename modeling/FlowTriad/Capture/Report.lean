/-
`Capture/Report.lean` -- the traffic generator's report.

A report is one JSON document: the time it began at, and an array of intervals, each
with an array of streams of which one is selected by the settings. Of an interval
only the selected stream is looked at, and of that its duration and its numbers.

The document is checked from the outside in and from the front to the back, so the
defect that is reported is the first in that order.
-/
import FlowTriad.Capture.Record
import FlowTriad.Json.Reader
import FlowTriad.Settings

set_option autoImplicit false

namespace FlowTriad

/-- One interval of a report. -/
structure Interval where
  /-- Its position among the intervals. -/
  index : Nat
  /-- Its duration in seconds. -/
  seconds : Float
  /-- The numbers of the selected stream. -/
  fields : NumericFields
  deriving DecidableEq

/-- A generator's report. -/
structure Report where
  /-- The time it began at, as written. -/
  startTime : String
  intervals : List Interval
  deriving DecidableEq

namespace Report

/-- A member that must be an array; null is one of the things that are not. -/
def arrayMember (ms : Json.Members) (name : String) : Except Defect (List Json) :=
  match ms.get? name with
  | none => .error (.missing name)
  | some v =>
      match v.items? with
      | some js => .ok js
      | none => .error (.notArray name)

/-- The interval of a JSON value, by its selected stream. -/
def readInterval (stream index : Nat) (j : Json) : Except Defect Interval := do
  let interval ← j.asObject "interval"
  let streams ← arrayMember interval "streams"
  let path := "streams[" ++ toString stream ++ "]"
  let selected ← match streams[stream]? with
    | some v => v.asObject path
    | none => .error (.missing path)
  let seconds ← match selected.get? "seconds" with
    | none => .error (.missing (path ++ ".seconds"))
    | some v =>
        match v.float? with
        | some x => .ok x
        | none => .error (.notNumber "seconds")
  return ⟨index, seconds, NumericFields.ofMembers selected⟩

/-- The intervals of a list of JSON values, of which `first` is the position of the
first. -/
def readIntervals (origin : String) (stream first : Nat) :
    List Json → Except Fault (List Interval)
  | [] => .ok []
  | j :: js => do
      let i ← located origin (.interval first) (readInterval stream first j)
      let rest ← readIntervals origin stream (first + 1) js
      return i :: rest

/-- The start time and the intervals of a document, before the intervals are looked
into. -/
def readHeader (document : Json) : Except Defect (String × List Json) := do
  let report ← document.asObject "report"
  let start ← report.object "start" "start"
  let timestamp ← start.object "timestamp" "start.timestamp"
  let time ← timestamp.string "time" "start.timestamp.time"
  let intervals ← arrayMember report "intervals"
  return (time, intervals)

/-- The report of a JSON document. -/
def ofDocument (s : Settings) (origin : String) (document : Json) : Except Fault Report := do
  let (time, intervals) ← located origin .document (readHeader document)
  return ⟨time, ← readIntervals origin s.generatorStream 0 intervals⟩

end Report

/-- The report of a text. A text that is no JSON document is located at the line where
reading it stopped. -/
def readReport (s : Settings) (origin text : String) : Except Fault Report :=
  match Json.read text.toList with
  | .error line => .error (.input origin (.line line) .notJson)
  | .ok document => Report.ofDocument s origin document

end FlowTriad
