/-
`Timeline.lean` -- measurements with the instants they belong to.

The line-delimited sources write an instant into every record. The generator writes
only when it began, so the instant of an interval is the start moved by all the
durations so far. The running total is kept as a double and turned into whole
nanoseconds for each interval anew, so rounding errors do not add up.

A move that leaves the calendar has no instant. There is no message for that case;
it ends the run.
-/
import FlowTriad.Capture.Lines
import FlowTriad.Capture.Report
import FlowTriad.Instant.ReportTime
import FlowTriad.Instant.Stamp

set_option autoImplicit false

namespace FlowTriad

/-- A measurement at an instant. -/
structure TimedSample where
  instant : Instant
  fields : NumericFields
  deriving DecidableEq

/-- All measurements of one source, in the order in which they were made. -/
structure TimedSeries where
  source : Source
  samples : List TimedSample
  deriving DecidableEq

namespace TimedSeries

/-- The instant of the first measurement. -/
def first? (s : TimedSeries) : Option Instant :=
  s.samples.head?.map (·.instant)

/-! ## 1. Records -/

/-- The measurement of one record, at the instant that its timestamp denotes. -/
def sampleOfRecord (origin : String) (r : LineRecord) : Except Fault TimedSample :=
  match readStamp r.stamp with
  | .ok t => .ok ⟨t, r.fields⟩
  | .error cause => .error (.stamp origin (.line r.line) r.stamp cause)

/-- The series of a capture's records. -/
def ofRecords (source : Source) (origin : String) (records : List LineRecord) :
    Except Fault TimedSeries :=
  (records.mapM (sampleOfRecord origin)).map (⟨source, ·⟩)

/-! ## 2. Intervals -/

/-- The running totals of a list of numbers, from a total so far. -/
def totalsFrom (total : Float) : List Float → List Float
  | [] => []
  | x :: xs => (total + x) :: totalsFrom (total + x) xs

/-- The whole nanoseconds nearest to a number of seconds, within 64 bits. -/
def nanoseconds (seconds : Float) : Int :=
  Decimal.toInt64 (seconds * 1e9)

/-- The instants at which consecutive intervals end, if none leaves the calendar. -/
def intervalEnds? (start : Instant) (durations : List Float) : Option (List Instant) :=
  (totalsFrom 0.0 durations).mapM fun total => start.add? (nanoseconds total)

/-- Whether an interval can have lasted a number of seconds. -/
def goodDuration (seconds : Float) : Bool :=
  Decimal.isFinite seconds && !(seconds < 0.0)

/-- The series of a report. A bad start time counts before a bad duration, and of
those the first is named. -/
def ofReport (origin : String) (r : Report) : Except Fault TimedSeries :=
  match readReportTime r.startTime with
  | .error cause => .error (.stamp origin .startTime r.startTime cause)
  | .ok start =>
      match r.intervals.find? (!goodDuration ·.seconds) with
      | some bad => .error (.input origin (.interval bad.index) (.badDuration bad.seconds))
      | none =>
          match intervalEnds? start (r.intervals.map (·.seconds)) with
          | none => .error .beyondCalendar
          | some ends =>
              .ok ⟨.trafficGenerator, (ends.zip r.intervals).map fun (t, i) => ⟨t, i.fields⟩⟩

end TimedSeries

end FlowTriad
