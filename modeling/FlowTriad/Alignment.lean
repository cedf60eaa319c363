/-
`Alignment.lean` -- three series on one time axis.

The earliest of the three first instants is the epoch, and every sample gets the
seconds from there to its own instant. Samples are neither sorted nor dropped nor
made up, so a series that is not in the order of time stays so, and its later
samples may lie before the epoch.
-/
import FlowTriad.Timeline

set_option autoImplicit false

namespace FlowTriad

/-- A measurement on the common time axis. -/
structure Sample where
  /-- Seconds since the epoch. -/
  time : Float
  fields : NumericFields
  deriving DecidableEq

/-- The measurements of one source on the common time axis. -/
structure Series where
  source : Source
  samples : List Sample
  deriving DecidableEq

/-- The times of the first and the last sample. -/
def Series.span? (s : Series) : Option (Float × Float) :=
  match s.samples.head?, s.samples.getLast? with
  | some a, some b => some (a.time, b.time)
  | _, _ => none

/-- The series of a source, its samples placed by their distance from an epoch. -/
def TimedSeries.since (epoch : Instant) (s : TimedSeries) : Series :=
  ⟨s.source, s.samples.map fun x => ⟨epoch.secondsTo x.instant, x.fields⟩⟩

/-- Three series, one for each source, and the epoch they are counted from. -/
structure SeriesSet where
  epoch : Instant
  /-- The source whose first sample is the epoch. -/
  epochSource : Source
  kernel : Series
  probe : Series
  generator : Series
  deriving DecidableEq

namespace SeriesSet

/-- The series of a source. -/
def get (s : SeriesSet) : Source → Series
  | .kernelSocket => s.kernel
  | .inKernelProbe => s.probe
  | .trafficGenerator => s.generator

/-- The three series in the order of their sources. -/
def toList (s : SeriesSet) : List Series :=
  Source.all.map s.get

end SeriesSet

/-- The first sample of a series, as a candidate for the epoch. -/
def TimedSeries.candidate (s : TimedSeries) : Except Fault (Instant × Source) :=
  match s.first? with
  | some t => .ok (t, s.source)
  | none => .error (.emptySeries s.source)

/-- The earlier of two candidates; of two at the same instant, the first. -/
def earlier (a b : Instant × Source) : Instant × Source :=
  if b.1.before a.1 then b else a

/-- Refuses a series that stands in the place of another. -/
def TimedSeries.inPlace (expected : Source) (s : TimedSeries) : Except Fault Unit :=
  if s.source = expected then .ok () else .error (.settings (.misplaced expected s.source))

/-- Puts three series on one time axis. Of several series with the earliest first
instant, the first in the order of sources gives its name to the epoch. -/
def align (kernel probe generator : TimedSeries) : Except Fault SeriesSet := do
  kernel.inPlace .kernelSocket
  probe.inPlace .inKernelProbe
  generator.inPlace .trafficGenerator
  let a ← kernel.candidate
  let b ← probe.candidate
  let c ← generator.candidate
  let (epoch, source) := earlier (earlier a b) c
  return ⟨epoch, source, kernel.since epoch, probe.since epoch, generator.since epoch⟩

end FlowTriad
