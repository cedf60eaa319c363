/-
`Comparison.lean` -- from three texts to one comparison.

The stages are fixed: the captures are read, the instants are found, the series are
aligned, and the variables are resolved. The first fault in that order ends the
comparison; within a stage the kernel's capture comes first, the probe's second and
the report last.

A capture that serves both line-delimited sources is recognised by its name: two
texts under one name are one shared capture, and it is the kernel's text that is
read.
-/
import FlowTriad.Variable.Resolution

set_option autoImplicit false

namespace FlowTriad

/-- A text and the name that messages give it. -/
structure NamedText where
  origin : String
  text : String
  deriving DecidableEq, Repr

/-- The three inputs of a comparison. -/
structure Captures where
  kernel : NamedText
  probe : NamedText
  generator : NamedText
  deriving DecidableEq, Repr

/-- The outcome of a comparison. -/
structure Comparison where
  set : SeriesSet
  resolution : Resolution
  kernelCount : LineCount
  probeCount : LineCount
  deriving DecidableEq

/-- The records of both line-delimited sources, with the counts of their captures. -/
structure LineCaptures where
  kernel : List LineRecord
  kernelCount : LineCount
  probe : List LineRecord
  probeCount : LineCount
  deriving DecidableEq

/-- Reads both line-delimited captures, or the one that serves for both. -/
def readLineCaptures (s : Settings) (kernel probe : NamedText) : Except Fault LineCaptures :=
  if probe.origin = kernel.origin then do
    let shared ← readSharedCapture s kernel.origin kernel.text
    return ⟨shared.kernel, shared.count, shared.probe, shared.count⟩
  else do
    let (k, kernelCount) ← readCapture s .kernelSocket kernel.origin kernel.text
    let (p, probeCount) ← readCapture s .inKernelProbe probe.origin probe.text
    return ⟨k, kernelCount, p, probeCount⟩

/-- Compares what three captures say of one connection. -/
def reconcile (s : Settings) (c : Captures) : Except Fault Comparison := do
  let lines ← readLineCaptures s c.kernel c.probe
  let report ← readReport s c.generator.origin c.generator.text
  let kernel ← TimedSeries.ofRecords .kernelSocket c.kernel.origin lines.kernel
  let probe ← TimedSeries.ofRecords .inKernelProbe c.probe.origin lines.probe
  let generator ← TimedSeries.ofReport c.generator.origin report
  let set ← align kernel probe generator
  return ⟨set, resolveAll s set s.compared, lines.kernelCount, lines.probeCount⟩

end FlowTriad
