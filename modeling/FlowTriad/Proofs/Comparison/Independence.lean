/-
`Proofs/Comparison/Independence.lean` -- what the settings of variables cannot reach.

Three of the settings say how variables are resolved: which ones, under which names the
generator knows them, and where a sample has its segment size. The others say what is
read from the captures. Two settings that agree on the others (`SameCapture`) make every
reader read alike, which is shown reader by reader, since each looks at the settings
itself. The later stages before the resolution are given no settings at all.

The resolution comes last and cannot fail, whatever becomes of a single variable. So of a
comparison only the resolved variables can differ.
-/
import FlowTriad.Proofs.Comparison.Sharing

set_option autoImplicit false

namespace FlowTriad

/-- Settings that agree on what is read from captures, and may differ in the variables, the
generator's names for them and the field of the segment size. -/
structure SameCapture (s s' : Settings) : Prop where
  lifecycleState : s'.lifecycleState = s.lifecycleState
  kernelKey : s'.kernelKey = s.kernelKey
  probeKey : s'.probeKey = s.probeKey
  metricsKey : s'.metricsKey = s.metricsKey
  generatorStream : s'.generatorStream = s.generatorStream

namespace SameCapture

variable {α : Type} {s s' : Settings} {origin text : String}

/-! ## 1. Reader by reader -/

theorem readRecord_eq (h : SameCapture s s') : readRecord s' = readRecord s := by
  funext line
  unfold readRecord
  rw [h.lifecycleState]

theorem readLine_eq (h : SameCapture s s') (extract : KeptRecord → Except Defect α) :
    readLine s' extract = readLine s extract := by
  funext line
  unfold readLine
  rw [h.readRecord_eq]

theorem measurements_eq (h : SameCapture s s') (key : String) :
    measurements s' key = measurements s key := by
  funext r
  unfold measurements
  rw [h.metricsKey]

theorem captureKey?_eq (h : SameCapture s s') (source : Source) :
    s'.captureKey? source = s.captureKey? source := by
  cases source with
  | kernelSocket => exact congrArg some h.kernelKey
  | inKernelProbe => exact congrArg some h.probeKey
  | trafficGenerator => rfl

theorem readCapture_eq (h : SameCapture s s') (source : Source) :
    readCapture s' source origin text = readCapture s source origin text := by
  unfold readCapture
  simp only [h.captureKey?_eq, h.readLine_eq, h.measurements_eq]

theorem sharedMeasurements_eq (h : SameCapture s s') :
    sharedMeasurements s' = sharedMeasurements s := by
  funext r
  unfold sharedMeasurements
  simp only [h.kernelKey, h.probeKey, h.measurements_eq]

theorem readSharedCapture_eq (h : SameCapture s s') :
    readSharedCapture s' origin text = readSharedCapture s origin text := by
  unfold readSharedCapture
  rw [h.sharedMeasurements_eq, h.readLine_eq]

theorem readLineCaptures_eq (h : SameCapture s s') (kernel probe : NamedText) :
    readLineCaptures s' kernel probe = readLineCaptures s kernel probe := by
  unfold readLineCaptures
  rw [h.readSharedCapture_eq, h.readCapture_eq, h.readCapture_eq]

theorem readReport_eq (h : SameCapture s s') : readReport s' origin text = readReport s origin text := by
  unfold readReport Report.ofDocument
  rw [h.generatorStream]

end SameCapture

/-! ## 2. The comparison -/

/-- What is made of captures before a variable is looked at: the aligned set, and the
counts of the line-delimited captures. -/
def alignedSet (s : Settings) (c : Captures) : Except Fault (SeriesSet × LineCount × LineCount) := do
  let lines ← readLineCaptures s c.kernel c.probe
  let report ← readReport s c.generator.origin c.generator.text
  let kernel ← TimedSeries.ofRecords .kernelSocket c.kernel.origin lines.kernel
  let probe ← TimedSeries.ofRecords .inKernelProbe c.probe.origin lines.probe
  let generator ← TimedSeries.ofReport c.generator.origin report
  let set ← align kernel probe generator
  return (set, lines.kernelCount, lines.probeCount)

/-- A comparison from an aligned set. -/
def compareSet (s : Settings) : SeriesSet × LineCount × LineCount → Comparison
  | (set, kernelCount, probeCount) =>
      ⟨set, resolveAll s set s.compared, kernelCount, probeCount⟩

/-- **The resolution comes last**, and cannot fail. -/
theorem reconcile_eq_map (s : Settings) (c : Captures) :
    reconcile s c = (alignedSet s c).map (compareSet s) := by
  show _ = compareSet s <$> alignedSet s c
  unfold reconcile alignedSet
  simp only [map_bind, map_pure]
  rfl

variable {s s' : Settings}

/-- **What is aligned** does not depend on the settings of variables. -/
theorem alignedSet_eq (h : SameCapture s s') (c : Captures) : alignedSet s' c = alignedSet s c := by
  unfold alignedSet
  rw [h.readLineCaptures_eq, h.readReport_eq]

/-- **The settings of variables reach nothing but variables.** Whatever they are changed
to, a comparison fails with the same fault, or succeeds with the same set and the same
counts; only what was resolved may be another. -/
theorem captures_independent_of_variables (h : SameCapture s s') (c : Captures) :
    (∀ f, reconcile s c = .error f ↔ reconcile s' c = .error f) ∧
    ∀ r, reconcile s c = .ok r →
      ∃ r', reconcile s' c = .ok r' ∧ r'.set = r.set ∧ r'.kernelCount = r.kernelCount ∧
        r'.probeCount = r.probeCount ∧ r'.resolution = resolveAll s' r.set s'.compared := by
  rw [reconcile_eq_map, reconcile_eq_map, alignedSet_eq h]
  cases alignedSet s c with
  | error f =>
    refine ⟨fun f' => Iff.rfl, fun r hr => ?_⟩
    cases hr
  | ok out =>
    constructor
    · intro f
      constructor
      · intro hf
        cases hf
      · intro hf
        cases hf
    · intro r hr
      cases hr
      exact ⟨compareSet s' out, rfl, rfl, rfl, rfl, rfl⟩

/-- No variables and no field for segment sizes, against the usual settings. -/
theorem captures_independent_of_variables_none :
    ∃ r r', reconcile {} ⟨⟨"f", recordCarrying ["netlink", "skOps"]⟩, ⟨"f", ""⟩, ⟨"g", oneInterval⟩⟩ =
        .ok r ∧
      reconcile { segmentSizeKey := "", names := NameTable.ofList [], compared := [] }
        ⟨⟨"f", recordCarrying ["netlink", "skOps"]⟩, ⟨"f", ""⟩, ⟨"g", oneInterval⟩⟩ = .ok r' ∧
      r'.set = r.set := by
  obtain ⟨r, hr⟩ := exists_eq_ok (x := reconcile {}
    ⟨⟨"f", recordCarrying ["netlink", "skOps"]⟩, ⟨"f", ""⟩, ⟨"g", oneInterval⟩⟩) (by decide +kernel)
  have hsame : SameCapture {} { segmentSizeKey := "", names := NameTable.ofList [], compared := [] } :=
    ⟨rfl, rfl, rfl, rfl, rfl⟩
  obtain ⟨r', hr', hset, -⟩ := (captures_independent_of_variables hsame _).2 r hr
  exact ⟨r, r', hr, hr', hset⟩

end FlowTriad
