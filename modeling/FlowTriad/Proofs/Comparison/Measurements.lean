/-
`Proofs/Comparison/Measurements.lean` -- every measurement is there, once, in its place.

A measurement passes five stages on its way from a line to a point: it is read and
counted, routed to its source, given an instant, placed on the time axis, and paired
with a value. Each stage makes a list from a list, and makes one item from one item. So
the whole way does, and an item at the end can be followed back to the line or the
interval that it comes from (`SampledFrom`).
-/
import FlowTriad.Proofs.Capture.Kept
import FlowTriad.Proofs.Capture.Report
import FlowTriad.Proofs.Comparison.Sharing
import FlowTriad.Proofs.Variable.Points

set_option autoImplicit false

namespace FlowTriad

variable {s : Settings} {c : Captures} {r : Comparison}

/-! ## 1. From records to samples -/

/-- That a sample has the numbers that a kept record carries under a key, at the time from
the epoch to the instant that its timestamp denotes. -/
def SampledFrom (s : Settings) (key : String) (epoch : Instant) (x : ℕ × KeptRecord)
    (y : Sample) : Prop :=
  measurements s key x.2 = .ok y.fields ∧
    ∃ t, readStamp x.2.stamp = .ok t ∧ y.time = epoch.secondsTo t

/-- The samples of the records of a capture, once they are on the time axis. -/
theorem sampledFrom_of_ofRecords {key origin : String} {source : Source} (epoch : Instant)
    {rs : List (ℕ × KeptRecord)} {records : List LineRecord} {t : TimedSeries}
    (hmeasured : List.Forall₂ (Measured s key) rs records)
    (ht : TimedSeries.ofRecords source origin records = .ok t) :
    List.Forall₂ (SampledFrom s key epoch) rs (t.since epoch).samples := by
  refine List.forall₂_map_right_iff.2 (forall₂_comp ?_ hmeasured (TimedSeries.ofRecords_eq_ok.1 ht).2)
  rintro x y z ⟨-, hstamp, hfields⟩ ⟨hinstant, hz⟩
  refine ⟨?_, z.instant, ?_, rfl⟩
  · rw [hfields, ← hz]
  · rw [← hstamp, hinstant]

/-- Where every item has one of two properties, those with the one and those with the other
are all of them and the ones with both. -/
theorem length_filter_add_length_filter {α : Type} {p q : α → Bool} {xs : List α}
    (h : ∀ x ∈ xs, p x ∨ q x) :
    (xs.filter p).length + (xs.filter q).length =
      xs.length + (xs.filter fun x => p x && q x).length := by
  induction xs with
  | nil => rfl
  | cons x xs ih =>
    rw [List.forall_mem_cons] at h
    have hxs := ih h.2
    rw [List.filter_cons, List.filter_cons, List.filter_cons, List.length_cons]
    cases hp : p x <;> cases hq : q x <;> simp_all <;> omega

/-! ## 2. Every stage -/

/-- The samples of an aligned set are those of the streams, on the time axis. -/
theorem Aligned.samples_eq {kernel probe generator : TimedSeries} {set : SeriesSet}
    (h : Aligned kernel probe generator set) :
    (set.get .kernelSocket).samples = (kernel.since set.epoch).samples ∧
      (set.get .inKernelProbe).samples = (probe.since set.epoch).samples ∧
      (set.get .trafficGenerator).samples = (generator.since set.epoch).samples := by
  have hsamples (x : Source × TimedSeries) (hx : x ∈ places kernel probe generator) :
      (set.get x.1).samples = (x.2.since set.epoch).samples := by
    rw [h.get_eq x hx]
    rfl
  refine ⟨hsamples (.kernelSocket, kernel) ?_, hsamples (.inKernelProbe, probe) ?_,
    hsamples (.trafficGenerator, generator) ?_⟩
  all_goals simp [places, Source.all]

/-- What a comparison makes of the line-delimited captures: their counts, and a sample from
each of their records. -/
theorem exists_lines_of_reconcile (h : reconcile s c = .ok r) :
    ∃ lines, readLineCaptures s c.kernel c.probe = .ok lines ∧
      r.kernelCount = lines.kernelCount ∧ r.probeCount = lines.probeCount ∧
      (∀ key rs, List.Forall₂ (Measured s key) rs lines.kernel →
        List.Forall₂ (SampledFrom s key r.set.epoch) rs (r.set.get .kernelSocket).samples) ∧
      ∀ key rs, List.Forall₂ (Measured s key) rs lines.probe →
        List.Forall₂ (SampledFrom s key r.set.epoch) rs (r.set.get .inKernelProbe).samples := by
  obtain ⟨lines, report, kernel, probe, generator, set, hlines, -, hkernel, hprobe, -, hset, rfl⟩ :=
    reconcile_eq_ok.1 h
  obtain ⟨hksamples, hpsamples, -⟩ := (aligned_of_align_eq_ok hset).samples_eq
  refine ⟨lines, hlines, rfl, rfl, fun key rs hrs => ?_, fun key rs hrs => ?_⟩
  · rw [hksamples]
    exact sampledFrom_of_ofRecords set.epoch hrs hkernel
  · rw [hpsamples]
    exact sampledFrom_of_ofRecords set.epoch hrs hprobe

/-- What is kept of two captures: a sample for each kept record of either, in the order of
its lines, and a count of the others. -/
structure TwoCapturesKept (s : Settings) (c : Captures) (r : Comparison) : Prop where
  kernel : List.Forall₂ (SampledFrom s s.kernelKey r.set.epoch) (keptRecords s c.kernel.text)
    (r.set.get .kernelSocket).samples
  kernel_count :
    (r.set.get .kernelSocket).samples.length + r.kernelCount.discarded = r.kernelCount.lines
  probe : List.Forall₂ (SampledFrom s s.probeKey r.set.epoch) (keptRecords s c.probe.text)
    (r.set.get .inKernelProbe).samples
  probe_count :
    (r.set.get .inKernelProbe).samples.length + r.probeCount.discarded = r.probeCount.lines

theorem twoCapturesKept_of_reconcile (h : reconcile s c = .ok r)
    (hname : c.probe.origin ≠ c.kernel.origin) : TwoCapturesKept s c r := by
  obtain ⟨lines, hlines, hkcount, hpcount, hkernel, hprobe⟩ := exists_lines_of_reconcile h
  obtain ⟨hk, hp⟩ := (readLineCaptures_two_names hname).1 hlines
  obtain ⟨hk, hkkept⟩ := readCapture_measured rfl hk
  obtain ⟨hp, hpkept⟩ := readCapture_measured rfl hp
  have hksamples := hkernel _ _ hk
  have hpsamples := hprobe _ _ hp
  constructor
  · exact hksamples
  · rw [hkcount, ← hksamples.length_eq, hkkept]
  · exact hpsamples
  · rw [hpcount, ← hpsamples.length_eq, hpkept]

/-- What is kept of a capture that both sources share: a sample for each side of each kept
record, where each has a side. -/
structure SharedCaptureKept (s : Settings) (c : Captures) (r : Comparison) : Prop where
  sides : ∀ x ∈ keptRecords s c.kernel.text, x.2.carries s.kernelKey ∨ x.2.carries s.probeKey
  kernel : List.Forall₂ (SampledFrom s s.kernelKey r.set.epoch)
    (carrying s.kernelKey (keptRecords s c.kernel.text)) (r.set.get .kernelSocket).samples
  probe : List.Forall₂ (SampledFrom s s.probeKey r.set.epoch)
    (carrying s.probeKey (keptRecords s c.kernel.text)) (r.set.get .inKernelProbe).samples
  /-- The two lengths are the kept records and those with both sides. -/
  lengths :
    (r.set.get .kernelSocket).samples.length + (r.set.get .inKernelProbe).samples.length =
      (keptRecords s c.kernel.text).length + ((keptRecords s c.kernel.text).filter
        fun x => x.2.carries s.kernelKey && x.2.carries s.probeKey).length
  kept_count :
    (keptRecords s c.kernel.text).length + r.kernelCount.discarded = r.kernelCount.lines
  probe_count : r.probeCount = r.kernelCount

theorem sharedCaptureKept_of_reconcile (h : reconcile s c = .ok r)
    (hname : c.probe.origin = c.kernel.origin) : SharedCaptureKept s c r := by
  obtain ⟨lines, hlines, hkcount, hpcount, hkernel, hprobe⟩ := exists_lines_of_reconcile h
  obtain ⟨⟨origin, text⟩, ⟨origin', text'⟩, generator⟩ := c
  obtain rfl : origin' = origin := hname
  obtain ⟨hshared, hcount⟩ := readLineCaptures_one_name.1 hlines
  obtain ⟨hsides, hk, hp, hkept⟩ := readSharedCapture_measured hshared
  have hksamples := hkernel _ _ hk
  have hpsamples := hprobe _ _ hp
  constructor
  · exact hsides
  · exact hksamples
  · exact hpsamples
  · rw [← hksamples.length_eq, ← hpsamples.length_eq]
    exact length_filter_add_length_filter hsides
  · rw [hkcount]
    exact hkept
  · rw [hkcount, hpcount, hcount]

/-- What is kept of a report: a sample for each item of the array that its intervals are
in, in the order of the items. -/
def ReportKept (s : Settings) (text : String) (generator : Series) : Prop :=
  ∃ (members : Json.Members) (items : List Json) (intervals : List Interval),
    Json.read text.toList = .ok (.object members) ∧
    members.get? "intervals" = some (.array items) ∧
    List.Forall₂ (Report.ReadFrom s.generatorStream) items.zipIdx intervals ∧
    generator.samples.map (·.fields) = intervals.map (·.fields)

theorem reportKept_of_reconcile (h : reconcile s c = .ok r) :
    ReportKept s c.generator.text (r.set.get .trafficGenerator) := by
  obtain ⟨lines, report, kernel, probe, generator, set, -, hreport, -, -, hgenerator, hset, rfl⟩ :=
    reconcile_eq_ok.1 h
  obtain ⟨document, items, hread, hheader, hitems⟩ := readReport_eq_ok.1 hreport
  obtain ⟨members, rfl, harray⟩ := Report.array_of_readHeader hheader
  obtain ⟨-, hfields⟩ := TimedSeries.fields_of_ofReport hgenerator
  obtain ⟨-, -, hsamples⟩ := (aligned_of_align_eq_ok hset).samples_eq
  refine ⟨members, items, report.intervals, hread, harray, hitems, ?_⟩
  rw [hsamples, ← hfields]
  exact List.map_map

/-- That a variable has one list of points for each source, in the order of sources, and in
it one point for each sample, at the time of the sample. -/
def OnePointEach (set : SeriesSet) (v : ResolvedVariable) : Prop :=
  List.Forall₂ (fun source p => p.source = source ∧
    p.points.map (·.1) = (set.get source).samples.map (·.time)) Source.all v.series

theorem onePointEach_of_reconcile (h : reconcile s c = .ok r) {v : ResolvedVariable}
    (hv : v ∈ r.resolution.resolved) : OnePointEach r.set v := by
  obtain ⟨lines, report, kernel, probe, generator, set, -, -, -, -, -, hset, rfl⟩ :=
    reconcile_eq_ok.1 h
  obtain ⟨w, -, hw⟩ := mem_resolved hv
  refine (resolve_eq_ok.1 hw).2.imp fun source p hp => ?_
  obtain ⟨hsource, htimes⟩ := times_of_resolve hp
  exact ⟨hsource.trans (inPlace_of_align hset source), htimes⟩

/-! ## 3. The whole way -/

/-- **No measurement is lost, made twice or moved** in a comparison that succeeds, be it of
two captures or of a shared one. -/
theorem measurements_kept (h : reconcile s c = .ok r) :
    (c.probe.origin ≠ c.kernel.origin → TwoCapturesKept s c r) ∧
    (c.probe.origin = c.kernel.origin → SharedCaptureKept s c r) ∧
    ReportKept s c.generator.text (r.set.get .trafficGenerator) ∧
    ∀ v ∈ r.resolution.resolved, OnePointEach r.set v :=
  ⟨twoCapturesKept_of_reconcile h, sharedCaptureKept_of_reconcile h, reportKept_of_reconcile h,
    fun _ hv => onePointEach_of_reconcile h hv⟩

/-- A record of each side, compared as two captures; and one with both sides and one with
the probe's side only, compared as a shared capture. -/
theorem measurements_kept_records :
    (∃ r, reconcile {} ⟨⟨"f", recordCarrying ["netlink"]⟩, ⟨"h", recordCarrying ["skOps"]⟩,
        ⟨"g", oneInterval⟩⟩ = .ok r ∧ "h" ≠ "f" ∧
      (r.set.get .kernelSocket).samples.length + r.kernelCount.discarded = r.kernelCount.lines) ∧
    ∃ r, reconcile {}
        ⟨⟨"f", recordCarrying ["netlink", "skOps"] ++ "\n\n" ++ recordCarrying ["skOps"]⟩,
          ⟨"f", ""⟩, ⟨"g", oneInterval⟩⟩ = .ok r ∧ r.probeCount = r.kernelCount := by
  constructor
  · obtain ⟨r, hr⟩ := exists_eq_ok (x := reconcile {} ⟨⟨"f", recordCarrying ["netlink"]⟩,
      ⟨"h", recordCarrying ["skOps"]⟩, ⟨"g", oneInterval⟩⟩) (by decide +kernel)
    have hne : "h" ≠ "f" := by decide
    exact ⟨r, hr, hne, ((measurements_kept hr).1 hne).kernel_count⟩
  · obtain ⟨r, hr⟩ := exists_eq_ok (x := reconcile {}
      ⟨⟨"f", recordCarrying ["netlink", "skOps"] ++ "\n\n" ++ recordCarrying ["skOps"]⟩,
        ⟨"f", ""⟩, ⟨"g", oneInterval⟩⟩) (by decide +kernel)
    exact ⟨r, hr, ((measurements_kept hr).2.1 rfl).probe_count⟩

end FlowTriad
