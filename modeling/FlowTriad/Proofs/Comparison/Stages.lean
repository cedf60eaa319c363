/-
`Proofs/Comparison/Stages.lean` -- a comparison that succeeds, stage by stage.

A comparison succeeds when each of its stages does, and its outcome is made of what the
stages found. `reconcile_eq_ok` takes it apart. Of the names of the captures only one
thing is left in a success: whether the two line-delimited ones have the same name.
-/
import FlowTriad.Comparison
import FlowTriad.Proofs.Outcome

set_option autoImplicit false

namespace FlowTriad

variable {s : Settings}

/-- **A comparison succeeds** when the captures can be read, their instants found, and
the series aligned. The variables are resolved in any case. -/
theorem reconcile_eq_ok {c : Captures} {r : Comparison} :
    reconcile s c = .ok r ↔
      ∃ lines report kernel probe generator set,
        readLineCaptures s c.kernel c.probe = .ok lines ∧
        readReport s c.generator.origin c.generator.text = .ok report ∧
        TimedSeries.ofRecords .kernelSocket c.kernel.origin lines.kernel = .ok kernel ∧
        TimedSeries.ofRecords .inKernelProbe c.probe.origin lines.probe = .ok probe ∧
        TimedSeries.ofReport c.generator.origin report = .ok generator ∧
        align kernel probe generator = .ok set ∧
        r = ⟨set, resolveAll s set s.compared, lines.kernelCount, lines.probeCount⟩ := by
  unfold reconcile
  constructor
  · intro h
    obtain ⟨lines, hlines, h⟩ := bind_eq_ok.1 h
    obtain ⟨report, hreport, h⟩ := bind_eq_ok.1 h
    obtain ⟨kernel, hkernel, h⟩ := bind_eq_ok.1 h
    obtain ⟨probe, hprobe, h⟩ := bind_eq_ok.1 h
    obtain ⟨generator, hgenerator, h⟩ := bind_eq_ok.1 h
    obtain ⟨set, hset, h⟩ := bind_eq_ok.1 h
    exact ⟨lines, report, kernel, probe, generator, set, hlines, hreport, hkernel, hprobe,
      hgenerator, hset, (Except.ok.inj h).symm⟩
  · rintro ⟨lines, report, kernel, probe, generator, set, hlines, hreport, hkernel, hprobe,
      hgenerator, hset, rfl⟩
    refine bind_eq_ok.2 ⟨lines, hlines, bind_eq_ok.2 ⟨report, hreport, ?_⟩⟩
    refine bind_eq_ok.2 ⟨kernel, hkernel, bind_eq_ok.2 ⟨probe, hprobe, ?_⟩⟩
    exact bind_eq_ok.2 ⟨generator, hgenerator, bind_eq_ok.2 ⟨set, hset, rfl⟩⟩

namespace TimedSeries

/-- A record is given an instant when its timestamp denotes one. -/
theorem sampleOfRecord_eq_ok {origin : String} {r : LineRecord} {x : TimedSample} :
    sampleOfRecord origin r = .ok x ↔ readStamp r.stamp = .ok x.instant ∧ x.fields = r.fields := by
  unfold sampleOfRecord
  cases h : readStamp r.stamp with
  | error cause => simp
  | ok t =>
    constructor
    · intro h'
      cases h'
      exact ⟨rfl, rfl⟩
    · rintro ⟨ht, hf⟩
      cases x
      cases ht
      cases hf
      rfl

/-- Records make a series when each is given an instant. -/
theorem ofRecords_eq_ok {source : Source} {origin : String} {records : List LineRecord}
    {t : TimedSeries} :
    ofRecords source origin records = .ok t ↔
      t.source = source ∧ List.Forall₂
        (fun r x => readStamp r.stamp = .ok x.instant ∧ x.fields = r.fields) records t.samples := by
  unfold ofRecords
  rw [map_eq_ok]
  simp only [mapM_eq_ok, sampleOfRecord_eq_ok]
  constructor
  · rintro ⟨samples, h, rfl⟩
    exact ⟨rfl, h⟩
  · rintro ⟨rfl, h⟩
    exact ⟨t.samples, h, rfl⟩

/-- The name of a capture shows in its faults only. -/
theorem ofRecords_origin {source : Source} {origin : String} (origin' : String)
    {records : List LineRecord} {t : TimedSeries} (h : ofRecords source origin records = .ok t) :
    ofRecords source origin' records = .ok t :=
  ofRecords_eq_ok.2 (ofRecords_eq_ok.1 h)

end TimedSeries

end FlowTriad
