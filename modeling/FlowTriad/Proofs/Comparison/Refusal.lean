/-
`Proofs/Comparison/Refusal.lean` -- what a comparison is refused for.

Many things can be wrong with three captures at once, and a comparison names one. Which
one is said here without running the stages: every stage has its own fault, found by
looking at the captures alone (`faultAt`), and the fault of a comparison is that of the
first stage that has one (`refusal?_reconcile`).

A stage of the chain looks only at what the stages before it have made. So what it finds
is compared with its own search under the hypothesis that those have succeeded: then the
records of a capture are the kept records of its text, and a sample belongs to each.
-/
import FlowTriad.Proofs.Comparison.Measurements

set_option autoImplicit false

namespace FlowTriad

variable {s : Settings} {c : Captures}

/-! ## 1. What there is to look at -/

/-- The capture that a source is found in. One that serves for both line-delimited sources
is the kernel's. -/
def Captures.of (c : Captures) : Source → NamedText
  | .kernelSocket => c.kernel
  | .inKernelProbe => if c.probe.origin = c.kernel.origin then c.kernel else c.probe
  | .trafficGenerator => c.generator

theorem origin_of_probe (c : Captures) : (c.of .inKernelProbe).origin = c.probe.origin := by
  unfold Captures.of
  by_cases h : c.probe.origin = c.kernel.origin
  · rw [if_pos h, h]
  · rw [if_neg h]

/-- The kept records that a source's series is made of, with the numbers of their lines.
Of a shared capture, those are the ones that carry the source. -/
def recordsOf (s : Settings) (c : Captures) (source : Source) : List (ℕ × KeptRecord) :=
  match s.captureKey? source with
  | none => []
  | some key =>
      let kept := keptRecords s (c.of source).text
      if c.probe.origin = c.kernel.origin then carrying key kept else kept

/-- The records that have been read are those. -/
theorem measured_recordsOf {lines : LineCaptures}
    (h : readLineCaptures s c.kernel c.probe = .ok lines) :
    List.Forall₂ (Measured s s.kernelKey) (recordsOf s c .kernelSocket) lines.kernel ∧
      List.Forall₂ (Measured s s.probeKey) (recordsOf s c .inKernelProbe) lines.probe := by
  unfold recordsOf Captures.of Settings.captureKey?
  by_cases hname : c.probe.origin = c.kernel.origin
  · simp only [if_pos hname]
    obtain ⟨⟨origin, text⟩, ⟨origin', text'⟩, generator⟩ := c
    obtain rfl : origin' = origin := hname
    obtain ⟨-, hk, hp, -⟩ := readSharedCapture_measured (readLineCaptures_one_name.1 h).1
    exact ⟨hk, hp⟩
  · simp only [if_neg hname]
    obtain ⟨hk, hp⟩ := (readLineCaptures_two_names hname).1 h
    exact ⟨(readCapture_measured rfl hk).1, (readCapture_measured rfl hp).1⟩

/-- The report, if it can be read. -/
def reportOf (s : Settings) (c : Captures) : Option Report :=
  (readReport s c.generator.origin c.generator.text).toOption

/-- The number of samples that a source has. -/
def countOf (s : Settings) (c : Captures) : Source → ℕ
  | .trafficGenerator => ((reportOf s c).map fun r => r.intervals.length).getD 0
  | source => (recordsOf s c source).length

/-- The first source without samples. -/
def emptySource? (s : Settings) (c : Captures) : Option Source :=
  Source.all.find? fun source => countOf s c source = 0

/-! ## 2. The fault of a stage -/

/-- The stages of a comparison that can object to something. -/
inductive Stage where
  | kernelCapture
  | probeCapture
  | report
  | kernelStamps
  | probeStamps
  | startTime
  | durations
  | calendar
  | samples

/-- All stages, in the order in which they are passed. -/
def Stage.all : List Stage :=
  [kernelCapture, probeCapture, report, kernelStamps, probeStamps, startTime, durations, calendar,
    samples]

/-- What a timestamp is refused for, if it is. -/
def stampFault? (origin : String) (place : Place) (text : String) (r : Except StampFault Instant) :
    Option Fault :=
  (refusal? r).map (.stamp origin place text)

@[simp] theorem stampFault?_ok {origin text : String} {place : Place} {t : Instant} :
    stampFault? origin place text (.ok t) = none := rfl

@[simp] theorem stampFault?_error {origin text : String} {place : Place} {cause : StampFault} :
    stampFault? origin place text (.error cause) = some (.stamp origin place text cause) := rfl

/-- What a record's timestamp is refused for. -/
def recordFault? (origin : String) (x : ℕ × KeptRecord) : Option Fault :=
  stampFault? origin (.line x.1) x.2.stamp (readStamp x.2.stamp)

/-- What a report's start time is refused for. -/
def startFault? (origin : String) (r : Report) : Option Fault :=
  stampFault? origin .startTime r.startTime (readReportTime r.startTime)

/-- What the first bad duration of a report is refused for. -/
def durationFault? (origin : String) (r : Report) : Option Fault :=
  (r.intervals.find? (!TimedSeries.goodDuration ·.seconds)).map fun i =>
    .input origin (.interval i.index) (.badDuration i.seconds)

/-- Whether an interval of a report ends beyond the calendar. -/
def calendarFault? (r : Report) : Option Fault :=
  match readReportTime r.startTime with
  | .error _ => none
  | .ok start =>
      match TimedSeries.intervalEnds? start (r.intervals.map (·.seconds)) with
      | none => some .beyondCalendar
      | some _ => none

/-- **What each stage objects to**, of what it can look at. -/
def faultAt (s : Settings) (c : Captures) : Stage → Option Fault
  | .kernelCapture =>
      if c.probe.origin = c.kernel.origin then
        refusal? (readSharedCapture s c.kernel.origin c.kernel.text)
      else refusal? (readCapture s .kernelSocket c.kernel.origin c.kernel.text)
  | .probeCapture =>
      if c.probe.origin = c.kernel.origin then none
      else refusal? (readCapture s .inKernelProbe c.probe.origin c.probe.text)
  | .report => refusal? (readReport s c.generator.origin c.generator.text)
  | .kernelStamps =>
      (recordsOf s c .kernelSocket).findSome? (recordFault? (c.of .kernelSocket).origin)
  | .probeStamps =>
      (recordsOf s c .inKernelProbe).findSome? (recordFault? (c.of .inKernelProbe).origin)
  | .startTime => (reportOf s c).bind (startFault? c.generator.origin)
  | .durations => (reportOf s c).bind (durationFault? c.generator.origin)
  | .calendar => (reportOf s c).bind calendarFault?
  | .samples => (emptySource? s c).map .emptySeries

/-! ## 3. Stage by stage -/

theorem refusal?_readLineCaptures :
    refusal? (readLineCaptures s c.kernel c.probe) =
      [Stage.kernelCapture, .probeCapture].findSome? (faultAt s c) := by
  unfold readLineCaptures
  by_cases hname : c.probe.origin = c.kernel.origin
  · have hshared : refusal? (readSharedCapture s c.kernel.origin c.kernel.text) =
        [Stage.kernelCapture].findSome? (faultAt s c) := by
      rw [List.findSome?_singleton, faultAt, if_pos hname]
    have hnone : [Stage.probeCapture].findSome? (faultAt s c) = none := by
      rw [List.findSome?_singleton, faultAt, if_pos hname]
    rw [if_pos hname]
    exact refusal?_bind hshared fun shared _ => hnone.symm
  · have hkernel : refusal? (readCapture s .kernelSocket c.kernel.origin c.kernel.text) =
        [Stage.kernelCapture].findSome? (faultAt s c) := by
      rw [List.findSome?_singleton, faultAt, if_neg hname]
    have hprobe : refusal? (readCapture s .inKernelProbe c.probe.origin c.probe.text) =
        [Stage.probeCapture].findSome? (faultAt s c) := by
      rw [List.findSome?_singleton, faultAt, if_neg hname]
    rw [if_neg hname]
    exact refusal?_bind hkernel fun _ _ => refusal?_bind hprobe fun _ _ => List.findSome?_nil.symm

/-- The timestamps of records are refused as those of the kept records are. -/
theorem refusal?_ofRecords {source : Source} {key origin : String} {rs : List (ℕ × KeptRecord)}
    {records : List LineRecord} (h : List.Forall₂ (Measured s key) rs records) :
    refusal? (TimedSeries.ofRecords source origin records) = rs.findSome? (recordFault? origin) := by
  unfold TimedSeries.ofRecords
  rw [refusal?_map, refusal?_mapM]
  refine (findSome?_eq_of_forall₂ ?_ h).symm
  rintro x y ⟨hline, hstamp, -⟩
  unfold recordFault? TimedSeries.sampleOfRecord
  rw [hline, hstamp]
  cases readStamp x.2.stamp <;> rfl

theorem reportOf_eq_some {r : Report} :
    reportOf s c = some r ↔ readReport s c.generator.origin c.generator.text = .ok r := by
  unfold reportOf
  cases readReport s c.generator.origin c.generator.text <;> simp [Except.toOption]

theorem refusal?_ofReport {r : Report} (h : reportOf s c = some r) :
    refusal? (TimedSeries.ofReport c.generator.origin r) =
      [Stage.startTime, .durations, .calendar].findSome? (faultAt s c) := by
  simp only [List.findSome?_cons, List.findSome?_nil, faultAt, h, Option.bind_some]
  unfold TimedSeries.ofReport startFault? durationFault? calendarFault?
  cases readReportTime r.startTime with
  | error cause => rfl
  | ok start =>
    cases r.intervals.find? (!TimedSeries.goodDuration ·.seconds) with
    | some i => rfl
    | none =>
      cases hends : TimedSeries.intervalEnds? start (r.intervals.map (·.seconds)) <;>
        simp [hends, refusal?]

/-- Three series with as many samples as the sources have, each in its place, are refused
for the first empty one only. -/
theorem refusal?_align {kernel probe generator : TimedSeries}
    (hks : kernel.source = .kernelSocket) (hps : probe.source = .inKernelProbe)
    (hgs : generator.source = .trafficGenerator)
    (hk : kernel.samples.length = countOf s c .kernelSocket)
    (hp : probe.samples.length = countOf s c .inKernelProbe)
    (hg : generator.samples.length = countOf s c .trafficGenerator) :
    refusal? (align kernel probe generator) = [Stage.samples].findSome? (faultAt s c) := by
  have hplaces : misplaced? kernel probe generator = none := by
    simp [misplaced?, places, Source.all, hks, hps, hgs]
  have hempty : empty? kernel probe generator = emptySource? s c := by
    have hcount (t : TimedSeries) : t.samples.isEmpty = decide (t.samples.length = 0) := by
      cases t.samples <;> rfl
    unfold empty? emptySource? places Source.all
    simp only [List.zip_cons_cons, List.zip_nil_right, List.find?_cons, List.find?_nil, hcount, hk,
      hp, hg]
    cases decide (countOf s c .kernelSocket = 0) <;>
      cases decide (countOf s c .inKernelProbe = 0) <;>
      cases decide (countOf s c .trafficGenerator = 0) <;> rfl
  rw [List.findSome?_singleton, faultAt, ← hempty]
  cases h : empty? kernel probe generator with
  | some source =>
    rw [align_of_empty hplaces h]
    rfl
  | none =>
    obtain ⟨set, hset, -⟩ := align_of_good hplaces h
    rw [hset]
    rfl

/-- **The fault of a comparison** is that of the first stage that has one. -/
theorem refusal?_reconcile :
    refusal? (reconcile s c) = Stage.all.findSome? (faultAt s c) := by
  unfold reconcile
  refine refusal?_bind refusal?_readLineCaptures fun lines hlines => ?_
  obtain ⟨hkernel, hprobe⟩ := measured_recordsOf hlines
  have hreport : refusal? (readReport s c.generator.origin c.generator.text) =
      [Stage.report].findSome? (faultAt s c) := List.findSome?_singleton.symm
  refine refusal?_bind hreport fun report hreport => ?_
  have hkstamps : refusal? (TimedSeries.ofRecords .kernelSocket c.kernel.origin lines.kernel) =
      [Stage.kernelStamps].findSome? (faultAt s c) := by
    rw [List.findSome?_singleton]
    exact refusal?_ofRecords hkernel
  refine refusal?_bind hkstamps fun kernel hk => ?_
  have hpstamps : refusal? (TimedSeries.ofRecords .inKernelProbe c.probe.origin lines.probe) =
      [Stage.probeStamps].findSome? (faultAt s c) := by
    rw [List.findSome?_singleton, faultAt, origin_of_probe]
    exact refusal?_ofRecords hprobe
  refine refusal?_bind hpstamps fun probe hp => ?_
  have hreportOf := reportOf_eq_some.2 hreport
  refine refusal?_bind (refusal?_ofReport hreportOf) fun generator hg => ?_
  -- what has been made so far has as many samples as there are records and intervals
  obtain ⟨hks, hk⟩ := TimedSeries.ofRecords_eq_ok.1 hk
  obtain ⟨hps, hp⟩ := TimedSeries.ofRecords_eq_ok.1 hp
  obtain ⟨hgs, hg⟩ := TimedSeries.fields_of_ofReport hg
  have halign : refusal? (align kernel probe generator) =
      [Stage.samples].findSome? (faultAt s c) := by
    refine refusal?_align hks hps hgs ?_ ?_ ?_
    · exact (hkernel.length_eq.trans hk.length_eq).symm
    · exact (hprobe.length_eq.trans hp.length_eq).symm
    · have hlength := congrArg List.length hg
      rw [List.length_map, List.length_map] at hlength
      unfold countOf
      rw [hlength, hreportOf]
      rfl
  exact refusal?_bind halign fun _ _ => List.findSome?_nil.symm

/-! ## 4. Which fault is whose -/

section

variable {origin text : String} {place : Place} {r : Except StampFault Instant} {f : Fault}

theorem stampFault?_eq_none : stampFault? origin place text r = none ↔ ∃ t, r = .ok t := by
  rw [stampFault?, Option.map_eq_none_iff, refusal?_eq_none]

theorem stampFault?_eq_some :
    stampFault? origin place text r = some f ↔
      ∃ cause, r = .error cause ∧ .stamp origin place text cause = f := by
  simp only [stampFault?, Option.map_eq_some_iff, refusal?_eq_some]

end

/-- That a record is the first of its source with a timestamp that denotes no instant. The
number is that of its line in the text, of which all lines are counted. -/
structure FirstBadStamp (s : Settings) (c : Captures) (source : Source) (n : ℕ) (r : KeptRecord) :
    Prop where
  first : ∃ earlier later, recordsOf s c source = earlier ++ (n, r) :: later ∧
    ∀ x ∈ earlier, ∃ t, readStamp x.2.stamp = .ok t
  line : 0 < n ∧ ∃ l, (Text.lines (c.of source).text.toList)[n - 1]? = some l ∧
    classify s l = .ok (.kept r)

theorem mem_recordsOf {source : Source} {x : ℕ × KeptRecord} (h : x ∈ recordsOf s c source) :
    x ∈ keptRecords s (c.of source).text := by
  unfold recordsOf at h
  cases hkey : s.captureKey? source with
  | none =>
    simp only [hkey] at h
    exact absurd h List.not_mem_nil
  | some key =>
    simp only [hkey] at h
    by_cases hname : c.probe.origin = c.kernel.origin
    · rw [if_pos hname] at h
      exact List.mem_of_mem_filter h
    · rwa [if_neg hname] at h

theorem firstBadStamp_of_findSome? {source : Source} {origin : String} {f : Fault}
    (h : (recordsOf s c source).findSome? (recordFault? origin) = some f) :
    ∃ n r cause, FirstBadStamp s c source n r ∧ readStamp r.stamp = .error cause ∧
      f = .stamp origin (.line n) r.stamp cause := by
  obtain ⟨earlier, ⟨n, r⟩, later, hsplit, hbad, hgood⟩ := List.findSome?_eq_some_iff.1 h
  obtain ⟨cause, hcause, rfl⟩ := stampFault?_eq_some.1 hbad
  have hmem : (n, r) ∈ recordsOf s c source := by
    rw [hsplit]
    exact List.mem_append_right _ List.mem_cons_self
  refine ⟨n, r, cause, ⟨⟨earlier, later, hsplit, fun x hx => ?_⟩, ?_⟩, hcause, rfl⟩
  · exact stampFault?_eq_none.1 (hgood x hx)
  · exact mem_keptRecords (mem_recordsOf hmem)

/-- The fault of a line-delimited capture is located in it. -/
theorem located_of_capture {f : Fault}
    (h : faultAt s c .kernelCapture = some f ∨ faultAt s c .probeCapture = some f) :
    ∃ origin place d, f = .input origin place d := by
  simp only [faultAt] at h
  by_cases hname : c.probe.origin = c.kernel.origin
  · rw [if_pos hname, if_pos hname] at h
    obtain h | h := h
    · obtain ⟨n, d, rfl⟩ := readSharedCapture_eq_error (refusal?_eq_some.1 h)
      exact ⟨_, _, d, rfl⟩
    · cases h
  · rw [if_neg hname, if_neg hname] at h
    obtain h | h := h
    all_goals
      obtain ⟨n, d, rfl⟩ := readCapture_eq_error rfl (refusal?_eq_some.1 h)
      exact ⟨_, _, d, rfl⟩

theorem eq_beyondCalendar {r : Report} {f : Fault} (h : calendarFault? r = some f) :
    f = .beyondCalendar := by
  unfold calendarFault? at h
  cases hstart : readReportTime r.startTime with
  | error cause => simp [hstart] at h
  | ok start =>
    cases hends : TimedSeries.intervalEnds? start (r.intervals.map (·.seconds)) with
    | none => simpa [hstart, hends, eq_comm] using h
    | some ends => simp [hstart, hends] at h

/-- **The kinds of faults.** What is wrong inside a capture or a report is located in it,
timestamps are those of a first bad record or of the report's start, one stage leaves the
calendar, and only the last one misses samples. -/
theorem faultAt_eq_some {stage : Stage} {f : Fault} (h : faultAt s c stage = some f) :
    (∃ origin place d, f = .input origin place d) ∨
    (∃ source n r cause, source.isKernelNative ∧ FirstBadStamp s c source n r ∧
      readStamp r.stamp = .error cause ∧ f = .stamp (c.of source).origin (.line n) r.stamp cause) ∨
    (∃ text cause, f = .stamp c.generator.origin .startTime text cause) ∨
    (stage = .calendar ∧ f = .beyondCalendar) ∨
    ∃ source, stage = .samples ∧ emptySource? s c = some source ∧ f = .emptySeries source := by
  cases stage with
  | kernelCapture => exact .inl (located_of_capture (.inl h))
  | probeCapture => exact .inl (located_of_capture (.inr h))
  | report =>
    obtain ⟨place, d, rfl⟩ := readReport_eq_error (refusal?_eq_some.1 h)
    exact .inl ⟨_, place, d, rfl⟩
  | kernelStamps =>
    obtain ⟨n, r, cause, hbad⟩ := firstBadStamp_of_findSome? h
    exact .inr (.inl ⟨.kernelSocket, n, r, cause, rfl, hbad⟩)
  | probeStamps =>
    obtain ⟨n, r, cause, hbad⟩ := firstBadStamp_of_findSome? h
    exact .inr (.inl ⟨.inKernelProbe, n, r, cause, rfl, hbad⟩)
  | startTime =>
    obtain ⟨r, -, hr⟩ := Option.bind_eq_some_iff.1 h
    obtain ⟨cause, -, rfl⟩ := stampFault?_eq_some.1 hr
    exact .inr (.inr (.inl ⟨_, cause, rfl⟩))
  | durations =>
    obtain ⟨r, -, hr⟩ := Option.bind_eq_some_iff.1 h
    obtain ⟨i, -, rfl⟩ := Option.map_eq_some_iff.1 hr
    exact .inl ⟨_, _, _, rfl⟩
  | calendar =>
    obtain ⟨r, -, hr⟩ := Option.bind_eq_some_iff.1 h
    exact .inr (.inr (.inr (.inl ⟨rfl, eq_beyondCalendar hr⟩)))
  | samples =>
    obtain ⟨source, hsource, rfl⟩ := Option.map_eq_some_iff.1 h
    exact .inr (.inr (.inr (.inr ⟨source, rfl, hsource, rfl⟩)))

theorem exists_stage_of_error {f : Fault} (h : reconcile s c = .error f) :
    ∃ stage, faultAt s c stage = some f := by
  rw [← refusal?_eq_some, refusal?_reconcile] at h
  obtain ⟨-, stage, -, -, hstage, -⟩ := List.findSome?_eq_some_iff.1 h
  exact ⟨stage, hstage⟩

theorem Stage.mem_all (stage : Stage) : stage ∈ Stage.all := by
  cases stage <;> simp [Stage.all]

/-- A fault that only one stage finds ends the comparison when that stage finds it, and no
stage before it finds anything. -/
theorem reconcile_eq_error_of_own {earlier later : List Stage} {stage : Stage} {f : Fault}
    (hall : Stage.all = earlier ++ stage :: later) (honce : stage ∉ earlier ∧ stage ∉ later)
    (hown : ∀ other, faultAt s c other = some f → other = stage) :
    reconcile s c = .error f ↔
      (∀ other ∈ earlier, faultAt s c other = none) ∧ faultAt s c stage = some f := by
  rw [← refusal?_eq_some, refusal?_reconcile, List.findSome?_eq_some_iff]
  constructor
  · rintro ⟨before, other, after, hsplit, hother, hnone⟩
    obtain rfl := hown other hother
    rw [hall, List.append_cons_inj_of_notMem honce.1 honce.2] at hsplit
    obtain ⟨rfl, -, -⟩ := hsplit
    exact ⟨hnone, hother⟩
  · rintro ⟨hnone, hstage⟩
    exact ⟨earlier, stage, later, hall, hstage, hnone⟩

/-- The last two stages have faults of their own. -/
theorem stage_of_own {stage : Stage} {f : Fault} (h : faultAt s c stage = some f) :
    (f = .beyondCalendar → stage = .calendar) ∧
      ∀ source, f = .emptySeries source → stage = .samples := by
  obtain ⟨_, _, _, rfl⟩ | ⟨_, _, _, _, -, -, -, rfl⟩ | ⟨_, _, rfl⟩ | ⟨rfl, rfl⟩ |
    ⟨_, rfl, -, rfl⟩ := faultAt_eq_some h
  all_goals simp

/-! ## 5. Acceptance and precedence -/

theorem exists_reconcile_iff :
    (∃ r, reconcile s c = .ok r) ↔ ∀ stage, faultAt s c stage = none := by
  rw [← refusal?_eq_none, refusal?_reconcile, List.findSome?_eq_none_iff]
  exact ⟨fun h stage => h stage (Stage.mem_all stage), fun h stage _ => h stage⟩

/-- What is accepted in a report: its document, its start, the durations of its intervals,
and where they end. -/
def ReportAccepted (s : Settings) (c : Captures) : Prop :=
  ∃ r start, readReport s c.generator.origin c.generator.text = .ok r ∧
    readReportTime r.startTime = .ok start ∧
    (∀ i ∈ r.intervals, TimedSeries.goodDuration i.seconds) ∧
    (TimedSeries.intervalEnds? start (r.intervals.map (·.seconds))).isSome

/-- Captures that nothing is wrong with. -/
structure Accepted (s : Settings) (c : Captures) : Prop where
  /-- Both line-delimited captures can be read, or the one that serves for both. -/
  lines : ∃ lines, readLineCaptures s c.kernel c.probe = .ok lines
  report : ReportAccepted s c
  /-- The timestamps of all kept records of a source denote instants. -/
  stamps : ∀ source, ∀ x ∈ recordsOf s c source, ∃ t, readStamp x.2.stamp = .ok t
  /-- No source is without samples. -/
  samples : ∀ source, countOf s c source ≠ 0

theorem faultAt_lines_iff :
    (faultAt s c .kernelCapture = none ∧ faultAt s c .probeCapture = none) ↔
      ∃ lines, readLineCaptures s c.kernel c.probe = .ok lines := by
  rw [← refusal?_eq_none, refusal?_readLineCaptures, List.findSome?_eq_none_iff]
  simp

/-- What the last of the report's stages finds, when those before it find nothing: the
report has been read then, and it is a question of where its intervals end. -/
theorem faultAt_reportStages_iff {f : Option Fault} :
    (faultAt s c .report = none ∧ faultAt s c .startTime = none ∧ faultAt s c .durations = none ∧
      faultAt s c .calendar = f) ↔
      ∃ r start, readReport s c.generator.origin c.generator.text = .ok r ∧
        readReportTime r.startTime = .ok start ∧
        (∀ i ∈ r.intervals, TimedSeries.goodDuration i.seconds) ∧
        (if (TimedSeries.intervalEnds? start (r.intervals.map (·.seconds))).isSome then none
          else some .beyondCalendar) = f := by
  simp only [faultAt, refusal?_eq_none, ← reportOf_eq_some]
  cases hr : reportOf s c with
  | none => simp
  | some r =>
    simp only [Option.bind_some, startFault?, durationFault?, calendarFault?, Option.some.injEq,
      exists_eq', true_and, exists_and_left, exists_eq_left']
    cases hstart : readReportTime r.startTime with
    | error cause => simp
    | ok start =>
      cases hends : TimedSeries.intervalEnds? start (r.intervals.map (·.seconds)) <;> simp [hends]

theorem faultAt_report_iff :
    (faultAt s c .report = none ∧ faultAt s c .startTime = none ∧ faultAt s c .durations = none ∧
      faultAt s c .calendar = none) ↔ ReportAccepted s c := by
  rw [faultAt_reportStages_iff, ReportAccepted]
  simp only [ite_eq_left_iff, reduceCtorEq, imp_false, not_not]

theorem faultAt_stamps_iff :
    (faultAt s c .kernelStamps = none ∧ faultAt s c .probeStamps = none) ↔
      ∀ source, ∀ x ∈ recordsOf s c source, ∃ t, readStamp x.2.stamp = .ok t := by
  simp only [faultAt, List.findSome?_eq_none_iff, recordFault?, stampFault?_eq_none]
  constructor
  · rintro ⟨hkernel, hprobe⟩ source
    cases source with
    | kernelSocket => exact hkernel
    | inKernelProbe => exact hprobe
    | trafficGenerator => exact List.forall_mem_nil _
  · intro h
    exact ⟨h .kernelSocket, h .inKernelProbe⟩

theorem accepted_iff : Accepted s c ↔ ∀ stage, faultAt s c stage = none := by
  have hsamples : faultAt s c .samples = none ↔ ∀ source, countOf s c source ≠ 0 := by
    rw [faultAt, Option.map_eq_none_iff, emptySource?, List.find?_eq_none]
    simp only [decide_eq_true_eq]
    exact ⟨fun h source => h source (Source.mem_all source), fun h source _ => h source⟩
  constructor
  · intro h stage
    obtain ⟨hkernel, hprobe⟩ := faultAt_lines_iff.2 h.lines
    obtain ⟨hreport, hstart, hdurations, hcalendar⟩ := faultAt_report_iff.2 h.report
    obtain ⟨hkstamps, hpstamps⟩ := faultAt_stamps_iff.2 h.stamps
    cases stage with
    | kernelCapture => exact hkernel
    | probeCapture => exact hprobe
    | report => exact hreport
    | kernelStamps => exact hkstamps
    | probeStamps => exact hpstamps
    | startTime => exact hstart
    | durations => exact hdurations
    | calendar => exact hcalendar
    | samples => exact hsamples.2 h.samples
  · intro h
    constructor
    · exact faultAt_lines_iff.1 ⟨h _, h _⟩
    · exact faultAt_report_iff.1 ⟨h _, h _, h _, h _⟩
    · exact faultAt_stamps_iff.1 ⟨h _, h _⟩
    · exact hsamples.1 (h .samples)

theorem badStamp_of_error {origin text : String} {n : ℕ} {cause : StampFault}
    (h : reconcile s c = .error (.stamp origin (.line n) text cause)) :
    ∃ source r, source.isKernelNative ∧ origin = (c.of source).origin ∧
      FirstBadStamp s c source n r ∧ r.stamp = text ∧ readStamp text = .error cause := by
  obtain ⟨stage, hstage⟩ := exists_stage_of_error h
  obtain ⟨_, _, _, hf⟩ | ⟨source, _, r, _, hnative, hbad, hcause, hf⟩ | ⟨_, _, hf⟩ | ⟨-, hf⟩ |
    ⟨_, -, -, hf⟩ := faultAt_eq_some hstage
  · cases hf
  · cases hf
    exact ⟨source, r, hnative, rfl, hbad, rfl, hcause⟩
  · cases hf
  · cases hf
  · cases hf

/-- Before the last stage no source is missed. -/
theorem emptySeries_iff {source : Source} :
    reconcile s c = .error (.emptySeries source) ↔
      (∀ stage, stage ≠ .samples → faultAt s c stage = none) ∧ emptySource? s c = some source := by
  have hall : Stage.all = Stage.all.dropLast ++ [.samples] := rfl
  have hbefore (stage : Stage) : stage ∈ Stage.all.dropLast ↔ stage ≠ .samples := by
    cases stage <;> simp [Stage.all]
  rw [reconcile_eq_error_of_own hall (by simp [Stage.all]) fun _ h => (stage_of_own h).2 source rfl]
  simp only [hbefore, faultAt, Option.map_eq_some_iff, Fault.emptySeries.injEq, exists_eq_right]

theorem ne_settings (d : SettingsDefect) : reconcile s c ≠ .error (.settings d) := by
  intro h
  obtain ⟨stage, hstage⟩ := exists_stage_of_error h
  obtain ⟨_, _, _, hf⟩ | ⟨_, _, _, _, -, -, -, hf⟩ | ⟨_, _, hf⟩ | ⟨-, hf⟩ | ⟨_, -, -, hf⟩ :=
    faultAt_eq_some hstage
  all_goals cases hf

/-- **Acceptance and precedence.** A comparison succeeds when nothing is wrong with its
captures, and fails otherwise with what the first stage objects to.

* A timestamp is refused in a line-delimited capture for the first bad record of a source,
  which is named by its line in the text.
* A source is missed when everything else is accepted, and it is the first without samples.
* A comparison is never refused for its settings, and so never for a series in the wrong
  place. -/
theorem first_objection_decides (s : Settings) (c : Captures) :
    ((∃ r, reconcile s c = .ok r) ↔ Accepted s c) ∧
    (∀ f, reconcile s c = .error f ↔ Stage.all.findSome? (faultAt s c) = some f) ∧
    (∀ origin n text cause, reconcile s c = .error (.stamp origin (.line n) text cause) →
      ∃ source r, source.isKernelNative ∧ origin = (c.of source).origin ∧
        FirstBadStamp s c source n r ∧ r.stamp = text ∧ readStamp text = .error cause) ∧
    (∀ source, reconcile s c = .error (.emptySeries source) ↔
      (∀ stage, stage ≠ .samples → faultAt s c stage = none) ∧
        emptySource? s c = some source) ∧
    ∀ d, reconcile s c ≠ .error (.settings d) := by
  refine ⟨?_, fun f => ?_, fun _ _ _ _ => badStamp_of_error, fun _ => emptySeries_iff, ne_settings⟩
  · rw [exists_reconcile_iff, accepted_iff]
  · rw [← refusal?_eq_some, refusal?_reconcile]

/-- A record of the kernel's with a timestamp. -/
def recordStamped (stamp : String) : String :=
  "\x7b\"flow-lifecycle\":\x7b\"state\":\"ongoing\",\"current-time\":\"" ++ stamp ++
    "\"\x7d,\"netlink\":\x7b\"tcpInfo\":\x7b\x7d\x7d\x7d"

/-- A shared capture with a timestamp on its second line that is none. -/
def badStampCaptures : Captures :=
  ⟨⟨"f", "\n" ++ recordStamped "soon"⟩, ⟨"f", ""⟩, ⟨"g", oneInterval⟩⟩

theorem first_objection_decides_bad_stamp :
    reconcile {} badStampCaptures = .error (.stamp "f" (.line 2) "soon" .notDateTime) ∧
    ∃ source r, source.isKernelNative ∧ "f" = (badStampCaptures.of source).origin ∧
      FirstBadStamp {} badStampCaptures source 2 r ∧ r.stamp = "soon" ∧
      readStamp "soon" = .error .notDateTime := by
  have h : reconcile {} badStampCaptures = .error (.stamp "f" (.line 2) "soon" .notDateTime) :=
    refusal?_eq_some.1 (by decide +kernel)
  exact ⟨h, (first_objection_decides {} _).2.2.1 _ _ _ _ h⟩

end FlowTriad
