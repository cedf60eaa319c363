/-
`Proofs/Intervals/Series.lean` -- the series of a report, and its order.

A report has one start and many durations, and the instants of its series are running
totals of the durations, moved on from the start. What becomes of a report is said here for
all reports (`Placed`): its start is refused, or else a first bad duration, or an interval
ends beyond the calendar, or there is a series that runs from the start.

Totals do not fall, as no duration that got this far is negative, and a longer move leads to
no earlier instant, also from a leap second. So a series that runs from a start is in order,
which of three series is the one that never has a sample before the epoch.
-/
import FlowTriad.Proofs.Alignment.Sorted
import FlowTriad.Proofs.Capture.ReportFormat
import FlowTriad.Proofs.Intervals

set_option autoImplicit false

namespace FlowTriad

open Double TimedSeries

variable {origin : String} {r : Report} {start : Instant} {t : TimedSeries}

/-! ## 1. Durations -/

namespace Report

/-- That every duration of a report is a finite number that is not negative. -/
def GoodDurations (r : Report) : Prop :=
  ∀ b ∈ r.intervals, Decimal.isFinite b.seconds ∧ ¬ b.seconds < 0.0

/-- The first interval of a report whose duration is negative or not finite, and where it is. -/
structure FirstBad (r : Report) (i : ℕ) (bad : Interval) : Prop where
  here : r.intervals[i]? = some bad
  bad : ¬ Decimal.isFinite bad.seconds ∨ bad.seconds < 0.0
  earlier : ∀ b ∈ r.intervals.take i, Decimal.isFinite b.seconds ∧ ¬ b.seconds < 0.0

/-- That every interval has the number of its place. -/
def Numbered (r : Report) : Prop :=
  ∀ (i : ℕ) (b : Interval), r.intervals[i]? = some b → b.index = i

/-- The nanoseconds from the start of a report to the end of an interval: the sum of the
durations up to it, times a billion, as a whole number within 64 bits. -/
def elapsed (r : Report) (i : ℕ) : ℤ :=
  nanoseconds (totalOf ((r.intervals.take (i + 1)).map (·.seconds)))

theorem goodDurations_iff :
    r.GoodDurations ↔ ∀ x ∈ r.intervals.map (·.seconds), goodDuration x := by
  simp only [GoodDurations, List.forall_mem_map, goodDuration_iff]

/-- **A search for a bad duration** finds the first. -/
theorem find?_badDuration_eq_some {bad : Interval} :
    r.intervals.find? (!goodDuration ·.seconds) = some bad ↔ ∃ i, r.FirstBad i bad := by
  have hbad : (!goodDuration bad.seconds) ↔
      ¬ Decimal.isFinite bad.seconds ∨ bad.seconds < 0.0 := by
    rw [Bool.not_eq_true', ← Bool.not_eq_true, goodDuration_iff, not_and_or, not_not]
  rw [List.find?_eq_some_iff_append, hbad]
  constructor
  · rintro ⟨hbad, earlier, later, hsplit, hearlier⟩
    refine ⟨earlier.length, ?_, hbad, ?_⟩
    · rw [hsplit]
      simp
    · intro b hb
      rw [hsplit, List.take_left] at hb
      simpa [goodDuration_iff] using hearlier b hb
  · rintro ⟨i, hhere, hbad, hearlier⟩
    obtain ⟨hi, hget⟩ := List.getElem?_eq_some_iff.1 hhere
    refine ⟨hbad, r.intervals.take i, r.intervals.drop (i + 1), ?_, ?_⟩
    · rw [← hget, List.getElem_cons_drop, List.take_append_drop]
    · intro b hb
      simpa [goodDuration_iff] using hearlier b hb

theorem find?_badDuration_eq_none :
    r.intervals.find? (!goodDuration ·.seconds) = none ↔ r.GoodDurations := by
  simp only [List.find?_eq_none, GoodDurations, Bool.not_eq_true', Bool.not_eq_false,
    goodDuration_iff]

/-- The intervals of a report that was read are numbered. -/
theorem numbered_of_read {s : Settings} {text : String} (h : readReport s origin text = .ok r) :
    r.Numbered := by
  obtain ⟨document, items, -, -, hitems⟩ := readReport_eq_ok.1 h
  intro i b hb
  -- the items come with their places, and an interval takes that of its item
  obtain ⟨x, hx, hread⟩ := getElem?_of_forall₂ hitems.flip hb
  obtain ⟨selected, n, -, -, rfl⟩ := readInterval_eq_ok.1 hread
  rw [List.getElem?_zipIdx] at hx
  obtain ⟨j, -, rfl⟩ := Option.map_eq_some_iff.1 hx
  simp

/-! ## 2. Nanoseconds from the start -/

theorem elapsed_eq (r : Report) (i : ℕ) :
    r.elapsed i = nanoseconds (totalOf ((r.intervals.map (·.seconds)).take (i + 1))) := by
  rw [elapsed, List.map_take]

theorem elapsed_nonneg (hgood : r.GoodDurations) (i : ℕ) : 0 ≤ r.elapsed i := by
  rw [elapsed_eq]
  exact (nanoseconds_total_mono (goodDurations_iff.1 hgood) (i + 1)).1

/-- **Running totals do not fall.** -/
theorem elapsed_mono (hgood : r.GoodDurations) {i j : ℕ} (h : i ≤ j) :
    r.elapsed i ≤ r.elapsed j := by
  have hdurations : ∀ x ∈ (r.intervals.map (·.seconds)).take (j + 1), goodDuration x := by
    intro x hx
    exact goodDurations_iff.1 hgood x (List.mem_of_mem_take hx)
  have hmono := (nanoseconds_total_mono hdurations (i + 1)).2
  rw [List.take_take, min_eq_left (Nat.succ_le_succ h)] at hmono
  rwa [elapsed_eq, elapsed_eq]

/-- What is rounded to the nanoseconds of an interval, which may be infinite. -/
theorem elapsed_eq_nearest (hgood : r.GoodDurations) (i : ℕ) :
    ∃ p, HasRank (totalOf ((r.intervals.take (i + 1)).map (·.seconds)) * 1e9) p ∧ 0 ≤ p ∧
      r.elapsed i = nearestInt64 p := by
  have hdurations : ∀ x ∈ (r.intervals.take (i + 1)).map (·.seconds), goodDuration x := by
    intro x hx
    rw [List.map_take] at hx
    exact goodDurations_iff.1 hgood x (List.mem_of_mem_take hx)
  obtain ⟨q, hq, hrank⟩ := exists_hasRank_foldl hasValue_zero.hasRank le_rfl hdurations
  refine ⟨limited (rounded (q * 1000000000)), ?_, ?_, ?_⟩
  · exact hrank.mul hq hasValue_billion (by norm_num)
  · exact limited_nonneg (rounded_nonneg (mul_nonneg hq (by norm_num)))
  · exact nanoseconds_eq hrank hq

end Report

/-! ## 3. Series -/

/-- **A series that runs from a start**: a sample for each interval, with its numbers, and as many
nanoseconds after the start as the report has until then. -/
structure RunsFrom (start : Instant) (r : Report) (t : TimedSeries) : Prop where
  source : t.source = .trafficGenerator
  length : t.samples.length = r.intervals.length
  sample : ∀ (i : ℕ) b x, r.intervals[i]? = some b → t.samples[i]? = some x →
    x.fields = b.fields ∧ start.add? (r.elapsed i) = some x.instant

/-- **A series in order from a start.** -/
structure InOrderFrom (start : Instant) (t : TimedSeries) : Prop where
  notBefore : ∀ x ∈ t.samples, start ≤ x.instant
  sorted : t.Sorted
  least : ∀ first, t.first? = some first → IsLeast { u | ∃ x ∈ t.samples, x.instant = u } first
  /-- Whatever the other two series are. -/
  epoch : ∀ kernel probe set, align kernel probe t = .ok set → ∀ x ∈ t.samples,
    set.epoch ≤ x.instant

theorem RunsFrom.exists_interval (h : RunsFrom start r t) {i : ℕ} {x : TimedSample}
    (hx : t.samples[i]? = some x) : ∃ b, r.intervals[i]? = some b := by
  have hi := (List.getElem?_eq_some_iff.1 hx).1
  rw [h.length] at hi
  exact ⟨_, List.getElem?_eq_getElem hi⟩

/-- The end of an interval is that far from the start. -/
theorem RunsFrom.add? (h : RunsFrom start r t) {i : ℕ} {x : TimedSample}
    (hx : t.samples[i]? = some x) : start.add? (r.elapsed i) = some x.instant := by
  obtain ⟨b, hb⟩ := h.exists_interval hx
  exact (h.sample i b x hb hx).2

theorem RunsFrom.passed (h : RunsFrom start r t) (hgood : r.GoodDurations) {i : ℕ}
    {x : TimedSample} (hx : t.samples[i]? = some x) :
    start.passed x.instant = r.elapsed i := by
  have hadd := h.add? hx
  rw [Instant.add?_eq_some_iff (r.elapsed_nonneg hgood i)] at hadd
  exact hadd.1

/-- **Running from a start is being in order.** -/
theorem RunsFrom.inOrderFrom (h : RunsFrom start r t) (hgood : r.GoodDurations) :
    InOrderFrom start t := by
  have hsorted : t.Sorted := by
    unfold TimedSeries.Sorted
    rw [List.pairwise_iff_getElem]
    intro i j hi hj hij
    exact Instant.le_of_add? (r.elapsed_nonneg hgood i) (r.elapsed_mono hgood hij.le)
      (h.add? (List.getElem?_eq_getElem hi)) (h.add? (List.getElem?_eq_getElem hj))
  refine ⟨?_, hsorted, ?_, ?_⟩
  · intro x hx
    obtain ⟨i, hi⟩ := List.mem_iff_getElem?.1 hx
    exact Instant.le_add? (r.elapsed_nonneg hgood i) (h.add? hi)
  · intro first hfirst
    constructor
    · obtain ⟨x, hx, hinstant⟩ := Option.map_eq_some_iff.1 hfirst
      exact ⟨x, List.mem_of_head? hx, hinstant⟩
    · rintro u ⟨x, hx, rfl⟩
      exact hsorted.first_le hfirst hx
  · intro kernel probe set hset x hx
    have hplace : (Source.trafficGenerator, t) ∈ places kernel probe t := by
      simp [places, Source.all]
    exact (aligned_of_align_eq_ok hset).epoch_le hplace hsorted hx

/-- A start and a report leave no choice. -/
theorem RunsFrom.eq {u : TimedSeries} (h : RunsFrom start r t) (h' : RunsFrom start r u) :
    t = u := by
  have hsamples : t.samples = u.samples := by
    refine List.ext_getElem (h.length.trans h'.length.symm) ?_
    intro i hi hi'
    have hx := List.getElem?_eq_getElem hi
    have hy := List.getElem?_eq_getElem hi'
    obtain ⟨b, hb⟩ := h.exists_interval hx
    obtain ⟨hfields, hinstant⟩ := h.sample i b _ hb hx
    obtain ⟨hfields', hinstant'⟩ := h'.sample i b _ hb hy
    rw [hinstant, Option.some.injEq] at hinstant'
    exact congrArg₂ TimedSample.mk hinstant' (hfields.trans hfields'.symm)
  exact congrArg₂ TimedSeries.mk (h.source.trans h'.source.symm) hsamples

/-- The samples of intervals that all end run from the start. -/
theorem runsFrom_samplesEnding {ends : List Instant}
    (h : intervalEnds? start (r.intervals.map (·.seconds)) = some ends) :
    RunsFrom start r ⟨.trafficGenerator, samplesEnding ends r.intervals⟩ := by
  have hlength : ends.length = r.intervals.length := by
    rw [length_intervalEnds? h, List.length_map]
  refine ⟨rfl, ?_, ?_⟩
  · simp [samplesEnding, hlength]
  · intro i b x hb hx
    have hi : i < (r.intervals.map (·.seconds)).length := by
      rw [List.length_map]
      exact (List.getElem?_eq_some_iff.1 hb).1
    obtain ⟨u, hu, hadd⟩ := getElem?_of_forall₂ (intervalEnds?_eq_some.1 h) (getElem?_totalsFrom hi)
    -- the sample at a place is made of the end and of the interval there
    have hzip : (ends.zip r.intervals)[i]? = some (u, b) := List.getElem?_zip_eq_some.2 ⟨hu, hb⟩
    simp only [samplesEnding, List.getElem?_map, hzip, Option.map_some, Option.some.injEq] at hx
    subst hx
    refine ⟨rfl, ?_⟩
    rw [Report.elapsed_eq]
    exact hadd

/-! ## 4. What becomes of a report -/

/-- **What becomes of a report**: it is refused for its start, or else for its first bad
duration, or an interval ends beyond the calendar, or it makes a series. -/
inductive Placed (origin : String) (r : Report) : Except Fault TimedSeries → Prop
  | badStart {cause : StampFault} (hstart : readReportTime r.startTime = .error cause) :
      Placed origin r (.error (.stamp origin .startTime r.startTime cause))
  | badDuration {start : Instant} {i : ℕ} {bad : Interval}
      (hstart : readReportTime r.startTime = .ok start) (hbad : r.FirstBad i bad) :
      Placed origin r (.error (.input origin (.interval bad.index) (.badDuration bad.seconds)))
  | beyond {start : Instant} {i : ℕ} (hstart : readReportTime r.startTime = .ok start)
      (hgood : r.GoodDurations) (hi : i < r.intervals.length)
      (hnone : start.add? (r.elapsed i) = none) :
      Placed origin r (.error .beyondCalendar)
  | series {start : Instant} {t : TimedSeries} (hstart : readReportTime r.startTime = .ok start)
      (hgood : r.GoodDurations) (hruns : RunsFrom start r t) :
      Placed origin r (.ok t)

/-- Some interval has no end when one is too far from the start. -/
theorem intervalEnds?_eq_none_iff_elapsed :
    intervalEnds? start (r.intervals.map (·.seconds)) = none ↔
      ∃ i < r.intervals.length, start.add? (r.elapsed i) = none := by
  rw [← Option.not_isSome_iff_eq_none, isSome_intervalEnds?_iff_totals]
  simp only [List.length_map, ← Report.elapsed_eq, not_forall, Option.not_isSome_iff_eq_none,
    exists_prop]

theorem placed_ofReport (origin : String) (r : Report) : Placed origin r (ofReport origin r) := by
  unfold ofReport
  cases hstart : readReportTime r.startTime with
  | error cause => exact .badStart hstart
  | ok start =>
    cases hbad : r.intervals.find? (!goodDuration ·.seconds) with
    | some bad =>
      obtain ⟨i, hfirst⟩ := Report.find?_badDuration_eq_some.1 hbad
      simp only
      exact .badDuration hstart hfirst
    | none =>
      have hgood := Report.find?_badDuration_eq_none.1 hbad
      cases hends : intervalEnds? start (r.intervals.map (·.seconds)) with
      | none =>
        obtain ⟨i, hi, hnone⟩ := intervalEnds?_eq_none_iff_elapsed.1 hends
        simp only [hends]
        exact .beyond hstart hgood hi hnone
      | some ends =>
        simp only [hends]
        exact .series hstart hgood (runsFrom_samplesEnding hends)

/-- All intervals end where a series runs from the start. -/
theorem RunsFrom.exists_ends (h : RunsFrom start r t) :
    ∃ ends, intervalEnds? start (r.intervals.map (·.seconds)) = some ends := by
  refine Option.ne_none_iff_exists'.1 ?_
  intro hnone
  obtain ⟨i, hi, hadd⟩ := intervalEnds?_eq_none_iff_elapsed.1 hnone
  rw [← h.length] at hi
  have hend := h.add? (List.getElem?_eq_getElem hi)
  rw [hadd] at hend
  cases hend

/-- **Nothing else becomes of a report.** -/
theorem ofReport_eq_iff {x : Except Fault TimedSeries} :
    ofReport origin r = x ↔ Placed origin r x := by
  constructor
  · rintro rfl
    exact placed_ofReport origin r
  · intro h
    cases h with
    | badStart hstart => simp only [ofReport, hstart]
    | badDuration hstart hbad =>
      simp only [ofReport, hstart, Report.find?_badDuration_eq_some.2 ⟨_, hbad⟩]
    | beyond hstart hgood hi hnone =>
      simp only [ofReport, hstart, Report.find?_badDuration_eq_none.2 hgood,
        intervalEnds?_eq_none_iff_elapsed.2 ⟨_, hi, hnone⟩]
    | series hstart hgood hruns =>
      obtain ⟨ends, hends⟩ := hruns.exists_ends
      rw [hruns.eq (runsFrom_samplesEnding hends)]
      exact ofReport_eq_ok.2
        ⟨_, ends, hstart, Report.find?_badDuration_eq_none.2 hgood, hends, rfl⟩

/-- **The series of a report is in order.**

* One thing becomes of every report, and it is refused for its start when that is not read, and
  only then.
* A series of it lies `elapsed` nanoseconds after the start, sample by sample, and is in order from
  there: nothing is before the start, no instant falls, the first is the least, and nothing is
  before the epoch of an alignment.
* The nanoseconds are the sum of doubles times a billion, rounded to the nearest whole number of
  64 bits, and do not fall.
* The intervals of a report that was read are numbered, so the one that is named in a fault is
  the one at that place. -/
theorem report_series_in_order (origin : String) (r : Report) :
    (∀ x, ofReport origin r = x ↔ Placed origin r x) ∧
    ((∃ o place text cause, ofReport origin r = .error (.stamp o place text cause)) ↔
      ∃ cause, readReportTime r.startTime = .error cause) ∧
    (∀ start t, readReportTime r.startTime = .ok start → ofReport origin r = .ok t →
      InOrderFrom start t ∧
        ∀ (i : ℕ) x, t.samples[i]? = some x → start.passed x.instant = r.elapsed i) ∧
    (r.GoodDurations → ∀ i,
      0 ≤ r.elapsed i ∧ (∀ j, i ≤ j → r.elapsed i ≤ r.elapsed j) ∧
      ∃ p, HasRank (totalOf ((r.intervals.take (i + 1)).map (·.seconds)) * 1e9) p ∧ 0 ≤ p ∧
        r.elapsed i = nearestInt64 p) ∧
    ∀ s text, readReport s origin text = .ok r → r.Numbered := by
  refine ⟨fun x => ofReport_eq_iff, ?_, ?_, ?_, ?_⟩
  · constructor
    · rintro ⟨o, place, text, cause, h⟩
      cases ofReport_eq_iff.1 h with
      | badStart hstart => exact ⟨_, hstart⟩
    · rintro ⟨cause, hstart⟩
      exact ⟨_, _, _, _, ofReport_eq_iff.2 (.badStart hstart)⟩
  · intro start t hstart hseries
    cases ofReport_eq_iff.1 hseries with
    | series hstart' hgood hruns =>
      rw [hstart, Except.ok.injEq] at hstart'
      subst hstart'
      exact ⟨hruns.inOrderFrom hgood, fun i x hx => hruns.passed hgood hx⟩
  · intro hgood i
    exact ⟨r.elapsed_nonneg hgood i, fun j hij => r.elapsed_mono hgood hij,
      r.elapsed_eq_nearest hgood i⟩
  · intro s text hread
    exact Report.numbered_of_read hread

/-- A report that begins in a leap second, with one of its durations zero and two so long that
their sum is infinite. -/
def leapReport : Report where
  startTime := "Sat, 31 Dec 2016 23:59:60 GMT"
  intervals := [⟨0, 0.25, Keyed.ofList [("seconds", 0.25)]⟩, ⟨1, 0, Keyed.ofList [("seconds", 0)]⟩,
    ⟨2, 1.5e308, Keyed.ofList [("seconds", 1.5e308)]⟩,
    ⟨3, 1.5e308, Keyed.ofList [("seconds", 1.5e308)]⟩]

/-- The text of that report. -/
def leapReportText : String :=
  let interval (seconds : String) := "\x7b\"streams\":[\x7b\"seconds\":" ++ seconds ++ "\x7d]\x7d"
  "\x7b\"start\":\x7b\"timestamp\":\x7b\"time\":\"Sat, 31 Dec 2016 23:59:60 GMT\"\x7d\x7d," ++
    "\"intervals\":[" ++ ",".intercalate (["0.25", "0", "1.5e308", "1.5e308"].map interval) ++
    "]\x7d"

/-- The instant at which it begins. -/
def leapStart : Instant :=
  ⟨1483228799, 1000000000, by decide⟩

/-- The same report with one more duration, which is negative. -/
def leapReportBack : Report where
  startTime := leapReport.startTime
  intervals := leapReport.intervals ++ [⟨4, -0.5, Keyed.empty⟩]

theorem report_series_in_order_leap_second :
    ∃ t, readReport {} "g" leapReportText = .ok leapReport ∧
      readReportTime leapReport.startTime = .ok leapStart ∧ leapStart.isLeap ∧
      ofReport "g" leapReport = .ok t ∧ InOrderFrom leapStart t ∧
      (∀ (i : ℕ) x, t.samples[i]? = some x → leapStart.passed x.instant = leapReport.elapsed i) ∧
      leapReport.elapsed 1 = 250000000 ∧ leapReport.elapsed 3 = Whole.greatest ∧
      leapReport.elapsed 1 ≤ leapReport.elapsed 3 ∧ leapReport.Numbered ∧
      ofReport "g" leapReportBack = .error (.input "g" (.interval 4) (.badDuration (-0.5))) := by
  have hread : readReport {} "g" leapReportText = .ok leapReport := by decide +kernel
  have hstart : readReportTime leapReport.startTime = .ok leapStart := by decide +kernel
  have hgood : leapReport.GoodDurations := by
    unfold Report.GoodDurations
    decide +kernel
  obtain ⟨t, ht⟩ := exists_eq_ok (x := ofReport "g" leapReport) (by decide +kernel)
  obtain ⟨-, -, horder, helapsed, hnumbered⟩ := report_series_in_order "g" leapReport
  obtain ⟨hinOrder, hpassed⟩ := horder leapStart t hstart ht
  -- the durations before the bad one are those of the other report
  have hstart' : readReportTime leapReportBack.startTime = .ok leapStart := hstart
  have hbad : leapReportBack.FirstBad 4 ⟨4, -0.5, Keyed.empty⟩ :=
    ⟨rfl, .inr (by decide +kernel), hgood⟩
  refine ⟨t, hread, hstart, by decide, ht, hinOrder, hpassed, by decide +kernel,
    by decide +kernel, (helapsed hgood 1).2.1 3 (by decide), hnumbered {} leapReportText hread, ?_⟩
  exact ((report_series_in_order "g" leapReportBack).1 _).2 (.badDuration hstart' hbad)

end FlowTriad
