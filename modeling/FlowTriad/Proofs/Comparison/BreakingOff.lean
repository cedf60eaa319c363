/-
`Proofs/Comparison/BreakingOff.lean` -- the one case in which nothing is reported.

Whatever is wrong with three captures is reported in a fault, with one exception. The
instant of an interval is made by moving the start of the report, and a move that leads
out of the calendar has no instant; a comparison breaks off there. Start times are read
up to the last second of the calendar, and a duration may be any number that is not
negative, so there are reports that nothing else is wrong with. Which they are is said
here exactly (`LeavesCalendar`), and that they begin in the last three hundred years of
the calendar.
-/
import FlowTriad.Proofs.Comparison.Refusal
import FlowTriad.Proofs.Intervals

set_option autoImplicit false

namespace FlowTriad

open TimedSeries

variable {s : Settings} {c : Captures}

/-- Captures that nothing is wrong with, but that the total of the durations leads from the
start of the report out of the calendar. -/
structure LeavesCalendar (s : Settings) (c : Captures) : Prop where
  lines : ∃ lines, readLineCaptures s c.kernel c.probe = .ok lines
  stamps : ∀ source, ∀ x ∈ recordsOf s c source, ∃ t, readStamp x.2.stamp = .ok t
  report : ∃ r start, readReport s c.generator.origin c.generator.text = .ok r ∧
    readReportTime r.startTime = .ok start ∧ (∀ i ∈ r.intervals, goodDuration i.seconds) ∧
    Instant.lastSecond < start.secondAfter (nanoseconds (totalOf (r.intervals.map (·.seconds))))

/-- A report whose start and durations are accepted leaves the calendar when an interval has
no end. -/
theorem faultAt_calendar_iff :
    (faultAt s c .report = none ∧ faultAt s c .startTime = none ∧ faultAt s c .durations = none ∧
      faultAt s c .calendar = some .beyondCalendar) ↔
      ∃ r start, readReport s c.generator.origin c.generator.text = .ok r ∧
        readReportTime r.startTime = .ok start ∧ (∀ i ∈ r.intervals, goodDuration i.seconds) ∧
        intervalEnds? start (r.intervals.map (·.seconds)) = none := by
  rw [faultAt_reportStages_iff]
  simp only [ite_eq_right_iff, reduceCtorEq, imp_false, Option.not_isSome_iff_eq_none]

/-- With good durations, that is a question of their total. -/
theorem intervalEnds?_eq_none_iff {start : Instant} {intervals : List Interval}
    (hgood : ∀ i ∈ intervals, goodDuration i.seconds) :
    intervalEnds? start (intervals.map (·.seconds)) = none ↔
      Instant.lastSecond <
        start.secondAfter (nanoseconds (totalOf (intervals.map (·.seconds)))) := by
  rw [← Option.isNone_iff_eq_none, ← Option.not_isSome, Bool.not_eq_true', ← Bool.not_eq_true,
    isSome_intervalEnds?_iff (List.forall_mem_map.2 hgood), not_le]

theorem reconcile_eq_beyondCalendar_iff :
    reconcile s c = .error .beyondCalendar ↔ LeavesCalendar s c := by
  have hall : Stage.all = [.kernelCapture, .probeCapture, .report, .kernelStamps, .probeStamps,
    .startTime, .durations] ++ .calendar :: [.samples] := rfl
  -- it ends this way when that check objects and none of those before it
  rw [reconcile_eq_error_of_own hall (by simp) fun _ h => (stage_of_own h).1 rfl]
  simp only [List.forall_mem_cons, List.not_mem_nil, false_imp_iff, implies_true, and_true]
  constructor
  · rintro ⟨⟨hkernel, hprobe, hreport, hkstamps, hpstamps, hstart, hdurations⟩, hcalendar⟩
    obtain ⟨r, start, hread, hbegin, hgood, hends⟩ :=
      faultAt_calendar_iff.1 ⟨hreport, hstart, hdurations, hcalendar⟩
    exact ⟨faultAt_lines_iff.1 ⟨hkernel, hprobe⟩, faultAt_stamps_iff.1 ⟨hkstamps, hpstamps⟩,
      r, start, hread, hbegin, hgood, (intervalEnds?_eq_none_iff hgood).1 hends⟩
  · rintro ⟨hlines, hstamps, r, start, hread, hbegin, hgood, hbeyond⟩
    obtain ⟨hkernel, hprobe⟩ := faultAt_lines_iff.2 hlines
    obtain ⟨hkstamps, hpstamps⟩ := faultAt_stamps_iff.2 hstamps
    obtain ⟨hreport, hstart, hdurations, hcalendar⟩ := faultAt_calendar_iff.2
      ⟨r, start, hread, hbegin, hgood, (intervalEnds?_eq_none_iff hgood).2 hbeyond⟩
    exact ⟨⟨hkernel, hprobe, hreport, hkstamps, hpstamps, hstart, hdurations⟩, hcalendar⟩

/-- Of all faults of a comparison, one breaks it off. -/
theorem eq_beyondCalendar_of_breaksOff {f : Fault} (h : reconcile s c = .error f)
    (hbreaks : f.breaksOff) : f = .beyondCalendar := by
  obtain ⟨stage, hstage⟩ := exists_stage_of_error h
  obtain ⟨_, _, _, rfl⟩ | ⟨_, _, _, _, -, -, -, rfl⟩ | ⟨_, _, rfl⟩ | ⟨-, rfl⟩ | ⟨_, -, -, rfl⟩ :=
    faultAt_eq_some hstage
  · cases hbreaks
  · cases hbreaks
  · cases hbreaks
  · rfl
  · cases hbreaks

/-- **When a comparison breaks off.**

* It does for captures that leave the calendar, and for no others: everything else that is
  wrong is reported.
* Intervals with good durations all have an end when the total of the durations does not
  lead out of the calendar.
* It does not from a start that 64 bits of nanoseconds do not lead out of it. -/
theorem comparison_breaks_off_iff (s : Settings) (c : Captures) :
    ((∃ f, reconcile s c = .error f ∧ f.breaksOff) ↔ LeavesCalendar s c) ∧
    ∀ start durations, (∀ x ∈ durations, goodDuration x) →
      ((intervalEnds? start durations).isSome ↔
        start.secondAfter (nanoseconds (totalOf durations)) ≤ Instant.lastSecond) ∧
      (start.seconds + reach ≤ Instant.lastSecond → (intervalEnds? start durations).isSome) := by
  refine ⟨?_, fun start durations hgood => ⟨?_, ?_⟩⟩
  · rw [← reconcile_eq_beyondCalendar_iff]
    constructor
    · rintro ⟨f, hf, hbreaks⟩
      rwa [eq_beyondCalendar_of_breaksOff hf hbreaks] at hf
    · intro h
      exact ⟨.beyondCalendar, h, rfl⟩
  · exact isSome_intervalEnds?_iff hgood
  · exact isSome_intervalEnds?_of_early hgood

/-- A record of both of the kernel's sources, and a report that begins in the last second of
the calendar and lasts one more. -/
def lastSecondCaptures : Captures :=
  let report := "\x7b\"start\":\x7b\"timestamp\":\x7b\"time\":\"Mon, 31 Dec +262142 23:59:59 GMT\"" ++
    "\x7d\x7d,\"intervals\":[\x7b\"streams\":[\x7b\"seconds\":1\x7d]\x7d]\x7d"
  ⟨⟨"f", recordCarrying ["netlink", "skOps"]⟩, ⟨"f", ""⟩, ⟨"g", report⟩⟩

theorem comparison_breaks_off_iff_last_second :
    reconcile {} lastSecondCaptures = .error .beyondCalendar ∧
      LeavesCalendar {} lastSecondCaptures ∧
      ∃ start, readReportTime "Mon, 31 Dec +262142 23:59:59 GMT" = .ok start ∧
        ¬ (intervalEnds? start [1.0]).isSome := by
  have h : reconcile {} lastSecondCaptures = .error .beyondCalendar :=
    refusal?_eq_some.1 (by decide +kernel)
  have hspec := comparison_breaks_off_iff {} lastSecondCaptures
  obtain ⟨start, hstart⟩ := exists_eq_ok
    (x := readReportTime "Mon, 31 Dec +262142 23:59:59 GMT") (by decide +kernel)
  refine ⟨h, hspec.1.1 ⟨_, h, rfl⟩, start, hstart, ?_⟩
  rw [(hspec.2 start [1.0] (by decide +kernel)).1]
  cases hstart
  decide +kernel

end FlowTriad
